import NativeBindings.Collection.Walk
import NativeBindings.Proofs.Collector

/-!
# What one step of a walk may change

A walk is a program in `WalkM`, a state over the `Walker` that can fail. This file takes its
steps apart once, so that the theorems about whole walks never unfold a step again.

The first part is the algebra of a successful run: `run_bind_eq_ok` splits a run of `m >>= f`
into a run of `m` and a run of `f`, and the other lemmas say what the primitive actions do.

The second part says once what a visit inside one file can change. A visit of a record or a
field can only add or replace structs (`Collector.addStruct`), add fields
(`Collector.addFieldAt`), change the records that wait for a typedef's name, and log; a visit
of a typedef may also add aliases. `RespectsRecords R` and `Respects R` ask a relation `R` on
walkers to hold across each of these changes, and the `*_respects` lemmas conclude that it holds
across the whole visit; each property of visits is then one instance of them. Visiting a function appends exactly one function, with the
function's name and place. Reading a header only logs its errors.
-/

namespace NativeBindings.Collection

open Header

variable {α β : Type} {w w' : Walker}

/-! ## Successful runs -/

theorem run_bind_eq_ok {m : WalkM α} {f : α → WalkM β} {b : β} :
    (m >>= f).run w = .ok (b, w') ↔ ∃ a w₁, m.run w = .ok (a, w₁) ∧ (f a).run w₁ = .ok (b, w') := by
  rw [StateT.run_bind]
  cases h : m.run w with
  | error e =>
    constructor
    · intro h'; cases h'
    · rintro ⟨a, w₁, h₁, -⟩; cases h₁
  | ok p =>
    obtain ⟨a, w₁⟩ := p
    constructor
    · intro h'; exact ⟨a, w₁, rfl, h'⟩
    · rintro ⟨a', w₁', h₁, h₂⟩
      cases h₁
      exact h₂

theorem run_map_eq_ok {m : WalkM α} {g : α → β} {b : β} :
    (g <$> m).run w = .ok (b, w') ↔ ∃ a, m.run w = .ok (a, w') ∧ g a = b := by
  rw [StateT.run_map]
  cases h : m.run w with
  | error e =>
    constructor
    · intro h'; cases h'
    · rintro ⟨a, h₁, -⟩; cases h₁
  | ok p =>
    obtain ⟨a, w₁⟩ := p
    constructor
    · intro h'; cases h'; exact ⟨a, rfl, rfl⟩
    · rintro ⟨a', h₁, rfl⟩; cases h₁; rfl

@[simp] theorem run_pure_eq_ok {a b : α} :
    (pure a : WalkM α).run w = .ok (b, w') ↔ a = b ∧ w = w' := by
  change (Except.ok (a, w) : Except Failure (α × Walker)) = .ok (b, w') ↔ _
  simp

@[simp] theorem run_throw_ne_ok {e : Failure} {a : α} : ¬ (throw e : WalkM α).run w = .ok (a, w') := by
  intro h; cases h

theorem run_addStruct (s : Struct) :
    (addStruct s).run w = .ok ((w.collected.declarations.addStruct s).1,
      { w with collected := { w.collected with
        declarations := (w.collected.declarations.addStruct s).2 } }) := rfl

theorem run_forIn_warn (ns : List String) :
    (forIn ns PUnit.unit fun n _ => do warn n; pure (ForInStep.yield PUnit.unit) : WalkM PUnit).run w =
      .ok ((), { w with warnings := ns.foldl Array.push w.warnings }) := by
  induction ns generalizing w with
  | nil => rfl
  | cons n ns ih =>
    rw [List.forIn_cons, StateT.run_bind]
    exact ih

/-- A loop whose every step relates its states by a reflexive and transitive relation relates
the states before and after the loop. -/
theorem run_forIn_rel {R : Walker → Walker → Prop} (hrefl : ∀ w, R w w)
    (htrans : ∀ {w₁ w₂ w₃}, R w₁ w₂ → R w₂ w₃ → R w₁ w₃) {γ δ : Type} {xs : List γ} {init : δ}
    {f : γ → δ → WalkM (ForInStep δ)}
    (hf : ∀ x d w₀ r w₁, (f x d).run w₀ = .ok (r, w₁) → R w₀ w₁)
    {r : δ} (h : (forIn xs init f).run w = .ok (r, w')) : R w w' := by
  induction xs generalizing init w with
  | nil =>
    obtain ⟨-, rfl⟩ := run_pure_eq_ok.1 h
    exact hrefl w
  | cons x xs ih =>
    rw [List.forIn_cons] at h
    obtain ⟨step, w₁, h₁, h⟩ := run_bind_eq_ok.1 h
    cases step with
    | done d =>
      obtain ⟨-, rfl⟩ := run_pure_eq_ok.1 h
      exact hf x init w _ w₁ h₁
    | yield d => exact htrans (hf x init w _ w₁ h₁) (ih h)

/-- A loop that runs `body` on each element, where a run of `body c` relates its states by
`R (out c)`, relates the loop's states by `R` of all the outputs in order; `R` must relate a
state to itself with no output and compose by appending outputs. -/
theorem run_forIn_acc {α γ : Type} {R : List α → Walker → Walker → Prop}
    (hrefl : ∀ w, R [] w w)
    (htrans : ∀ {o₁ o₂ w₁ w₂ w₃}, R o₁ w₁ w₂ → R o₂ w₂ w₃ → R (o₁ ++ o₂) w₁ w₃)
    {out : γ → List α} {body : γ → WalkM Unit}
    (hbody : ∀ c w w' (x : Unit), (body c).run w = .ok (x, w') → R (out c) w w')
    {cs : List γ} {x : PUnit}
    (h : (forIn cs PUnit.unit fun c _ => do
        body c
        pure (ForInStep.yield PUnit.unit) : WalkM PUnit).run w = .ok (x, w')) :
    R (cs.flatMap out) w w' := by
  induction cs generalizing w with
  | nil =>
    obtain ⟨-, rfl⟩ := run_pure_eq_ok.1 h
    exact hrefl w
  | cons c cs ih =>
    rw [List.forIn_cons] at h
    obtain ⟨step, w₁, h₁, h⟩ := run_bind_eq_ok.1 h
    obtain ⟨_, w₂, h₂, h₃⟩ := run_bind_eq_ok.1 h₁
    obtain ⟨rfl, rfl⟩ := run_pure_eq_ok.1 h₃
    exact htrans (hbody c w w₂ _ h₂) (ih h)

/-- A loop whose every step only logs warnings only logs warnings. -/
theorem run_forIn_logs {γ δ : Type} {xs : List γ} {init : δ} {f : γ → δ → WalkM (ForInStep δ)}
    (hf : ∀ x d w₀ r w₁, (f x d).run w₀ = .ok (r, w₁) → ∃ ws, w₁ = { w₀ with warnings := ws })
    {r : δ} (h : (forIn xs init f).run w = .ok (r, w')) : ∃ ws, w' = { w with warnings := ws } :=
  run_forIn_rel (fun w => ⟨w.warnings, rfl⟩)
    (fun ⟨_, h₁₂⟩ ⟨ws, h₂₃⟩ => ⟨ws, by rw [h₂₃, h₁₂]⟩) hf h

/-- Naming a type only logs the notices that naming it gives. -/
theorem run_nameType_eq_ok {e : Entities} {mode : Managed.Mode} {t : Ty} {r : String}
    (h : (nameType e mode t).run w = .ok (r, w')) : ∃ ws, w' = { w with warnings := ws } := by
  simp only [nameType, pure_bind] at h
  split at h
  · split at h
    · obtain ⟨_, w₁, h₁, h₂⟩ := run_bind_eq_ok.1 h
      rw [run_forIn_warn] at h₁
      cases h₁
      obtain ⟨-, rfl⟩ := run_pure_eq_ok.1 h₂
      exact ⟨_, rfl⟩
    · obtain ⟨_, _, h, -⟩ := run_bind_eq_ok.1 h
      exact (run_throw_ne_ok h).elim
  · obtain ⟨_, _, h, -⟩ := run_bind_eq_ok.1 h
    exact (run_throw_ne_ok h).elim

/-- Reading a header gives its unit and only logs the unit's errors. -/
theorem run_readHeader_eq_ok {s : Setup} {path : Files.Path} {u : Parsed}
    (h : (readHeader s path).run w = .ok (u, w')) :
    s.unit? path = some u ∧ ∃ ws, w' = { w with warnings := ws } := by
  unfold readHeader at h
  split at h
  · exact (run_throw_ne_ok h).elim
  · rename_i u' hu
    obtain ⟨_, w₂, h₂, h⟩ := run_bind_eq_ok.1 h
    rw [run_forIn_warn] at h₂
    cases h₂
    obtain ⟨rfl, rfl⟩ := run_pure_eq_ok.1 h
    exact ⟨hu, _, rfl⟩

/-- A header that can be read is a file of the tree. -/
theorem Setup.mem_files_of_unit? {s : Setup} {path : Files.Path} {u : Parsed}
    (h : s.unit? path = some u) : path ∈ s.tree.files.map Prod.fst :=
  s.frontend.mem_files h

/-! ## What a visit may change -/

/-- A relation between walker states that holds across each change a visit of a record or a
field makes: adding a struct or a field to the collected declarations, changing the records that
wait for a name or the names given, and logging. Being reflexive and transitive, it then holds
across whole visits. -/
structure RespectsRecords (R : Walker → Walker → Prop) : Prop where
  refl : ∀ w, R w w
  trans : ∀ {w₁ w₂ w₃}, R w₁ w₂ → R w₂ w₃ → R w₁ w₃
  addStruct : ∀ w (s : Struct), R w { w with collected :=
    { w.collected with declarations := (w.collected.declarations.addStruct s).2 } }
  addFieldAt : ∀ w (l : Location) (name type : String), R w { w with collected :=
    { w.collected with declarations := w.collected.declarations.addFieldAt l name type } }
  waiting : ∀ w (un : List (Location × Struct)) (ns : List (Location × String)),
    R w { w with unnamed := un, names := ns }
  warnings : ∀ w (ws : Array String), R w { w with warnings := ws }

/-- A relation that also holds across a change of the aliases, as a visit of a typedef makes. -/
structure Respects (R : Walker → Walker → Prop) : Prop extends RespectsRecords R where
  aliases : ∀ w (a : AliasTable), R w { w with collected := { w.collected with aliases := a } }

section RespectsRecords

variable {R : Walker → Walker → Prop} (hR : RespectsRecords R)
include hR

theorem nameType_respects {e : Entities} {mode : Managed.Mode} {t : Ty} {r : String}
    (h : (nameType e mode t).run w = .ok (r, w')) : R w w' := by
  obtain ⟨ws, rfl⟩ := run_nameType_eq_ok h
  exact hR.warnings w ws

theorem addStruct_respects {s : Struct} {b : Bool} (h : (addStruct s).run w = .ok (b, w')) :
    R w w' := by
  rw [run_addStruct] at h
  obtain ⟨-, rfl⟩ := Prod.mk.inj (Except.ok.inj h)
  exact hR.addStruct w s

theorem Builder.addField_respects {b : Builder} {name type : String} {x : Unit}
    (h : (b.addField name type).run w = .ok (x, w')) : R w w' := by
  unfold Builder.addField at h
  split at h
  · cases h
    exact hR.addFieldAt w _ name type
  · cases h
    exact hR.waiting w _ w.names
  · cases h
    exact hR.refl w

/-- Adding a struct and answering with what it returned. -/
theorem addStruct_bind_respects {s : Struct} {k : Bool → WalkM Builder} {b : Builder}
    (hk : ∀ x w₀ b w₁, (k x).run w₀ = .ok (b, w₁) → w₁ = w₀)
    (h : (addStruct s >>= k).run w = .ok (b, w')) : R w w' := by
  obtain ⟨x, w₁, h₁, h⟩ := run_bind_eq_ok.1 h
  rw [hk x w₁ b w' h]
  exact addStruct_respects hR h₁

/-- Naming a type and acting on the name. -/
theorem nameType_bind_respects {e : Entities} {mode : Managed.Mode} {t : Ty}
    {k : String → WalkM α} {a : α} (hk : ∀ x w₀ a w₁, (k x).run w₀ = .ok (a, w₁) → R w₀ w₁)
    (h : (nameType e mode t >>= k).run w = .ok (a, w')) : R w w' := by
  obtain ⟨x, w₁, h₁, h⟩ := run_bind_eq_ok.1 h
  exact hR.trans (nameType_respects hR h₁) (hk x w₁ a w' h)

theorem visitAggregate_respects {u : Parsed} {t : Nat} {pos : Position} {isDef : Bool}
    {parent : Option Builder} {b : Builder}
    (h : (visitAggregate u t pos isDef parent).run w = .ok (b, w')) : R w w' := by
  have hk : ∀ (b₁ b₂ : Builder) x w₀ b w₁,
      ((if x = true then pure b₁ else pure b₂ : WalkM Builder)).run w₀ = .ok (b, w₁) → w₁ = w₀ := by
    intro b₁ b₂ x w₀ b w₁ h
    split at h <;> exact (run_pure_eq_ok.1 h).2.symm
  unfold visitAggregate at h
  split at h
  · -- a record without a name waits for its typedef, or is not supported
    split at h
    · obtain ⟨_, _, h₁, h⟩ := run_bind_eq_ok.1 h
      cases h₁
      obtain ⟨-, rfl⟩ := run_pure_eq_ok.1 h
      exact hR.warnings w _
    · obtain ⟨_, _, h₁, h⟩ := run_bind_eq_ok.1 h
      cases h₁
      split at h
      · obtain ⟨-, rfl⟩ := run_pure_eq_ok.1 h
        exact hR.refl w
      · obtain ⟨_, _, h₂, h⟩ := run_bind_eq_ok.1 h
        cases h₂
        obtain ⟨-, rfl⟩ := run_pure_eq_ok.1 h
        exact hR.waiting w _ w.names
  · split at h
    · obtain ⟨_, _, h₁, h⟩ := run_bind_eq_ok.1 h
      cases h₁
      split at h
      · split at h
        · obtain ⟨-, rfl⟩ := run_pure_eq_ok.1 h
          exact hR.refl w
        · exact addStruct_bind_respects hR (hk _ _) h
      · exact addStruct_bind_respects hR (hk _ _) h
    · exact addStruct_bind_respects hR (hk _ _) h

theorem visitField_respects {u : Parsed} {agg : Option Builder} {name : String} {t : Ty}
    {x : Unit} (h : (visitField u agg name t).run w = .ok (x, w')) : R w w' := by
  unfold visitField at h
  split at h
  · exact (run_pure_eq_ok.1 h).2 ▸ hR.refl w
  · dsimp only at h
    split at h
    · simp only [pure_bind] at h
      split at h
      · split at h
        · obtain ⟨_, _, h₂, h⟩ := run_bind_eq_ok.1 h
          cases h₂
          obtain ⟨-, rfl⟩ := run_pure_eq_ok.1 h
          exact hR.warnings w _
        · exact nameType_bind_respects hR (fun _ _ _ _ => Builder.addField_respects hR) h
      · exact nameType_bind_respects hR (fun _ _ _ _ => Builder.addField_respects hR) h
    · obtain ⟨_, _, h, -⟩ := run_bind_eq_ok.1 h
      exact (run_throw_ne_ok h).elim

end RespectsRecords

section Respects

variable {R : Walker → Walker → Prop} (hR : Respects R)
include hR

theorem addAlias_respects {k a : String} {x : Unit} (h : (addAlias k a).run w = .ok (x, w')) :
    R w w' := by
  cases h
  exact hR.aliases w _

theorem nameUnnamed_respects {loc : Location} {name : String} {x : Unit}
    (h : (nameUnnamed loc name).run w = .ok (x, w')) : R w w' := by
  unfold nameUnnamed at h
  obtain ⟨_, _, h₁, h⟩ := run_bind_eq_ok.1 h
  cases h₁
  split at h
  · -- the record waiting for this name is collected under it
    obtain ⟨_, w₁, h₁, h⟩ := run_bind_eq_ok.1 h
    cases h₁
    obtain ⟨_, w₂, h₂, h⟩ := run_bind_eq_ok.1 h
    obtain ⟨-, rfl⟩ := run_pure_eq_ok.1 h
    exact hR.trans (hR.waiting w _ _) (addStruct_respects hR.toRespectsRecords h₂)
  · split at h
    · split at h
      · exact addAlias_respects hR h
      · exact (run_pure_eq_ok.1 h).2 ▸ hR.refl w
    · exact (run_pure_eq_ok.1 h).2 ▸ hR.refl w

theorem visitTypedef_respects {u : Parsed} {j : Nat} {x : Unit}
    (h : (visitTypedef u j).run w = .ok (x, w')) : R w w' := by
  unfold visitTypedef at h
  refine nameType_bind_respects hR.toRespectsRecords (fun declared w₀ a w₁ h => ?_) h
  -- what follows the name: naming the record, or declaring the alias
  have hjp : ∀ w₂ w₃ (y : Unit), (do
      let x ← get
      if x.collected.aliases.contains declared = true then pure ()
      else do
        let actual ← nameType u.entities (Managed.Mode.aliases x.collected.aliases)
          (u.entities.typedef j).underlying.written
        if (actual == declared) = true then pure () else addAlias declared actual :
        WalkM Unit).run w₂ = .ok (y, w₃) → R w₂ w₃ := by
    intro w₂ w₃ y h
    obtain ⟨_, _, h₁, h⟩ := run_bind_eq_ok.1 h
    cases h₁
    split at h
    · exact (run_pure_eq_ok.1 h).2 ▸ hR.refl w₂
    · refine nameType_bind_respects hR.toRespectsRecords (fun actual w₄ a w₅ h => ?_) h
      split at h
      · exact (run_pure_eq_ok.1 h).2 ▸ hR.refl w₄
      · exact addAlias_respects hR h
  dsimp only at h
  split at h
  · split at h
    · obtain ⟨_, w₂, h₂, h⟩ := run_bind_eq_ok.1 h
      obtain ⟨-, rfl⟩ := run_pure_eq_ok.1 h
      exact nameUnnamed_respects hR h₂
    · exact hjp _ _ _ h
  · exact hjp _ _ _ h

end Respects

/-! ## Visiting a function -/

/-- Visiting a function appends one function, with its name and place, and logs; it changes
nothing else. -/
theorem visitFunction_adds {u : Parsed} {name : String} {pos : Position} {t : Ty}
    {params : List Nat} {x : Unit} (h : (visitFunction u name pos t params).run w = .ok (x, w')) :
    ∃ (f : Function) (ws : Array String), f.name = name ∧ f.location = locationOf pos ∧
      w' = { w with collected := { w.collected with
        declarations := w.collected.declarations.addFunction f }, warnings := ws } := by
  unfold visitFunction at h
  obtain ⟨ps, w₁, h₁, h⟩ := run_bind_eq_ok.1 h
  -- naming the parameters only logs
  obtain ⟨ws₁, rfl⟩ := run_forIn_logs (fun x d w₀ r w₂ hstep => by
    obtain ⟨_, w₃, h₃, h₄⟩ := run_bind_eq_ok.1 hstep
    obtain ⟨ws, rfl⟩ := run_nameType_eq_ok h₃
    obtain ⟨-, rfl⟩ := run_pure_eq_ok.1 h₄
    exact ⟨ws, rfl⟩) h₁
  obtain ⟨ret, w₂, h₂, h⟩ := run_bind_eq_ok.1 h
  obtain ⟨ws₂, rfl⟩ := run_nameType_eq_ok h₂
  cases h
  exact ⟨{ name, location := locationOf pos, returns := ret, parameters := ps.toList }, ws₂, rfl,
    rfl, rfl⟩

end NativeBindings.Collection
