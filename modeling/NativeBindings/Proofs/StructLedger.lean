import NativeBindings.Proofs.Visits
import NativeBindings.Proofs.Expansion

/-!
# A walk moves its ledger as its marks do

`Walker.ledger` reads the collected structs, the records waiting for a name and the names given
off a walker. `Walker.Moves t vs w w'` says that a step from `w` to `w'` moves this ledger as the
fold of the marks of the visits `vs`, with the fields among `vs` added to the target `t` of the
record being walked: a collected struct, a record waiting for a name, or nowhere. There is one
such lemma for each function of the walk, and `walkDecl_moves` joins them along the recursion of
`walkDecl`, the loop over members going through `run_forIn_acc`.

The lemmas ask that no record hold a visit of its own place (`Visit.AllApart`). The fields of a
record are then added past marks about other places only, and `Ledger.foldl_appendFields` moves
them back to the record's own mark. `carried_ledger` carries the result along a whole walk.

The marks of the sample cycle (`Cycle.walked_marks`) are read off its visits, which are apart.
-/

namespace NativeBindings.Collection

open Header

variable {w w' : Walker}

/-! ## The walk keeps its ledger -/

/-- What the walk keeps true of its state beside the ledger: the collected declarations are
consistent, and each record waiting for a name is filed under its own place. -/
structure Walker.Sound (w : Walker) : Prop where
  inv : w.collected.declarations.Inv
  unnamed_location : ∀ p ∈ w.unnamed, p.2.location = p.1

theorem Walker.Sound.filed (hw : w.Sound) : w.ledger.Filed := hw.unnamed_location

/-- Adding a struct to the collector adds it to the structs as the ledger does. -/
theorem structs_addStruct_eq {c : Collector} (h : c.Inv) (s : Struct) :
    (c.addStruct s).2.structs = Ledger.addStruct c.structs s := by
  unfold Ledger.addStruct
  by_cases hs : c.hasStructAt s.location = true
  · rw [Collector.addStruct_of_hasStructAt hs]
    rw [Collector.Inv.hasStructAt_eq_any h] at hs
    simp [hs]
  · have hs' : c.hasStructAt s.location = false := by simpa using hs
    rw [Collector.structs_addStruct hs']
    rw [Collector.Inv.hasStructAt_eq_any h] at hs'
    simp [hs']

/-- From `w` to `w'` the walk stays sound; and when the records among the visits `vs` are apart
and the marks of `vs` stand away from where the fields of `t` go, the ledger moves as those marks
say, after the fields among `vs` have gone to `t`. -/
def Walker.Moves (t : Target) (vs : List Visit) (w w' : Walker) : Prop :=
  w.Sound → w'.Sound ∧ (Visit.AllApart vs → (∀ m ∈ Visit.marksIn vs, t.Clear m) →
    w'.ledger = (Visit.marksIn vs).foldl Ledger.apply (w.ledger.appendFields t (Visit.fieldsIn vs)))

theorem Walker.Moves.refl (t : Target) (w : Walker) : w.Moves t [] w :=
  fun hw => ⟨hw, fun _ _ => by simp [Visit.fieldsIn]⟩

theorem Walker.Moves.trans {t : Target} {w₁ w₂ : Walker} {vs₁ vs₂ : List Visit}
    (h₁ : w.Moves t vs₁ w₁) (h₂ : w₁.Moves t vs₂ w₂) : w.Moves t (vs₁ ++ vs₂) w₂ := fun hw => by
  obtain ⟨hw₁, hl₁⟩ := h₁ hw
  obtain ⟨hw₂, hl₂⟩ := h₂ hw₁
  refine ⟨hw₂, fun hap hclear => ?_⟩
  rw [Visit.allApart_append] at hap
  have hc₁ : ∀ m ∈ Visit.marksIn vs₁, t.Clear m := fun m hm => hclear m (by simp [hm])
  have hc₂ : ∀ m ∈ Visit.marksIn vs₂, t.Clear m := fun m hm => hclear m (by simp [hm])
  -- the fields of `vs₂` go to `t` after the marks of `vs₁`, which stand away from it
  rw [hl₂ hap.2 hc₂, hl₁ hap.1 hc₁,
    ← Ledger.foldl_appendFields (hw.filed.appendFields t _) hc₁, ← Ledger.appendFields_append,
    Visit.marksIn_append, Visit.fieldsIn_append, List.foldl_append]

/-- Logging moves nothing. -/
theorem Walker.Moves.warnings (t : Target) (w : Walker) (ws : Array String) :
    w.Moves t [] { w with warnings := ws } :=
  fun hw => ⟨⟨hw.inv, hw.unnamed_location⟩, fun _ _ => by simp [Visit.fieldsIn, Walker.ledger]⟩

/-- A step that changes neither the collected structs nor the records waiting for a name moves
nothing. -/
theorem Walker.Moves.of_ledger {t : Target} (hs : w.Sound → w'.Sound)
    (hl : w'.ledger = w.ledger) : w.Moves t [] w' :=
  fun hw => ⟨hs hw, fun _ _ => by simp [Visit.fieldsIn, hl]⟩

theorem nameType_moves (t : Target) {e : Entities} {mode : Managed.Mode} {ty : Ty} {r : String}
    (h : (nameType e mode ty).run w = .ok (r, w')) : w.Moves t [] w' := by
  obtain ⟨ws, rfl⟩ := run_nameType_eq_ok h
  exact Walker.Moves.warnings t w ws

theorem addAlias_moves (t : Target) {k a : String} {x : Unit}
    (h : (addAlias k a).run w = .ok (x, w')) : w.Moves t [] w' := by
  cases h
  exact Walker.Moves.of_ledger (fun hw => ⟨hw.inv, hw.unnamed_location⟩) rfl

theorem visitFunction_moves (t : Target) {u : Parsed} {name : String} {pos : Position} {ty : Ty}
    {params : List Nat} {x : Unit} (h : (visitFunction u name pos ty params).run w = .ok (x, w')) :
    w.Moves t [] w' := by
  obtain ⟨f, ws, -, -, rfl⟩ := visitFunction_adds h
  exact Walker.Moves.of_ledger (fun hw => ⟨hw.inv.addFunction f, hw.unnamed_location⟩)
    (by simp [Walker.ledger])

/-- A field goes where the builder's fields go. -/
theorem Builder.addField_moves {b : Builder} {name type : String} {x : Unit}
    (h : (b.addField name type).run w = .ok (x, w')) :
    w.Moves b.target [.field ⟨name, type⟩] w' := by
  intro hw
  unfold Builder.addField at h
  split at h
  · -- the field goes to the collected struct at its place
    rename_i l htarget
    cases h
    refine ⟨⟨hw.inv.addFieldAt l name type, hw.unnamed_location⟩, fun _ _ => ?_⟩
    simp only [Visit.marksIn_cons, Visit.marks, Visit.marksIn_nil, List.append_nil,
      List.foldl_nil, Visit.fieldsIn, List.filterMap_cons, Visit.field?, List.filterMap_nil, htarget,
      Ledger.appendFields, Walker.ledger, hw.inv.structs_addFieldAt]
    rfl
  · -- the field goes to the record waiting at its place
    rename_i l htarget
    cases h
    refine ⟨⟨hw.inv, fun p hp => ?_⟩, fun _ _ => ?_⟩
    · obtain ⟨⟨k, s⟩, hq, rfl⟩ := List.mem_map.1 hp
      have hk : s.location = k := hw.unnamed_location _ hq
      by_cases hkl : k = l <;> simp [hkl, hk, Struct.addField]
    · simp only [Visit.marksIn_cons, Visit.marks, Visit.marksIn_nil, List.append_nil,
        List.foldl_nil, Visit.fieldsIn, List.filterMap_cons, Visit.field?, List.filterMap_nil,
        htarget, Ledger.appendFields, Walker.ledger, Ledger.mk.injEq, true_and, and_true]
      apply List.map_congr_left
      intro q _
      obtain ⟨k, s⟩ := q
      by_cases hkl : k = l <;> simp [Ledger.growPending, hkl, Struct.addField]
  · -- a detached builder drops the field
    rename_i htarget
    cases h
    exact ⟨hw, fun _ _ => by
      simp [Visit.fieldsIn, Visit.field?, Visit.marks, htarget, Ledger.appendFields]⟩

/-- Adding a struct adds it to the ledger; it is added when its place is free. -/
theorem addStruct_moves {s : Struct} {b : Bool} (h : (addStruct s).run w = .ok (b, w'))
    (hw : w.Sound) :
    w'.Sound ∧ w'.ledger = w.ledger.add s ∧ b = !w.ledger.structs.any (·.location == s.location) := by
  rw [run_addStruct] at h
  obtain ⟨rfl, rfl⟩ := Prod.mk.inj (Except.ok.inj h)
  refine ⟨⟨hw.inv.addStruct s, hw.unnamed_location⟩,
    by simp [Walker.ledger, Ledger.add, structs_addStruct_eq hw.inv], ?_⟩
  simp only [Collector.addStruct, Walker.ledger, ← Collector.Inv.hasStructAt_eq_any hw.inv]
  split <;> simp_all

theorem nameUnnamed_moves (t : Target) {loc : Location} {name : String} {x : Unit}
    (h : (nameUnnamed loc name).run w = .ok (x, w')) : w.Moves t [.naming loc name] w' := by
  intro hw
  unfold nameUnnamed at h
  obtain ⟨_, _, h₁, h⟩ := run_bind_eq_ok.1 h
  cases h₁
  split at h
  · -- the record waiting at `loc` is collected under the name
    rename_i k s hfind
    obtain ⟨_, w₁, h₁, h⟩ := run_bind_eq_ok.1 h
    cases h₁
    obtain ⟨_, w₂, h₂, h⟩ := run_bind_eq_ok.1 h
    obtain ⟨-, rfl⟩ := run_pure_eq_ok.1 h
    have hw₁ : Walker.Sound { w with
        unnamed := w.unnamed.filter (fun p : Location × Struct => p.1 != loc),
        names := w.names.filter (fun p : Location × String => p.1 != loc) ++ [(loc, name)] } :=
      ⟨hw.inv, fun p hp => hw.unnamed_location p (List.mem_of_mem_filter hp)⟩
    obtain ⟨hw₂, hl₂, -⟩ := addStruct_moves h₂ hw₁
    refine ⟨hw₂, fun _ _ => ?_⟩
    rw [hl₂]
    have hfind' : w.ledger.pending.find? (·.1 == loc) = some (k, s) := hfind
    simp only [Visit.marksIn_cons, Visit.marks, Visit.marksIn_nil, List.append_nil, Visit.fieldsIn,
      List.filterMap_cons, Visit.field?, List.filterMap_nil, Ledger.appendFields_nil,
      List.foldl_cons, List.foldl_nil, Ledger.apply, hfind']
    simp [Walker.ledger, Ledger.add, bne]
  · -- no record waits there: at most an alias is declared
    rename_i hfind
    have hfind' : w.ledger.pending.find? (·.1 == loc) = none := hfind
    have hnone : w.Moves t [.naming loc name] w := fun hw =>
      ⟨hw, fun _ _ => by
        show w.ledger = [Mark.naming loc name].foldl Ledger.apply (w.ledger.appendFields t [])
        rw [Ledger.appendFields_nil, List.foldl_cons, List.foldl_nil, Ledger.apply, hfind']⟩
    split at h
    · split at h
      · simpa using (hnone.trans (addAlias_moves t h)) hw
      · exact (run_pure_eq_ok.1 h).2 ▸ hnone hw
    · exact (run_pure_eq_ok.1 h).2 ▸ hnone hw

/-- Where the fields of the record being walked go. -/
def targetOf : Option Builder → Target
  | some b => b.target
  | none => .detached

theorem visitField_moves {u : Parsed} {agg : Option Builder} {name : String} {ty : Ty} {x : Unit}
    (h : (visitField u agg name ty).run w = .ok (x, w')) :
    w.Moves (targetOf agg) (if agg.isNone then [] else (fieldOf u name ty).toList.map .field) w' := by
  unfold visitField at h
  split at h
  · exact (run_pure_eq_ok.1 h).2 ▸ Walker.Moves.refl _ w
  · rename_i b
    dsimp only at h
    simp only [Option.isNone_some, Bool.false_eq_true, if_false, targetOf]
    split at h
    · rename_i base hbase
      simp only [pure_bind] at h
      split at h
      · rename_i r hr
        split at h
        · -- a field whose type is a record without a name is skipped
          rename_i hun
          obtain ⟨_, _, h₂, h⟩ := run_bind_eq_ok.1 h
          cases h₂
          obtain ⟨-, rfl⟩ := run_pure_eq_ok.1 h
          simpa [fieldOf, hbase, hr, hun] using Walker.Moves.warnings b.target w _
        · rename_i hun
          obtain ⟨r', w₁, h₁, h⟩ := run_bind_eq_ok.1 h
          have hfield : fieldOf u name ty = some ⟨name, r'⟩ := by
            simp [fieldOf, hbase, hr, hun, typeText_of_run_nameType h₁]
          simpa [hfield] using (nameType_moves b.target h₁).trans (Builder.addField_moves h)
      · rename_i hr
        obtain ⟨r', w₁, h₁, h⟩ := run_bind_eq_ok.1 h
        have hfield : fieldOf u name ty = some ⟨name, r'⟩ := by
          simp [fieldOf, hbase, hr, typeText_of_run_nameType h₁]
        simpa [hfield] using (nameType_moves b.target h₁).trans (Builder.addField_moves h)
    · obtain ⟨_, _, h, -⟩ := run_bind_eq_ok.1 h
      exact (run_throw_ne_ok h).elim


/-- Adding a struct opens a builder for it: its fields go to it when it is added, and nowhere
when its place is taken. -/
theorem addStruct_bind_opens {s : Struct} {n : String} {b : Builder}
    (h : (addStruct s >>= fun x =>
      if x = true then pure ⟨n, .collected s.location⟩ else pure ⟨n, .detached⟩ : WalkM Builder).run w =
        .ok (b, w'))
    (hw : w.Sound) (F : List Variable) :
    w'.Sound ∧ w'.ledger.appendFields b.target F = w.ledger.add { s with fields := s.fields ++ F } ∧
      (b.target = .collected s.location ∨ b.target = .detached) := by
  obtain ⟨x, w₁, h₁, h⟩ := run_bind_eq_ok.1 h
  obtain ⟨hw₁, hl₁, hx⟩ := addStruct_moves h₁ hw
  have hb : w' = w₁ ∧ b = if x = true then ⟨n, .collected s.location⟩ else ⟨n, .detached⟩ := by
    split at h
    · rename_i hx'
      obtain ⟨rfl, rfl⟩ := run_pure_eq_ok.1 h
      simp [hx']
    · rename_i hx'
      obtain ⟨rfl, rfl⟩ := run_pure_eq_ok.1 h
      simp [hx']
  obtain ⟨rfl, rfl⟩ := hb
  refine ⟨hw₁, ?_, by cases x <;> simp⟩
  rw [hl₁]
  cases x
  · -- refused: the place is taken
    have htaken : w.ledger.structs.any (·.location == s.location) = true := by simpa using hx
    simp [Ledger.appendFields, Ledger.add_of_taken htaken,
      Ledger.add_of_taken (show w.ledger.structs.any
        (·.location == ({ s with fields := s.fields ++ F } : Struct).location) = true from htaken)]
  · exact Ledger.appendFields_add_free (by simpa using hx)

/-- A record with a name that no definition keeps out is added, and the fields of what it holds
go where its own mark would put them. -/
theorem addRecord_opens {s : Struct} {b : Builder} (body : List Visit)
    (hguard : ¬(!s.isDefinition && (w.ledger.structs.find? (·.name == s.name)).any
      (·.isDefinition)) = true)
    (hs : s.fields = [])
    (h : (addStruct s >>= fun x =>
      if x = true then pure ⟨s.name, .collected s.location⟩ else pure ⟨s.name, .detached⟩ :
        WalkM Builder).run w = .ok (b, w'))
    (hw : w.Sound) :
    w'.Sound ∧
      w'.ledger.appendFields b.target (Visit.fieldsIn body) =
        w.ledger.apply (.record { s with fields := Visit.fieldsIn body }) ∧
      ((Visit.record s.name s.location s.isUnion s.isDefinition body).Apart →
        ∀ m ∈ Visit.marksIn body, b.target.Clear m) := by
  obtain ⟨hw₁, hl, htarget⟩ := addStruct_bind_opens h hw (Visit.fieldsIn body)
  refine ⟨hw₁, ?_, fun hap m hm => ?_⟩
  · rw [hl, Ledger.apply, if_neg hguard, hs, List.nil_append]
  · -- the fields go to the record's own place, or nowhere
    rcases htarget with htarget | htarget <;> rw [htarget]
    · exact hap.1 m hm
    · trivial

/-- Visiting a record opens a builder for what it holds. The fields that go to the builder leave
the ledger as the record's own marks, carrying those fields, would; and when the record is
apart, what it holds stands away from where its fields go. -/
theorem visitAggregate_opens {u : Parsed} {t : Nat} {pos : Position} {isDef : Bool}
    {parent : Option Builder} {b : Builder}
    (h : (visitAggregate u t pos isDef parent).run w = .ok (b, w')) (body : List Visit)
    (hw : w.Sound) :
    w'.Sound ∧
      w'.ledger.appendFields b.target (Visit.fieldsIn body) =
        (recordVisit u t pos isDef parent.isNone body).head.foldl Ledger.apply w.ledger ∧
      ((recordVisit u t pos isDef parent.isNone body).Apart →
        ∀ m ∈ Visit.marksIn body, b.target.Clear m) := by
  unfold visitAggregate at h
  split at h
  · rename_i hun
    split at h
    · -- a record without a name inside another is not supported: only a warning
      obtain ⟨_, _, h₁, h⟩ := run_bind_eq_ok.1 h
      cases h₁
      obtain ⟨rfl, rfl⟩ := run_pure_eq_ok.1 h
      refine ⟨⟨hw.inv, hw.unnamed_location⟩, ?_, fun _ _ _ => trivial⟩
      simp [recordVisit, hun, Visit.head, Ledger.appendFields, Walker.ledger]
    · -- a record without a name waits for its typedef, unless its place is taken
      have hvisit : recordVisit u t pos isDef (none : Option Builder).isNone body =
          .unnamed (locationOf pos) ((u.entities.tag t).kind == .union) isDef body := by
        simp [recordVisit, hun]
      rw [hvisit]
      obtain ⟨_, _, h₁, h⟩ := run_bind_eq_ok.1 h
      cases h₁
      split at h
      · rename_i htaken
        obtain ⟨rfl, rfl⟩ := run_pure_eq_ok.1 h
        have hguard : (w.ledger.pending.any (·.1 == locationOf pos) ||
            w.ledger.structs.any (·.location == locationOf pos)) = true := by
          simpa [Walker.ledger, Collector.Inv.hasStructAt_eq_any hw.inv] using htaken
        refine ⟨hw, ?_, fun _ _ _ => trivial⟩
        simp only [Visit.head, List.foldl_cons, List.foldl_nil, Ledger.appendFields]
        rw [Ledger.apply, if_pos hguard]
      · rename_i hfree
        obtain ⟨_, _, h₂, h⟩ := run_bind_eq_ok.1 h
        cases h₂
        obtain ⟨rfl, rfl⟩ := run_pure_eq_ok.1 h
        have hguard : ¬(w.ledger.pending.any (·.1 == locationOf pos) ||
            w.ledger.structs.any (·.location == locationOf pos)) = true := by
          simpa [Walker.ledger, Collector.Inv.hasStructAt_eq_any hw.inv] using hfree
        refine ⟨⟨hw.inv, fun p hp => ?_⟩, ?_, fun hap m hm => hap.1 m hm⟩
        · rcases List.mem_append.1 hp with hp | hp
          · exact hw.unnamed_location p hp
          · rw [List.mem_singleton.1 hp]
        · have hpend : ¬w.ledger.pending.any (·.1 == locationOf pos) = true := fun hp =>
            hguard (by simp [hp])
          simp only [Visit.head, List.foldl_cons, List.foldl_nil]
          rw [Ledger.apply, if_neg hguard]
          exact (Ledger.appendFields_push_free hpend _).trans (by simp)
  · -- a record with a name
    rename_i hun
    have hvisit : recordVisit u t pos isDef parent.isNone body =
        .record (tagSpelling u t) (locationOf pos) ((u.entities.tag t).kind == .union) isDef body := by
      simp [recordVisit, hun]
    rw [hvisit]
    simp only [Visit.head, List.foldl_cons, List.foldl_nil]
    -- the struct is added, with the fields of what it holds, unless a definition keeps it out
    split at h
    · rename_i hnd
      obtain ⟨_, _, h₁, h⟩ := run_bind_eq_ok.1 h
      cases h₁
      split at h
      · rename_i existing hget
        split at h
        · -- a declaration without a body after a definition changes nothing
          rename_i hdef
          obtain ⟨rfl, rfl⟩ := run_pure_eq_ok.1 h
          have hguard : (!isDef && (w.ledger.structs.find? (·.name == tagSpelling u t)).any
              (·.isDefinition)) = true := by
            have hget' : w.ledger.structs.find? (·.name == tagSpelling u t) = some existing := hget
            simp [hget', hdef, hnd]
          refine ⟨hw, ?_, fun _ _ _ => trivial⟩
          rw [Ledger.apply, if_pos hguard]
          rfl
        · rename_i hdef
          have hget' : w.ledger.structs.find? (·.name == tagSpelling u t) = some existing := hget
          exact addRecord_opens body (by simp [hget', hdef]) rfl h hw
      · rename_i hget
        have hget' : w.ledger.structs.find? (·.name == tagSpelling u t) = none := hget
        exact addRecord_opens body (by simp [hget']) rfl h hw
    · rename_i hd
      exact addRecord_opens body (by simp_all) rfl h hw

theorem visitTypedef_moves (tg : Target) {u : Parsed} {j : Nat} {x : Unit}
    (h : (visitTypedef u j).run w = .ok (x, w')) : w.Moves tg (typedefVisits u j) w' := by
  unfold visitTypedef at h
  obtain ⟨declared, w₁, h₁, h⟩ := run_bind_eq_ok.1 h
  have htext := typeText_of_run_nameType h₁
  -- declaring an alias moves nothing
  have hjp : ∀ w₂ w₃ (y : Unit), (do
      let x ← get
      if x.collected.aliases.contains declared = true then pure ()
      else do
        let actual ← nameType u.entities (Managed.Mode.aliases x.collected.aliases)
          (u.entities.typedef j).underlying.written
        if (actual == declared) = true then pure () else addAlias declared actual :
        WalkM Unit).run w₂ = .ok (y, w₃) → w₂.Moves tg [] w₃ := by
    intro w₂ w₃ y h
    obtain ⟨_, _, h₂, h⟩ := run_bind_eq_ok.1 h
    cases h₂
    split at h
    · exact (run_pure_eq_ok.1 h).2 ▸ Walker.Moves.refl tg w₂
    · obtain ⟨actual, w₄, h₄, h⟩ := run_bind_eq_ok.1 h
      split at h
      · exact (run_pure_eq_ok.1 h).2 ▸ nameType_moves tg h₄
      · simpa using (nameType_moves tg h₄).trans (addAlias_moves tg h)
  dsimp only at h
  split at h
  · rename_i r hr
    split at h
    · -- the typedef names the record without a name that it declares
      rename_i hun
      obtain ⟨_, w₂, h₂, h⟩ := run_bind_eq_ok.1 h
      obtain ⟨-, rfl⟩ := run_pure_eq_ok.1 h
      have hvisits : typedefVisits u j = [.naming (locationOf (u.entities.tag r).pos) declared] := by
        simp [typedefVisits, hr, hun, htext]
      rw [hvisits]
      simpa using (nameType_moves tg h₁).trans (nameUnnamed_moves tg h₂)
    · rename_i hun
      have hvisits : typedefVisits u j = [] := by simp [typedefVisits, hr, hun]
      rw [hvisits]
      simpa using (nameType_moves tg h₁).trans (hjp _ _ _ h)
  · rename_i hr
    have hvisits : typedefVisits u j = [] := by simp [typedefVisits, hr]
    rw [hvisits]
    simpa using (nameType_moves tg h₁).trans (hjp _ _ _ h)

/-- A record's visit moves the ledger by its own marks, with the fields of what it holds, and
then by what it holds. -/
theorem Walker.Moves.record {t t' : Target} {v : Visit} {w₁ : Walker} (hv : v.field? = none)
    (hopen : w.Sound → w₁.Sound ∧
      w₁.ledger.appendFields t' (Visit.fieldsIn v.body) = v.head.foldl Ledger.apply w.ledger ∧
      (v.Apart → ∀ m ∈ Visit.marksIn v.body, t'.Clear m))
    (hbody : w₁.Moves t' v.body w') : w.Moves t [v] w' := fun hw => by
  obtain ⟨hw₁, hl₁, hclear⟩ := hopen hw
  obtain ⟨hw', hl⟩ := hbody hw₁
  refine ⟨hw', fun hap _ => ?_⟩
  have hv' : v.Apart := ((Visit.allApart_cons v []).1 hap).1
  have hf : Visit.fieldsIn [v] = [] := by simp [Visit.fieldsIn, hv]
  rw [hl hv'.body (hclear hv'), hl₁, hf, Ledger.appendFields_nil, Visit.marksIn_cons,
    Visit.marksIn_nil, List.append_nil, Visit.marks_eq, List.foldl_append]

/-- **Walking a declaration moves the ledger as its visits say.** -/
theorem walkDecl_moves (u : Parsed) (owner : String) :
    ∀ (depth : Nat) (agg : Option Builder) (i : Nat) (w w' : Walker) (x : Unit),
    (walkDecl u owner depth agg i).run w = .ok (x, w') →
      w.Moves (targetOf agg) (visits u owner depth agg.isNone i) w'
  | 0, _, _, w, w', _, h => by
    obtain ⟨-, rfl⟩ := run_pure_eq_ok.1 h
    exact Walker.Moves.refl _ w
  | depth + 1, agg, i, w, w', x, h => by
    have ih := walkDecl_moves u owner depth
    rw [walkDecl.eq_2] at h
    rw [visits]
    split at h
    · rename_i hfile
      obtain ⟨-, rfl⟩ := run_pure_eq_ok.1 h
      simp only [hfile, if_true]
      exact Walker.Moves.refl _ w
    rename_i hfile
    simp only [hfile]
    -- the children of the declaration, walked with the builder in hand
    have hkids : ∀ (d : Decl) (agg' : Option Builder) (w₁ : Walker) (y : Unit),
        (do
          forIn (u.inside d) PUnit.unit fun c _ => do
            walkDecl u owner depth agg' c
            pure (ForInStep.yield PUnit.unit)
          pure () : WalkM Unit).run w₁ = .ok (y, w') →
        w₁.Moves (targetOf agg') ((u.inside d).flatMap (visits u owner depth agg'.isNone)) w' := by
      intro d agg' w₁ y h
      obtain ⟨_, w₂, h₂, h₃⟩ := run_bind_eq_ok.1 h
      obtain ⟨-, rfl⟩ := run_pure_eq_ok.1 h₃
      exact run_forIn_acc (Walker.Moves.refl _) Walker.Moves.trans (ih agg') h₂
    cases hd : u.decl i with
    | typedef j pos inner =>
      rw [hd] at h
      dsimp only at h
      obtain ⟨_, w₁, h₁, h⟩ := run_bind_eq_ok.1 h
      simp only [pure_bind] at h
      exact (visitTypedef_moves _ h₁).trans (hkids _ _ _ _ h)
    | tag t pos nameToken isDef members =>
      rw [hd] at h
      dsimp only at h
      split at h
      · rename_i hkind
        simp only [pure_bind] at h
        simp only [hkind, if_true]
        exact hkids _ _ _ _ h
      · rename_i hkind
        obtain ⟨b, w₁, h₁, h⟩ := run_bind_eq_ok.1 h
        obtain ⟨b', h₂, rfl⟩ := run_map_eq_ok.1 h₁
        simp only [hkind, Bool.false_eq_true, if_false]
        -- the record's members are walked with the builder its visit opens
        have hbody : w₁.Moves b'.target
            (recordVisit u t pos isDef agg.isNone ((u.inside (.tag t pos nameToken isDef members)).flatMap
              (visits u owner depth false))).body w' := by
          simpa [targetOf] using hkids _ _ _ _ h
        exact Walker.Moves.record (recordVisit_field? ..)
          (fun hw => by simpa using visitAggregate_opens h₂ _ hw) hbody
    | function name pos t params inner =>
      rw [hd] at h
      dsimp only at h
      obtain ⟨_, w₁, h₁, h⟩ := run_bind_eq_ok.1 h
      simp only [pure_bind] at h
      simpa using (visitFunction_moves _ h₁).trans (hkids _ _ _ _ h)
    | field name pos t =>
      rw [hd] at h
      dsimp only at h
      simp only [pure_bind] at h
      exact visitField_moves h
    | _ =>
      -- parameters, variables and scopes only walk their children
      rw [hd] at h
      dsimp only at h
      simp only [pure_bind] at h
      exact hkids _ _ _ _ h

/-- The visits of a walked top-level declaration; no record encloses it. -/
def Walked.visits (d : Walked) : List Visit :=
  NativeBindings.Collection.visits d.unit d.owner (d.unit.decls.size + 1) true d.decl

/-- The marks of a walked top-level declaration. -/
def Walked.marks (d : Walked) : List Mark := Visit.marksIn d.visits

/-- The ledger of a walk is that of the marks of the declarations walked so far, when no record
among them holds a visit of its own place. -/
theorem carried_ledger :
    Carried fun ds w => w.Sound ∧ ((∀ d ∈ ds, Visit.AllApart d.visits) →
      w.ledger = (ds.flatMap Walked.marks).foldl Ledger.apply .empty) where
  decl hP h := by
    obtain ⟨hw, hl⟩ := walkDecl_moves _ _ _ _ _ _ _ _ h hP.1
    refine ⟨hw, fun hap => ?_⟩
    have hd := hap _ (List.mem_append_right _ (List.mem_singleton_self _))
    rw [hl hd fun _ _ => trivial, hP.2 fun d hd => hap d (List.mem_append_left _ hd)]
    simp [targetOf, Ledger.appendFields, Walked.marks, Walked.visits, List.foldl_append]
  visited _ hP := ⟨⟨hP.1.inv, hP.1.unnamed_location⟩, hP.2⟩
  warnings _ hP := ⟨⟨hP.1.inv, hP.1.unnamed_location⟩, hP.2⟩

/-! ## The marks of the sample cycle -/

namespace Cycle

/-- The visits of the declarations the sample walk reaches. The record without a name is
visited twice, on its own and inside the typedef that names it; the one inside `R` holds its
field `a`, which goes nowhere, and the field `in` of its type is no visit at all. -/
theorem visits_eq : walked.map Walked.visits =
    [[.record "P" locP false true [.field ⟨"x", "int"⟩]],
     [.record "P" ⟨some "/b.h", 4, 8⟩ false false []],
     [.unnamed locQ false true [.field ⟨"y", "int"⟩]],
     [.naming locQ "Q", .unnamed locQ false true [.field ⟨"y", "int"⟩]],
     [.record "R" locR false true [.nested [.field ⟨"a", "int"⟩], .field ⟨"b", "int"⟩]],
     [], []] := by
  cbv

/-- The marks of the sample walk. -/
def marks : List Mark :=
  [.record ⟨"P", locP, [⟨"x", "int"⟩], false, true⟩,
   .record ⟨"P", ⟨some "/b.h", 4, 8⟩, [], false, false⟩,
   .unnamed ⟨"", locQ, [⟨"y", "int"⟩], false, true⟩,
   .naming locQ "Q",
   .unnamed ⟨"", locQ, [⟨"y", "int"⟩], false, true⟩,
   .record ⟨"R", locR, [⟨"b", "int"⟩], false, true⟩]

theorem walked_marks : walked.flatMap Walked.marks = marks := by
  rw [show walked.flatMap Walked.marks = (walked.map Walked.visits).flatMap Visit.marksIn from
    (List.flatMap_map ..).symm, visits_eq]
  rfl

theorem allApart : ∀ d ∈ walked, Visit.AllApart d.visits := by
  rw [← List.forall_mem_map, visits_eq]
  simp [Visit.AllApart, Visit.Apart, Visit.marksIn, Visit.marks]

end Cycle

end NativeBindings.Collection
