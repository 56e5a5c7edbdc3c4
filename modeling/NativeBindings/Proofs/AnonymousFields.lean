import NativeBindings.Proofs.LastDefinition

/-!
# Collected fields are never built from records without a name

A field whose type is a struct or union without a name, or is built from one through pointers and
arrays, has no C# type to name it by: `visitField` skips it with a warning, and `fieldOf`, the
field that a visit adds, is `none` for it. This file shows that the guard holds of whole walks:
every field of every struct that a successful walk collects is a field declared in a header the
walk reached, its type is the C# name of the declared type, and that type, followed through
pointers and arrays, is no record without a name (`walk_fields_skip_anonymous_records`).

The guard is the field's own. The parameter and result types of a function, the underlying type
of a typedef, and the signature of a function that a field points to are named without it.

Fields reach a collected struct in two ways: one at a time from `visitField`, to the struct being
walked or to a record waiting for its typedef; or together with a waiting record, when its typedef
collects it. `Ledger.FieldsFrom G` says that every field the ledger holds, collected or waiting,
satisfies `G`. Each step of a walk moves the ledger by the marks and fields of its own visits (the
`*_moves` and `*_opens` lemmas), and the visits of one step bring only the fields that `fieldOf`
gives, so `FieldsFrom` is kept along `walkDecl` and then along the whole walk.
-/

namespace NativeBindings.Collection

open Header

/-! ## Fields drawn from a set -/

/-- The fields a mark brings satisfy `G`. -/
def Mark.FieldsFrom (G : Variable → Prop) : Mark → Prop
  | .record s | .unnamed s => ∀ f ∈ s.fields, G f
  | .naming .. => True

namespace Ledger

/-- Every field of a collected struct, and of a record waiting for a name, satisfies `G`. -/
def FieldsFrom (G : Variable → Prop) (L : Ledger) : Prop :=
  (∀ s ∈ L.structs, ∀ f ∈ s.fields, G f) ∧ ∀ p ∈ L.pending, ∀ f ∈ p.2.fields, G f

variable {G : Variable → Prop} {L : Ledger}

theorem FieldsFrom.mono {G' : Variable → Prop} (hL : L.FieldsFrom G) (h : ∀ f, G f → G' f) :
    L.FieldsFrom G' :=
  ⟨fun s hs f hf => h f (hL.1 s hs f hf), fun p hp f hf => h f (hL.2 p hp f hf)⟩

theorem FieldsFrom.add (hL : L.FieldsFrom G) {s : Struct} (hs : ∀ f ∈ s.fields, G f) :
    (L.add s).FieldsFrom G := by
  refine ⟨fun x hx => ?_, hL.2⟩
  rcases Ledger.mem_addStruct hx with hx | rfl
  · exact hL.1 x hx
  · exact hs

/-- A mark whose fields satisfy `G` keeps every field of the ledger in `G`. -/
theorem FieldsFrom.apply (hL : L.FieldsFrom G) {m : Mark} (hm : m.FieldsFrom G) :
    (L.apply m).FieldsFrom G := by
  cases m with
  | record s =>
    simp only [Ledger.apply]
    split
    · exact hL
    · exact hL.add hm
  | unnamed s =>
    simp only [Ledger.apply]
    split
    · exact hL
    · refine ⟨hL.1, fun p hp => ?_⟩
      rcases List.mem_append.1 hp with hp | hp
      · exact hL.2 p hp
      · rw [List.mem_singleton.1 hp]
        exact hm
  | naming l n =>
    simp only [Ledger.apply]
    split
    · -- the waiting record is collected under the name, with the fields it gathered
      rename_i k s hfind
      have hs : ∀ f ∈ s.fields, G f := hL.2 (k, s) (List.mem_of_find?_eq_some hfind)
      refine FieldsFrom.add ?_ hs
      exact ⟨hL.1, fun p hp => hL.2 p (List.mem_of_mem_filter hp)⟩
    · exact hL

theorem FieldsFrom.foldl {ms : List Mark} (hL : L.FieldsFrom G) (hm : ∀ m ∈ ms, m.FieldsFrom G) :
    (ms.foldl Ledger.apply L).FieldsFrom G := by
  induction ms generalizing L with
  | nil => exact hL
  | cons m ms ih =>
    exact ih (hL.apply (hm m List.mem_cons_self)) fun m' h => hm m' (List.mem_cons_of_mem _ h)

/-- Fields from `G` appended where a target's fields go keep every field in `G`. -/
theorem FieldsFrom.appendFields (hL : L.FieldsFrom G) (t : Target) {F : List Variable}
    (hF : ∀ f ∈ F, G f) : (L.appendFields t F).FieldsFrom G := by
  cases t with
  | collected l =>
    refine ⟨fun s hs f hf => ?_, hL.2⟩
    obtain ⟨s₀, hs₀, rfl⟩ := List.mem_map.1 hs
    unfold grow at hf
    split at hf
    · rcases List.mem_append.1 hf with hf | hf
      · exact hL.1 s₀ hs₀ f hf
      · exact hF f hf
    · exact hL.1 s₀ hs₀ f hf
  | pending l =>
    refine ⟨hL.1, fun p hp f hf => ?_⟩
    obtain ⟨p₀, hp₀, rfl⟩ := List.mem_map.1 hp
    unfold growPending at hf
    split at hf
    · rcases List.mem_append.1 hf with hf | hf
      · exact hL.2 p₀ hp₀ f hf
      · exact hF f hf
    · exact hL.2 p₀ hp₀ f hf
  | detached => exact hL

end Ledger

/-! ## Steps of a walk -/

variable {G : Variable → Prop} {w w' w₁ : Walker}

/-- From `w` to `w'` a sound walk stays sound, and keeps every field it holds in `G`. -/
def Walker.KeepsFields (G : Variable → Prop) (w w' : Walker) : Prop :=
  w.Sound ∧ w.ledger.FieldsFrom G → w'.Sound ∧ w'.ledger.FieldsFrom G

theorem Walker.KeepsFields.refl (G : Variable → Prop) (w : Walker) : w.KeepsFields G w := id

theorem Walker.KeepsFields.trans (h₁ : w.KeepsFields G w₁) (h₂ : w₁.KeepsFields G w') :
    w.KeepsFields G w' := fun h => h₂ (h₁ h)

/-- A step that moves the ledger by visits that are apart, that stand away from the target, and
whose marks and fields are in `G`, keeps the fields in `G`. -/
theorem Walker.Moves.keepsFields {t : Target} {vs : List Visit} (h : w.Moves t vs w')
    (hap : Visit.AllApart vs) (hclear : ∀ m ∈ Visit.marksIn vs, t.Clear m)
    (hm : ∀ m ∈ Visit.marksIn vs, m.FieldsFrom G) (hf : ∀ f ∈ Visit.fieldsIn vs, G f) :
    w.KeepsFields G w' := fun ⟨hw, hL⟩ => by
  obtain ⟨hw', hl⟩ := h hw
  refine ⟨hw', ?_⟩
  rw [hl hap hclear]
  exact (hL.appendFields t hf).foldl hm

/-- A step that leaves the ledger where it was keeps the fields. -/
theorem Walker.Moves.keepsFields_nil {t : Target} (h : w.Moves t [] w') : w.KeepsFields G w' :=
  h.keepsFields (by simp) (by simp) (by simp) (by simp [Visit.fieldsIn])

/-- A typedef names at most one record without a name. -/
theorem typedefVisits_naming (u : Parsed) (j : Nat) :
    typedefVisits u j = [] ∨ ∃ l n, typeText u.entities .plain (.typedef {} j) = some n ∧
      typedefVisits u j = [.naming l n] := by
  unfold typedefVisits
  split
  · split
    · split
      · rename_i n hn
        exact .inr ⟨_, n, hn, rfl⟩
      · exact .inl rfl
    · exact .inl rfl
  · exact .inl rfl

theorem visitTypedef_keepsFields {u : Parsed} {j : Nat} {x : Unit}
    (h : (visitTypedef u j).run w = .ok (x, w')) : w.KeepsFields G w' := by
  have hmoves := visitTypedef_moves .detached h
  rcases typedefVisits_naming u j with hv | ⟨l, n, -, hv⟩ <;> rw [hv] at hmoves
  · exact hmoves.keepsFields_nil
  · -- the naming moves a waiting record, with its fields, among the collected structs
    exact hmoves.keepsFields (by simp [Visit.Apart]) (fun _ _ => trivial)
      (by simp [Visit.marks, Mark.FieldsFrom]) (by simp [Visit.fieldsIn, Visit.field?])

/-- The marks a record's visit makes itself, before anything it holds, bring no field. -/
theorem recordVisit_head_fieldsFrom (u : Parsed) (t : Nat) (pos : Position) (isDef top : Bool) :
    ∀ m ∈ (recordVisit u t pos isDef top []).head, m.FieldsFrom G := by
  unfold recordVisit
  split
  · split <;> simp [Visit.head, Visit.fieldsIn, Mark.FieldsFrom]
  · simp [Visit.head, Visit.fieldsIn, Mark.FieldsFrom]

theorem visitAggregate_keepsFields {u : Parsed} {t : Nat} {pos : Position} {isDef : Bool}
    {parent : Option Builder} {b : Builder}
    (h : (visitAggregate u t pos isDef parent).run w = .ok (b, w')) : w.KeepsFields G w' :=
  fun ⟨hw, hL⟩ => by
    obtain ⟨hw', hl, -⟩ := visitAggregate_opens h [] hw
    have hl' : w'.ledger =
        (recordVisit u t pos isDef parent.isNone []).head.foldl Ledger.apply w.ledger := by
      simpa [Visit.fieldsIn] using hl
    exact ⟨hw', hl' ▸ hL.foldl (recordVisit_head_fieldsFrom u t pos isDef _)⟩

/-- Visiting a field adds the field that `fieldOf` gives, if any. -/
theorem visitField_keepsFields {u : Parsed} {agg : Option Builder} {name : String} {ty : Ty}
    {x : Unit} (hG : ∀ f, fieldOf u name ty = some f → G f)
    (h : (visitField u agg name ty).run w = .ok (x, w')) : w.KeepsFields G w' := by
  have hmoves := visitField_moves h
  have hvs : (if agg.isNone then [] else (fieldOf u name ty).toList.map Visit.field) = [] ∨
      ∃ f, fieldOf u name ty = some f ∧
        (if agg.isNone then [] else (fieldOf u name ty).toList.map Visit.field) = [.field f] := by
    cases agg.isNone <;> cases hf : fieldOf u name ty <;> simp
  rcases hvs with hvs | ⟨f, hf, hvs⟩ <;> rw [hvs] at hmoves
  · exact hmoves.keepsFields_nil
  · exact hmoves.keepsFields (by simp [Visit.Apart]) (by simp [Visit.marks])
      (by simp [Visit.marks]) (by simpa [Visit.fieldsIn, Visit.field?] using hG f hf)

/-- **Walking a declaration keeps the fields from `G`**, when `G` holds every field that a field
declaration of the unit gives. Functions bring no field. -/
theorem walkDecl_keepsFields (u : Parsed) (owner : String)
    (hG : ∀ i name pos t f, u.decl i = .field name pos t → fieldOf u name t = some f → G f) :
    ∀ (depth : Nat) (agg : Option Builder) (i : Nat) (w w' : Walker) (x : Unit),
    (walkDecl u owner depth agg i).run w = .ok (x, w') → w.KeepsFields G w' :=
  walkDecl_rel (Walker.KeepsFields.refl G) Walker.KeepsFields.trans u owner
    (fun _ _ _ _ h => visitTypedef_keepsFields h)
    (fun _ _ _ _ _ _ _ h => visitAggregate_keepsFields h)
    (fun _ _ _ _ _ _ _ h => (visitFunction_moves .detached h).keepsFields_nil)
    (fun i name pos t _ _ _ _ hd h => visitField_keepsFields (hG i name pos t · hd) h)

/-! ## Whole walks -/

/-- What `fieldOf` gives: the field under its declared name, typed by the C# name of its declared
type, which through pointers and arrays is no record without a name. -/
theorem fieldOf_eq_some {u : Parsed} {name : String} {t : Ty} {f : Variable}
    (h : fieldOf u name t = some f) :
    f.name = name ∧ ∃ base, baseType u.entities Entities.depthLimit t = .ok base ∧
      (∀ r, declaredRecord u.entities base = some r → unnameable u r = false) ∧
      typeText u.entities .plain t = some f.type := by
  unfold fieldOf at h
  split at h
  · rename_i base hbase
    split at h
    · rename_i r hr
      split at h
      · cases h
      · rename_i hun
        obtain ⟨text, htext, rfl⟩ := Option.map_eq_some_iff.1 h
        refine ⟨rfl, base, hbase, fun r' hr' => ?_, htext⟩
        rw [hr] at hr'
        cases hr'
        simpa using hun
    · rename_i hr
      obtain ⟨text, htext, rfl⟩ := Option.map_eq_some_iff.1 h
      exact ⟨rfl, base, hbase, fun r' hr' => (by rw [hr] at hr'; cases hr'), htext⟩
  · cases h

/-- A field that a field declaration of a walked declaration's unit gives. -/
def FieldOfWalked (ds : List Walked) (f : Variable) : Prop :=
  ∃ d ∈ ds, ∃ i pos t, d.unit.decl i = .field f.name pos t ∧ fieldOf d.unit f.name t = some f

/-- The fields a walk holds are those that the field declarations of the units walked give. -/
theorem carried_fieldsFrom :
    Carried fun ds w => w.Sound ∧ w.ledger.FieldsFrom (FieldOfWalked ds) where
  decl hP h := by
    refine walkDecl_keepsFields _ _ (fun i name pos t f hd hf => ?_) _ _ _ _ _ _ h
      ⟨hP.1, hP.2.mono fun f ⟨d, hd, rest⟩ => ⟨d, List.mem_append_left _ hd, rest⟩⟩
    obtain ⟨rfl, -⟩ := fieldOf_eq_some hf
    exact ⟨_, List.mem_append_right _ (List.mem_singleton_self _), i, pos, t, hd, hf⟩
  visited _ hP := ⟨⟨hP.1.inv, hP.1.unnamed_location⟩, hP.2⟩
  warnings _ hP := ⟨⟨hP.1.inv, hP.1.unnamed_location⟩, hP.2⟩

/-- **No collected field is built from a record without a name.** Every field of every struct
that a successful walk collects is a field declared in the unit of a declaration of the walk's
expansion; its type is the C# name of the declared type, and that type, followed through pointers
and arrays, is no struct or union without a name. -/
theorem walk_fields_skip_anonymous_records {fe : Header.Frontend} {tree : Files.Tree} {config : Config}
    {sources : List String} {c : Collected} {ws : List String}
    (h : walk fe tree config sources = .ok (c, ws)) :
    ∃ V ds, ExpandsAll ⟨fe, tree, config⟩ (searchRoots tree config sources) []
        (sources.map tree.resolve) V ds ∧
      ∀ s ∈ c.declarations.structs, ∀ f ∈ s.fields, ∃ d ∈ ds, ∃ i pos t base,
        d.unit.decl i = .field f.name pos t ∧
        baseType d.unit.entities Entities.depthLimit t = .ok base ∧
        (∀ r, declaredRecord d.unit.entities base = some r → unnameable d.unit r = false) ∧
        typeText d.unit.entities .plain t = some f.type := by
  obtain ⟨w, V, ds, rfl, he, -, hF⟩ := walk_carries carried_fieldsFrom
    (fun _ => ⟨⟨Collector.inv_empty, by simp⟩,
      by simp [Walker.ledger, Ledger.FieldsFrom, Collector.structs]⟩) h
  refine ⟨V, ds, he, fun s hs f hf => ?_⟩
  obtain ⟨d, hd, i, pos, t, hdecl, hfield⟩ := hF.1 s hs f hf
  obtain ⟨-, base, hbase, hnamed, htext⟩ := fieldOf_eq_some hfield
  exact ⟨d, hd, i, pos, t, base, hdecl, hbase, hnamed, htext⟩

/-- The walk of the sample cycle collects `R` with its field `b` alone: its field `in` is of a
record without a name. -/
theorem cycle_fields_skip_anonymous :
    walk Cycle.frontend Cycle.tree {} ["a.h"] = .ok (Cycle.collected, Cycle.warnings) ∧
      (Cycle.collected.declarations.getStruct? "R").map (·.fields) = some [⟨"b", "int"⟩] ∧
      ∃ V ds, ExpandsAll ⟨Cycle.frontend, Cycle.tree, {}⟩ (searchRoots Cycle.tree {} ["a.h"]) []
          (["a.h"].map Cycle.tree.resolve) V ds ∧
        ∀ s ∈ Cycle.collected.declarations.structs, ∀ f ∈ s.fields, ∃ d ∈ ds, ∃ i pos t base,
          d.unit.decl i = .field f.name pos t ∧
          baseType d.unit.entities Entities.depthLimit t = .ok base ∧
          (∀ r, declaredRecord d.unit.entities base = some r → unnameable d.unit r = false) ∧
          typeText d.unit.entities .plain t = some f.type :=
  ⟨Cycle.walk_eq, by decide, walk_fields_skip_anonymous_records Cycle.walk_eq⟩

end NativeBindings.Collection
