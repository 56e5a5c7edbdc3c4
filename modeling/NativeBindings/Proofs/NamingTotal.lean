import Mathlib
import NativeBindings.Proofs.NamingWalk
import NativeBindings.Proofs.WalkStep

/-!
# A walk over headers names every type it meets

Naming a descriptor fails only where its walk meets a node that lacks a child
(`Managed.resolve_eq_error_iff`), and the descriptors that the front end's types are described by
are complete (`Header.Entities.describe_complete`). So a walk over headers, which names types
only through `nameType`, never stops with `Failure.unnamed`.

`NamesAll m` says that a step of a walk never fails that way. It holds of the primitive steps and
is closed under binding and loops, so it is carried through each visit and then through the
walk of whole files (`walk_never_unnamed`).
-/

namespace NativeBindings.Collection

open Header

variable {α β : Type}

/-- A step of a walk that never fails for a descriptor it cannot name. -/
def NamesAll (m : WalkM α) : Prop := ∀ w e, m.run w ≠ .error (.unnamed e)

theorem namesAll_pure (a : α) : NamesAll (pure a : WalkM α) := by
  intro w e h
  cases h

theorem namesAll_get : NamesAll (get : WalkM Walker) := by
  intro w e h
  cases h

theorem namesAll_set (w' : Walker) : NamesAll (set w' : WalkM PUnit) := by
  intro w e h
  cases h

theorem namesAll_modify (f : Walker → Walker) : NamesAll (modify f : WalkM PUnit) := by
  intro w e h
  cases h

theorem namesAll_throw {f : Failure} (hf : ∀ e, f ≠ .unnamed e) : NamesAll (throw f : WalkM α) := by
  intro w e h
  exact hf e (Except.error.inj h)

/-- A failure that is not `unnamed` ends the step, whatever was to follow it. -/
theorem namesAll_throw_bind {f : Failure} (hf : ∀ e, f ≠ .unnamed e) (g : α → WalkM β) :
    NamesAll (throw f >>= g) := by
  intro w e h
  exact hf e (Except.error.inj h)

theorem namesAll_warn (msg : String) : NamesAll (warn msg) := by
  intro w e h
  cases h

theorem NamesAll.bind {m : WalkM α} {f : α → WalkM β} (hm : NamesAll m) (hf : ∀ a, NamesAll (f a)) :
    NamesAll (m >>= f) := by
  intro w e h
  rw [StateT.run_bind] at h
  cases hr : m.run w with
  | error x =>
    rw [hr] at h
    have hx : x = .unnamed e := Except.error.inj h
    exact hm w e (hx ▸ hr)
  | ok p =>
    rw [hr] at h
    exact hf p.1 p.2 e h

theorem NamesAll.map {m : WalkM α} (hm : NamesAll m) (g : α → β) : NamesAll (g <$> m) := by
  intro w e h
  rw [StateT.run_map] at h
  cases hr : m.run w with
  | error x =>
    rw [hr] at h
    have hx : x = .unnamed e := Except.error.inj h
    exact hm w e (hx ▸ hr)
  | ok p =>
    rw [hr] at h
    cases h

/-- Running a step from a state and keeping something of its result never fails `unnamed`. -/
theorem NamesAll.run_bind {m : WalkM α} (hm : NamesAll m) (w : Walker) (g : α × Walker → β)
    (e : Managed.ResolveError) :
    (do let x ← m.run w; pure (g x) : Except Failure β) ≠ .error (.unnamed e) := by
  intro h
  cases hr : m.run w with
  | error x =>
    rw [hr] at h
    have hx : x = .unnamed e := Except.error.inj h
    exact hm w e (hx ▸ hr)
  | ok p =>
    rw [hr] at h
    cases h

theorem NamesAll.forIn {γ δ : Type} {xs : List γ} {init : δ} {f : γ → δ → WalkM (ForInStep δ)}
    (hf : ∀ x d, NamesAll (f x d)) : NamesAll (forIn xs init f) := by
  induction xs generalizing init with
  | nil => exact namesAll_pure init
  | cons x xs ih =>
    rw [List.forIn_cons]
    refine (hf x init).bind fun r => ?_
    cases r with
    | done d => exact namesAll_pure d
    | yield d => exact ih


/-! ## Visits -/

/-- Naming a type of a unit fails only when its kind cannot be reported: its descriptor is
complete, so `resolve` names it. -/
theorem nameType_namesAll (e : Entities) (mode : Managed.Mode) (t : Ty) :
    NamesAll (nameType e mode t) := by
  unfold nameType
  cases hd : e.describe t with
  | error k => exact namesAll_throw_bind (fun _ h => by cases h) _
  | ok c =>
    obtain ⟨r, hr, -⟩ := Managed.resolve_complete mode true (e.describe_complete hd)
    simp only [hr, pure_bind]
    -- what is left logs the notices and gives the name
    exact (NamesAll.forIn fun n _ => (namesAll_warn n).bind fun _ => namesAll_pure _).bind
      fun _ => namesAll_pure _


theorem namesAll_addStruct (s : Struct) : NamesAll (addStruct s) := by
  intro w e h
  cases h

/-- Adding a struct and answering by whether it was added. -/
theorem namesAll_addStruct_answer (s : Struct) (b₁ b₂ : Builder) :
    NamesAll (do if (← addStruct s) = true then pure b₁ else pure b₂ : WalkM Builder) :=
  (namesAll_addStruct s).bind fun _ => by split <;> exact namesAll_pure _

theorem visitAggregate_namesAll (u : Parsed) (t : Nat) (pos : Position) (isDef : Bool)
    (parent : Option Builder) : NamesAll (visitAggregate u t pos isDef parent) := by
  unfold visitAggregate
  dsimp only
  split
  · -- a record without a name: not supported inside another, else it waits for its typedef
    split
    · exact (namesAll_warn _).bind fun _ => namesAll_pure _
    · refine namesAll_get.bind fun w => ?_
      split
      · exact namesAll_pure _
      · exact (namesAll_set _).bind fun _ => namesAll_pure _
  · split
    · refine namesAll_get.bind fun w => ?_
      split
      · split
        · exact namesAll_pure _
        · exact namesAll_addStruct_answer _ _ _
      · exact namesAll_addStruct_answer _ _ _
    · exact namesAll_addStruct_answer _ _ _


theorem namesAll_addAlias (key actual : String) : NamesAll (addAlias key actual) := by
  intro w e h
  cases h

theorem namesAll_modifyDeclarations (f : Collector → Collector) :
    NamesAll (modifyDeclarations f) := by
  intro w e h
  cases h

theorem Builder.addField_namesAll (b : Builder) (name type : String) :
    NamesAll (b.addField name type) := by
  unfold Builder.addField
  split
  · exact namesAll_modifyDeclarations _
  · exact namesAll_modify _
  · exact namesAll_pure _

theorem visitField_namesAll (u : Parsed) (agg : Option Builder) (name : String) (t : Ty) :
    NamesAll (visitField u agg name t) := by
  unfold visitField
  split
  · exact namesAll_pure _
  · dsimp only
    split
    · simp only [pure_bind]
      -- a field whose type is a record without a name is skipped; any other is named
      split
      · split
        · exact (namesAll_warn _).bind fun _ => namesAll_pure _
        · exact (nameType_namesAll _ _ _).bind fun _ => Builder.addField_namesAll _ _ _
      · exact (nameType_namesAll _ _ _).bind fun _ => Builder.addField_namesAll _ _ _
    · exact namesAll_throw_bind (fun _ h => by cases h) _

theorem nameUnnamed_namesAll (loc : Location) (name : String) : NamesAll (nameUnnamed loc name) := by
  unfold nameUnnamed
  refine namesAll_get.bind fun w => ?_
  split
  · exact (namesAll_set _).bind fun _ => (namesAll_addStruct _).bind fun _ => namesAll_pure _
  · split
    · split
      · exact namesAll_addAlias _ _
      · exact namesAll_pure _
    · exact namesAll_pure _

theorem visitTypedef_namesAll (u : Parsed) (j : Nat) : NamesAll (visitTypedef u j) := by
  unfold visitTypedef
  dsimp only
  refine (nameType_namesAll _ _ _).bind fun declared => ?_
  -- the alias that the typedef declares, when no record without a name takes its name
  have halias : NamesAll (do
      let x ← get
      if x.collected.aliases.contains declared = true then pure ()
      else do
        let actual ← nameType u.entities (Managed.Mode.aliases x.collected.aliases)
          (u.entities.typedef j).underlying.written
        if (actual == declared) = true then pure () else addAlias declared actual : WalkM Unit) := by
    refine namesAll_get.bind fun x => ?_
    split
    · exact namesAll_pure _
    · refine (nameType_namesAll _ _ _).bind fun actual => ?_
      split
      · exact namesAll_pure _
      · exact namesAll_addAlias _ _
  split
  · split
    · exact (nameUnnamed_namesAll _ _).bind fun _ => namesAll_pure _
    · exact halias
  · exact halias

theorem visitFunction_namesAll (u : Parsed) (name : String) (pos : Position) (t : Ty)
    (params : List Nat) : NamesAll (visitFunction u name pos t params) := by
  unfold visitFunction
  dsimp only
  refine (NamesAll.forIn fun x ps => ?_).bind fun ps => ?_
  · -- each parameter's type is named
    obtain ⟨p, i⟩ := x
    exact (nameType_namesAll _ _ _).bind fun _ => namesAll_pure _
  · exact (nameType_namesAll _ _ _).bind fun _ => namesAll_modifyDeclarations _


/-! ## Whole walks -/

theorem walkDecl_namesAll (u : Parsed) (owner : String) :
    ∀ (fuel : Nat) (agg : Option Builder) (i : Nat), NamesAll (walkDecl u owner fuel agg i)
  | 0, _, _ => by
    rw [walkDecl]
    exact namesAll_pure _
  | fuel + 1, agg, i => by
    rw [walkDecl.eq_2]
    dsimp only
    split
    · exact namesAll_pure _
    -- the walks of what a declaration holds
    have hwalk : ∀ (agg' : Option Builder) (d : Header.Decl), NamesAll (do
        for c in u.inside d do
          walkDecl u owner fuel agg' c) := fun agg' d =>
      (NamesAll.forIn fun c _ => (walkDecl_namesAll u owner fuel agg' c).bind fun _ =>
        namesAll_pure _).bind fun _ => namesAll_pure _
    -- the declaration's own visit, then its field or the walks of what it holds
    cases u.decl i with
    | tag t pos nameToken isDef members =>
      dsimp only
      split
      · exact (namesAll_pure agg).bind fun a => hwalk a _
      · exact ((visitAggregate_namesAll u _ _ _ agg).map some).bind fun a => hwalk a _
    | field name pos t => exact (namesAll_pure agg).bind fun a => visitField_namesAll _ _ _ _
    | typedef j pos inner =>
      exact (visitTypedef_namesAll u _).bind fun _ => (namesAll_pure agg).bind fun a => hwalk a _
    | function name pos t params inner =>
      exact (visitFunction_namesAll u _ _ _ _).bind fun _ =>
        (namesAll_pure agg).bind fun a => hwalk a _
    | _ => exact (namesAll_pure agg).bind fun a => hwalk a _

theorem readHeader_namesAll (s : Setup) (path : Files.Path) : NamesAll (readHeader s path) := by
  unfold readHeader
  split
  · exact namesAll_throw fun _ h => by cases h
  · exact (NamesAll.forIn fun err _ => (namesAll_warn err).bind fun _ => namesAll_pure _).bind
      fun _ => namesAll_pure _

theorem walkFile_namesAll (s : Setup) :
    ∀ (fuel : Nat) (path : Files.Path), NamesAll (walkFile s fuel path)
  | 0, _ => by
    rw [walkFile]
    exact namesAll_pure _
  | fuel + 1, path => by
    rw [walkFile.eq_2]
    dsimp only
    refine namesAll_get.bind fun w => ?_
    split
    · exact namesAll_pure _
    refine (namesAll_modify _).bind fun _ => (readHeader_namesAll s path).bind fun u => ?_
    -- each item of the header: a declaration, or an `#include` that may walk another file
    refine (NamesAll.forIn fun item _ => ?_).bind fun _ => namesAll_pure _
    split
    · exact (walkDecl_namesAll u _ _ none _).bind fun _ => namesAll_pure _
    · split
      · split
        · exact namesAll_throw_bind (fun _ h => by cases h) _
        · refine namesAll_get.bind fun w' => ?_
          split
          · exact (walkFile_namesAll s fuel _).bind fun _ => namesAll_pure _
          · exact namesAll_pure _
      · exact namesAll_pure _

/-- **A walk never fails for a type it cannot name.** -/
theorem walk_never_unnamed (fe : Frontend) (tree : Files.Tree) (config : Config)
    (sources : List String) (e : Managed.ResolveError) :
    walk fe tree config sources ≠ .error (.unnamed e) := by
  unfold walk
  dsimp only
  -- the run walks each source in turn
  exact NamesAll.run_bind ((NamesAll.forIn fun p _ => (walkFile_namesAll _ _ p).bind fun _ =>
    namesAll_pure _).bind fun _ => namesAll_pure _) _ _ e


/-! ## Naming fails only at missing children -/

open Managed in
/-- **Naming fails exactly at a node that lacks a child, and no walk over headers meets one.**
In either mode and with or without `const` stripping, naming a descriptor fails iff its walk
meets a node that lacks the child its category needs, with the failure of the first such node;
otherwise it succeeds and logs one notice per leaf of the walk that is neither a record nor a
typedef, in walk order. The walks of descriptors built by the constructor helpers, and of those
that describe the front end's types, meet no such node, so a walk over headers never fails for a
type it cannot name. -/
theorem naming_fails_only_at_missing_children :
    (∀ (m : Mode) (strip : Bool) (t : CType) (e : ResolveError),
      resolve m strip t = .error e ↔ (Managed.walk strip t).findSome? Visit.failure? = some e) ∧
    (∀ (m : Mode) (strip : Bool) (t : CType),
      (Managed.walk strip t).findSome? Visit.failure? = none →
        ∃ r, resolve m strip t = .ok r ∧ r.notices = (Managed.walk strip t).flatMap Visit.notices) ∧
    (∀ t : CType, CType.Built t →
      ∀ strip, (Managed.walk strip t).findSome? Visit.failure? = none) ∧
    (∀ (e : Entities) (ty : Ty) (c : CType), e.describe ty = .ok c →
      ∀ strip, (Managed.walk strip c).findSome? Visit.failure? = none) ∧
    (∀ (fe : Header.Frontend) (tree : Files.Tree) (config : Config) (sources : List String)
      (err : ResolveError), Collection.walk fe tree config sources ≠ .error (.unnamed err)) :=
  ⟨resolve_eq_error_iff, resolve_eq_ok_of_walk,
    fun _ ht strip => walk_complete strip _ ht.complete,
    fun e _ _ hc strip => walk_complete strip _ (e.describe_complete hc),
    walk_never_unnamed⟩

open Managed in
/-- A pointer to a pointer that has no pointee fails at the inner pointer, the first node of its
walk that lacks a child. A pointer to a record, built by the helpers, meets no such node and is
named with the notices of its walk, and so does the descriptor that the type `int` of a unit is
described by. -/
theorem bare_pointer_fails_built_pointer_named :
    (Managed.walk true (CType.pointer ⟨.pointer, "q", false, none, none, none, none, none⟩)).findSome?
        Visit.failure? = some .missingPointee ∧
      resolve .plain true (CType.pointer ⟨.pointer, "q", false, none, none, none, none, none⟩) =
        .error .missingPointee ∧
      CType.Built (CType.pointer (CType.record "S")) ∧
      (Managed.walk true (CType.pointer (CType.record "S"))).findSome? Visit.failure? = none ∧
      (∃ r, resolve .plain true (CType.pointer (CType.record "S")) = .ok r ∧
        r.notices = (Managed.walk true (CType.pointer (CType.record "S"))).flatMap Visit.notices) ∧
      ({} : Entities).describe .int = .ok (CType.primitive "int") ∧
      (Managed.walk true (CType.primitive "int")).findSome? Visit.failure? = none := by
  have hbuilt : CType.Built (CType.pointer (CType.record "S")) := .pointer false (.record "S" false)
  have hwalk := naming_fails_only_at_missing_children.2.2.1 _ hbuilt true
  have hint : ({} : Entities).describe .int = .ok (CType.primitive "int") := by cbv
  exact ⟨by decide, (naming_fails_only_at_missing_children.1 .plain true _ .missingPointee).2
    (by decide), hbuilt, hwalk, naming_fails_only_at_missing_children.2.1 .plain true _ hwalk, hint,
    naming_fails_only_at_missing_children.2.2.2.1 _ _ _ hint true⟩

end NativeBindings.Collection
