import NativeBindings.Managed.TypeName
import NativeBindings.Header.Describe

/-!
# Which nodes naming a type visits, and when it fails

Naming a descriptor in C# (`resolve`) walks part of its tree: from an array to its element, from
a pointer to its pointee (or, when the pointee is a function with a parameter list, to the
function's result and then to each parameter), from a `const` node that no earlier rule names to
its unqualified copy. It stops at a primitive that the table names and at a node named by its
leaf rule. `walk` lists, in that order, what the walk meets: a node that lacks the child its
category needs, or a node named by its leaf rule.

The main statement (`resolve_notices_eq_outcome`) is that naming fails exactly when the walk
meets a node that lacks a child, with the failure of the first such node, and that otherwise the
notices are one per leaf node that is neither a record nor a typedef, in walk order. The mode
plays no part: it rewrites names, and names decide neither failures nor notices.

A descriptor is `complete` when every node of it has the children its category needs. The
constructor helpers (`Built`) and the description of a front-end type (`describe`) build only
complete descriptors, and the walk of a complete descriptor meets no node that lacks a child, so
naming one always succeeds (`resolve_complete`).
-/

namespace NativeBindings

theorem except_bind_eq_ok {ε α β : Type} {x : Except ε α} {f : α → Except ε β} {b : β}
    (h : (x >>= f) = .ok b) : ∃ a, x = .ok a ∧ f a = .ok b := by
  cases x with
  | error e => cases h
  | ok a => exact ⟨a, rfl, h⟩

end NativeBindings

namespace NativeBindings.Managed

/-- What the naming walk meets. -/
inductive Visit where
  /-- A node that lacks the child its category needs, with the failure it gives. -/
  | lacks (e : ResolveError)
  /-- A node named by its leaf rule (a `const` node by its unqualified copy). -/
  | leaf (t : CType)
deriving Repr

namespace Visit

/-- The notice a visit logs: one for a leaf that C# has no name for. -/
def notices : Visit → List String
  | .leaf t => if t.category.isNamed then [] else [fallbackNotice t]
  | .lacks _ => []

/-- The failure a visit gives. -/
def failure? : Visit → Option ResolveError
  | .lacks e => some e
  | .leaf _ => none

end Visit

mutual

/-- The nodes that naming a descriptor visits, in the order it visits them. -/
def walk (strip : Bool) : CType → List Visit
  | ⟨cat, sp, c, el, sz, pt, rs, args⟩ =>
    let t : CType := ⟨cat, sp, c, el, sz, pt, rs, args⟩
    let leaf : Visit := if c && strip then .leaf t.unqualified else .leaf t
    match cat with
    | .primitive => if (primitiveName? sp).isSome then [] else [leaf]
    | .constantArray | .incompleteArray => walkChild el
    | .pointer => walkTarget pt
    | _ => [leaf]

/-- The walk of a child that must be present. -/
def walkChild : Option CType → List Visit
  | none => [.lacks .missingChild]
  | some t => walk true t

/-- The walk of a pointer's pointee. -/
def walkTarget : Option CType → List Visit
  | none => [.lacks .missingPointee]
  | some p => if p.isFunction then walkCallback p else walk true p

/-- The walk of a pointed-to function: its result, then its parameters. -/
def walkCallback : CType → List Visit
  | ⟨_, _, _, _, _, _, rs, args⟩ => walkChild rs ++ walkParameters args

/-- The walk of a parameter list. -/
def walkParameters : Option (List CType) → List Visit
  | none => []
  | some ts => walkList ts

/-- The walks of a list of types, one after the other. -/
def walkList : List CType → List Visit
  | [] => []
  | t :: ts => walk true t ++ walkList ts

end

/-- What a walk comes to: the failure of the first node that lacks a child, or else the notices
of the nodes in walk order. -/
def outcome (vs : List Visit) : Except ResolveError (List String) :=
  match vs.findSome? Visit.failure? with
  | some e => .error e
  | none => .ok (vs.flatMap Visit.notices)

@[simp] theorem outcome_nil : outcome [] = .ok [] := rfl

theorem outcome_leaf (t : CType) : outcome [.leaf t] = .ok (Visit.leaf t).notices := by
  simp [outcome, Visit.failure?]

/-- A walk made of two parts fails as the first part does, else as the second, and logs the
notices of both parts in order. -/
theorem outcome_append (xs ys : List Visit) :
    outcome (xs ++ ys) = (do
      let a ← outcome xs
      let b ← outcome ys
      pure (a ++ b)) := by
  unfold outcome
  rw [List.findSome?_append]
  cases hx : xs.findSome? Visit.failure? with
  | some e => rfl
  | none =>
    cases hy : ys.findSome? Visit.failure? with
    | some e => rfl
    | none =>
      rw [List.flatMap_append]
      rfl

/-- The leaf rule logs the notice of its leaf visit. -/
theorem leafName_notices (t : CType) : (leafName t).notices = (Visit.leaf t).notices := by
  unfold leafName
  split <;> simp [Visit.notices, *]

theorem map_notices_pure (r : Named) :
    (pure r : Except ResolveError Named).map Named.notices = .ok r.notices := rfl

/-- The rewriting of a name keeps its notices. -/
theorem map_notices_rename (x : Except ResolveError Named) (g : Named → String) :
    (do let r ← x; pure ⟨r.notices, g r⟩ : Except ResolveError Named).map Named.notices =
      x.map Named.notices := by
  cases x <;> rfl

/-- A node named by its leaf rule logs what its leaf visit logs, whether or not its `const` flag
sends it to its unqualified copy. -/
theorem leaf_notices_eq_outcome (m : Mode) (strip : Bool) (t : CType) :
    (pure (if t.isConst && strip then
        (⟨(leafName t.unqualified).notices, m.post (leafName t.unqualified).text⟩ : Named)
      else leafName t) : Except ResolveError Named).map Named.notices =
      outcome [if t.isConst && strip then .leaf t.unqualified else .leaf t] := by
  by_cases hc : (t.isConst && strip) = true
  · rw [if_pos hc, if_pos hc, map_notices_pure, outcome_leaf, leafName_notices]
  · rw [if_neg hc, if_neg hc, map_notices_pure, outcome_leaf, leafName_notices]

section
variable (m : Mode)

mutual

/-- **Naming comes to what its walk meets.** It fails with the failure of the first node of the
walk that lacks a child, and otherwise logs the notices of the walk's leaves in order. -/
theorem resolve_notices_eq_outcome :
    ∀ (strip : Bool) (t : CType), (resolve m strip t).map Named.notices = outcome (walk strip t)
  | strip, ⟨cat, sp, c, el, sz, pt, rs, args⟩ => by
    simp only [resolve]
    rw [map_notices_rename]
    cases cat with
    | primitive =>
      cases hp : primitiveName? sp with
      | some n => simp only [structural, walk, hp, Option.isSome_some, if_true]; rfl
      | none =>
        simp only [structural, walk, hp, Option.isSome_none, Bool.false_eq_true, if_false]
        exact leaf_notices_eq_outcome m strip ⟨_, sp, c, el, sz, pt, rs, args⟩
    | constantArray | incompleteArray =>
      simp only [structural, walk]
      rw [map_notices_rename, child_notices_eq_outcome]
    | pointer =>
      simp only [structural, walk]
      exact target_notices_eq_outcome pt
    | function | record | typedef | other =>
      simp only [structural, walk]
      exact leaf_notices_eq_outcome m strip ⟨_, sp, c, el, sz, pt, rs, args⟩

theorem child_notices_eq_outcome :
    ∀ o : Option CType, (child m o).map Named.notices = outcome (walkChild o)
  | none => by simp only [child, walkChild]; rfl
  | some t => by simp only [child, walkChild, resolve_notices_eq_outcome]

theorem target_notices_eq_outcome :
    ∀ o : Option CType, (target m o).map Named.notices = outcome (walkTarget o)
  | none => by simp only [target, walkTarget]; rfl
  | some p => by
    simp only [target, walkTarget]
    split
    · exact callback_notices_eq_outcome p
    · rw [map_notices_rename, resolve_notices_eq_outcome]

theorem callback_notices_eq_outcome :
    ∀ p : CType, (callback m p).map Named.notices = outcome (walkCallback p)
  | ⟨_, _, _, _, _, _, rs, args⟩ => by
    simp only [callback, walkCallback, outcome_append, ← child_notices_eq_outcome,
      ← parameters_notices_eq_outcome]
    cases child m rs <;> cases parameters m args <;> rfl

theorem parameters_notices_eq_outcome :
    ∀ o : Option (List CType), (parameters m o).map Prod.fst = outcome (walkParameters o)
  | none => by simp only [parameters, walkParameters]; rfl
  | some ts => by simp only [parameters, walkParameters, parameterNames_notices_eq_outcome]

theorem parameterNames_notices_eq_outcome :
    ∀ ts : List CType, (parameterNames m ts).map Prod.fst = outcome (walkList ts)
  | [] => by simp only [parameterNames, walkList]; rfl
  | t :: ts => by
    simp only [parameterNames, walkList, outcome_append, ← resolve_notices_eq_outcome,
      ← parameterNames_notices_eq_outcome ts]
    cases resolve m true t <;> cases parameterNames m ts <;> rfl

end

end

/-- Naming fails exactly where the walk meets a node that lacks a child: the failure is that of
the first such node. -/
theorem resolve_eq_error_iff (m : Mode) (strip : Bool) (t : CType) (e : ResolveError) :
    resolve m strip t = .error e ↔ (walk strip t).findSome? Visit.failure? = some e := by
  have h := resolve_notices_eq_outcome m strip t
  unfold outcome at h
  constructor
  · intro he
    rw [he] at h
    split at h
    · rename_i e' hfirst
      obtain rfl : e = e' := Except.error.inj h
      exact hfirst
    · cases h
  · intro hf
    rw [hf] at h
    cases hr : resolve m strip t with
    | error e' =>
      rw [hr] at h
      exact congrArg Except.error (Except.error.inj h)
    | ok r => rw [hr] at h; cases h

/-- Where the walk meets no node that lacks a child, naming succeeds and logs one notice per leaf
of the walk that C# has no name for, in walk order. -/
theorem resolve_eq_ok_of_walk (m : Mode) (strip : Bool) (t : CType)
    (h : (walk strip t).findSome? Visit.failure? = none) :
    ∃ r, resolve m strip t = .ok r ∧ r.notices = (walk strip t).flatMap Visit.notices := by
  have hout := resolve_notices_eq_outcome m strip t
  rw [outcome, h] at hout
  cases hr : resolve m strip t with
  | error e => rw [hr] at hout; cases hout
  | ok r => exact ⟨r, rfl, Except.ok.inj (hr ▸ hout)⟩

end NativeBindings.Managed

namespace NativeBindings.CType

mutual

/-- Whether a descriptor has, at every level, each child its category needs: an array its
element, a pointer its pointee, a function with a parameter list its result. -/
def complete : CType → Bool
  | ⟨cat, _, _, el, _, pt, rs, args⟩ =>
    (match cat with
      | .constantArray | .incompleteArray => el.isSome
      | .pointer => pt.isSome
      | .function => args.isNone || rs.isSome
      | _ => true) &&
      completeOption el && completeOption pt && completeOption rs && completeArguments args

/-- `complete` of a child, where there is one. -/
def completeOption : Option CType → Bool
  | none => true
  | some t => complete t

/-- `complete` of each parameter type, where there is a parameter list. -/
def completeArguments : Option (List CType) → Bool
  | none => true
  | some ts => completeAll ts

/-- `complete` of each type of a list. -/
def completeAll : List CType → Bool
  | [] => true
  | t :: ts => complete t && completeAll ts

end

theorem completeAll_iff : ∀ ts : List CType, completeAll ts = true ↔ ∀ t ∈ ts, t.complete = true
  | [] => by simp [completeAll]
  | t :: ts => by simp [completeAll, completeAll_iff ts]

@[simp] theorem complete_primitive (s : String) (c : Bool) : (primitive s c).complete = true := by
  simp [primitive, complete, completeOption, completeArguments]

@[simp] theorem complete_record (s : String) (c : Bool) : (record s c).complete = true := by
  simp [record, complete, completeOption, completeArguments]

@[simp] theorem complete_typedef (s : String) (c : Bool) : (typedef s c).complete = true := by
  simp [typedef, complete, completeOption, completeArguments]

@[simp] theorem complete_pointer (p : CType) (c : Bool) : (pointer p c).complete = p.complete := by
  simp [pointer, complete, completeOption, completeArguments]

@[simp] theorem complete_constantArray (t : CType) (n : Int) :
    (constantArray t n).complete = t.complete := by
  simp [constantArray, complete, completeOption, completeArguments]

@[simp] theorem complete_incompleteArray (t : CType) :
    (incompleteArray t).complete = t.complete := by
  simp [incompleteArray, complete, completeOption, completeArguments]

@[simp] theorem complete_function (r : CType) (args : List CType) :
    (function r args).complete = (r.complete && completeAll args) := by
  simp [function, complete, completeOption, completeArguments]

/-- The descriptors that the constructor helpers build, each from descriptors built so. -/
inductive Built : CType → Prop
  | primitive (s : String) (c : Bool) : Built (primitive s c)
  | record (s : String) (c : Bool) : Built (record s c)
  | typedef (s : String) (c : Bool) : Built (typedef s c)
  | pointer {p : CType} (c : Bool) : Built p → Built (pointer p c)
  | constantArray {t : CType} (n : Int) : Built t → Built (constantArray t n)
  | incompleteArray {t : CType} : Built t → Built (incompleteArray t)
  | function {r : CType} {args : List CType} :
      Built r → (∀ a ∈ args, Built a) → Built (function r args)

/-- The constructor helpers build only complete descriptors. -/
theorem Built.complete {t : CType} (h : Built t) : t.complete = true := by
  induction h with
  | primitive s c => exact complete_primitive s c
  | record s c => exact complete_record s c
  | typedef s c => exact complete_typedef s c
  | pointer c _ ih => rw [complete_pointer]; exact ih
  | constantArray n _ ih => rw [complete_constantArray]; exact ih
  | incompleteArray _ ih => rw [complete_incompleteArray]; exact ih
  | function _ _ ihr ihargs =>
    rw [complete_function, ihr, (completeAll_iff _).2 ihargs]
    rfl

end NativeBindings.CType

namespace NativeBindings.Managed

open CType

mutual

/-- The walk of a complete descriptor meets no node that lacks a child. -/
theorem walk_complete : ∀ (strip : Bool) (t : CType), t.complete = true →
    (walk strip t).findSome? Visit.failure? = none
  | strip, ⟨cat, sp, c, el, sz, pt, rs, args⟩, h => by
    simp only [CType.complete, Bool.and_eq_true] at h
    obtain ⟨⟨⟨⟨hcat, hel⟩, hpt⟩, hrs⟩, hargs⟩ := h
    cases cat with
    | primitive =>
      simp only [walk]
      split
      · rfl
      · split <;> rfl
    | constantArray | incompleteArray =>
      simp only [walk]
      exact walkChild_complete el hcat hel
    | pointer =>
      simp only [walk]
      exact walkTarget_complete pt hcat hpt
    | function | record | typedef | other =>
      simp only [walk]
      split <;> rfl

theorem walkChild_complete : ∀ (o : Option CType), o.isSome = true → completeOption o = true →
    (walkChild o).findSome? Visit.failure? = none
  | some t, _, h => by
    simp only [walkChild]
    exact walk_complete true t h

theorem walkTarget_complete : ∀ (o : Option CType), o.isSome = true → completeOption o = true →
    (walkTarget o).findSome? Visit.failure? = none
  | some p, _, h => by
    simp only [walkTarget]
    split
    · exact walkCallback_complete p h ‹_›
    · exact walk_complete true p h

theorem walkCallback_complete : ∀ (p : CType), p.complete = true → p.isFunction = true →
    (walkCallback p).findSome? Visit.failure? = none
  | ⟨cat, sp, c, el, sz, pt, rs, args⟩, h, hf => by
    simp only [CType.complete, Bool.and_eq_true] at h
    obtain ⟨⟨⟨⟨hcat, -⟩, -⟩, hrs⟩, hargs⟩ := h
    simp only [CType.isFunction, Bool.and_eq_true, beq_iff_eq] at hf
    obtain ⟨rfl, hsome⟩ := hf
    -- a function with a parameter list has its result
    have hres : rs.isSome = true := by
      simp only [Bool.or_eq_true, Option.isNone_iff_eq_none] at hcat
      rcases hcat with rfl | hres
      · cases hsome
      · exact hres
    simp only [walkCallback, List.findSome?_append, walkChild_complete rs hres hrs,
      walkParameters_complete args hargs, Option.or_none]

theorem walkParameters_complete : ∀ (o : Option (List CType)), completeArguments o = true →
    (walkParameters o).findSome? Visit.failure? = none
  | none, _ => rfl
  | some ts, h => by
    simp only [walkParameters]
    exact walkList_complete ts h

theorem walkList_complete : ∀ (ts : List CType), completeAll ts = true →
    (walkList ts).findSome? Visit.failure? = none
  | [], _ => rfl
  | t :: ts, h => by
    simp only [completeAll, Bool.and_eq_true] at h
    simp only [walkList, List.findSome?_append, walk_complete true t h.1,
      walkList_complete ts h.2, Option.or_none]

end

/-- **A complete descriptor can always be named**, with one notice per leaf of its walk that C#
has no name for. -/
theorem resolve_complete (m : Mode) (strip : Bool) {t : CType} (h : t.complete = true) :
    ∃ r, resolve m strip t = .ok r ∧ r.notices = (walk strip t).flatMap Visit.notices :=
  resolve_eq_ok_of_walk m strip t (walk_complete strip t h)

end NativeBindings.Managed

namespace NativeBindings.Header.Entities

open CType

/-- `complete` reads only a descriptor's category and children. -/
theorem complete_respell (n : CType) (s : String) (b : Bool) (z : Option Int) :
    ({ category := n.category, spelling := s, isConst := b, element := n.element, size := z,
       pointee := n.pointee, result := n.result, arguments := n.arguments } : CType).complete =
      n.complete := by
  cases n
  rfl

theorem mapM_complete {f : Ty → Except UnknownKind CType}
    (hf : ∀ t c, f t = .ok c → c.complete = true) :
    ∀ {ts : List Ty} {cs : List CType}, ts.mapM f = .ok cs → completeAll cs = true
  | [], cs, h => by
    simp only [List.mapM_nil] at h
    cases h
    rfl
  | t :: ts, cs, h => by
    simp only [List.mapM_cons] at h
    obtain ⟨c, hc, h⟩ := except_bind_eq_ok h
    obtain ⟨cs', hcs, h⟩ := except_bind_eq_ok h
    cases h
    simp only [completeAll, hf t c hc, mapM_complete hf hcs, Bool.and_self]

/-- **Every descriptor of a type is complete.** -/
theorem describeWith_complete (e : Entities) :
    ∀ (fuel : Nat) (t : Ty) {c : CType}, e.describeWith fuel t = .ok c → c.complete = true
  | 0, _, c, h => by
    rw [describeWith] at h
    cases h
    rfl
  | fuel + 1, t, c, h => by
    have ih := describeWith_complete e fuel
    rw [describeWith] at h
    obtain ⟨k, -, h⟩ := except_bind_eq_ok h
    split at h
    · cases h; rfl
    -- one case per kind; each builds the children it needs from described types
    split at h
    · -- a `struct`-style name: the named type, respelled
      obtain ⟨n, hn, h⟩ := except_bind_eq_ok h
      cases h
      rw [complete_respell]
      exact ih _ hn
    · -- an enum: its integer type
      obtain ⟨n, hn, h⟩ := except_bind_eq_ok h
      cases h
      exact (complete_respell n n.spelling _ n.size) ▸ ih _ hn
    · cases h
      exact complete_primitive _ _
    · obtain ⟨el, hel, h⟩ := except_bind_eq_ok h
      cases h
      simp [complete, completeOption, completeArguments, ih _ hel]
    · obtain ⟨el, hel, h⟩ := except_bind_eq_ok h
      cases h
      simp [complete, completeOption, completeArguments, ih _ hel]
    · -- a pointer: to its pointee, or to the function type that the pointee stands for
      obtain ⟨pk, -, h⟩ := except_bind_eq_ok h
      dsimp only at h
      split at h
      · obtain ⟨q, -, h⟩ := except_bind_eq_ok h
        obtain ⟨p, hp, h⟩ := except_bind_eq_ok h
        cases h
        simp [complete, completeOption, completeArguments, ih _ hp]
      · obtain ⟨ck, -, h⟩ := except_bind_eq_ok h
        obtain ⟨q, -, h⟩ := except_bind_eq_ok h
        obtain ⟨p, hp, h⟩ := except_bind_eq_ok h
        cases h
        simp [complete, completeOption, completeArguments, ih _ hp]
    · -- a function: its result and, when prototyped, its parameter types
      dsimp only at h
      obtain ⟨rc, hr, h⟩ := except_bind_eq_ok h
      split at h
      · obtain ⟨args, hargs, h⟩ := except_bind_eq_ok h
        cases h
        simp [complete, completeOption, completeArguments, ih _ hr, mapM_complete ih hargs]
      · obtain ⟨args, hargs, h⟩ := except_bind_eq_ok h
        cases hargs
        cases h
        simp [complete, completeOption, completeArguments, ih _ hr, completeAll]
    · cases h
      exact complete_typedef _ _
    · cases h
      exact complete_record _ _
    · cases h
      rfl

theorem describe_complete (e : Entities) {t : Ty} {c : CType} (h : e.describe t = .ok c) :
    c.complete = true :=
  describeWith_complete e depthLimit t h

end NativeBindings.Header.Entities
