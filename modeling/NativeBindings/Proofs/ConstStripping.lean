import Mathlib
import NativeBindings.Managed.TypeName

/-!
# Naming a `const` type as its unqualified copy

With `strip` set, a `const` type is named as its unqualified copy. Arrays, pointers and the
primitives of the table never look at the flag, so for them the copy is named alike. The other
types are named by their leaf rule, and there the copy is named by a full resolution, which the
mode's rewriting then follows once more: in the default mode the rewriting does nothing and the
two names agree, while in alias mode the leaf name of a `const` type is rewritten twice. An alias
whose actual type is itself an alias is then followed one step too far.

The notices and the failures never differ (`resolve_unqualified`).
-/

namespace NativeBindings

/-- An unqualified descriptor is its own unqualified copy. -/
theorem CType.unqualified_of_not_const {t : CType} (h : t.isConst = false) : t.unqualified = t := by
  obtain ⟨cat, sp, c, el, sz, pt, rs, args⟩ := t
  cases h
  rfl

namespace Managed

/-- Whether a descriptor is named by the last two rules of `resolve` (its leaf rule): it is no
array, no pointer and no primitive of the table. Only such a descriptor reads its `const` flag. -/
def namedByLeaf (t : CType) : Bool :=
  match t.category with
  | .constantArray | .incompleteArray | .pointer => false
  | .primitive => (primitiveName? t.spelling).isNone
  | .function | .record | .typedef | .other => true

/-- The rewriting that `resolve` applies once more to the name of a `const` leaf. -/
def constRewrite (m : Mode) (t : CType) (r : Named) : Named :=
  ⟨r.notices, if t.isConst && namedByLeaf t then m.post r.text else r.text⟩

@[simp] theorem constRewrite_plain (t : CType) (r : Named) : constRewrite .plain t r = r := by
  simp [constRewrite, Mode.post]

theorem constRewrite_of_not_const {m : Mode} {t : CType} (h : t.isConst = false) (r : Named) :
    constRewrite m t r = r := by
  simp [constRewrite, h]

/-- **A `const` type is named as its unqualified copy, rewritten once more at a leaf.** With
`strip` set, the name of `t` is that of `t.unqualified`, with the mode's rewriting applied a
second time when `t` is `const` and named by its leaf rule; the notices and failures are the
copy's. -/
theorem resolve_unqualified (m : Mode) (t : CType) :
    resolve m true t = (resolve m true t.unqualified).map (constRewrite m t) := by
  obtain ⟨cat, sp, c, el, sz, pt, rs, args⟩ := t
  cases c with
  | false =>
    rw [CType.unqualified_of_not_const rfl]
    cases h : resolve m true ⟨cat, sp, false, el, sz, pt, rs, args⟩ with
    | error e => rfl
    | ok r => exact congrArg Except.ok (constRewrite_of_not_const rfl r).symm
  | true =>
    -- only the leaf rule reads the flag; every other rule names the copy alike
    cases cat with
    | primitive =>
      cases hp : primitiveName? sp with
      | some n =>
        simp [resolve, structural, CType.unqualified, hp, constRewrite, namedByLeaf, Except.map, bind, Except.bind, pure, Except.pure]
      | none =>
        simp [resolve, structural, CType.unqualified, hp, constRewrite, namedByLeaf, Except.map, bind, Except.bind, pure, Except.pure]
    | constantArray | incompleteArray =>
      simp only [resolve, structural, CType.unqualified]
      cases child m el with
      | error e => rfl
      | ok e => simp [constRewrite, namedByLeaf, Except.map, bind, Except.bind, pure, Except.pure]
    | pointer =>
      simp only [resolve, structural, CType.unqualified]
      cases target m pt with
      | error e => rfl
      | ok r => simp [constRewrite, namedByLeaf, Except.map, bind, Except.bind, pure, Except.pure]
    | function | record | typedef | other =>
      simp [resolve, structural, CType.unqualified, constRewrite, namedByLeaf, Except.map, bind, Except.bind, pure, Except.pure]

/-- **Stripping `const` keeps the notices, the failures and the default name.** In every mode the
name of a type with `strip` set logs the notices of its unqualified copy and fails as it does; in
the default mode it is the copy's name, and in alias mode it is the copy's name rewritten once
more by the table when the type is a `const` leaf. -/
theorem const_stripping_keeps_notices (m : Mode) (t : CType) :
    (resolve m true t).map (·.notices) = (resolve m true t.unqualified).map (·.notices) ∧
      resolve .plain true t = resolve .plain true t.unqualified ∧
      resolve m true t = (resolve m true t.unqualified).map (constRewrite m t) := by
  have hplain : resolve .plain true t = resolve .plain true t.unqualified := by
    rw [resolve_unqualified .plain t]
    cases resolve .plain true t.unqualified with
    | error e => rfl
    | ok r => exact congrArg Except.ok (constRewrite_plain t r)
  refine ⟨?_, hplain, resolve_unqualified m t⟩
  rw [resolve_unqualified m t]
  cases resolve m true t.unqualified with
  | error e => rfl
  | ok r => rfl

-- With `A` an alias of `B` and `B` one of `C`, a `const A` is named `C`, one step past the `B`
-- that names `A` itself.
example :
    (resolve (.aliases ⟨[("A", "B"), ("B", "C")]⟩) true <| CType.typedef "A" true).map (·.text) =
        .ok "C" ∧
      (resolve (.aliases ⟨[("A", "B"), ("B", "C")]⟩) true <| CType.typedef "A").map (·.text) =
        .ok "B" := by
  constructor <;> cbv

end Managed

end NativeBindings
