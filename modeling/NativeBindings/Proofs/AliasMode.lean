import Mathlib
import NativeBindings.Managed.TypeName

/-!
# Alias mode is default mode with its leaves renamed

A C type is named in C# in one of two modes. The default mode names the type of a field, a
parameter or a result; alias mode names the right-hand side of a `using` alias, and rewrites
every name it produces by `Mode.post`: an alias by its actual type, a C# keyword type by its
`System` name. Both walk the descriptor alike, so the two names differ only where `post` changes
something.

`renamed f` is the default-mode name of a descriptor with every leaf name `n` (the C# name of a
primitive, a record or typedef name, or a spelling kept as it is) written `f n`, and the
pointer and callback rules applied to the renamed names. The main statement
(`resolve_modes_rename_leaves`) is that the default mode is `renamed id` and that alias mode is
`renamed post`, as long as no alias is written like a composite type (with an angle bracket or a
dot), so that `post` leaves every composite name as it is, and the table is settled: it leaves
the value of each of its aliases as it is.

That is alias mode's design, and a plain substitution in the default name misses one of its
consequences: the pointer and callback rules look for `void` after the renaming, so with
`typedef void V;` known as an alias a pointer to `V` is `Pointer<V>` by default but
`System.IntPtr` in alias mode. The table has to be settled because a `const` type is named by a
full resolution of its unqualified copy, which alias mode rewrites once more; a settled table
makes that second rewriting change nothing, and on another one alias mode follows an alias of
an alias one step further (`alias_mode_not_leaf_substitution`, and `ConstStripping` for the
second rewriting itself).
-/

namespace NativeBindings.Managed

/-! ## Composite names -/

/-- A name that holds an angle bracket or a dot, as every composite C# type expression does. -/
def IsComposite (s : String) : Prop := '<' ∈ s.toList ∨ '.' ∈ s.toList

instance : DecidablePred IsComposite := fun s =>
  inferInstanceAs (Decidable ('<' ∈ s.toList ∨ '.' ∈ s.toList))

/-- An alias table none of whose aliases is written like a composite name; identifiers, and
their verbatim forms `@k`, are such aliases. -/
def PlainKeys (T : AliasTable) : Prop := ∀ e ∈ T.entries, ¬ IsComposite e.1

instance (T : AliasTable) : Decidable (PlainKeys T) :=
  inferInstanceAs (Decidable (∀ e ∈ T.entries, ¬ IsComposite e.1))

/-- A rewriting of names that leaves every composite name as it is. -/
def KeepsComposites (g : String → String) : Prop := ∀ s, IsComposite s → g s = s

theorem isComposite_constArray (x : String) : IsComposite ("ConstArrayOf<" ++ x ++ ">") :=
  Or.inl (by simp [String.toList_append])

theorem isComposite_array (x : String) : IsComposite ("ArrayOf<" ++ x ++ ">") :=
  Or.inl (by simp [String.toList_append])

theorem isComposite_pointerName (x : String) : IsComposite (pointerName x) := by
  unfold pointerName
  split
  · exact Or.inr (by decide)
  · exact Or.inl (by simp [String.toList_append])

theorem isComposite_delegateName (r : String) (ps : List String) :
    IsComposite (delegateName r ps) := by
  unfold delegateName
  split
  · split
    · exact Or.inr (by decide)
    · exact Or.inl (by simp [String.toList_append])
  · exact Or.inl (by simp [String.toList_append])

/-- No keyword type is written like a composite name, so `keywordType` keeps composite names. -/
theorem keywordType_of_isComposite {s : String} (hs : IsComposite s) : keywordType s = s := by
  have htable : ∀ e ∈ keywordTypeTable, ¬ IsComposite e.1 := by decide
  unfold keywordType
  split
  · rename_i e he
    have hname : e.1 = s := by simpa using List.find?_some he
    exact absurd (hname ▸ hs) (htable e (List.mem_of_find?_eq_some he))
  · rfl

theorem lookup_of_isComposite {T : AliasTable} (hT : PlainKeys T) {s : String}
    (hs : IsComposite s) : T.lookup s = none := by
  unfold AliasTable.lookup
  rw [Option.map_eq_none_iff, List.find?_eq_none]
  intro e he hkey
  have hname : e.1 = s := by simpa using hkey
  exact hT e he (hname ▸ hs)

theorem keepsComposites_plain : KeepsComposites Mode.plain.post := fun _ _ => rfl

/-- A keyword type's `System` name is composite. -/
theorem keywordType_eq_self_or_isComposite (s : String) :
    keywordType s = s ∨ IsComposite (keywordType s) := by
  have htable : ∀ e ∈ keywordTypeTable, IsComposite e.2 := by decide
  unfold keywordType
  split
  · rename_i e he
    exact .inr (htable e (List.mem_of_find?_eq_some he))
  · exact .inl rfl

theorem mem_of_lookup_eq_some {T : AliasTable} {s v : String} (h : T.lookup s = some v) :
    ∃ e ∈ T.entries, e.2 = v := by
  unfold AliasTable.lookup at h
  obtain ⟨e, he, rfl⟩ := Option.map_eq_some_iff.1 h
  exact ⟨e, List.mem_of_find?_eq_some he, rfl⟩

/-- Alias mode keeps composite names when no alias is written like one. -/
theorem keepsComposites_aliases {T : AliasTable} (hT : PlainKeys T) :
    KeepsComposites (Mode.aliases T).post := by
  intro s hs
  simp only [Mode.post, lookup_of_isComposite hT hs, keywordType_of_isComposite hs]

/-! ## Settled tables -/

/-- An alias table that leaves the value of each of its aliases as it is: no value is itself an
alias or a C# keyword type. -/
def Settled (T : AliasTable) : Prop := ∀ e ∈ T.entries, (Mode.aliases T).post e.2 = e.2

instance (T : AliasTable) : Decidable (Settled T) :=
  inferInstanceAs (Decidable (∀ e ∈ T.entries, (Mode.aliases T).post e.2 = e.2))

example : ¬ Settled ⟨[("X", "Y"), ("Y", "Z")]⟩ := by decide

/-- A rewriting that changes nothing the second time. -/
def Idempotent (g : String → String) : Prop := ∀ s, g (g s) = g s

theorem idempotent_plain : Idempotent Mode.plain.post := fun _ => rfl

/-- Alias mode rewrites each name once for all when the table is settled: an alias becomes a
value that the table keeps, and a keyword type a composite `System` name. -/
theorem idempotent_aliases {T : AliasTable} (hT : PlainKeys T) (hS : Settled T) :
    Idempotent (Mode.aliases T).post := by
  intro s
  cases h : T.lookup s with
  | some v =>
    obtain ⟨e, he, rfl⟩ := mem_of_lookup_eq_some h
    simp only [Mode.post, h]
    exact hS e he
  | none =>
    have hpost : (Mode.aliases T).post s = keywordType s := by simp only [Mode.post, h]
    rw [hpost]
    rcases keywordType_eq_self_or_isComposite s with hk | hk
    · rw [hk] at hpost ⊢
      exact hpost
    · exact keepsComposites_aliases hT _ hk

/-! ## Naming with renamed leaves -/

mutual

/-- The default-mode name of a descriptor with every leaf name `n` written `f n`; the pointer and
callback rules see the renamed names. -/
def renamed (f : String → String) (strip : Bool) : CType → Except ResolveError Named
  | ⟨cat, sp, c, el, sz, pt, rs, args⟩ =>
    let t : CType := ⟨cat, sp, c, el, sz, pt, rs, args⟩
    let u := if c && strip then leafName t.unqualified else leafName t
    let leaf : Named := ⟨u.notices, f u.text⟩
    match cat with
    | .primitive =>
      match primitiveName? sp with
      | some m => pure ⟨[], f m⟩
      | none => pure leaf
    | .constantArray => do
      let e ← renamedChild f el
      pure ⟨e.notices, "ConstArrayOf<" ++ e.text ++ ">"⟩
    | .incompleteArray => do
      let e ← renamedChild f el
      pure ⟨e.notices, "ArrayOf<" ++ e.text ++ ">"⟩
    | .pointer => renamedTarget f pt
    | _ => pure leaf

/-- `renamed` of a child that must be present. -/
def renamedChild (f : String → String) : Option CType → Except ResolveError Named
  | none => .error .missingChild
  | some t => renamed f true t

/-- `renamed` of a pointer with the given pointee. -/
def renamedTarget (f : String → String) : Option CType → Except ResolveError Named
  | none => .error .missingPointee
  | some p =>
    if p.isFunction then renamedCallback f p
    else do
      let r ← renamed f true p
      pure ⟨r.notices, pointerName r.text⟩

/-- `renamed` of a pointed-to function: its result first, then its parameters. -/
def renamedCallback (f : String → String) : CType → Except ResolveError Named
  | ⟨_, _, _, _, _, _, rs, args⟩ => do
    let r ← renamedChild f rs
    let ps ← renamedParameters f args
    pure ⟨r.notices ++ ps.1, delegateName r.text ps.2⟩

/-- `renamed` of a parameter list. -/
def renamedParameters (f : String → String) :
    Option (List CType) → Except ResolveError (List String × List String)
  | none => pure ([], [])
  | some ts => renamedParameterNames f ts

/-- `renamed` of a list of types, with their notices in order. -/
def renamedParameterNames (f : String → String) :
    List CType → Except ResolveError (List String × List String)
  | [] => pure ([], [])
  | t :: ts => do
    let r ← renamed f true t
    let rs ← renamedParameterNames f ts
    pure (r.notices ++ rs.1, r.text :: rs.2)

end

/-- A pointer is named by a composite name: a delegate, `System.IntPtr` or `Pointer<T>`. -/
theorem isComposite_renamedTarget {f : String → String} {o : Option CType} {r : Named}
    (h : renamedTarget f o = .ok r) : IsComposite r.text := by
  cases o with
  | none => cases h
  | some p =>
    simp only [renamedTarget] at h
    split at h
    · obtain ⟨_, _, _, _, _, _, rs, args⟩ := p
      simp only [renamedCallback] at h
      cases hr : renamedChild f rs with
      | error e => simp only [hr] at h; cases h
      | ok a =>
        cases hps : renamedParameters f args with
        | error e => simp only [hr, hps] at h; cases h
        | ok ps =>
          simp only [hr, hps] at h
          cases h
          exact isComposite_delegateName _ _
    · cases hr : renamed f true p with
      | error e => simp only [hr] at h; cases h
      | ok a =>
        simp only [hr] at h
        cases h
        exact isComposite_pointerName _

/-! ## Both modes rename leaves -/

section Modes

variable {m : Mode}

/-- A composite name that the mode keeps is its name after the mode's rewriting. -/
theorem post_composite (hm : KeepsComposites m.post) {n : Named} (hn : IsComposite n.text) :
    (⟨n.notices, m.post n.text⟩ : Named) = n := by
  rw [hm _ hn]

mutual

/-- A mode that keeps composite names and rewrites once for all names every descriptor as
`renamed` by its rewriting. -/
theorem resolve_eq_renamed (hm : KeepsComposites m.post) (hi : Idempotent m.post) :
    ∀ (strip : Bool) (t : CType), resolve m strip t = renamed m.post strip t
  | strip, ⟨cat, sp, c, el, sz, pt, rs, args⟩ => by
    cases cat with
    | primitive =>
      simp only [resolve, structural, renamed]
      cases primitiveName? sp with
      | some n => rfl
      | none => by_cases hc : (c && strip) = true <;> simp [hc, hi _]
    | constantArray =>
      simp only [resolve, structural, renamed, child_eq_renamedChild hm hi el]
      cases renamedChild m.post el with
      | error e => rfl
      | ok e => exact congrArg Except.ok (post_composite hm (isComposite_constArray e.text))
    | incompleteArray =>
      simp only [resolve, structural, renamed, child_eq_renamedChild hm hi el]
      cases renamedChild m.post el with
      | error e => rfl
      | ok e => exact congrArg Except.ok (post_composite hm (isComposite_array e.text))
    | pointer =>
      simp only [resolve, structural, renamed, target_eq_renamedTarget hm hi pt]
      cases h : renamedTarget m.post pt with
      | error e => rfl
      | ok r => exact congrArg Except.ok (post_composite hm (isComposite_renamedTarget h))
    | function | record | typedef | other =>
      simp only [resolve, structural, renamed]
      by_cases hc : (c && strip) = true <;> simp [hc, hi _]

theorem child_eq_renamedChild (hm : KeepsComposites m.post) (hi : Idempotent m.post) :
    ∀ o : Option CType, child m o = renamedChild m.post o
  | none => by simp only [child, renamedChild]
  | some t => by simp only [child, renamedChild, resolve_eq_renamed hm hi true t]

theorem target_eq_renamedTarget (hm : KeepsComposites m.post) (hi : Idempotent m.post) :
    ∀ o : Option CType, target m o = renamedTarget m.post o
  | none => by simp only [target, renamedTarget]
  | some p => by
    simp only [target, renamedTarget]
    split
    · exact callback_eq_renamedCallback hm hi p
    · rw [resolve_eq_renamed hm hi true p]

theorem callback_eq_renamedCallback (hm : KeepsComposites m.post) (hi : Idempotent m.post) :
    ∀ p : CType, callback m p = renamedCallback m.post p
  | ⟨_, _, _, _, _, _, rs, args⟩ => by
    simp only [callback, renamedCallback, child_eq_renamedChild hm hi rs,
      parameters_eq_renamedParameters hm hi args]

theorem parameters_eq_renamedParameters (hm : KeepsComposites m.post) (hi : Idempotent m.post) :
    ∀ o : Option (List CType), parameters m o = renamedParameters m.post o
  | none => by simp only [parameters, renamedParameters]
  | some ts => by
    simp only [parameters, renamedParameters, parameterNames_eq_renamedParameterNames hm hi ts]

theorem parameterNames_eq_renamedParameterNames (hm : KeepsComposites m.post) (hi : Idempotent m.post) :
    ∀ ts : List CType, parameterNames m ts = renamedParameterNames m.post ts
  | [] => by simp only [parameterNames, renamedParameterNames]
  | t :: ts => by
    simp only [parameterNames, renamedParameterNames, resolve_eq_renamed hm hi true t,
      parameterNames_eq_renamedParameterNames hm hi ts]

end

end Modes

/-- **The two modes agree up to alias expansion at the leaves.** The default mode names a
descriptor with its leaves as they are, and alias mode names it with every leaf rewritten by the
table, as long as no alias is written like a composite name and the table is settled. -/
theorem resolve_modes_rename_leaves {T : AliasTable} (hT : PlainKeys T) (hS : Settled T)
    (strip : Bool) (t : CType) :
    resolve .plain strip t = renamed id strip t ∧
      resolve (.aliases T) strip t = renamed (Mode.aliases T).post strip t :=
  ⟨resolve_eq_renamed keepsComposites_plain idempotent_plain strip t,
    resolve_eq_renamed (keepsComposites_aliases hT) (idempotent_aliases hT hS) strip t⟩

/-- With `V` an alias of `void` and `size_t` one of `System.UInt64`, both modes name a pointer
to a `const size_t` and one to a `V` by renaming their leaves. -/
theorem void_alias_pointer_renames_leaf :
    PlainKeys ⟨[("V", "void"), ("size_t", "System.UInt64")]⟩ ∧
      Settled ⟨[("V", "void"), ("size_t", "System.UInt64")]⟩ ∧
      (resolve .plain true (CType.pointer <| CType.typedef "size_t" true) =
          renamed id true (CType.pointer <| CType.typedef "size_t" true) ∧
        resolve (.aliases ⟨[("V", "void"), ("size_t", "System.UInt64")]⟩) true
            (CType.pointer <| CType.typedef "V") =
          renamed (Mode.aliases ⟨[("V", "void"), ("size_t", "System.UInt64")]⟩).post true
            (CType.pointer <| CType.typedef "V")) :=
  have hT : PlainKeys ⟨[("V", "void"), ("size_t", "System.UInt64")]⟩ := by decide
  have hS : Settled ⟨[("V", "void"), ("size_t", "System.UInt64")]⟩ := by decide
  ⟨hT, hS, (resolve_modes_rename_leaves hT hS true _).1,
    (resolve_modes_rename_leaves hT hS true _).2⟩

/-- Alias mode is no plain substitution at the default name's leaves. A pointer to `V`, where
`V` is an alias of `void`, is `Pointer<V>` by default, and its leaf written as the table does
gives `Pointer<void>`, but alias mode names it `System.IntPtr`. And where `A` is an alias of `B`
and `B` one of `C`, a table that is not settled, `const A` is `A` by default and its leaf
written as the table does is `B`, but alias mode names it `C`. -/
theorem alias_mode_not_leaf_substitution :
    ((resolve .plain true (CType.pointer <| CType.typedef "V")).map (·.text) = .ok "Pointer<V>" ∧
      (Mode.aliases ⟨[("V", "void")]⟩).post "V" = "void" ∧
      (resolve (.aliases ⟨[("V", "void")]⟩) true (CType.pointer <| CType.typedef "V")).map
        (·.text) ≠ .ok ("Pointer<" ++ (Mode.aliases ⟨[("V", "void")]⟩).post "V" ++ ">")) ∧
    ((resolve .plain true <| CType.typedef "A" true).map (·.text) = .ok "A" ∧
      (Mode.aliases ⟨[("A", "B"), ("B", "C")]⟩).post "A" = "B" ∧
      (resolve (.aliases ⟨[("A", "B"), ("B", "C")]⟩) true <| CType.typedef "A" true).map
        (·.text) ≠ .ok ((Mode.aliases ⟨[("A", "B"), ("B", "C")]⟩).post "A")) := by
  refine ⟨⟨by cbv, by cbv, ?_⟩, ⟨by cbv, by cbv, ?_⟩⟩
  · cbv
    intro h
    have htext : "System.IntPtr" = "Pointer<void>" := Except.ok.inj h
    exact absurd htext (by decide)
  · cbv
    intro h
    have htext : "C" = "B" := Except.ok.inj h
    exact absurd htext (by decide)

end NativeBindings.Managed
