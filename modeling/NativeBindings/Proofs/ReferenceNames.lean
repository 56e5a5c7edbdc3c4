import NativeBindings.Proofs.AnonymousFields
import NativeBindings.Proofs.ParameterNames
import NativeBindings.Proofs.TypedefNaming

/-!
# What the generated file refers to, and what it declares

The generated file declares a struct as `struct N` and an alias as `using N = …`, where `N` is
the struct's or the alias's name escaped for C# (`structLines`, `aliasLine`). A field, a
parameter or a result refers to records and typedefs inside its type, and the question is
whether it writes each of them as the declaration it stands for.

In the default mode it does. `referring ref` is the default-mode name of a descriptor in which
every record or typedef it refers to is written `ref n`, `n` its C name (its spelling without
tag keywords), and the default mode is `referring escape` (`resolve_plain_eq_referring`). A
walk collects a struct under a record's tag or under a typedef's C# name, which escaping keeps
as it is (`escape_escape`), and an alias under a typedef's C# name; so a record or typedef of C
name `n` is declared as `escape n` too, as long as the front end spells a record type with the
tag of its declaration.

An alias value is named in alias mode, with the alias table as the walk had it then: a record
or typedef that it refers to is written as the table's entry for its name when the table has
one (`resolve_aliases_named`). C keeps struct tags apart from typedef names, so a struct `S` and a
`typedef int S;` live side by side, and an alias value that points at the struct names the
`int` instead.

The main statement (`walk_references_name_declarations`) holds for every successful walk: its
structs are named by tags and typedef names of the headers it walked, every type it writes for a
field, a parameter or a result is `referring escape` of a type of those headers, and every alias
is declared under a typedef's C# name, for the alias-mode name of the typedef's type or for the
name an earlier typedef gave the same record. It rests on one invariant, `Walker.Drawn`, that
each visit keeps.
-/

namespace NativeBindings.Managed

/-! ## Escaped names -/

/-- No escaped name is a C# keyword. -/
theorem isKeyword_escape (n : String) : isKeyword (escape n) = false := by
  cases h : isKeyword n
  · rw [escape_of_not_isKeyword h, h]
  · rw [escape_of_isKeyword h, isKeyword_verbatim]

/-- Escaping twice is escaping once. -/
theorem escape_escape (n : String) : escape (escape n) = escape n :=
  escape_of_not_isKeyword (isKeyword_escape n)

/-- Every type of the keyword table is named by a C# keyword. -/
theorem isKeyword_of_mem_keywordTypeTable : ∀ e ∈ keywordTypeTable, isKeyword e.1 = true := by
  decide

/-- A keyword is the only name the keyword table rewrites. -/
theorem keywordType_of_not_isKeyword {n : String} (h : isKeyword n = false) : keywordType n = n := by
  unfold keywordType
  split
  · rename_i e he
    have hkey : e.1 = n := by simpa using List.find?_some he
    have hkw := isKeyword_of_mem_keywordTypeTable e (List.mem_of_find?_eq_some he)
    rw [hkey, h] at hkw
    cases hkw
  · rfl

/-- An escaped name is never a keyword type, so alias mode rewrites it only by the table. -/
theorem keywordType_escape (n : String) : keywordType (escape n) = escape n :=
  keywordType_of_not_isKeyword (isKeyword_escape n)

theorem post_aliases_escape (T : AliasTable) (n : String) :
    (Mode.aliases T).post (escape n) = (T.lookup (escape n)).getD (escape n) := by
  cases h : T.lookup (escape n) with
  | some a => simp [Mode.post, h]
  | none => simp [Mode.post, h, keywordType_escape]

/-- In alias mode an unqualified record or typedef whose C name is `n` is written as the table's
entry for `escape n` when it has one, and as `escape n` otherwise. -/
theorem resolve_aliases_named (T : AliasTable) {t : CType} (ht : t.category.isNamed = true)
    (hc : t.isConst = false) :
    resolve (.aliases T) true t =
      .ok ⟨[], (T.lookup (escape (stripTagKeywords t.spelling))).getD
        (escape (stripTagKeywords t.spelling))⟩ := by
  obtain ⟨cat, sp, c, el, sz, pt, rs, args⟩ := t
  cases hc
  -- only the leaf rule names a record or a typedef
  cases cat with
  | record | typedef =>
    simp [resolve, structural, leafName, Category.isNamed, bind, Except.bind, pure, Except.pure,
      post_aliases_escape]
  | primitive | constantArray | incompleteArray | pointer | function | other => cases ht

/-! ## References -/

mutual

/-- The default-mode name of a descriptor with every record or typedef it refers to written
`ref n`, where `n` is its C name: its spelling without tag keywords. Everything else is named as
the default mode names it; a `const` type by its unqualified copy. -/
def referring (ref : String → String) : CType → Except ResolveError Named
  | ⟨cat, sp, c, el, sz, pt, rs, args⟩ =>
    let t : CType := ⟨cat, sp, c, el, sz, pt, rs, args⟩
    let leaf : Named :=
      if cat.isNamed then ⟨[], ref (stripTagKeywords sp)⟩ else leafName t.unqualified
    match cat with
    | .primitive =>
      match primitiveName? sp with
      | some m => pure ⟨[], m⟩
      | none => pure leaf
    | .constantArray => do
      let e ← referringChild ref el
      pure ⟨e.notices, "ConstArrayOf<" ++ e.text ++ ">"⟩
    | .incompleteArray => do
      let e ← referringChild ref el
      pure ⟨e.notices, "ArrayOf<" ++ e.text ++ ">"⟩
    | .pointer => referringTarget ref pt
    | _ => pure leaf

/-- `referring` of a child that must be present. -/
def referringChild (ref : String → String) : Option CType → Except ResolveError Named
  | none => .error .missingChild
  | some t => referring ref t

/-- `referring` of a pointer with the given pointee. -/
def referringTarget (ref : String → String) : Option CType → Except ResolveError Named
  | none => .error .missingPointee
  | some p =>
    if p.isFunction then referringCallback ref p
    else do
      let r ← referring ref p
      pure ⟨r.notices, pointerName r.text⟩

/-- `referring` of a pointed-to function: its result first, then its parameters. -/
def referringCallback (ref : String → String) : CType → Except ResolveError Named
  | ⟨_, _, _, _, _, _, rs, args⟩ => do
    let r ← referringChild ref rs
    let ps ← referringParameters ref args
    pure ⟨r.notices ++ ps.1, delegateName r.text ps.2⟩

/-- `referring` of a parameter list. -/
def referringParameters (ref : String → String) :
    Option (List CType) → Except ResolveError (List String × List String)
  | none => pure ([], [])
  | some ts => referringList ref ts

/-- `referring` of a list of types, with their notices in order. -/
def referringList (ref : String → String) :
    List CType → Except ResolveError (List String × List String)
  | [] => pure ([], [])
  | t :: ts => do
    let r ← referring ref t
    let rs ← referringList ref ts
    pure (r.notices ++ rs.1, r.text :: rs.2)

end

mutual

/-- **The default mode writes every record or typedef as its escaped C name.** -/
theorem resolve_plain_eq_referring : ∀ t : CType, resolve .plain true t = referring escape t
  | ⟨cat, sp, c, el, sz, pt, rs, args⟩ => by
    cases cat with
    | primitive =>
      simp only [resolve, structural, referring]
      cases primitiveName? sp with
      | some n => rfl
      | none => cases c <;> simp [Category.isNamed, CType.unqualified, Mode.post]
    | constantArray | incompleteArray =>
      simp only [resolve, structural, referring, child_plain_eq_referringChild el]
      cases referringChild escape el <;> rfl
    | pointer =>
      simp only [resolve, structural, referring, target_plain_eq_referringTarget pt]
      cases referringTarget escape pt <;> rfl
    | record | typedef =>
      -- a record or typedef is named by its escaped spelling, without `const`
      simp only [resolve, structural, referring]
      cases c <;> simp [leafName, Category.isNamed, CType.unqualified, Mode.post]
    | function | other =>
      simp only [resolve, structural, referring]
      cases c <;> simp [Category.isNamed, CType.unqualified, Mode.post]

theorem child_plain_eq_referringChild :
    ∀ o : Option CType, child .plain o = referringChild escape o
  | none => by simp only [child, referringChild]
  | some t => by simp only [child, referringChild, resolve_plain_eq_referring t]

theorem target_plain_eq_referringTarget :
    ∀ o : Option CType, target .plain o = referringTarget escape o
  | none => by simp only [target, referringTarget]
  | some p => by
    simp only [target, referringTarget]
    split
    · exact callback_plain_eq_referringCallback p
    · rw [resolve_plain_eq_referring p]

theorem callback_plain_eq_referringCallback :
    ∀ p : CType, callback .plain p = referringCallback escape p
  | ⟨_, _, _, _, _, _, rs, args⟩ => by
    simp only [callback, referringCallback, child_plain_eq_referringChild rs,
      parameters_plain_eq_referringParameters args]

theorem parameters_plain_eq_referringParameters :
    ∀ o : Option (List CType), parameters .plain o = referringParameters escape o
  | none => by simp only [parameters, referringParameters]
  | some ts => by
    simp only [parameters, referringParameters, parameterNames_plain_eq_referringList ts]

theorem parameterNames_plain_eq_referringList :
    ∀ ts : List CType, parameterNames .plain ts = referringList escape ts
  | [] => by simp only [parameterNames, referringList]
  | t :: ts => by
    simp only [parameterNames, referringList, resolve_plain_eq_referring t,
      parameterNames_plain_eq_referringList ts]

end

end NativeBindings.Managed

namespace NativeBindings.Collector

/-- The C# types the generated file writes for fields, parameters and results: those of each
struct's fields, then of each function's result and parameters. -/
def typeNames (c : Collector) : List String :=
  c.structs.flatMap (fun s => s.fields.map (·.type)) ++
    c.functions.flatMap fun f => f.returns :: f.parameters.map (·.type)

end NativeBindings.Collector

namespace NativeBindings.Collection

open Header Managed

variable {w w' : Walker}

/-! ## What walked units give -/

/-- A C# name that a walked unit gives one of its types in the default mode. -/
def NamesType (ds : List Walked) (x : String) : Prop :=
  ∃ d ∈ ds, ∃ ty, typeText d.unit.entities .plain ty = some x

/-- The name of a record of a walked unit. -/
def TagOf (ds : List Walked) (n : String) : Prop :=
  ∃ d ∈ ds, ∃ r, tagSpelling d.unit r = n

/-- The C# name of a typedef of a walked unit. -/
def TypedefOf (ds : List Walked) (n : String) : Prop :=
  ∃ d ∈ ds, ∃ j, typedefName d.unit j = some n

/-- An alias that a typedef of a walked unit declares, in a walk that ends with the table `A`:
under the typedef's C# name, for the alias-mode name of the typedef's type with a table that `A`
extends, or for the name an earlier typedef gave the record it declares. -/
def AliasOf (ds : List Walked) (A : AliasTable) (e : String × String) : Prop :=
  ∃ d ∈ ds, ∃ j, typedefName d.unit j = some e.1 ∧
    ((∃ T : AliasTable, T.entries <+: A.entries ∧
      typeText d.unit.entities (.aliases T) (d.unit.entities.typedef j).underlying.written =
        some e.2) ∨ TypedefOf ds e.2)

section Mono

variable {ds ds' : List Walked} (hds : ∀ d ∈ ds, d ∈ ds')
include hds

theorem NamesType.mono {x : String} (h : NamesType ds x) : NamesType ds' x := by
  obtain ⟨d, hd, rest⟩ := h
  exact ⟨d, hds d hd, rest⟩

theorem TagOf.mono {n : String} (h : TagOf ds n) : TagOf ds' n := by
  obtain ⟨d, hd, rest⟩ := h
  exact ⟨d, hds d hd, rest⟩

theorem TypedefOf.mono {n : String} (h : TypedefOf ds n) : TypedefOf ds' n := by
  obtain ⟨d, hd, rest⟩ := h
  exact ⟨d, hds d hd, rest⟩

theorem AliasOf.mono {A A' : AliasTable} {e : String × String} (hA : A.entries <+: A'.entries)
    (h : AliasOf ds A e) : AliasOf ds' A' e := by
  obtain ⟨d, hd, j, hkey, hval⟩ := h
  refine ⟨d, hds d hd, j, hkey, ?_⟩
  rcases hval with ⟨T, hT, htext⟩ | hval
  · exact .inl ⟨T, hT.trans hA, htext⟩
  · exact .inr (hval.mono hds)

end Mono

/-- A C# name that naming a type gives in the default mode writes every record or typedef the
type refers to as its escaped C name. -/
theorem referring_of_typeText {e : Entities} {ty : Ty} {x : String}
    (h : typeText e .plain ty = some x) :
    ∃ t, e.describe ty = .ok t ∧ (referring escape t).map (·.text) = .ok x := by
  unfold typeText at h
  split at h
  · rename_i t ht
    split at h
    · rename_i r hr
      cases h
      refine ⟨t, ht, ?_⟩
      rw [← resolve_plain_eq_referring, hr]
      rfl
    · cases h
  · cases h

/-! ## Names in the ledger -/

/-- The name a mark gives: a record's is one of `R`, a typedef's one of `N`. -/
def Mark.NamedFrom (R N : String → Prop) : Mark → Prop
  | .record s => R s.name
  | .unnamed _ => True
  | .naming _ n => N n

namespace Ledger

/-- Every collected struct is named by one of `R` or of `N`, and every name given to a place is
one of `N`. -/
def NamedFrom (R N : String → Prop) (L : Ledger) : Prop :=
  (∀ s ∈ L.structs, R s.name ∨ N s.name) ∧ ∀ p ∈ L.named, N p.2

variable {R N : String → Prop} {L : Ledger}

theorem NamedFrom.add (hL : L.NamedFrom R N) {s : Struct} (hs : R s.name ∨ N s.name) :
    (L.add s).NamedFrom R N := by
  refine ⟨fun x hx => ?_, hL.2⟩
  rcases Ledger.mem_addStruct hx with hx | rfl
  · exact hL.1 x hx
  · exact hs

/-- A mark whose name is drawn from `R` and `N` keeps every name of the ledger so. -/
theorem NamedFrom.apply (hL : L.NamedFrom R N) {m : Mark} (hm : m.NamedFrom R N) :
    (L.apply m).NamedFrom R N := by
  cases m with
  | record s =>
    simp only [Ledger.apply]
    split
    · exact hL
    · exact hL.add (.inl hm)
  | unnamed s =>
    simp only [Ledger.apply]
    split <;> exact hL
  | naming l n =>
    have hn : N n := hm
    simp only [Ledger.apply]
    split
    · -- the waiting record is collected under the typedef's name, which the place keeps
      apply NamedFrom.add
      · refine ⟨hL.1, fun p hp => ?_⟩
        rcases List.mem_append.1 hp with hp | hp
        · exact hL.2 p (List.mem_of_mem_filter hp)
        · rw [List.mem_singleton.1 hp]
          exact hn
      · exact .inr hn
    · exact hL

theorem NamedFrom.foldl {ms : List Mark} (hL : L.NamedFrom R N)
    (hm : ∀ m ∈ ms, m.NamedFrom R N) : (ms.foldl Ledger.apply L).NamedFrom R N := by
  induction ms generalizing L with
  | nil => exact hL
  | cons m ms ih =>
    exact ih (hL.apply (hm m List.mem_cons_self)) fun m' h => hm m' (List.mem_cons_of_mem _ h)

/-- Fields keep every name. -/
theorem NamedFrom.appendFields (hL : L.NamedFrom R N) (t : Target) (F : List Variable) :
    (L.appendFields t F).NamedFrom R N := by
  cases t with
  | collected l =>
    refine ⟨fun s hs => ?_, hL.2⟩
    obtain ⟨s₀, hs₀, rfl⟩ := List.mem_map.1 hs
    rw [grow_name]
    exact hL.1 s₀ hs₀
  | pending l => exact hL
  | detached => exact hL

end Ledger

/-! ## The invariant -/

/-- Everything a walker holds is drawn from the walked units `ds`: it is sound; its structs are
named by tags and typedef names of `ds`, and so are the names it gave to places; the results and
parameters of its functions are typed by names that `ds` gives its types; and each of its aliases
is one that a typedef of `ds` declares. -/
structure Walker.Drawn (ds : List Walked) (w : Walker) : Prop where
  sound : w.Sound
  named : w.ledger.NamedFrom (TagOf ds) (TypedefOf ds)
  functions : ∀ f ∈ w.collected.declarations.functions,
    NamesType ds f.returns ∧ ∀ v ∈ f.parameters, NamesType ds v.type
  aliases : ∀ e ∈ w.collected.aliases.entries, AliasOf ds w.collected.aliases e

theorem Walker.Drawn.mono {ds ds' : List Walked} (hds : ∀ d ∈ ds, d ∈ ds')
    (hw : w.Drawn ds) : w.Drawn ds' where
  sound := hw.sound
  named := ⟨fun s hs => (hw.named.1 s hs).imp (TagOf.mono hds) (TypedefOf.mono hds),
    fun p hp => (hw.named.2 p hp).mono hds⟩
  functions f hf := ⟨(hw.functions f hf).1.mono hds, fun v hv => ((hw.functions f hf).2 v hv).mono hds⟩
  aliases e he := (hw.aliases e he).mono hds (List.prefix_refl _)

/-- A fresh walker holds nothing. -/
theorem Walker.drawn_start (roots : List Files.Path) : Walker.Drawn [] { roots } where
  sound := ⟨Collector.inv_empty, by simp⟩
  named := ⟨by simp [Walker.ledger, Collector.structs], by simp [Walker.ledger]⟩
  functions := by simp [Collector.functions]
  aliases := by simp

/-- Visits of records and fields leave the functions and the aliases as they are. -/
theorem respectsRecords_functions_aliases : RespectsRecords fun w w' =>
    w'.collected.declarations.functions = w.collected.declarations.functions ∧
      w'.collected.aliases = w.collected.aliases where
  refl _ := ⟨rfl, rfl⟩
  trans h₁ h₂ := ⟨h₂.1.trans h₁.1, h₂.2.trans h₁.2⟩
  addStruct _ _ := ⟨Collector.functions_addStruct _ _, rfl⟩
  addFieldAt _ l name type := ⟨Collector.functions_addFieldAt l name type, rfl⟩
  waiting _ _ _ := ⟨rfl, rfl⟩
  warnings _ _ := ⟨rfl, rfl⟩

/-- Visits of typedefs leave the functions as they are. -/
theorem respects_functions : Respects fun w w' =>
    w'.collected.declarations.functions = w.collected.declarations.functions where
  refl _ := rfl
  trans h₁ h₂ := h₂.trans h₁
  addStruct _ _ := Collector.functions_addStruct _ _
  addFieldAt _ l name type := Collector.functions_addFieldAt l name type
  waiting _ _ _ := rfl
  warnings _ _ := rfl
  aliases _ _ := rfl

theorem Walker.Drawn.of_frame {ds : List Walked} (hw : w.Drawn ds) (hs : w'.Sound)
    (hl : w'.ledger.NamedFrom (TagOf ds) (TypedefOf ds))
    (hfun : w'.collected.declarations.functions = w.collected.declarations.functions)
    (hal : w'.collected.aliases = w.collected.aliases) : w'.Drawn ds where
  sound := hs
  named := hl
  functions f hf := hw.functions f (hfun ▸ hf)
  aliases := by
    rw [hal]
    exact hw.aliases

/-! ## Steps -/

/-- Visits of fields decide nothing about the collected structs. -/
theorem Visit.marksIn_fields (fs : List Variable) : Visit.marksIn (fs.map Visit.field) = [] := by
  induction fs with
  | nil => rfl
  | cons f fs ih => simp [Visit.marks, ih]

theorem Visit.allApart_fields (fs : List Variable) : Visit.AllApart (fs.map Visit.field) := by
  induction fs with
  | nil => simp
  | cons f fs ih => simp [Visit.Apart, ih]

section Steps

variable {ds : List Walked} {u : Parsed}

theorem visitAggregate_drawn (hu : ∃ d ∈ ds, d.unit = u) {t : Nat} {pos : Position} {isDef : Bool}
    {parent : Option Builder} {b : Builder}
    (h : (visitAggregate u t pos isDef parent).run w = .ok (b, w')) (hw : w.Drawn ds) :
    w'.Drawn ds := by
  obtain ⟨hs', hl, -⟩ := visitAggregate_opens h [] hw.sound
  have hl' : w'.ledger =
      (recordVisit u t pos isDef parent.isNone []).head.foldl Ledger.apply w.ledger := by
    simpa [Visit.fieldsIn] using hl
  obtain ⟨hfun, hal⟩ := visitAggregate_respects respectsRecords_functions_aliases h
  refine hw.of_frame hs' ?_ hfun hal
  rw [hl']
  refine hw.named.foldl fun m hm => ?_
  -- the record's own mark names it by its tag
  obtain ⟨d, hd, rfl⟩ := hu
  unfold recordVisit at hm
  split at hm
  · split at hm
    · simp only [Visit.head, List.mem_singleton] at hm
      subst hm
      trivial
    · simp [Visit.head] at hm
  · simp only [Visit.head, List.mem_singleton] at hm
    subst hm
    exact ⟨d, hd, t, rfl⟩

theorem visitField_drawn {agg : Option Builder} {name : String} {ty : Ty} {x : Unit}
    (h : (visitField u agg name ty).run w = .ok (x, w')) (hw : w.Drawn ds) : w'.Drawn ds := by
  obtain ⟨hfun, hal⟩ := visitField_respects respectsRecords_functions_aliases h
  -- the visit adds fields at most, which carry no name
  have hvs : ∃ fs : List Variable, (if agg.isNone then [] else
      (fieldOf u name ty).toList.map Visit.field) = fs.map Visit.field := by
    split
    · exact ⟨[], rfl⟩
    · exact ⟨_, rfl⟩
  obtain ⟨fs, hfs⟩ := hvs
  have hmoves := visitField_moves h
  rw [hfs] at hmoves
  obtain ⟨hs', hl⟩ := hmoves hw.sound
  refine hw.of_frame hs' ?_ hfun hal
  rw [hl (Visit.allApart_fields fs) (by simp [Visit.marksIn_fields]), Visit.marksIn_fields]
  exact hw.named.appendFields _ _

theorem visitFunction_drawn (hu : ∃ d ∈ ds, d.unit = u) {name : String} {pos : Position}
    {ty : Ty} {params : List Nat} {x : Unit}
    (h : (visitFunction u name pos ty params).run w = .ok (x, w')) (hw : w.Drawn ds) :
    w'.Drawn ds := by
  obtain ⟨f', hfs, -, -, hret, hparams⟩ := visitFunction_parameters h
  obtain ⟨f, ws, -, -, rfl⟩ := visitFunction_adds h
  -- both lemmas speak of the one function appended
  have hf : f' = f := by
    rw [Collector.functions_addFunction] at hfs
    exact (List.singleton_inj.1 (List.append_cancel_left hfs)).symm
  subst hf
  obtain ⟨d, hd, rfl⟩ := hu
  refine ⟨⟨hw.sound.inv.addFunction f', hw.sound.unnamed_location⟩, ?_, fun g hg => ?_, hw.aliases⟩
  · simpa [Walker.ledger] using hw.named
  · rw [Collector.functions_addFunction, List.mem_append, List.mem_singleton] at hg
    rcases hg with hg | rfl
    · exact hw.functions g hg
    · obtain ⟨ret, hret⟩ := hret
      refine ⟨⟨d, hd, ret, hret⟩, fun v hv => ?_⟩
      obtain ⟨p, -, hp⟩ := hparams v hv
      exact ⟨d, hd, _, hp⟩

/-- Naming a record without a name declares an alias at most, of a name given to its place. -/
theorem nameUnnamed_aliases {loc : Location} {name : String} {x : Unit}
    (h : (nameUnnamed loc name).run w = .ok (x, w')) :
    w'.collected.aliases = w.collected.aliases ∨ ∃ first, (loc, first) ∈ w.names ∧
      w'.collected.aliases = (w.collected.aliases.insert name first).2 := by
  unfold nameUnnamed at h
  obtain ⟨_, _, h₁, h⟩ := run_bind_eq_ok.1 h
  cases h₁
  split at h
  · -- the waiting record is collected: no alias
    obtain ⟨_, w₁, h₁, h⟩ := run_bind_eq_ok.1 h
    cases h₁
    obtain ⟨_, w₂, h₂, h⟩ := run_bind_eq_ok.1 h
    obtain ⟨-, rfl⟩ := run_pure_eq_ok.1 h
    exact .inl (addStruct_respects respectsRecords_functions_aliases h₂).2
  · split at h
    · rename_i k first hfind
      split at h
      · cases h
        have hk : k = loc := by simpa using List.find?_some hfind
        subst hk
        exact .inr ⟨first, List.mem_of_find?_eq_some hfind, rfl⟩
      · obtain ⟨-, rfl⟩ := run_pure_eq_ok.1 h
        exact .inl rfl
    · obtain ⟨-, rfl⟩ := run_pure_eq_ok.1 h
      exact .inl rfl

/-- What a typedef's visit does to the aliases: nothing, or it adds one under the typedef's C#
name, for the alias-mode name of the typedef's type with the table as it stood, or for a name
given to a place. -/
theorem visitTypedef_aliases {j : Nat} {x : Unit} (h : (visitTypedef u j).run w = .ok (x, w')) :
    w'.collected.aliases = w.collected.aliases ∨ ∃ k v, typedefName u j = some k ∧
      w'.collected.aliases = (w.collected.aliases.insert k v).2 ∧
      (typeText u.entities (.aliases w.collected.aliases) (u.entities.typedef j).underlying.written =
          some v ∨ ∃ l, (l, v) ∈ w.names) := by
  unfold visitTypedef at h
  obtain ⟨declared, w₁, h₁, h⟩ := run_bind_eq_ok.1 h
  have hname : typedefName u j = some declared := typeText_of_run_nameType h₁
  obtain ⟨ws₁, rfl⟩ := run_nameType_eq_ok h₁
  -- declaring the alias of the typedef's type, unless it is known or names itself
  have hjp : ∀ w₃ (y : Unit), (do
      let x ← get
      if x.collected.aliases.contains declared = true then pure ()
      else do
        let actual ← nameType u.entities (Managed.Mode.aliases x.collected.aliases)
          (u.entities.typedef j).underlying.written
        if (actual == declared) = true then pure () else addAlias declared actual :
        WalkM Unit).run { w with warnings := ws₁ } = .ok (y, w₃) →
      w₃.collected.aliases = w.collected.aliases ∨ ∃ k v, typedefName u j = some k ∧
        w₃.collected.aliases = (w.collected.aliases.insert k v).2 ∧
        (typeText u.entities (.aliases w.collected.aliases)
          (u.entities.typedef j).underlying.written = some v ∨ ∃ l, (l, v) ∈ w.names) := by
    intro w₃ y h
    obtain ⟨_, _, h₂, h⟩ := run_bind_eq_ok.1 h
    cases h₂
    split at h
    · obtain ⟨-, rfl⟩ := run_pure_eq_ok.1 h
      exact .inl rfl
    · obtain ⟨actual, w₄, h₄, h⟩ := run_bind_eq_ok.1 h
      have hactual := typeText_of_run_nameType h₄
      obtain ⟨ws₄, rfl⟩ := run_nameType_eq_ok h₄
      split at h
      · obtain ⟨-, rfl⟩ := run_pure_eq_ok.1 h
        exact .inl rfl
      · cases h
        exact .inr ⟨declared, actual, hname, rfl, .inl hactual⟩
  dsimp only at h
  split at h
  · split at h
    · -- the typedef names the record without a name that it declares
      obtain ⟨_, w₂, h₂, h⟩ := run_bind_eq_ok.1 h
      obtain ⟨-, rfl⟩ := run_pure_eq_ok.1 h
      rcases nameUnnamed_aliases h₂ with hal | ⟨first, hfirst, hal⟩
      · exact .inl hal
      · exact .inr ⟨declared, first, hname, hal, .inr ⟨_, hfirst⟩⟩
    · exact hjp _ _ h
  · exact hjp _ _ h

theorem visitTypedef_drawn (hu : ∃ d ∈ ds, d.unit = u) {j : Nat} {x : Unit}
    (h : (visitTypedef u j).run w = .ok (x, w')) (hw : w.Drawn ds) : w'.Drawn ds := by
  obtain ⟨d, hd, rfl⟩ := hu
  obtain ⟨hs', hl⟩ := visitTypedef_moves .detached h hw.sound
  -- the ledger moves by the naming of the record the typedef declares, if any
  have hnamed : w'.ledger.NamedFrom (TagOf ds) (TypedefOf ds) := by
    rcases typedefVisits_naming d.unit j with hv | ⟨l, n, hn, hv⟩ <;> rw [hv] at hl
    · rw [hl (by simp) (by simp)]
      simpa [Visit.fieldsIn] using hw.named
    · rw [hl (by simp [Visit.Apart]) (fun _ _ => trivial)]
      simpa [Visit.marks, Visit.fieldsIn, Visit.field?, Ledger.appendFields] using
        hw.named.apply (show Mark.NamedFrom (TagOf ds) (TypedefOf ds) (.naming l n) from
          ⟨d, hd, j, hn⟩)
  have hfun := visitTypedef_respects respects_functions h
  refine ⟨hs', hnamed, fun f hf => hw.functions f (hfun ▸ hf), ?_⟩
  rcases visitTypedef_aliases h with hal | ⟨k, v, hk, hal, hv⟩
  · rw [hal]
    exact hw.aliases
  · -- the table grows by at most the typedef's own entry
    have hpre : w.collected.aliases.entries <+: w'.collected.aliases.entries := by
      rw [hal]
      exact AliasTable.entries_prefix_insert _ _ _
    intro e he
    rw [hal] at he
    rcases AliasTable.mem_entries_insert he with he | rfl
    · exact (hw.aliases e he).mono (fun _ h => h) (hal ▸ hpre)
    · refine ⟨d, hd, j, hk, ?_⟩
      rcases hv with hv | ⟨l, hlv⟩
      · exact .inl ⟨w.collected.aliases, hal ▸ hpre, hv⟩
      · exact .inr (hw.named.2 (l, v) hlv)

/-- **Walking a declaration of a walked unit keeps what the walker holds drawn from the walked
units.** -/
theorem walkDecl_drawn (hu : ∃ d ∈ ds, d.unit = u) (owner : String) :
    ∀ (depth : Nat) (agg : Option Builder) (i : Nat) (w w' : Walker) (x : Unit),
    (walkDecl u owner depth agg i).run w = .ok (x, w') → w.Drawn ds → w'.Drawn ds :=
  walkDecl_rel (fun _ => id) (fun h₁ h₂ hw => h₂ (h₁ hw)) u owner
    (fun _ _ _ _ h => visitTypedef_drawn hu h)
    (fun _ _ _ _ _ _ _ h => visitAggregate_drawn hu h)
    (fun _ _ _ _ _ _ _ h => visitFunction_drawn hu h)
    (fun _ _ _ _ _ _ _ _ _ h => visitField_drawn h)

end Steps

theorem carried_drawn : Carried Walker.Drawn where
  decl hP h := walkDecl_drawn ⟨_, List.mem_append_right _ (List.mem_singleton_self _), rfl⟩ _ _
    _ _ _ _ _ h (hP.mono fun _ hd => List.mem_append_left _ hd)
  visited _ hP := ⟨⟨hP.sound.inv, hP.sound.unnamed_location⟩, hP.named, hP.functions, hP.aliases⟩
  warnings _ hP := ⟨⟨hP.sound.inv, hP.sound.unnamed_location⟩, hP.named, hP.functions, hP.aliases⟩

/-- Every type a walk writes for a field, a parameter or a result is a default-mode name that a
walked unit gives one of its types. -/
theorem typeNames_namesType {fe : Header.Frontend} {tree : Files.Tree} {config : Config}
    {sources : List String} {c : Collected} {ws : List String}
    (h : walk fe tree config sources = .ok (c, ws)) :
    ∃ V ds, ExpandsAll ⟨fe, tree, config⟩ (searchRoots tree config sources) []
        (sources.map tree.resolve) V ds ∧ (∀ x ∈ c.declarations.typeNames, NamesType ds x) ∧
      ∀ s ∈ c.declarations.structs, TagOf ds s.name ∨ TypedefOf ds s.name := by
  obtain ⟨w, V, ds, rfl, he, hD⟩ := walk_carries carried_drawn Walker.drawn_start h
  obtain ⟨w₂, V₂, ds₂, hw₂, he₂, -, hF⟩ := walk_carries carried_fieldsFrom
    (fun _ => ⟨⟨Collector.inv_empty, by simp⟩,
      by simp [Walker.ledger, Ledger.FieldsFrom, Collector.structs]⟩) h
  obtain ⟨rfl, rfl⟩ := ExpandsAll.det he he₂
  refine ⟨V, ds, he, fun x hx => ?_, hD.named.1⟩
  simp only [Collector.typeNames, List.mem_append, List.mem_flatMap, List.mem_map,
    List.mem_cons] at hx
  rcases hx with ⟨s, hs, f, hf, rfl⟩ | ⟨g, hg, rfl | ⟨v, hv, rfl⟩⟩
  · -- a field of a struct: a field declaration of a walked unit gives it
    obtain ⟨d, hd, i, pos, t, -, hfield⟩ := hF.1 s (by simpa [Walker.ledger, hw₂] using hs) f hf
    obtain ⟨-, base, -, -, htext⟩ := fieldOf_eq_some hfield
    exact ⟨d, hd, t, htext⟩
  · exact (hD.functions g hg).1
  · exact (hD.functions g hg).2 v hv

/-- **What a walk refers to is written as what it declares.** For every successful walk there is
the expansion `ds` of its sources, and:

* every struct it collects is named by the tag of a record, or by the C# name of a typedef, of a
  unit of `ds`, and the generated file declares it under that name escaped;
* every type it writes for a field, a parameter or a result is the default-mode name of a type
  of a unit of `ds` in which every record or typedef it refers to is written as its escaped C
  name, the name its struct or alias is declared under;
* every alias is declared under the C# name of a typedef of `ds`, for the alias-mode name of the
  typedef's type with a table that the final one extends, which writes a record or typedef
  through that table (`resolve_aliases_named`), or for the name an earlier typedef gave the
  record it declares. -/
theorem walk_references_name_declarations {fe : Header.Frontend} {tree : Files.Tree}
    {config : Config} {sources : List String} {c : Collected} {ws : List String}
    (h : walk fe tree config sources = .ok (c, ws)) :
    ∃ V ds, ExpandsAll ⟨fe, tree, config⟩ (searchRoots tree config sources) []
        (sources.map tree.resolve) V ds ∧
      (∀ s ∈ c.declarations.structs, TagOf ds s.name ∨ TypedefOf ds s.name) ∧
      (∀ x ∈ c.declarations.typeNames, ∃ d ∈ ds, ∃ ty t, d.unit.entities.describe ty = .ok t ∧
        (referring escape t).map (·.text) = .ok x) ∧
      ∀ e ∈ c.aliases.entries, AliasOf ds c.aliases e := by
  obtain ⟨V, ds, he, htypes, hstructs⟩ := typeNames_namesType h
  obtain ⟨w, V₂, ds₂, hw, he₂, hD⟩ := walk_carries carried_drawn Walker.drawn_start h
  obtain ⟨rfl, rfl⟩ := ExpandsAll.det he he₂
  refine ⟨V, ds, he, hstructs, fun x hx => ?_, hw ▸ hD.aliases⟩
  obtain ⟨d, hd, ty, htext⟩ := htypes x hx
  obtain ⟨t, ht, href⟩ := referring_of_typeText htext
  exact ⟨d, hd, ty, t, ht, href⟩

/-! ## A struct tag that is also a typedef name -/

namespace ShadowedTag

/-- The struct `S` of `/m.h`, with its member `a`. -/
def tagS : TagDef where
  kind := .struct
  name := some "S"
  pos := ⟨"/m.h", 1, 8, 7⟩
  freeStanding := true
  complete := true
  members := [⟨"a", .int, none, 0, false⟩]
  definition := some 0

/-- `struct S` as written. -/
def structS : Ty := .elaborated {} (some .struct) (.tag {} 0) ""

/-- The function `get`, of type `struct S (void)`. -/
def getType : Ty := .function structS [] false true

/-- `/m.h` as a unit: `struct S { int a; };`, then `typedef int S;`, `typedef struct S T;` and
`struct S get(void);`. -/
def unit : Parsed where
  entities := { tags := #[tagS], typedefs := #[⟨"S", .int, some ⟨"/m.h", 2, 13, 33⟩, 0, ""⟩,
    ⟨"T", structS, some ⟨"/m.h", 3, 18, 53⟩, 0, ""⟩] }
  decls := #[.tag 0 ⟨"/m.h", 1, 8, 7⟩ (some 1) true [1], .field "a" ⟨"/m.h", 1, 16, 15⟩ .int,
    .typedef 0 ⟨"/m.h", 2, 13, 33⟩ {}, .typedef 1 ⟨"/m.h", 3, 18, 53⟩ {},
    .param "" ⟨"/m.h", 4, 14, 68⟩ (.builtin {} .void) {}, .function "get" ⟨"/m.h", 4, 10, 64⟩ getType [] {}]
  top := [0, 2, 3, 5]
  inclusions := []
  errors := []

def path : Files.Path := ⟨["m.h"]⟩

def tree : Files.Tree where
  files := [(path,
    "struct S \x7b int a; \x7d;\ntypedef int S;\ntypedef struct S T;\nstruct S get(void);\n")]

def frontend : Frontend := .ofUnits [(path, unit)]

def setup : Setup := ⟨frontend, tree, {}⟩

def locS : Location := ⟨some "/m.h", 1, 8⟩

/-- What the walk of `m.h` collects: the struct `S`, the function `get` that returns it, and the
aliases of `S` and `T`. The result of `get` is written `S`, as the struct is declared; the value
of `T` is the struct too, but the table writes its tag as the `int` that the typedef `S` names. -/
def collected : Collected where
  aliases := ⟨[("S", "System.Int32"), ("T", "System.Int32")]⟩
  declarations := ⟨[.struct ⟨"S", locS, [⟨"a", "int"⟩], false, true⟩,
    .function ⟨"get", ⟨some "/m.h", 4, 10⟩, "S", []⟩], [locS]⟩

def walker : Walker where
  collected := collected
  visited := [path]
  roots := [Files.Path.root]

theorem walkFile_run :
    (walkFile setup 3 path).run { roots := [Files.Path.root] } = .ok ((), walker) := by
  cbv

theorem walk_eq : walk frontend tree {} ["m.h"] = .ok (collected, []) := by
  rw [walk_singleton]
  have hroots : [tree.resolve "m.h"].foldl
      (fun rs p => if rs.contains p.parent then rs else rs ++ [p.parent])
      (([] : List String).map tree.resolve) = [Files.Path.root] := by decide +kernel
  have hpath : tree.resolve "m.h" = path := by decide +kernel
  rw [hroots, hpath]
  exact congrArg _ walkFile_run

end ShadowedTag

/-- The walk of `m.h`, where the tag `S` of a struct is also the name of `typedef int S;`: the
struct is declared under `S`, the function `get` returns it, and the typedef `T` names it. -/
theorem shadowed_tag_references_declarations :
    walk ShadowedTag.frontend ShadowedTag.tree {} ["m.h"] = .ok (ShadowedTag.collected, []) ∧
      ∃ V ds, ExpandsAll ⟨ShadowedTag.frontend, ShadowedTag.tree, {}⟩
          (searchRoots ShadowedTag.tree {} ["m.h"]) [] (["m.h"].map ShadowedTag.tree.resolve) V ds ∧
        (∀ s ∈ ShadowedTag.collected.declarations.structs, TagOf ds s.name ∨ TypedefOf ds s.name) ∧
        (∀ x ∈ ShadowedTag.collected.declarations.typeNames, ∃ d ∈ ds, ∃ ty t,
          d.unit.entities.describe ty = .ok t ∧ (referring escape t).map (·.text) = .ok x) ∧
        ∀ e ∈ ShadowedTag.collected.aliases.entries, AliasOf ds ShadowedTag.collected.aliases e :=
  ⟨ShadowedTag.walk_eq, walk_references_name_declarations ShadowedTag.walk_eq⟩

end NativeBindings.Collection
