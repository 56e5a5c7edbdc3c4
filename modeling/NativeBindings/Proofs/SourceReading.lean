import NativeBindings.Proofs.SourceText
import NativeBindings.Proofs.EmittedNames
import NativeBindings.Header.Lexer

/-!
# The generated file can be read back

The generated C# file is a faithful record of the run: a reader that goes through it line by
line recovers the alias table in order, every struct in collection order with its C# name, its
kind, the line and column of its location and its fields in order, the name of the class, and
every function in order with its name, location, library, return type and parameters
(`readSource_source`). So writing the file never loses, repeats, merges or reorders a
declaration.

This holds when the names are names and the types are types: every name is spelled with the
characters of C identifiers or is a C# keyword behind `@`, and every type expression is one
line whose brackets balance and whose commas stand inside brackets (`Writable`). Names then
hold no blank, so a line is cut at its blanks where a name ends; types may hold blanks, so a
field or parameter is cut at its last blank. A parameter list is cut at its commas of level
zero, and the parameter list of an extern declaration is found as its last parenthesis opened at
level zero.

The reader (`readSource`) is a fold over the lines, a small machine that knows where in the file
it stands (`Phase`). Each part of the file is read by one lemma: the header, an alias, a struct
with its fields, a function, and the class around the functions.
-/

namespace NativeBindings.Managed.Reading

/-! ## What the file shows -/

/-- A field or parameter as the file writes it: its name escaped for C#. -/
def escapedVar (v : Variable) : Variable := ⟨escape v.name, v.type⟩

/-- A struct as the file shows it: its C# name, whether it is a union, the line and column of
its location, and its fields. -/
structure StructView where
  name : String
  isUnion : Bool
  line : Int
  column : Int
  fields : List Variable
deriving DecidableEq, Repr

/-- An extern function as the file shows it. -/
structure FunctionView where
  name : String
  line : Int
  column : Int
  library : Option String
  returns : String
  parameters : List Variable
deriving DecidableEq, Repr

/-- What the file shows of a run: the aliases with their C# names, the structs, the class name
and the functions, each list in file order. -/
structure SourceView where
  aliases : List (String × String) := []
  structs : List StructView := []
  className : String := ""
  functions : List FunctionView := []
deriving DecidableEq, Repr

/-- The view of a collected struct. -/
def StructView.of (s : Struct) : StructView :=
  ⟨escape s.name, s.isUnion, s.location.line, s.location.column, s.fields.map escapedVar⟩

/-- The view of a collected function, under the configured library. -/
def FunctionView.of (library : Option String) (f : Function) : FunctionView :=
  ⟨f.name, f.location.line, f.location.column, library, f.returns, f.parameters.map escapedVar⟩

/-- The view of a whole run: what the file should show. -/
def SourceView.of (config : Config) (aliases : AliasTable) (decls : Collector) : SourceView :=
  ⟨aliases.entries.map (fun e => (escape e.1, e.2)), decls.structs.map StructView.of,
    config.className, decls.functions.map (FunctionView.of config.libraryName)⟩

/-! ## Reading one line -/

/-- Reads `line:L, column:C`. -/
def readLocation (l : List Char) : Option (Int × Int) := do
  let r ← l.dropPrefix? "line:".toList
  let (a, b) ← cut ',' r
  let b ← b.dropPrefix? " column:".toList
  pure (readInt a, readInt b)

/-- Reads `using A = T;`: the alias and its type. -/
def readAlias (l : List Char) : Option (String × String) := do
  let r ← l.dropPrefix? "using ".toList
  let (a, v) ← cut ' ' r
  let v ← v.dropPrefix? "= ".toList
  let v ← v.dropSuffix? [';']
  pure (String.ofList a, String.ofList v)

/-- Reads the layout attribute of a struct: whether it is a union. -/
def readLayout (l : List Char) : Option Bool :=
  if l = "[StructLayout (LayoutKind.Explicit)]".toList then some true
  else if l = "[StructLayout (LayoutKind.Sequential)]".toList then some false
  else none

/-- Reads `struct N //line:L, column:C`. -/
def readStructHead (l : List Char) : Option (String × Int × Int) := do
  let r ← l.dropPrefix? "struct ".toList
  let (n, r) ← cut ' ' r
  let r ← r.dropPrefix? "//".toList
  let (ln, col) ← readLocation r
  pure (String.ofList n, ln, col)

/-- Reads a type followed by a name, which is the last word. -/
def readTyped (l : List Char) : Option Variable :=
  (cutLast ' ' l).map fun (t, n) => ⟨String.ofList n, String.ofList t⟩

/-- The attribute in front of every field of a union. -/
def offsetText (isUnion : Bool) : String := if isUnion then "[FieldOffset (0)] " else ""

/-- Reads a field line of a struct or union. -/
def readField (isUnion : Bool) (l : List Char) : Option Variable := do
  let r ← l.dropPrefix? ("\t" ++ offsetText isUnion ++ "public ").toList
  let r ← r.dropSuffix? [';']
  readTyped r

/-- Reads `class N`. -/
def readClass (l : List Char) : Option String :=
  (l.dropPrefix? "class ".toList).map String.ofList

/-- Reads the comment in front of a function: its name and location. -/
def readComment (l : List Char) : Option (String × Int × Int) := do
  let r ← l.dropPrefix? "\t// function ".toList
  let (n, r) ← cut ' ' r
  let (ln, col) ← readLocation r
  pure (String.ofList n, ln, col)

/-- Reads the `[DllImport]` attribute of a function: its library. -/
def readLibrary (l : List Char) : Option String := do
  let r ← l.dropPrefix? "\t[DllImport (\"".toList
  let r ← r.dropSuffix? "\")]".toList
  pure (String.ofList r)

/-- Reads a parameter list: its pieces of level zero, each after the first behind a blank. -/
def readParameters (l : List Char) : Option (List Variable) :=
  if l = [] then some []
  else
    match splitTop 0 l with
    | [] => none
    | p :: ps => do
      let v ← readTyped p
      let vs ← ps.mapM fun q => q.dropPrefix? [' '] >>= readTyped
      pure (v :: vs)

/-- Reads an extern declaration: its return type and its parameters. -/
def readExtern (l : List Char) : Option (String × List Variable) := do
  let r ← l.dropPrefix? "\tinternal static extern ".toList
  let r ← r.dropSuffix? [')', ';']
  let (front, params) ← splitLastOpen 0 r
  let front ← front.dropSuffix? [' ']
  let (ret, _) ← cutLast ' ' front
  let ps ← readParameters params
  pure (String.ofList ret, ps)

/-! ## Reading the file -/

/-- Where the reader stands in the file. -/
inductive Phase where
  | start
  | interop
  | aliases
  | structs
  | structHead (isUnion : Bool)
  | structOpen (s : StructView)
  | fields (s : StructView)
  | structEnd
  | classOpen
  | functions
  | comment (name : String) (line column : Int)
  | imported (name : String) (line column : Int) (library : String)
  | functionEnd
  | done

/-- What the reader has read, and where it stands. -/
structure Reader where
  view : SourceView
  phase : Phase

/-- Reads one line. -/
def feed (r : Reader) (l : List Char) : Option Reader :=
  match r.phase with
  | .start => if l = "using System;".toList then some ⟨r.view, .interop⟩ else none
  | .interop =>
    if l = "using System.Runtime.InteropServices;".toList then some ⟨r.view, .aliases⟩ else none
  | .aliases =>
    if l = [] then some ⟨r.view, .structs⟩
    else (readAlias l).map fun a => ⟨{ r.view with aliases := r.view.aliases ++ [a] }, .aliases⟩
  | .structs =>
    match readLayout l with
    | some u => some ⟨r.view, .structHead u⟩
    | none => (readClass l).map fun n => ⟨{ r.view with className := n }, .classOpen⟩
  | .structHead u =>
    (readStructHead l).map fun (n, ln, col) => ⟨r.view, .structOpen ⟨n, u, ln, col, []⟩⟩
  | .structOpen s => if l = ['{'] then some ⟨r.view, .fields s⟩ else none
  | .fields s =>
    if l = ['}'] then some ⟨{ r.view with structs := r.view.structs ++ [s] }, .structEnd⟩
    else (readField s.isUnion l).map fun v => ⟨r.view, .fields { s with fields := s.fields ++ [v] }⟩
  | .structEnd => if l = [] then some ⟨r.view, .structs⟩ else none
  | .classOpen => if l = ['{'] then some ⟨r.view, .functions⟩ else none
  | .functions =>
    if l = ['}'] then some ⟨r.view, .done⟩
    else (readComment l).map fun (n, ln, col) => ⟨r.view, .comment n ln col⟩
  | .comment n ln col =>
    match readLibrary l with
    | some lib => some ⟨r.view, .imported n ln col lib⟩
    | none =>
      (readExtern l).map fun (ret, ps) =>
        ⟨{ r.view with functions := r.view.functions ++ [⟨n, ln, col, none, ret, ps⟩] }, .functionEnd⟩
  | .imported n ln col lib =>
    (readExtern l).map fun (ret, ps) =>
      ⟨{ r.view with functions := r.view.functions ++ [⟨n, ln, col, some lib, ret, ps⟩] }, .functionEnd⟩
  | .functionEnd => if l = [] then some ⟨r.view, .functions⟩ else none
  | .done => some r

/-- Reads a generated file: the lines up to the end of the class; what follows is not read. -/
def readSource (text : String) : Option SourceView :=
  match (lines text.toList).foldlM feed ⟨{}, .start⟩ with
  | some ⟨v, .done⟩ => some v
  | _ => none

/-! ## Names and types the file can carry -/

/-- A name the file can carry: spelled with the characters of C identifiers (ASCII letters and
digits, `_`, `$`, and the characters outside ASCII), or a C# keyword behind the verbatim prefix
`@`. -/
def IsName (n : String) : Prop :=
  (∀ c ∈ n.toList, Header.isAsciiIdentifierChar c = true ∨ 0x80 ≤ c.toNat) ∨
    ∃ k, isKeyword k = true ∧ n = "@" ++ k

/-- A type expression the file can carry: one line, whose brackets balance with every comma
inside a pair of them. -/
def IsTypeText (t : String) : Prop := '\n' ∉ t.toList ∧ Bracketed t.toList

instance : DecidablePred IsTypeText := fun t =>
  inferInstanceAs (Decidable ('\n' ∉ t.toList ∧ Bracketed t.toList))

/-- Text that holds none of the characters the reader cuts at: no blank, line feed, comma or
bracket. -/
def Plain (l : List Char) : Prop := ∀ c ∈ l, c ≠ ' ' ∧ c ≠ '\n' ∧ c ≠ ',' ∧ IsFlat c

/-- A character of a name: an identifier character, or the verbatim prefix. -/
def NameChar (c : Char) : Prop :=
  Header.isAsciiIdentifierChar c = true ∨ 0x80 ≤ c.toNat ∨ c = '@'

theorem nameChar_plain {c : Char} (hc : NameChar c) :
    c ≠ ' ' ∧ c ≠ '\n' ∧ c ≠ ',' ∧ IsFlat c := by
  -- taken apart by hand: with Mathlib, a bound over a list of characters is decided over all of them
  have hcut : ∀ x ∈ [' ', '\n', ',', '(', '<', ')', '>'], ¬ NameChar x := by
    simp only [List.forall_mem_cons, List.not_mem_nil, false_implies, implies_true, and_true,
      NameChar]
    decide
  refine ⟨?_, ?_, ?_, ?_, ?_, ?_, ?_⟩ <;> rintro rfl <;> exact hcut _ (by simp) hc

theorem nameChars_escape {n : String} (h : IsName n) :
    (∀ c ∈ n.toList, NameChar c) ∧ ∀ c ∈ (escape n).toList, NameChar c := by
  have hkw : ∀ k ∈ keywords, k.toList.all Header.isAsciiIdentifierChar = true := by decide
  rcases h with hid | ⟨k, hk, rfl⟩
  · have hn : ∀ c ∈ n.toList, NameChar c := fun c hc => (hid c hc).elim Or.inl (Or.inr ∘ Or.inl)
    refine ⟨hn, ?_⟩
    unfold escape
    split
    · intro c hc
      rcases (by simpa [String.toList_append] using hc : c = '@' ∨ c ∈ n.toList) with hc | hc
      · exact Or.inr (Or.inr hc)
      · exact hn c hc
    · exact hn
  · -- a keyword behind `@` is written as it is
    have hmem : k ∈ keywords := by simpa [isKeyword] using hk
    have hk' : ∀ c ∈ ("@" ++ k).toList, NameChar c := by
      intro c hc
      rcases (by simpa [String.toList_append] using hc : c = '@' ∨ c ∈ k.toList) with hc | hc
      · exact Or.inr (Or.inr hc)
      · exact Or.inl (List.all_eq_true.1 (hkw k hmem) c hc)
    exact ⟨hk', by rw [escape_verbatim]; exact hk'⟩

/-- A name checked character by character. -/
theorem isName_of_all {n : String}
    (h : n.toList.all (fun c => Header.isAsciiIdentifierChar c || 0x80 ≤ c.toNat) = true) :
    IsName n :=
  Or.inl fun c hc => by simpa using List.all_eq_true.1 h c hc

/-- A name, and its C# spelling, hold no character the reader cuts at. -/
theorem plain_of_isName {n : String} (h : IsName n) : Plain n.toList ∧ Plain (escape n).toList :=
  ⟨fun c hc => nameChar_plain ((nameChars_escape h).1 c hc),
    fun c hc => nameChar_plain ((nameChars_escape h).2 c hc)⟩

theorem Plain.blank {l : List Char} (h : Plain l) : ' ' ∉ l := fun hc => (h ' ' hc).1 rfl

theorem Plain.lineFeed {l : List Char} (h : Plain l) : '\n' ∉ l := fun hc => (h '\n' hc).2.1 rfl

/-- A plain text after a blank keeps every level and holds no comma. -/
theorem Plain.nestLevel {l : List Char} (h : Plain l) {d : Int} (hd : 0 ≤ d) :
    nestLevel d (' ' :: l) = some d := by
  refine nestLevel_of_isFlat (fun c hc => ?_) hd
  rcases List.mem_cons.1 hc with rfl | hc
  · exact ⟨by decide, by decide⟩
  · exact ⟨(h c hc).2.2.2, (h c hc).2.2.1⟩

/-! ## Numbers and locations -/

/-- The text of a location, as the file writes it. -/
theorem render_toList (l : Location) :
    l.render.toList = "line:".toList ++ (toString l.line).toList ++ ',' ::
      (" column:".toList ++ (toString l.column).toList) := by
  simp [Location.render, String.toList_append]

theorem comma_not_mem_toString (i : Int) : ',' ∉ (toString i).toList := by
  intro h
  rcases toString_int_chars i ',' h with h | h <;> simp at h

theorem readLocation_render (l : Location) : readLocation l.render.toList = some (l.line, l.column) := by
  rw [render_toList]
  simp only [readLocation, List.append_assoc, dropPrefix?_append, Option.bind_eq_bind, Option.bind_some,
    cut_append (comma_not_mem_toString l.line), Option.pure_def, readInt_toString]

/-! ## Reading each kind of line -/

theorem readAlias_text {a v : List Char} (ha : ' ' ∉ a) :
    readAlias ("using ".toList ++ a ++ ' ' :: ("= ".toList ++ v ++ [';'])) =
      some (String.ofList a, String.ofList v) := by
  simp only [readAlias, List.append_assoc, dropPrefix?_append, Option.bind_eq_bind,
    Option.bind_some, cut_append ha, dropSuffix?_append, Option.pure_def]

theorem readStructHead_text {n : List Char} (hn : ' ' ∉ n) (l : Location) :
    readStructHead ("struct ".toList ++ n ++ ' ' :: ("//".toList ++ l.render.toList)) =
      some (String.ofList n, l.line, l.column) := by
  simp only [readStructHead, List.append_assoc, dropPrefix?_append, Option.bind_eq_bind,
    Option.bind_some, cut_append hn, readLocation_render, Option.pure_def]

theorem readTyped_text {t n : List Char} (hn : ' ' ∉ n) :
    readTyped (t ++ ' ' :: n) = some ⟨String.ofList n, String.ofList t⟩ := by
  simp [readTyped, cutLast_append hn]

theorem readField_text (u : Bool) {t n : List Char} (hn : ' ' ∉ n) :
    readField u (("\t" ++ offsetText u ++ "public ").toList ++ (t ++ ' ' :: n) ++ [';']) =
      some ⟨String.ofList n, String.ofList t⟩ := by
  simp only [readField, List.append_assoc, dropPrefix?_append, Option.bind_eq_bind,
    Option.bind_some]
  rw [← List.append_assoc, dropSuffix?_append, Option.bind_some, readTyped_text hn]

theorem readComment_text {n : List Char} (hn : ' ' ∉ n) (l : Location) :
    readComment ("\t// function ".toList ++ n ++ ' ' :: l.render.toList) =
      some (String.ofList n, l.line, l.column) := by
  simp only [readComment, List.append_assoc, dropPrefix?_append, Option.bind_eq_bind,
    Option.bind_some, cut_append hn, readLocation_render, Option.pure_def]

theorem readLibrary_text (lib : List Char) :
    readLibrary ("\t[DllImport (\"".toList ++ lib ++ "\")]".toList) = some (String.ofList lib) := by
  simp only [readLibrary, List.append_assoc, dropPrefix?_append, Option.bind_eq_bind,
    Option.bind_some, dropSuffix?_append, Option.pure_def]

/-- A parameter as the file writes it: its type, a blank and its C# name. -/
def paramChars (p : Variable) : List Char := p.type.toList ++ ' ' :: (escape p.name).toList

theorem bracketed_paramChars {p : Variable} (hn : IsName p.name) (ht : IsTypeText p.type) :
    Bracketed (paramChars p) := by
  unfold Bracketed paramChars
  rw [nestLevel_append, ht.2]
  exact (plain_of_isName hn).2.nestLevel (Int.le_refl 0)

theorem parameterList_toList (ps : List Variable) :
    (parameterList ps).toList = [',', ' '].intercalate (ps.map paramChars) := by
  rw [parameterList, String.toList_intercalate, List.map_map]
  simp only [Function.comp_def, String.toList_append, List.append_assoc]
  rfl

theorem readTyped_paramChars {p : Variable} (hn : IsName p.name) :
    readTyped (paramChars p) = some (escapedVar p) := by
  rw [paramChars, readTyped_text (plain_of_isName hn).2.blank]
  simp [escapedVar]

/-- The parameters after the first, each behind the blank of its separator. -/
theorem mapM_readTyped {ps : List Variable} (hps : ∀ p ∈ ps, IsName p.name) :
    List.mapM (fun q => (q.dropPrefix? [' ']).bind readTyped) ((ps.map paramChars).map (' ' :: ·)) =
      some (ps.map escapedVar) := by
  induction ps with
  | nil => rfl
  | cons p ps ih =>
    have hq : ((' ' :: paramChars p).dropPrefix? [' ']).bind readTyped = some (escapedVar p) := by
      rw [show ' ' :: paramChars p = [' '] ++ paramChars p from rfl, dropPrefix?_append]
      exact readTyped_paramChars (hps p List.mem_cons_self)
    rw [List.map_cons, List.map_cons, List.mapM_cons, hq,
      ih fun q hq' => hps q (List.mem_cons_of_mem p hq')]
    rfl

/-- **A parameter list is read back parameter by parameter.** -/
theorem readParameters_parameterList {ps : List Variable}
    (hps : ∀ p ∈ ps, IsName p.name ∧ IsTypeText p.type) :
    readParameters (parameterList ps).toList = some (ps.map escapedVar) := by
  rw [parameterList_toList]
  cases ps with
  | nil => rfl
  | cons p ps =>
    have hp := hps p List.mem_cons_self
    have hrest : ∀ q ∈ ps, IsName q.name ∧ IsTypeText q.type :=
      fun q hq => hps q (List.mem_cons_of_mem p hq)
    have hxs : ∀ y ∈ ps.map paramChars, Bracketed y := by
      intro y hy
      obtain ⟨q, hq, rfl⟩ := List.mem_map.1 hy
      exact bracketed_paramChars (hrest q hq).1 (hrest q hq).2
    have hsplit := splitTop_intercalate (bracketed_paramChars hp.1 hp.2) hxs
    have hne : [',', ' '].intercalate (paramChars p :: ps.map paramChars) ≠ [] := by
      cases ps <;> simp [paramChars, List.intercalate_cons_cons]
    rw [List.map_cons, readParameters, if_neg hne, hsplit]
    simp only [Option.bind_eq_bind, readTyped_paramChars hp.1, Option.bind_some,
      mapM_readTyped fun q hq => (hrest q hq).1, Option.pure_def, List.map_cons]

theorem level_append (d : Int) (x y : List Char) : level d (x ++ y) = level (level d x) y := by
  simp [level, List.foldl_append]

/-- **An extern declaration is read back**: its return type, and its parameters. -/
theorem readExtern_text {r n : List Char} (hr : Bracketed r) (hn : Plain n) {ps : List Variable}
    (hps : ∀ p ∈ ps, IsName p.name ∧ IsTypeText p.type) :
    readExtern ("\tinternal static extern ".toList ++
        (r ++ ' ' :: (n ++ ' ' :: '(' :: (parameterList ps).toList)) ++ [')', ';']) =
      some (String.ofList r, ps.map escapedVar) := by
  -- the text before the parameter list is of level zero: the type balances, the name is flat
  have hflat : ∀ c ∈ ' ' :: (n ++ [' ']), IsFlat c := by
    intro c hc
    rcases List.mem_cons.1 hc with rfl | hc
    · decide
    rcases List.mem_append.1 hc with hc | hc
    · exact (hn c hc).2.2.2
    · rw [List.mem_singleton.1 hc]
      decide
  have hfront : level 0 (r ++ ' ' :: (n ++ [' '])) = 0 := by
    rw [level_append, level_of_nestLevel hr, level_of_isFlat hflat]
  have hparams : StaysNonneg 0 (parameterList ps).toList := by
    rw [parameterList_toList]
    refine staysNonneg_intercalate fun x hx => ?_
    obtain ⟨p, hp, rfl⟩ := List.mem_map.1 hx
    exact bracketed_paramChars (hps p hp).1 (hps p hp).2
  have hsplit := splitLastOpen_params hfront hparams
  simp only [List.append_assoc, List.cons_append, List.nil_append] at hsplit
  unfold readExtern
  simp only [List.append_assoc, dropPrefix?_append, Option.bind_eq_bind, Option.bind_some]
  rw [← List.append_assoc, dropSuffix?_append, Option.bind_some, hsplit, Option.bind_some,
    show r ++ ' ' :: (n ++ [' ']) = (r ++ ' ' :: n) ++ [' '] by simp, dropSuffix?_append,
    Option.bind_some, cutLast_append hn.blank, Option.bind_some,
    readParameters_parameterList hps, Option.bind_some, Option.pure_def]

/-! ## One step of the reader

Each lemma is one move of `feed`: the phase it reads in, what it asks of the line, and where it
goes. The lines of the file meet these conditions by the lemmas of the previous section. -/

theorem feed_aliases_alias {v : SourceView} {l : List Char} (hl : l ≠ []) {a : String × String}
    (h : readAlias l = some a) :
    feed ⟨v, .aliases⟩ l = some ⟨{ v with aliases := v.aliases ++ [a] }, .aliases⟩ := by
  simp [feed, hl, h]

theorem feed_structHead {v : SourceView} {u : Bool} {l : List Char} {n : String} {ln col : Int}
    (h : readStructHead l = some (n, ln, col)) :
    feed ⟨v, .structHead u⟩ l = some ⟨v, .structOpen ⟨n, u, ln, col, []⟩⟩ := by
  simp [feed, h]

theorem feed_fields_field {v : SourceView} {s : StructView} {l : List Char} (hl : l ≠ ['}'])
    {x : Variable} (h : readField s.isUnion l = some x) :
    feed ⟨v, .fields s⟩ l = some ⟨v, .fields { s with fields := s.fields ++ [x] }⟩ := by
  simp [feed, hl, h]

theorem feed_structs_class {v : SourceView} {l : List Char} (h : readLayout l = none) {n : String}
    (h' : readClass l = some n) :
    feed ⟨v, .structs⟩ l = some ⟨{ v with className := n }, .classOpen⟩ := by
  simp [feed, h, h']

theorem feed_functions_comment {v : SourceView} {l : List Char} (hl : l ≠ ['}'])
    {n : String} {ln col : Int} (h : readComment l = some (n, ln, col)) :
    feed ⟨v, .functions⟩ l = some ⟨v, .comment n ln col⟩ := by
  simp [feed, hl, h]

theorem feed_comment_import {v : SourceView} {n : String} {ln col : Int} {l : List Char}
    {lib : String} (h : readLibrary l = some lib) :
    feed ⟨v, .comment n ln col⟩ l = some ⟨v, .imported n ln col lib⟩ := by
  simp [feed, h]

theorem feed_comment_declaration {v : SourceView} {n : String} {ln col : Int} {l : List Char}
    (h : readLibrary l = none) {ret : String} {ps : List Variable}
    (h' : readExtern l = some (ret, ps)) :
    feed ⟨v, .comment n ln col⟩ l =
      some ⟨{ v with functions := v.functions ++ [⟨n, ln, col, none, ret, ps⟩] }, .functionEnd⟩ := by
  simp [feed, h, h']

theorem feed_imported_declaration {v : SourceView} {n : String} {ln col : Int} {lib : String}
    {l : List Char} {ret : String} {ps : List Variable} (h : readExtern l = some (ret, ps)) :
    feed ⟨v, .imported n ln col lib⟩ l =
      some ⟨{ v with functions := v.functions ++ [⟨n, ln, col, some lib, ret, ps⟩] }, .functionEnd⟩ := by
  simp [feed, h]

/-- Once the class is closed, every further line is passed over. -/
theorem foldlM_feed_done (v : SourceView) (ls : List (List Char)) :
    ls.foldlM feed ⟨v, .done⟩ = some ⟨v, .done⟩ := by
  induction ls with
  | nil => rfl
  | cons l ls ih => exact ih

/-! ## Runs of lines -/

/-- The lines `ls`, none of which holds a line feed, take the reader from `r` to `r'`. -/
def Reads (r : Reader) (ls : List String) (r' : Reader) : Prop :=
  (∀ l ∈ ls, '\n' ∉ l.toList) ∧ (ls.map String.toList).foldlM feed r = some r'

theorem Reads.nil (r : Reader) : Reads r [] r := ⟨by simp, rfl⟩

theorem Reads.cons {r r' r'' : Reader} {l : String} {ls : List String} (hl : '\n' ∉ l.toList)
    (hf : feed r l.toList = some r') (h : Reads r' ls r'') : Reads r (l :: ls) r'' := by
  refine ⟨?_, ?_⟩
  · intro x hx
    rcases List.mem_cons.1 hx with rfl | hx
    exacts [hl, h.1 x hx]
  · rw [List.map_cons, List.foldlM_cons, hf]
    exact h.2

theorem Reads.append {r r' r'' : Reader} {xs ys : List String} (hx : Reads r xs r')
    (hy : Reads r' ys r'') : Reads r (xs ++ ys) r'' := by
  refine ⟨?_, ?_⟩
  · intro l hl
    rcases List.mem_append.1 hl with hl | hl
    exacts [hx.1 l hl, hy.1 l hl]
  · rw [List.map_append, List.foldlM_append, hx.2]
    exact hy.2

/-! ## Each part of the file -/

/-- A line that ends with a non-empty text is indented by a tab. -/
theorem indent_append (l : String) {s : String} (hs : s ≠ "") :
    indent (l ++ s) = "\t" ++ (l ++ s) := by
  rw [indent, if_neg]
  rw [String.isEmpty_iff, String.append_eq_empty_iff]
  exact fun h => hs h.2

theorem lineFeed_not_mem_render (l : Location) : '\n' ∉ l.render.toList := by
  have hint : ∀ i : Int, '\n' ∉ (toString i).toList := fun i h => by
    rcases toString_int_chars i '\n' h with h | h <;> simp at h
  rw [render_toList]
  simp only [List.mem_append, List.mem_cons, hint, not_or, or_false]
  decide

theorem render_ne_empty (l : Location) : l.render ≠ "" := by
  rw [ne_eq, ← String.toList_inj, render_toList]
  simp

theorem reads_header (v : SourceView) : Reads ⟨v, .start⟩ header ⟨v, .aliases⟩ :=
  .cons (by decide) rfl (.cons (by decide) rfl (.nil _))

theorem aliasLine_toList (k a : String) :
    (aliasLine k a).toList =
      "using ".toList ++ (escape k).toList ++ ' ' :: ("= ".toList ++ a.toList ++ [';']) := by
  simp only [aliasLine, String.toList_append, List.append_assoc]
  rfl

/-- **The alias lines are read back in table order.** -/
theorem reads_aliasLines (v : SourceView) {es : List (String × String)}
    (hes : ∀ e ∈ es, IsName e.1 ∧ IsTypeText e.2) :
    Reads ⟨v, .aliases⟩ (es.map fun e => aliasLine e.1 e.2)
      ⟨{ v with aliases := v.aliases ++ es.map fun e => (escape e.1, e.2) }, .aliases⟩ := by
  induction es generalizing v with
  | nil => simpa using Reads.nil _
  | cons e es ih =>
    obtain ⟨hk, ha⟩ := hes e List.mem_cons_self
    have hl : '\n' ∉ (aliasLine e.1 e.2).toList := by
      simp [aliasLine_toList, (plain_of_isName hk).2.lineFeed, ha.1]
    have hread : readAlias (aliasLine e.1 e.2).toList = some (escape e.1, e.2) := by
      rw [aliasLine_toList, readAlias_text (plain_of_isName hk).2.blank, String.ofList_toList,
        String.ofList_toList]
    have hrest := ih { v with aliases := v.aliases ++ [(escape e.1, e.2)] }
      fun e' he' => hes e' (List.mem_cons_of_mem e he')
    exact .cons hl (feed_aliases_alias (by simp [aliasLine_toList]) hread) (by simpa using hrest)

theorem fieldLine_toList (u : Bool) (f : Variable) :
    (indent (offsetText u ++ "public " ++ f.type ++ " " ++ escape f.name ++ ";")).toList =
      ("\t" ++ offsetText u ++ "public ").toList ++ (f.type.toList ++ ' ' :: (escape f.name).toList) ++
        [';'] := by
  rw [indent_append _ (by decide)]
  simp only [String.toList_append, List.append_assoc]
  rfl

/-- The field lines of a struct are read back in order. -/
theorem reads_fieldLines (v : SourceView) (sv : StructView) {fs : List Variable}
    (hfs : ∀ f ∈ fs, IsName f.name ∧ IsTypeText f.type) :
    Reads ⟨v, .fields sv⟩
      (fs.map fun f => indent (offsetText sv.isUnion ++ "public " ++ f.type ++ " " ++ escape f.name ++ ";"))
      ⟨v, .fields { sv with fields := sv.fields ++ fs.map escapedVar }⟩ := by
  induction fs generalizing sv with
  | nil => simpa using Reads.nil _
  | cons f fs ih =>
    obtain ⟨hn, ht⟩ := hfs f List.mem_cons_self
    have hl : '\n' ∉ (indent (offsetText sv.isUnion ++ "public " ++ f.type ++ " " ++
        escape f.name ++ ";")).toList := by
      rw [fieldLine_toList]
      cases sv.isUnion <;> simp [offsetText, (plain_of_isName hn).2.lineFeed, ht.1]
    have hread : readField sv.isUnion (indent (offsetText sv.isUnion ++ "public " ++ f.type ++ " " ++
        escape f.name ++ ";")).toList = some (escapedVar f) := by
      rw [fieldLine_toList, readField_text _ (plain_of_isName hn).2.blank, String.ofList_toList,
        String.ofList_toList]
      rfl
    have hrest := ih { sv with fields := sv.fields ++ [escapedVar f] }
      fun f' hf' => hfs f' (List.mem_cons_of_mem f hf')
    exact .cons hl (feed_fields_field (by simp [fieldLine_toList]) hread) (by simpa using hrest)

theorem structHead_toList (n : String) (l : Location) :
    ("struct " ++ n ++ " //" ++ l.render).toList =
      "struct ".toList ++ n.toList ++ ' ' :: ("//".toList ++ l.render.toList) := by
  simp only [String.toList_append, List.append_assoc]
  rfl

/-- **A struct is read back**: its kind from the layout line, its name and location from the
head line, and its fields. -/
theorem reads_structLines (v : SourceView) {s : Struct}
    (hs : IsName s.name ∧ ∀ f ∈ s.fields, IsName f.name ∧ IsTypeText f.type) :
    Reads ⟨v, .structs⟩ (structLines s ++ [""])
      ⟨{ v with structs := v.structs ++ [StructView.of s] }, .structs⟩ := by
  obtain ⟨hn, hfs⟩ := hs
  have hplain := (plain_of_isName hn).2
  have hlayout : '\n' ∉ ("[StructLayout (LayoutKind." ++
      (if s.isUnion then "Explicit" else "Sequential") ++ ")]").toList := by
    cases s.isUnion <;> simp
  have hfeedLayout : feed ⟨v, .structs⟩ ("[StructLayout (LayoutKind." ++
      (if s.isUnion then "Explicit" else "Sequential") ++ ")]").toList =
      some ⟨v, .structHead s.isUnion⟩ := by
    cases s.isUnion <;> rfl
  have hhead : '\n' ∉ ("struct " ++ escape s.name ++ " //" ++ s.location.render).toList := by
    simp [hplain.lineFeed, lineFeed_not_mem_render]
  have hreadHead : readStructHead ("struct " ++ escape s.name ++ " //" ++ s.location.render).toList =
      some (escape s.name, s.location.line, s.location.column) := by
    rw [structHead_toList, readStructHead_text hplain.blank, String.ofList_toList]
  have hfields := reads_fieldLines v
    ⟨escape s.name, s.isUnion, s.location.line, s.location.column, []⟩ hfs
  -- the field lines are indented one by one; the struct closes with a brace and an empty line
  simp only [structLines, block, List.map_map, List.cons_append, List.nil_append,
    List.append_assoc]
  exact .cons hlayout hfeedLayout <| .cons hhead (feed_structHead hreadHead) <|
    .cons (by decide) rfl <| hfields.append <| .cons (by decide) rfl <| .cons (by decide) rfl <|
    .nil _

/-- The structs are read back in collection order. -/
theorem reads_structs (v : SourceView) {ss : List Struct}
    (hss : ∀ s ∈ ss, IsName s.name ∧ ∀ f ∈ s.fields, IsName f.name ∧ IsTypeText f.type) :
    Reads ⟨v, .structs⟩ (ss.flatMap fun s => structLines s ++ [""])
      ⟨{ v with structs := v.structs ++ ss.map StructView.of }, .structs⟩ := by
  induction ss generalizing v with
  | nil => simpa using Reads.nil _
  | cons s ss ih =>
    have hrest := ih { v with structs := v.structs ++ [StructView.of s] }
      fun t ht => hss t (List.mem_cons_of_mem s ht)
    rw [List.flatMap_cons]
    exact (reads_structLines v (hss s List.mem_cons_self)).append (by simpa using hrest)

theorem lineFeed_not_mem_parameterList {ps : List Variable}
    (hps : ∀ p ∈ ps, IsName p.name ∧ IsTypeText p.type) : '\n' ∉ (parameterList ps).toList := by
  rw [parameterList_toList]
  refine not_mem_intercalate (by decide) fun x hx => ?_
  obtain ⟨p, hp, rfl⟩ := List.mem_map.1 hx
  simp [paramChars, (hps p hp).2.1, (plain_of_isName (hps p hp).1).2.lineFeed]

theorem commentLine_toList (n : String) (l : Location) :
    (indent ("// function " ++ n ++ " " ++ l.render)).toList =
      "\t// function ".toList ++ n.toList ++ ' ' :: l.render.toList := by
  rw [indent_append _ (render_ne_empty l)]
  simp [String.toList_append]

theorem importLine_toList (lib : String) :
    (indent ("[DllImport (\"" ++ lib ++ "\")]")).toList =
      "\t[DllImport (\"".toList ++ lib.toList ++ "\")]".toList := by
  rw [indent_append _ (by decide)]
  simp [String.toList_append]

theorem externLine_toList (r n : String) (ps : List Variable) :
    (indent ("internal static extern " ++ r ++ " " ++ n ++ " (" ++ parameterList ps ++ ");")).toList =
      "\tinternal static extern ".toList ++
        (r.toList ++ ' ' :: (n.toList ++ ' ' :: '(' :: (parameterList ps).toList)) ++ [')', ';'] := by
  rw [indent_append _ (by decide)]
  simp [String.toList_append]

/-- No library is read off an extern declaration. -/
theorem readLibrary_declaration (l : List Char) :
    readLibrary ("\tinternal static extern ".toList ++ l) = none := rfl

/-- **A function is read back**: its name and location from the comment, its library from the
attribute when there is one, and its return type and parameters from the declaration. -/
theorem reads_functionLines (v : SourceView) {lib : Option String}
    (hlib : ∀ s, lib = some s → '\n' ∉ s.toList) {f : Function}
    (hf : IsName f.name ∧ IsTypeText f.returns ∧
      ∀ p ∈ f.parameters, IsName p.name ∧ IsTypeText p.type) :
    Reads ⟨v, .functions⟩ ((functionLines lib f ++ [""]).map indent)
      ⟨{ v with functions := v.functions ++ [FunctionView.of lib f] }, .functions⟩ := by
  obtain ⟨hn, hr, hps⟩ := hf
  have hname := plain_of_isName hn
  have hcomment : '\n' ∉ (indent ("// function " ++ f.name ++ " " ++ f.location.render)).toList := by
    simp [commentLine_toList, hname.1.lineFeed, lineFeed_not_mem_render]
  have hreadComment :
      readComment (indent ("// function " ++ f.name ++ " " ++ f.location.render)).toList =
        some (f.name, f.location.line, f.location.column) := by
    rw [commentLine_toList, readComment_text hname.1.blank, String.ofList_toList]
  have hfeedComment : feed ⟨v, .functions⟩ _ = _ :=
    feed_functions_comment (by simp [commentLine_toList]) hreadComment
  have hextern : '\n' ∉ (indent ("internal static extern " ++ f.returns ++ " " ++ escape f.name ++
      " (" ++ parameterList f.parameters ++ ");")).toList := by
    simp [externLine_toList, hr.1, hname.2.lineFeed, lineFeed_not_mem_parameterList hps]
  have hread : readExtern (indent ("internal static extern " ++ f.returns ++ " " ++ escape f.name ++
      " (" ++ parameterList f.parameters ++ ");")).toList =
      some (f.returns, f.parameters.map escapedVar) := by
    rw [externLine_toList, readExtern_text hr.2 hname.2 hps, String.ofList_toList]
  -- the attribute line is there exactly when a library is configured
  cases lib with
  | none =>
    have hnone : readLibrary (indent ("internal static extern " ++ f.returns ++ " " ++
        escape f.name ++ " (" ++ parameterList f.parameters ++ ");")).toList = none := by
      rw [externLine_toList, List.append_assoc, readLibrary_declaration]
    exact .cons hcomment hfeedComment <| .cons hextern (feed_comment_declaration hnone hread) <|
      .cons (by decide) rfl <| .nil _
  | some s =>
    have himport : '\n' ∉ (indent ("[DllImport (\"" ++ s ++ "\")]")).toList := by
      simp [importLine_toList, hlib s rfl]
    have hlibrary : readLibrary (indent ("[DllImport (\"" ++ s ++ "\")]")).toList = some s := by
      rw [importLine_toList, readLibrary_text, String.ofList_toList]
    exact .cons hcomment hfeedComment <| .cons himport (feed_comment_import hlibrary) <|
      .cons hextern (feed_imported_declaration hread) <| .cons (by decide) rfl <| .nil _

/-- The functions are read back in collection order. -/
theorem reads_functions (v : SourceView) {lib : Option String}
    (hlib : ∀ s, lib = some s → '\n' ∉ s.toList) {fs : List Function}
    (hfs : ∀ f ∈ fs, IsName f.name ∧ IsTypeText f.returns ∧
      ∀ p ∈ f.parameters, IsName p.name ∧ IsTypeText p.type) :
    Reads ⟨v, .functions⟩ ((fs.flatMap fun f => functionLines lib f ++ [""]).map indent)
      ⟨{ v with functions := v.functions ++ fs.map (FunctionView.of lib) }, .functions⟩ := by
  induction fs generalizing v with
  | nil => simpa using Reads.nil _
  | cons f fs ih =>
    have hrest := ih { v with functions := v.functions ++ [FunctionView.of lib f] }
      fun g hg => hfs g (List.mem_cons_of_mem f hg)
    rw [List.flatMap_cons, List.map_append]
    exact (reads_functionLines v hlib (hfs f List.mem_cons_self)).append (by simpa using hrest)

theorem readLayout_class (c : String) : readLayout ("class " ++ c).toList = none := by
  simp [readLayout, String.toList_append]

theorem readClass_class (c : String) : readClass ("class " ++ c).toList = some c := by
  rw [readClass, String.toList_append, dropPrefix?_append, Option.map_some, String.ofList_toList]

/-- The class is read back: its name, its functions, and its closing brace, after which the
reader is done. -/
theorem reads_classBlock (v : SourceView) {c : String} (hc : '\n' ∉ c.toList)
    {lib : Option String} (hlib : ∀ s, lib = some s → '\n' ∉ s.toList) {fs : List Function}
    (hfs : ∀ f ∈ fs, IsName f.name ∧ IsTypeText f.returns ∧
      ∀ p ∈ f.parameters, IsName p.name ∧ IsTypeText p.type) :
    Reads ⟨v, .structs⟩ (block ("class " ++ c) (fs.flatMap fun f => functionLines lib f ++ [""]))
      ⟨{ v with className := c, functions := v.functions ++ fs.map (FunctionView.of lib) },
        .done⟩ := by
  have hclass : '\n' ∉ ("class " ++ c).toList := by simp [hc]
  exact .cons hclass (feed_structs_class (readLayout_class c) (readClass_class c)) <|
    .cons (by decide) rfl <| (reads_functions _ hlib hfs).append <| .cons (by decide) rfl <| .nil _

/-! ## The round trip -/

/-- A run whose file can be read back: every name is a name, every type a type, and the class
and library names are single lines. -/
structure Writable (config : Config) (aliases : AliasTable) (decls : Collector) : Prop where
  aliases : ∀ e ∈ aliases.entries, IsName e.1 ∧ IsTypeText e.2
  structs : ∀ s ∈ decls.structs, IsName s.name ∧ ∀ f ∈ s.fields, IsName f.name ∧ IsTypeText f.type
  functions : ∀ f ∈ decls.functions, IsName f.name ∧ IsTypeText f.returns ∧
    ∀ p ∈ f.parameters, IsName p.name ∧ IsTypeText p.type
  className : '\n' ∉ config.className.toList
  library : ∀ s, config.libraryName = some s → '\n' ∉ s.toList

/-- The lines the reader goes through: the file up to the end of the class. -/
def readLines (config : Config) (aliases : AliasTable) (decls : Collector) : List String :=
  header ++ aliases.entries.map (fun e => aliasLine e.1 e.2) ++ [""] ++
  (decls.structs.flatMap fun s => structLines s ++ [""]) ++
  block ("class " ++ config.className)
    (decls.functions.flatMap fun f => functionLines config.libraryName f ++ [""])

theorem sourceLines_eq (config : Config) (aliases : AliasTable) (decls : Collector) :
    sourceLines config aliases decls = readLines config aliases decls ++ ["", footer] := rfl

theorem reads_readLines {config : Config} {aliases : AliasTable} {decls : Collector}
    (h : Writable config aliases decls) :
    Reads ⟨{}, .start⟩ (readLines config aliases decls)
      ⟨SourceView.of config aliases decls, .done⟩ :=
  (reads_header {}).append (reads_aliasLines {} h.aliases) |>.append (.cons (by decide) rfl (.nil _))
    |>.append (reads_structs _ h.structs)
    |>.append (reads_classBlock _ h.className h.library h.functions)

/-- **The generated file can be read back.** When every name is a name and every type a type,
reading the file line by line recovers the aliases in table order, the structs in collection
order with their C# names, kinds, locations and fields, the class name, and the functions in
collection order with their names, locations, library, return types and parameters. -/
theorem readSource_source {config : Config} {aliases : AliasTable} {decls : Collector}
    (h : Writable config aliases decls) :
    readSource (source config aliases decls) = some (SourceView.of config aliases decls) := by
  obtain ⟨hlf, hfold⟩ := reads_readLines h
  -- the file is the lines read, each ended by a line feed, then an empty line and the wrappers
  have htext : (source config aliases decls).toList =
      ((readLines config aliases decls).map String.toList).flatMap (· ++ ['\n']) ++
        ('\n' :: footer.toList ++ ['\n']) := by
    rw [source, String.toList_append, String.toList_intercalate, sourceLines_eq, List.map_append,
      intercalate_append_flatMap _ _ (by simp)]
    simp
  have hlines : ∀ l ∈ (readLines config aliases decls).map String.toList, '\n' ∉ l := by
    intro l hl
    obtain ⟨s, hs, rfl⟩ := List.mem_map.1 hl
    exact hlf s hs
  rw [readSource, htext, lines_flatMap hlines, List.foldlM_append, hfold, Option.bind_eq_bind,
    Option.bind_some, foldlM_feed_done]

/-- A file with an alias, a struct and a function under a library, whose name is a keyword and
is escaped in the declaration, is read back. -/
theorem readSource_source_sample :
    Writable { libraryName := some "m" } ⟨[("P", "Pointer<S>")]⟩
        ⟨[.struct ⟨"S", ⟨none, 1, 8⟩, [⟨"x", "int"⟩], false, true⟩,
          .function ⟨"object", ⟨none, 2, 5⟩, "int", [⟨"a", "Pointer<S>"⟩, ⟨"b", "int"⟩]⟩], []⟩ ∧
      readSource (source { libraryName := some "m" } ⟨[("P", "Pointer<S>")]⟩
        ⟨[.struct ⟨"S", ⟨none, 1, 8⟩, [⟨"x", "int"⟩], false, true⟩,
          .function ⟨"object", ⟨none, 2, 5⟩, "int", [⟨"a", "Pointer<S>"⟩, ⟨"b", "int"⟩]⟩], []⟩) =
        some (SourceView.of { libraryName := some "m" } ⟨[("P", "Pointer<S>")]⟩
          ⟨[.struct ⟨"S", ⟨none, 1, 8⟩, [⟨"x", "int"⟩], false, true⟩,
            .function ⟨"object", ⟨none, 2, 5⟩, "int", [⟨"a", "Pointer<S>"⟩, ⟨"b", "int"⟩]⟩],
            []⟩) := by
  have hw : Writable { libraryName := some "m" } ⟨[("P", "Pointer<S>")]⟩
      ⟨[.struct ⟨"S", ⟨none, 1, 8⟩, [⟨"x", "int"⟩], false, true⟩,
        .function ⟨"object", ⟨none, 2, 5⟩, "int", [⟨"a", "Pointer<S>"⟩, ⟨"b", "int"⟩]⟩], []⟩ := by
    refine ⟨?_, ?_, ?_, by decide, ?_⟩
    · simp only [List.mem_singleton, forall_eq]
      exact ⟨isName_of_all (by decide), by decide⟩
    · simp only [Collector.structs, List.filterMap_cons, Declaration.struct?, List.filterMap_nil,
        List.mem_singleton, forall_eq]
      exact ⟨isName_of_all (by decide), by simpa using ⟨isName_of_all (by decide), by decide⟩⟩
    · simp only [Collector.functions, List.filterMap_cons, Declaration.function?,
        List.filterMap_nil, List.mem_singleton, forall_eq]
      refine ⟨isName_of_all (by decide), by decide, fun p hp => ?_⟩
      simp only [List.mem_cons, List.not_mem_nil, or_false] at hp
      rcases hp with rfl | rfl <;> exact ⟨isName_of_all (by decide), by decide⟩
    · simp
  exact ⟨hw, readSource_source hw⟩

end NativeBindings.Managed.Reading
