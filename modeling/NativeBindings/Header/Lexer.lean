import NativeBindings.Header.Literal
import NativeBindings.Header.IdentifierChars

/-!
# Lexing C text

`lex` turns the text of a file into preprocessing tokens, in four steps:

* every character gets its place (`placed`): line ends are `\n`, `\r\n` or a lone `\r`, and
  columns count bytes, so a leading byte-order mark takes three columns;
* where trigraphs are on, each of the nine `??x` sequences becomes the character it stands for
  (`replaceTrigraphs`);
* a backslash that ends a line, perhaps followed by blanks, joins the line with the next one
  (`joinLines`);
* the characters are cut into tokens (`scan`): identifiers, numbers, character and string
  literals, punctuators, and a `newline` token at each line end outside comments. Comments
  and the NUL character count as blanks, and so do the blanks of Unicode; a block comment that
  never ends is an error.

Identifiers take the letters, digits, `_` and `$`, universal character names (`\u00e9`), and
the characters outside ASCII that the edition's `IdentifierSet` allows. A character outside
ASCII that cannot start one is left out with a complaint that is reported when the token
would have been read as text; one inside an identifier that no identifier may hold stays in it
with a complaint. A quoted literal without its closing quote, and the empty character literal
`''`, become a stray token.

What the edition changes is in `LexMode`: C99 brings universal character names, C11 the `u`,
`U` and `u8` prefixes of string literals and `u` and `U` of characters, and C23 `u8` characters
and the digit separator `'`.
-/

namespace NativeBindings.Header

/-- A character of a file with its place. -/
structure Spot where
  ch : Char
  line : Nat
  column : Nat
  offset : Nat
deriving Inhabited, Repr

/-- Gives each character its place; line ends become one `\n` at the place of their first
character. -/
def placeFrom : List Char → Nat → Nat → Nat → List Spot → List Spot
  | [], _, _, _, acc => acc.reverse
  | '\r' :: '\n' :: cs, l, c, o, acc => placeFrom cs (l + 1) 1 (o + 2) (⟨'\n', l, c, o⟩ :: acc)
  | '\r' :: cs, l, c, o, acc => placeFrom cs (l + 1) 1 (o + 1) (⟨'\n', l, c, o⟩ :: acc)
  | '\n' :: cs, l, c, o, acc => placeFrom cs (l + 1) 1 (o + 1) (⟨'\n', l, c, o⟩ :: acc)
  | ch :: cs, l, c, o, acc =>
    placeFrom cs l (c + ch.utf8Size) (o + ch.utf8Size) (⟨ch, l, c, o⟩ :: acc)

/-- The characters of a text with their places. A byte-order mark at the start is dropped
but keeps its three bytes. -/
def placed (text : String) : List Spot :=
  match text.toList with
  | '﻿' :: cs => placeFrom cs 1 4 3 []
  | cs => placeFrom cs 1 1 0 []

/-- The place just after the last character of a text. -/
def endPlace (text : String) : Nat × Nat × Nat :=
  let cs := text.toList
  let (start, cs) := match cs with
    | '﻿' :: rest => (3, rest)
    | rest => (0, rest)
  let go : Nat × Nat × Nat × Bool → Char → Nat × Nat × Nat × Bool := fun (l, c, o, cr) ch =>
    if ch == '\n' then (if cr then (l, c, o + 1, false) else (l + 1, 1, o + 1, false))
    else if ch == '\r' then (l + 1, 1, o + 1, true)
    else (l, c + ch.utf8Size, o + ch.utf8Size, false)
  let (l, c, o, _) := cs.foldl go (1, start + 1, start, false)
  (l, c, o)

/-- What the edition of the language and the options change in how text is cut into tokens. -/
structure LexMode where
  /-- Universal character names, which C99 brings. -/
  c99 : Bool := true
  /-- The `u` and `U` prefixes of literals and `u8` of strings, which C11 brings. -/
  c11 : Bool := true
  /-- `u8` character literals and the digit separator, which C23 brings. -/
  c23 : Bool := false
  trigraphs : Bool := false
  identifiers : IdentifierSet := .c11
  /-- The punctuators of C++: `::`, `.*` and `->*`. -/
  cxx : Bool := false
deriving Inhabited

/-- The character a trigraph `??c` stands for. -/
def trigraphChar : Char → Option Char
  | '=' => some '#'
  | '(' => some '['
  | ')' => some ']'
  | '<' => some '\x7b'
  | '>' => some '\x7d'
  | '/' => some '\\'
  | '\'' => some '^'
  | '!' => some '|'
  | '-' => some '~'
  | _ => none

/-- Replaces each trigraph by the character it stands for, at the place of its first `?`. -/
def replaceTrigraphs : List Spot → List Spot
  | a :: b :: c :: rest =>
    if a.ch == '?' && b.ch == '?' then
      match trigraphChar c.ch with
      | some r => { a with ch := r } :: replaceTrigraphs rest
      | none => a :: replaceTrigraphs (b :: c :: rest)
    else a :: replaceTrigraphs (b :: c :: rest)
  | l => l

/-- The trigraphs of a text, each at its first `?` with the character it stands for, found as
`replaceTrigraphs` finds them. -/
def trigraphsIn : List Spot → List (Spot × Char)
  | a :: b :: c :: rest =>
    if a.ch == '?' && b.ch == '?' then
      match trigraphChar c.ch with
      | some r => (a, r) :: trigraphsIn rest
      | none => trigraphsIn (b :: c :: rest)
    else trigraphsIn (b :: c :: rest)
  | _ => []

/-- The warnings about the trigraphs in a token: each one is warned about, as converted where
trigraphs are on and as ignored where they are off; those in comments are not. -/
def trigraphWarnings (mode : LexMode) (file : String) (found : List (Spot × Char)) (t : Token) :
    Token :=
  match t.finish with
  | none => t
  | some stop =>
    let inside := found.filter fun (s, _) => t.pos.offset ≤ s.offset && s.offset < stop.offset
    if inside.isEmpty then t
    else
      { t with warnings := t.warnings ++ inside.map fun (s, r) =>
          (⟨file, s.line, s.column, s.offset⟩, Warning.on "trigraphs",
            if mode.trigraphs then "trigraph converted to '" ++ r.toString ++ "' character"
            else "trigraph ignored") }

/-- Blanks inside a line. -/
def isLineBlank (c : Char) : Bool :=
  c == ' ' || c == '\t' || c == '\x0b' || c == '\x0c' || c == '\x00' ||
    (c.toNat ≥ 0x80 && isUnicodeBlank c.toNat)

/-- Removes each backslash that ends a line, with the blanks after it and the line end. -/
def joinLines : List Spot → List Spot
  | [] => []
  | s :: rest =>
    if s.ch == '\\' then
      match h : rest.dropWhile (fun t => isLineBlank t.ch) with
      | t :: more =>
        if t.ch == '\n' then
          have : more.length < rest.length + 1 := by
            have hs := (List.dropWhile_suffix (fun t : Spot => isLineBlank t.ch) :
              rest.dropWhile (fun t => isLineBlank t.ch) <:+ rest).length_le
            rw [h] at hs
            simp only [List.length_cons] at hs
            omega
          joinLines more
        else s :: joinLines rest
      | [] => s :: joinLines rest
    else s :: joinLines rest
termination_by l => l.length

/-- The letters, digits, `_` and `$` of ASCII, which every identifier may hold. -/
def isAsciiIdentifierChar (c : Char) : Bool := c.isAlphanum || c == '_' || c == '$'

/-- The text `U+XXXX` of a code point, as messages name characters. -/
def codePointName (n : Nat) : String :=
  let hex := (Nat.toDigits 16 n).map Char.toUpper
  "U+" ++ String.ofList (List.replicate (4 - hex.length) '0' ++ hex)

/-- Reads a universal character name after its backslash: `u` with four hexadecimal digits, `U`
with eight, `u` with any number of them between braces, or `N` with the name of a character
between braces; `c99` tells whether the edition has the first three. Returns the code point and
how many characters the name takes after the backslash, if it reads, and its errors, each with
how many characters after the backslash it stands. Where the name starts a token (`first`) its
errors count, and a character name that matches only loosely gives its character; inside an
identifier neither happens and the identifier ends before the backslash. -/
def readUniversal (c99 first : Bool) (cs : List Spot) : Option (Nat × Nat) × List (Nat × String) :=
  let complain (errors : List (Nat × String)) := if first then errors else []
  match cs with
  | u :: b :: more =>
    if u.ch == 'N' then
      let name := (more.takeWhile (·.ch != '}')).map (·.ch)
      if b.ch != '{' || name.length == more.length || name.isEmpty then (none, [])
      else
        let text := String.ofList name
        match Text.CharacterName.exact text with
        | some v => (some (v, name.length + 3), [])
        | none =>
          let loose := if first then (Text.CharacterName.loose text).map (·, name.length + 3) else none
          (loose, complain [(3, "'" ++ text ++ "' is not a valid Unicode character name")])
    else if !c99 || (u.ch != 'u' && u.ch != 'U') then (none, [])
    else if b.ch == '{' then
      let ds := (more.takeWhile (isHexDigit ·.ch)).map (·.ch)
      let closed := (more.drop ds.length).head?.any (·.ch == '}')
      if digitsIn 16 ds ≥ wordLimit then (none, complain [(1, "hex escape sequence out of range")])
      else if !closed || ds.isEmpty then (none, [])
      else if u.ch == 'U' then (none, complain [(0, "\\U used with no following hex digits")])
      else (some (digitsIn 16 ds, ds.length + 3), [])
    else
      let n := if u.ch == 'u' then 4 else 8
      let ds := ((b :: more).map (·.ch) |>.takeWhile isHexDigit).take n
      if ds.length == n then (some (digitsIn 16 ds, n + 1), []) else (none, [])
  | _ => (none, [])

/-- What is wrong with a universal character name outside a literal: it names a character of
ASCII other than `$`, `@` and the grave accent, or a surrogate. -/
def universalComplaint (v : Nat) : Option String :=
  if v < 0xA0 && v != 0x24 && v != 0x40 && v != 0x60 then
    if v < 0x20 || v ≥ 0x7F then some "universal character name refers to a control character"
    else some ("character '" ++ (Char.ofNat v).toString ++
      "' cannot be specified by a universal character name")
  else if 0xD800 ≤ v && v ≤ 0xDFFF then some "invalid universal character"
  else none

/-- Whether a character outside ASCII goes on an identifier: one that the edition allows, or one
that is no blank, which stays in it with a complaint. -/
def continuesIdentifier (mode : LexMode) (v : Nat) : Option (Option String) :=
  if mode.identifiers.allows v then some none
  else if isUnicodeBlank v then none
  else some (some ("character <" ++ codePointName v ++ "> not allowed in an identifier"))

/-- The rest of an identifier: the characters taken, the text they spell with universal
character names read, the complaints about characters that no identifier may hold, and the
characters after it. -/
def identifierTail (mode : LexMode) : List Spot →
    List Spot × List Char × List (Spot × String) × List Spot
  | [] => ([], [], [], [])
  | s :: rest =>
    if isAsciiIdentifierChar s.ch then
      let (t, x, k, r) := identifierTail mode rest
      (s :: t, s.ch :: x, k, r)
    else if s.ch == '\\' then
      match (readUniversal mode.c99 false rest).1 with
      | some (v, n) =>
        if (universalComplaint v).isSome then ([], [], [], s :: rest)
        else
          match continuesIdentifier mode v with
          | none => ([], [], [], s :: rest)
          | some complaint =>
            let (t, x, k, r) := identifierTail mode (rest.drop n)
            -- a code point past the last character stays in the identifier but spells nothing
            let x := if v ≤ 0x10FFFF then Char.ofNat v :: x else x
            (s :: rest.take n ++ t, x, (complaint.map fun m => [(s, m)]).getD [] ++ k, r)
      | none => ([], [], [], s :: rest)
    else if s.ch.toNat ≥ 0x80 then
      match continuesIdentifier mode s.ch.toNat with
      | none => ([], [], [], s :: rest)
      | some complaint =>
        let (t, x, k, r) := identifierTail mode rest
        (s :: t, s.ch :: x, (complaint.map fun m => [(s, m)]).getD [] ++ k, r)
    else ([], [], [], s :: rest)
termination_by l => l.length

/-- Whether a character goes on a number: an ASCII letter or digit, `_`, `.`, or a character
that goes on an identifier. -/
def continuesNumber (mode : LexMode) (c : Char) : Bool :=
  c.isAlphanum || c == '_' || c == '.' ||
    (c.toNat ≥ 0x80 && (continuesIdentifier mode c.toNat).isSome)

/-- Whether two characters go on a number together: a sign after an exponent letter, or a
digit separator before a letter or digit in C23. -/
def continuesNumberPair (mode : LexMode) (a b : Char) : Bool :=
  ((a == 'e' || a == 'E' || a == 'p' || a == 'P') && (b == '+' || b == '-')) ||
    (mode.c23 && a == '\'' && (b.isAlphanum || b == '_'))

/-- The rest of a number: ASCII letters and digits, `_`, `.`, a sign after an exponent letter,
a digit separator before a letter or digit in C23, and characters that go on an identifier. -/
def numberTail (mode : LexMode) : List Spot → List Spot × List Spot
  | [] => ([], [])
  | [a] => if continuesNumber mode a.ch then ([a], []) else ([], [a])
  | a :: rest@(b :: more) =>
    if continuesNumberPair mode a.ch b.ch then
      let (t, r) := numberTail mode more
      (a :: b :: t, r)
    else if continuesNumber mode a.ch then
      let (t, r) := numberTail mode rest
      (a :: t, r)
    else ([], a :: rest)

/-- The rest of a quoted literal after its opening quote: up to and including the closing
quote `q`, whether it was found, or up to the end of the line. -/
def quotedTail (q : Char) : List Spot → List Spot × List Spot × Bool
  | [] => ([], [], false)
  | s :: rest =>
    if s.ch == '\n' then ([], s :: rest, false)
    else if s.ch == q then ([s], rest, true)
    else if s.ch == '\\' then
      match rest with
      | t :: more =>
        if t.ch == '\n' then ([s], rest, false)
        else
          let (b, r, ok) := quotedTail q more
          (s :: t :: b, r, ok)
      | [] => ([s], [], false)
    else
      let (b, r, ok) := quotedTail q rest
      (s :: b, r, ok)

/-- The punctuators of C, longer ones first, with the spelling each stands for. -/
def punctuators : List (String × String) :=
  [("%:%:", "##"), ("...", "..."), ("<<=", "<<="), (">>=", ">>="), ("->", "->"), ("++", "++"),
   ("--", "--"), ("<<", "<<"), (">>", ">>"), ("<=", "<="), (">=", ">="), ("==", "=="),
   ("!=", "!="), ("&&", "&&"), ("||", "||"), ("*=", "*="), ("/=", "/="), ("%=", "%="),
   ("+=", "+="), ("-=", "-="), ("&=", "&="), ("^=", "^="), ("|=", "|="), ("##", "##"),
   ("<:", "["), (":>", "]"), ("<%", "\x7b"), ("%>", "\x7d"), ("%:", "#"),
   ("[", "["), ("]", "]"), ("(", "("), (")", ")"), ("\x7b", "\x7b"), ("\x7d", "\x7d"),
   (".", "."), ("&", "&"), ("*", "*"), ("+", "+"), ("-", "-"), ("~", "~"), ("!", "!"),
   ("/", "/"), ("%", "%"), ("<", "<"), (">", ">"), ("^", "^"), ("|", "|"), ("?", "?"),
   (":", ":"), (";", ";"), ("=", "="), (",", ","), ("#", "#")]

/-- The punctuators that only C++ has. -/
def cxxPunctuators : List (String × String) := [("->*", "->*"), ("::", "::"), (".*", ".*")]

/-- The punctuator at the start of the characters, its spelling and its length. In C++ `<::` is
`<` before `::` unless `:` or `>` follows it. -/
def punctuatorAt (mode : LexMode) (cs : List Spot) : Option (String × Nat) :=
  let text := cs.take 4 |>.map (·.ch)
  let table := if mode.cxx then cxxPunctuators ++ punctuators else punctuators
  match text with
  | '<' :: ':' :: ':' :: rest =>
    if mode.cxx && !(rest.head? == some ':' || rest.head? == some '>') then some ("<", 1)
    else (table.find? fun p => p.1.toList.isPrefixOf text).map fun p => (p.2, p.1.length)
  | _ => (table.find? fun p => p.1.toList.isPrefixOf text).map fun p => (p.2, p.1.length)

/-- The prefix letters of a literal before its quote, and the quote. -/
def literalPrefix (mode : LexMode) (cs : List Spot) : Option (Nat × Char) :=
  let text := cs.take 3 |>.map (·.ch)
  match text with
  | 'u' :: '8' :: q :: _ =>
    if (q == '"' && mode.c11) || (q == '\'' && mode.c23) then some (2, q) else none
  | c :: q :: _ =>
    if (q == '"' || q == '\'') && (c == 'L' || (mode.c11 && (c == 'u' || c == 'U'))) then some (1, q)
    else none
  | _ => none

/-- A token cut from the text: its kind, its spelling, the characters it takes, the complaints
about it, and the characters after it. -/
structure Cut where
  kind : TokenKind
  text : String
  taken : List Spot
  complaints : List (Spot × String) := []
  rest : List Spot

/-- The next token of a text that starts with a character that is neither blank, line end
nor comment. -/
def readToken (mode : LexMode) (cs : List Spot) : Cut :=
  let text (l : List Spot) := String.ofList (l.map (·.ch))
  let quoted (pre : Nat) (q : Char) : Cut :=
    let (body, rest, ok) := quotedTail q (cs.drop (pre + 1))
    let taken := cs.take (pre + 1) ++ body
    let empty := q == '\'' && body.length == 1
    let kind := if !ok || empty then TokenKind.stray else if q == '"' then .string else .character
    { kind, text := text taken, taken, rest }
  let identifier (first : Spot) (firstChar : Char) (after : List Spot) (taken : List Spot)
      (complaints : List (Spot × String)) : Cut :=
    let (t, x, k, r) := identifierTail mode after
    { kind := .identifier, text := String.ofList (firstChar :: x), taken := first :: taken ++ t,
      complaints := complaints ++ k, rest := r }
  match cs with
  | [] => { kind := .stray, text := "", taken := [], rest := [] }
  | s :: rest =>
    match literalPrefix mode cs with
    | some (pre, q) => quoted pre q
    | none =>
      if s.ch == '"' || s.ch == '\'' then quoted 0 s.ch
      else if s.ch.isAlpha || s.ch == '_' || s.ch == '$' then identifier s s.ch rest [] []
      else if s.ch.isDigit || (s.ch == '.' && (rest.head?.map (·.ch.isDigit)).getD false) then
        let (body, r) := numberTail mode rest
        { kind := .number, text := text (s :: body), taken := s :: body, rest := r }
      else if s.ch == '\\' then
        let (read, errors) := readUniversal mode.c99 true rest
        let complaints := errors.map fun (k, m) => ((s :: rest).getD k s, m)
        match read with
        | some (v, n) =>
          match universalComplaint v with
          | some m =>
            { kind := .stray, text := "\\", taken := [s], complaints := complaints ++ [(s, m)], rest }
          | none =>
            if v ≤ 0x10FFFF && mode.identifiers.allowsFirst v then
              identifier s (Char.ofNat v) (rest.drop n) (rest.take n) complaints
            else
              { kind := .stray, text := text (s :: rest.take n), taken := s :: rest.take n,
                complaints, rest := rest.drop n }
        | none => { kind := .stray, text := "\\", taken := [s], complaints, rest }
      else if s.ch.toNat ≥ 0x80 then
        let v := s.ch.toNat
        if mode.identifiers.allowsFirst v then identifier s s.ch rest [] []
        else
          let message := if mode.identifiers.allows v then
              "character <" ++ codePointName v ++ "> not allowed at the start of an identifier"
            else "unexpected character <" ++ codePointName v ++ ">"
          { kind := .dropped, text := s.ch.toString, taken := [s], complaints := [(s, message)], rest }
      else
        match punctuatorAt mode cs with
        | some (p, n) => { kind := .punctuator, text := p, taken := cs.take n, rest := cs.drop n }
        | none => { kind := .stray, text := s.ch.toString, taken := [s], rest }

/-- The place after the last of some characters. -/
def afterSpots (file : String) (first : Spot) (taken : List Spot) : Position :=
  let last := taken.getLast?.getD first
  ⟨file, last.line, last.column + last.ch.utf8Size, last.offset + last.ch.utf8Size⟩

/-- The text after a block comment's opening, and whether the comment ends. -/
def afterBlockComment : List Spot → List Spot × Bool
  | [] => ([], false)
  | [_] => ([], false)
  | a :: b :: rest =>
    if a.ch == '*' && b.ch == '/' then (rest, true) else afterBlockComment (b :: rest)
termination_by l => l.length

theorem afterBlockComment_length (l : List Spot) : (afterBlockComment l).1.length ≤ l.length := by
  fun_induction afterBlockComment l <;> simp_all <;> omega

/-- How many characters after a backslash a universal character name that names a blank takes,
if one stands there: such a name is a blank too. -/
def universalBlank (mode : LexMode) (cs : List Spot) : Option Nat :=
  match readUniversal mode.c99 true cs with
  | (some (v, n), []) => if (universalComplaint v).isNone && isUnicodeBlank v then some n else none
  | _ => none

/-- Whether a token is the name of a `#error` or `#warning` directive, the tokens before it
on its line being newest first: the rest of such a line is its message, read as it stands. -/
def startsMessage (before : List Token) (t : Token) : Bool :=
  t.kind == .identifier && (t.text == "error" || t.text == "warning") &&
    match before with
    | h :: _ => h.kind == .punctuator && h.text == "#" && h.lineStart
    | [] => false

/-- Cuts placed characters into tokens, `atStart` telling whether a line starts here and
`spaced` whether blanks came before. -/
def scan (mode : LexMode) (file : String) (cs : List Spot) (atStart spaced : Bool)
    (acc : List Token) (errs : List Diagnostic) : List Token × List Diagnostic :=
  match cs with
  | [] => (acc.reverse, errs.reverse)
  | s :: rest =>
    let here : Position := ⟨file, s.line, s.column, s.offset⟩
    if s.ch == '\n' then
      let t : Token := { kind := .newline, text := "\n", pos := here, finish := some here }
      scan mode file rest true false (t :: acc) errs
    else if isLineBlank s.ch then scan mode file rest atStart true acc errs
    else if s.ch == '\\' && (universalBlank mode rest).isSome then
      have : (rest.drop ((universalBlank mode rest).getD 0)).length < rest.length + 1 := by
        simp only [List.length_drop]
        omega
      scan mode file (rest.drop ((universalBlank mode rest).getD 0)) atStart true acc errs
    else if s.ch == '/' && (rest.head?.map (·.ch == '*')).getD false then
      have : (afterBlockComment (rest.tail)).1.length < rest.length + 1 := by
        have := afterBlockComment_length (rest.tail)
        simp only [List.length_tail] at this
        omega
      if (afterBlockComment (rest.tail)).2 then
        scan mode file (afterBlockComment (rest.tail)).1 atStart true acc errs
      else
        scan mode file (afterBlockComment (rest.tail)).1 atStart true acc
          (⟨some here, "unterminated /* comment", false, none⟩ :: errs)
    else if s.ch == '/' && (rest.head?.map (·.ch == '/')).getD false then
      have : (rest.dropWhile (fun t => t.ch != '\n')).length < rest.length + 1 := by
        have := (List.dropWhile_suffix (fun t : Spot => t.ch != '\n') :
          rest.dropWhile (fun t => t.ch != '\n') <:+ rest).length_le
        omega
      scan mode file (rest.dropWhile (fun t => t.ch != '\n')) atStart true acc errs
    else
      let cut := readToken mode (s :: rest)
      if h : cut.rest.length < rest.length + 1 then
        have : (readToken mode (s :: rest)).rest.length < rest.length + 1 := h
        let complaints := cut.complaints.map fun (p, m) => (⟨file, p.line, p.column, p.offset⟩, m)
        let t : Token := { kind := cut.kind, text := cut.text, pos := here,
                           finish := some (afterSpots file s cut.taken), spaced,
                           lineStart := atStart, complaints }
        if !atStart && startsMessage acc t then
          let body := cut.rest.takeWhile (·.ch != '\n')
          have : (cut.rest.dropWhile (·.ch != '\n')).length < rest.length + 1 := by
            have := (List.dropWhile_suffix (fun t : Spot => t.ch != '\n') :
              cut.rest.dropWhile (fun t => t.ch != '\n') <:+ cut.rest).length_le
            omega
          have : ((readToken mode (s :: rest)).rest.dropWhile (·.ch != '\n')).length <
              rest.length + 1 := this
          let start := (body.head?.map fun b => (⟨file, b.line, b.column, b.offset⟩ : Position)).getD
            (afterSpots file s cut.taken)
          let m : Token := { kind := .message, text := String.ofList (body.map (·.ch)),
                             pos := start, finish := some (afterSpots file s (cut.taken ++ body)) }
          scan mode file (cut.rest.dropWhile (·.ch != '\n')) false true (m :: t :: acc) errs
        else scan mode file cut.rest false (cut.kind == .dropped) (t :: acc) errs
      else (acc.reverse, errs.reverse)
termination_by cs.length
decreasing_by all_goals (simp only [List.length_cons]; omega)

/-- The tokens of a file: each line ends with a `newline` token, the last one too. -/
structure Lexed where
  tokens : List Token
  /-- The place just after the end of the file. -/
  eof : Position
  errors : List Diagnostic
deriving Inhabited

/-- The placed characters of a file without the byte order mark it may start with; the
characters after it keep their columns. -/
def withoutMark : List Spot → List Spot
  | s :: rest => if s.ch == '\uFEFF' then rest else s :: rest
  | [] => []

/-- A text without the line break that ends it, where the end of the file is placed: `\n`,
`\r`, or two different ones of them together. -/
def withoutFinalBreak (text : String) : String :=
  let isBreak (c : Char) := c == '\n' || c == '\r'
  match text.toList.reverse with
  | a :: b :: rest =>
    if isBreak a then
      if isBreak b && a != b then String.ofList rest.reverse else String.ofList (b :: rest).reverse
    else text
  | [a] => if isBreak a then "" else text
  | [] => text

/-- Lexes the text of the file named `file`. The end of the file stands before the line break
that ends it. -/
def lex (mode : LexMode) (file : String) (text : String) : Lexed :=
  let spots := withoutMark (placed text)
  let trigraphs := trigraphsIn spots
  let spots := if mode.trigraphs then replaceTrigraphs spots else spots
  let (toks, errs) := scan mode file (joinLines spots) true false [] []
  let toks := if trigraphs.isEmpty then toks else toks.map (trigraphWarnings mode file trigraphs)
  let (l, c, o) := endPlace (withoutFinalBreak text)
  let eof : Position := ⟨file, l, c, o⟩
  let last : Token := { kind := .newline, text := "\n", pos := eof, finish := some eof }
  let toks := match toks.getLast? with
    | some t => if t.kind == .newline then toks else toks ++ [last]
    | none => []
  ⟨toks, eof, errs⟩

end NativeBindings.Header
