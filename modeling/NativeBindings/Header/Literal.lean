import NativeBindings.Header.Token
import NativeBindings.Header.Type
import NativeBindings.Text.CharacterName

/-!
# Number and character literals

`NumberLiteral.read` reads the spelling of a number token the way the front end does. An integer
is decimal, octal (a leading `0`), hexadecimal (`0x`) or binary (`0b`); a `.` or an exponent
(`e`, or `p` in hexadecimal) makes a floating literal. The digits may be split by `'`, a digit
separator, where the lexer let one in (C23). After the digits comes a suffix: for integers `u`
with `l`, `ll`, `z` or `wb`, for floating literals `f`, `l`, `f16` or `q`, and for both an
imaginary `i` or `j`. A letter that cannot be a digit here, a separator at the edge of a digit
sequence, an exponent without digits, and a suffix that is none of these are errors, each at
the offset of the character it is about.

`CharacterLiteral.read` reads a character literal: its prefix, its characters, and its
escapes. A hexadecimal escape too large for the literal's unit spoils it; an octal one is cut
to the unit with an error but keeps a value. A character outside what the unit holds spoils a
plain literal, and so does a second character in a wide or Unicode one.
-/

namespace NativeBindings.Header

/-- What the suffix of an integer literal asks for: unsigned, how many `l`s, `size_t` (`z`),
a bit-precise type (`wb`), and an imaginary part. -/
structure IntSuffix where
  unsigned : Bool := false
  longs : Nat := 0
  sizeT : Bool := false
  bitInt : Bool := false
  imaginary : Bool := false
deriving DecidableEq, Inhabited, Repr

/-- The type that the suffix of a floating literal names. -/
inductive FloatSize where
  | double
  | float
  | longDouble
  | float16
  | float128
deriving DecidableEq, Inhabited, Repr

/-- A number token read: an integer with its value, its radix and suffix; a floating literal
with its size and whether it is imaginary; or the errors that spoil it, each with the offset in
the token of the character it is about. -/
inductive NumberLiteral where
  | integer (value : Nat) (radix : Nat) (suffix : IntSuffix)
  | floating (size : FloatSize) (imaginary : Bool)
  | invalid (errors : List (Nat × String))
deriving DecidableEq, Inhabited, Repr

/-- The value of a digit in any radix up to 36. -/
def digitValue (c : Char) : Option Nat :=
  if c.isDigit then some (c.toNat - '0'.toNat)
  else if 'a' ≤ c && c ≤ 'z' then some (c.toNat - 'a'.toNat + 10)
  else if 'A' ≤ c && c ≤ 'Z' then some (c.toNat - 'A'.toNat + 10)
  else none

/-- The value of digits in a radix. -/
def digitsIn (radix : Nat) (ds : List Char) : Nat :=
  ds.foldl (fun acc c => acc * radix + (digitValue c).getD 0) 0

/-- Hexadecimal digits. -/
def isHexDigit (c : Char) : Bool := (digitValue c).any (· < 16)

/-- Octal digits. -/
def isOctalDigit (c : Char) : Bool := '0' ≤ c && c ≤ '7'

/-- Binary digits. -/
def isBinaryDigit (c : Char) : Bool := c == '0' || c == '1'

/-- The digit separator. -/
def isSeparator (c : Char) : Bool := c == '\''

/-- The character at an index, or a blank past the end, which is never part of a number. -/
def charAt (cs : Array Char) (i : Nat) : Char := cs.getD i ' '

/-- The index after the characters from `i` on that are digits of `p` or separators. -/
def skipDigits (cs : Array Char) (p : Char → Bool) (i : Nat) : Nat :=
  if i < cs.size then
    if p (charAt cs i) || isSeparator (charAt cs i) then skipDigits cs p (i + 1) else i
  else i
termination_by cs.size - i

/-- Whether the characters from `start` to `stop` hold a digit: they are not empty and not a
lone separator. -/
def containsDigits (cs : Array Char) (start stop : Nat) : Bool :=
  start != stop && (start + 1 != stop || !isSeparator (charAt cs start))

/-- How far reading the digits of a number got: the radix, where the digits start, the
current index, whether a `.` or an exponent was seen, and the errors so far. -/
structure DigitScan where
  radix : Nat := 10
  digitsStart : Nat := 0
  pos : Nat := 0
  period : Bool := false
  exponent : Bool := false
  errors : List (Nat × String) := []
deriving Inhabited

namespace DigitScan

/-- Adds an error at an offset. -/
def fail (sc : DigitScan) (at_ : Nat) (message : String) : DigitScan :=
  { sc with errors := sc.errors ++ [(at_, message)] }

/-- Reports a separator just before `i` (the end of a digit sequence) or at `i` (its start). -/
def checkSeparator (cs : Array Char) (sc : DigitScan) (i : Nat) (afterDigits : Bool) :
    DigitScan :=
  let place : Option Nat :=
    if afterDigits then (if i == 0 then none else some (i - 1))
    else if i ≥ cs.size then none else some i
  match place with
  | some p =>
    if isSeparator (charAt cs p) then
      sc.fail p ("digit separator cannot appear at " ++ (if afterDigits then "end" else "start") ++
        " of digit sequence")
    else sc
  | none => sc

/-- Reads an exponent whose letter stands at the current index: an optional sign and
digits. -/
def exponentPart (cs : Array Char) (sc : DigitScan) : DigitScan :=
  let sc := sc.checkSeparator cs sc.pos true
  let letter := sc.pos
  let s := sc.pos + 1
  let s := if s < cs.size && (charAt cs s == '+' || charAt cs s == '-') then s + 1 else s
  let stop := skipDigits cs Char.isDigit s
  let sc := { sc with exponent := true }
  if containsDigits cs s stop then { sc.checkSeparator cs s false with pos := stop }
  else if sc.errors.isEmpty then { sc.fail letter "exponent has no digits" with pos := s }
  else { sc with pos := s }

/-- Reads what may follow the digits of a decimal or octal number: a `.` with more digits and
an exponent. A letter that is a hexadecimal digit but no exponent is a wrong digit here. -/
def decimalOrOctalTail (cs : Array Char) (sc : DigitScan) : DigitScan :=
  let c := charAt cs sc.pos
  if isHexDigit c && c != 'e' && c != 'E' then
    sc.fail sc.pos ("invalid digit '" ++ c.toString ++ "' in " ++
      (if sc.radix == 8 then "octal" else "decimal") ++ " constant")
  else
    let sc :=
      if c == '.' then
        let sc := sc.checkSeparator cs sc.pos true
        let sc := { sc with pos := sc.pos + 1, radix := 10, period := true }
        let sc := sc.checkSeparator cs sc.pos false
        { sc with pos := skipDigits cs Char.isDigit sc.pos }
      else sc
    let c := charAt cs sc.pos
    if c == 'e' || c == 'E' then exponentPart cs { sc with radix := 10 } else sc

/-- Reads a hexadecimal number after its `0x`: digits, a `.` with more digits, and the binary
exponent that a hexadecimal floating literal needs. -/
def hexadecimal (cs : Array Char) : DigitScan :=
  let sc : DigitScan := { radix := 16, digitsStart := 2 }
  let s := skipDigits cs isHexDigit 2
  let significant := containsDigits cs 2 s
  let (sc, s, significant) :=
    if s < cs.size && charAt cs s == '.' then
      let fraction := s + 1
      let stop := skipDigits cs isHexDigit fraction
      let significant := significant || containsDigits cs fraction stop
      let sc := if significant then sc.checkSeparator cs fraction false else sc
      ({ sc with period := true }, stop, significant)
    else (sc, s, significant)
  let sc := { sc with pos := s }
  if !significant then sc.fail s "hexadecimal floating constant requires a significand"
  else if charAt cs s == 'p' || charAt cs s == 'P' then exponentPart cs sc
  else if sc.period then sc.fail s "hexadecimal floating constant requires an exponent"
  else sc

/-- Reads a number that starts with `0`: hexadecimal, binary, or octal, which turns decimal
when a `.` or an exponent follows its digits. -/
def startingWithZero (cs : Array Char) : DigitScan :=
  let c1 := charAt cs 1
  let c2 := charAt cs 2
  if (c1 == 'x' || c1 == 'X') && (isHexDigit c2 || c2 == '.') then hexadecimal cs
  else if (c1 == 'b' || c1 == 'B') && isBinaryDigit c2 then
    let s := skipDigits cs isBinaryDigit 2
    let sc : DigitScan := { radix := 2, digitsStart := 2, pos := s }
    if s < cs.size && isHexDigit (charAt cs s) then
      sc.fail s ("invalid digit '" ++ (charAt cs s).toString ++ "' in binary constant")
    else sc
  else
    let s := skipDigits cs isOctalDigit 1
    let sc : DigitScan := { radix := 8, digitsStart := if s != 1 then 1 else 0, pos := s }
    if s ≥ cs.size then sc
    else
      let sc :=
        if (charAt cs s).isDigit then
          let stop := skipDigits cs Char.isDigit s
          let c := charAt cs stop
          if c == '.' || c == 'e' || c == 'E' then { sc with pos := stop, radix := 10 } else sc
        else sc
      decimalOrOctalTail cs sc

/-- Reads the digits of a number up to its suffix. -/
def read (cs : Array Char) : DigitScan :=
  if charAt cs 0 == '0' then startingWithZero cs
  else
    let s := skipDigits cs Char.isDigit 0
    let sc : DigitScan := { pos := s }
    if s ≥ cs.size then sc else decimalOrOctalTail cs sc

end DigitScan

/-- What a suffix asks for, read so far. -/
structure SuffixScan where
  unsigned : Bool := false
  sized : Bool := false
  longs : Nat := 0
  sizeT : Bool := false
  bitInt : Bool := false
  imaginary : Bool := false
  size : FloatSize := .double
deriving Inhabited

/-- Reads the letters of a suffix while they make one that fits the literal, `floating`
telling which kind it is; returns what they ask for and the letters that do not fit. -/
def readSuffix (floating : Bool) (st : SuffixScan) : List Char → SuffixScan × List Char
  | [] => (st, [])
  | c :: rest =>
    let stop := (st, c :: rest)
    let next := rest.head?.getD ' '
    if c == 'f' || c == 'F' then
      if !floating || st.sized then stop
      else if rest.take 2 == ['1', '6'] then
        readSuffix floating { st with sized := true, size := .float16 } (rest.drop 2)
      else readSuffix floating { st with sized := true, size := .float } rest
    else if c == 'q' || c == 'Q' then
      if !floating || st.sized then stop
      else readSuffix floating { st with sized := true, size := .float128 } rest
    else if c == 'u' || c == 'U' then
      if floating || st.unsigned then stop
      else readSuffix floating { st with unsigned := true } rest
    else if c == 'l' || c == 'L' then
      if st.sized then stop
      else if next == c then
        if floating then stop else readSuffix floating { st with sized := true, longs := 2 } (rest.drop 1)
      else readSuffix floating { st with sized := true, longs := 1, size := .longDouble } rest
    else if c == 'z' || c == 'Z' then
      if floating || st.sized then stop
      else readSuffix floating { st with sized := true, sizeT := true } rest
    else if c == 'i' || c == 'I' || c == 'j' || c == 'J' then
      if st.imaginary then stop else readSuffix floating { st with imaginary := true } rest
    else if c == 'w' || c == 'W' then
      if floating || st.sized then stop
      else if (c == 'w' && next == 'b') || (c == 'W' && next == 'B') then
        readSuffix floating { st with sized := true, bitInt := true } (rest.drop 1)
      else stop
    else stop
termination_by cs => cs.length

/-- Reads the spelling of a number token. -/
def NumberLiteral.read (text : String) : NumberLiteral :=
  let cs := text.toList.toArray
  let sc := DigitScan.read cs
  if !sc.errors.isEmpty then .invalid sc.errors
  else
    let sc := sc.checkSeparator cs sc.pos true
    let floating := sc.period || sc.exponent
    let suffix := (cs.toList.drop sc.pos)
    let (st, left) := readSuffix floating {} suffix
    let errors := if left.isEmpty then sc.errors
      else sc.errors ++ [(sc.pos, "invalid suffix '" ++ String.ofList suffix ++ "' on " ++
        (if floating then "floating" else "integer") ++ " constant")]
    if !errors.isEmpty then .invalid errors
    else if floating then .floating st.size st.imaginary
    else
      let digits := ((cs.toList.take sc.pos).drop sc.digitsStart).filter (!isSeparator ·)
      .integer (digitsIn sc.radix digits) sc.radix
        { unsigned := st.unsigned, longs := st.longs, sizeT := st.sizeT, bitInt := st.bitInt,
          imaginary := st.imaginary }

/-- The kinds of character literals, by their prefix. -/
inductive CharKind where
  | plain
  | wide
  | utf8
  | utf16
  | utf32
deriving DecidableEq, Inhabited, Repr

/-- The width in bits of one unit of a kind of literal on a target with the model `m`. -/
def CharKind.widthIn (m : TypeModel) : CharKind → Nat
  | .plain | .utf8 => 8
  | .utf16 => 16
  | .utf32 => 32
  | .wide => m.wcharType.bitsIn m

/-- The largest character that a character literal of the kind holds on a target with the
model `m`. -/
def CharKind.largestIn (m : TypeModel) : CharKind → Nat
  | .plain | .utf8 => 0x7F
  | .utf16 => 0xFFFF
  | .utf32 => 0x10FFFF
  | .wide => Nat.pow 2 (m.wcharType.bitsIn m) - 1

/-- A character literal read: its kind, its characters' values, and its errors with the byte
offsets they are at; `spoiled` when an error leaves it without a value. -/
structure CharacterLiteral where
  kind : CharKind
  units : List Nat := []
  errors : List (Nat × String) := []
  spoiled : Bool := false
deriving Inhabited, Repr

/-- The value of the simple escape letter `c`; other letters stand for themselves. -/
def escapeValue (c : Char) : Option Nat :=
  match c with
  | 'n' => some 10 | 't' => some 9 | 'r' => some 13 | 'a' => some 7 | 'b' => some 8
  | 'f' => some 12 | 'v' => some 11 | 'e' => some 27 | 'E' => some 27
  | '\\' => some 92 | '\'' => some 39 | '"' => some 34 | '?' => some 63
  | _ => none

/-- The byte length of some characters. -/
def bytesOf (cs : List Char) : Nat := cs.foldl (fun n c => n + c.utf8Size) 0

/-- The largest value that 32 bits hold, and one more. -/
def wordLimit : Nat := 4294967296

/-- What an escape sequence stands for: a code unit, which a simple, octal or hexadecimal escape
gives, or a character that the literal encodes, which a universal character name gives. -/
inductive EscapeValue where
  | unit (value : Nat)
  | character (code : Nat)
deriving Inhabited, Repr

/-- An escape sequence of a literal, read after its backslash and letter: what it stands for,
how many characters it takes after the letter, its errors with their byte offsets from the
backslash, and whether they leave the literal without a value. -/
structure Escape where
  value : EscapeValue
  extra : Nat := 0
  errors : List (Nat × String) := []
  spoils : Bool := false
deriving Inhabited

/-- The characters of a delimited escape after its `{`: those before the `}`, and whether
the `}` is there before the end of the literal. -/
def delimitedPart (cs : List Char) : List Char × Bool :=
  let inner := cs.takeWhile (· != '\x7d')
  (inner, inner.length < cs.length)

/-- The digits of a delimited escape and an error for each of its characters that is no digit;
each error stands at the backslash. -/
def delimitedDigits (isDigit : Char → Bool) (inner : List Char) : List Char × List (Nat × String) :=
  (inner.filter isDigit,
    (inner.filter (!isDigit ·)).map fun c => (0, "invalid digit '" ++ c.toString ++ "' in escape sequence"))

/-- The escape for the character `v` that a universal character name in a literal names, `extra`
being the characters it takes after its letter. A surrogate or a code point past the last
character is an error, and so is a character of the basic set or a control character, unless
`basic` allows them (C23). -/
def universalInLiteral (basic : Bool) (v extra : Nat) : Escape :=
  let fail (message : String) : Escape :=
    { value := .character 0, extra, errors := [(0, message)], spoils := true }
  if (0xD800 ≤ v && v ≤ 0xDFFF) || v > 0x10FFFF then fail "invalid universal character"
  else if v < 0xA0 && v != 0x24 && v != 0x40 && v != 0x60 && !basic then
    if 0x20 ≤ v && v < 0x7F then
      fail ("character '" ++ (Char.ofNat v).toString ++ "' cannot be specified by a universal character name")
    else fail "universal character name refers to a control character"
  else { value := .character v, extra }

/-- Reads the escape sequence whose letter is `c` and which `more` follows up to the end of the
literal's body, in a literal whose units are `width` bits wide; `basic` tells whether universal
character names may name characters of the basic set (C23).

* `\N{name}` names a character, `\u` with four hexadecimal digits or any number of them
  between braces and `\U` with eight give its code point;
* `\x` takes all the hexadecimal digits that follow, or those between braces, `\o` the octal
  digits between braces, and an octal digit up to two more: their value is one unit, and a value
  that the unit does not hold is an error;
* every other letter stands for the value of its simple escape, or for itself. -/
def readEscape (width : Nat) (basic : Bool) (c : Char) (more : List Char) : Escape :=
  let atEnd := 1 + c.utf8Size + bytesOf more
  let failed (extra : Nat) (errors : List (Nat × String)) : Escape :=
    { value := .character 0, extra, errors, spoils := true }
  let unclosed (closed : Bool) : List (Nat × String) := if closed then [] else [(atEnd, "expected '\x7d'")]
  let limit := Nat.pow 2 width
  let delimitedUnit (radix : Nat) (isDigit : Char → Bool) (name : String) (after : List Char) :
      Escape :=
    let (inner, closed) := delimitedPart after
    let (ds, invalid) := delimitedDigits isDigit inner
    let empty := inner.isEmpty && closed
    let v := digitsIn radix ds
    let errors := (if empty then [(0, "delimited escape sequence cannot be empty")] else []) ++ invalid
    let outOfRange := errors.isEmpty && v ≥ limit
    let errors := errors ++
      (if outOfRange then [(0, name ++ " escape sequence out of range")] else []) ++ unclosed closed
    { value := .unit (v % limit), extra := 1 + inner.length + (if closed then 1 else 0), errors,
      spoils := empty || !invalid.isEmpty || outOfRange }
  if c == 'N' then
    match more with
    | '\x7b' :: after =>
      let (name, closed) := delimitedPart after
      if !closed then failed more.length [(0, "incomplete universal character name")]
      else if name.isEmpty then failed 2 [(0, "delimited escape sequence cannot be empty")]
      else
        match Text.CharacterName.exact (String.ofList name) with
        | some v => universalInLiteral basic v (name.length + 2)
        | none =>
          failed (name.length + 2)
            [(3, "'" ++ String.ofList name ++ "' is not a valid Unicode character name")]
    | _ => failed 0 [(0, "expected '\x7b' after '\\N' escape sequence")]
  else if c == 'u' || c == 'U' then
    match more with
    | '\x7b' :: after =>
      if c == 'U' then failed 0 [(0, "\\U used with no following hex digits")]
      else
        let (inner, closed) := delimitedPart after
        let (ds, invalid) := delimitedDigits isHexDigit inner
        let extra := 1 + inner.length + (if closed then 1 else 0)
        if digitsIn 16 ds ≥ wordLimit then failed extra (invalid ++ [(0, "hex escape sequence out of range")])
        else if !closed then failed extra (invalid ++ unclosed closed)
        else if inner.isEmpty then failed extra [(0, "delimited escape sequence cannot be empty")]
        else if !invalid.isEmpty then failed extra invalid
        else universalInLiteral basic (digitsIn 16 ds) extra
    | _ =>
      let n := if c == 'u' then 4 else 8
      let ds := (more.takeWhile isHexDigit).take n
      if ds.isEmpty then failed 0 [(0, "\\" ++ c.toString ++ " used with no following hex digits")]
      else if ds.length < n then failed ds.length [(0, "incomplete universal character name")]
      else universalInLiteral basic (digitsIn 16 ds) n
  else if c == 'x' then
    match more with
    | '\x7b' :: after => delimitedUnit 16 isHexDigit "hex" after
    | _ =>
      let ds := more.takeWhile isHexDigit
      -- no digits is an error, but the escape keeps the value zero
      if ds.isEmpty then { value := .unit 0, errors := [(0, "\\x used with no following hex digits")] }
      else
        let v := digitsIn 16 ds
        if v ≥ limit then
          { value := .unit (v % limit), extra := ds.length,
            errors := [(0, "hex escape sequence out of range")], spoils := true }
        else { value := .unit v, extra := ds.length }
  else if c == 'o' then
    match more with
    | '\x7b' :: after => delimitedUnit 8 isOctalDigit "octal" after
    | _ =>
      { value := .unit c.toNat, errors := [(0, "expected '\x7b' after '\\o' escape sequence")],
        spoils := true }
  else if isOctalDigit c then
    let ds := (more.takeWhile isOctalDigit).take 2
    let v := digitsIn 8 (c :: ds)
    -- a value too large is cut to the unit, and the literal keeps it
    { value := .unit (v % limit), extra := ds.length,
      errors := if v ≥ limit then [(0, "octal escape sequence out of range")] else [] }
  else { value := .unit ((escapeValue c).getD c.toNat) }

/-- The errors of an escape, with their offsets moved on by `at_`. -/
def Escape.errorsFrom (e : Escape) (at_ : Nat) : List (Nat × String) :=
  e.errors.map fun (o, m) => (at_ + o, m)

namespace CharacterLiteral

/-- Adds an error at a byte offset; `spoils` tells whether it leaves no value. -/
def fail (l : CharacterLiteral) (at_ : Nat) (message : String) (spoils : Bool) :
    CharacterLiteral :=
  { l with errors := l.errors ++ [(at_, message)], spoiled := l.spoiled || spoils }

/-- Reads the characters of a literal's body, `at_` being the byte offset of the first, in a
literal whose units are `width` bits wide and which holds characters up to `largest`; `basic`
tells whether universal character names may name characters of the basic set. An escape takes
one place, also when it fails. -/
def body (width largest : Nat) (basic : Bool) (l : CharacterLiteral) (at_ : Nat) :
    List Char → CharacterLiteral
  | [] => l
  | ['\\'] => l
  | '\\' :: c :: more =>
    let e := readEscape width basic c more
    let l := { l with errors := l.errors ++ e.errorsFrom at_, spoiled := l.spoiled || e.spoils }
    let l := match e.value with
      | .character v =>
        let l := if !e.spoils && v > largest then
            l.fail 0 "character too large for enclosing character literal type" true
          else l
        { l with units := l.units ++ [v] }
      | .unit v => { l with units := l.units ++ [v] }
    body width largest basic l (at_ + 1 + c.utf8Size + bytesOf (more.take e.extra))
      (more.drop e.extra)
  | c :: rest =>
    let l := if c.toNat > largest then
        l.fail 0 "character too large for enclosing character literal type" true
      else l
    body width largest basic { l with units := l.units ++ [c.toNat] } (at_ + c.utf8Size) rest
termination_by cs => cs.length

/-- Reads the spelling of a character literal, prefix and quotes included, on a target with the
model `m`; `c23` tells whether the rules of C23 hold. -/
def read (m : TypeModel) (c23 : Bool) (text : String) : CharacterLiteral :=
  let cs := text.toList
  let (kind, n) : CharKind × Nat := match cs with
    | 'L' :: _ => (.wide, 1)
    | 'u' :: '8' :: _ => (.utf8, 2)
    | 'u' :: _ => (.utf16, 1)
    | 'U' :: _ => (.utf32, 1)
    | _ => (.plain, 0)
  let l := body (kind.widthIn m) (kind.largestIn m) c23 { kind } (n + 1) ((cs.drop (n + 1)).dropLast)
  if l.units.length > 1 && kind != .plain then
    l.fail 0 ((if kind == .wide then "wide" else "Unicode") ++
      " character literals may not contain multiple characters") true
  else l

/-- Whether the literal holds more than one character. -/
def isMultiple (l : CharacterLiteral) : Bool := l.units.length > 1

/-- The warnings about a plain literal of several characters. Each such literal is warned
about, but one of four, the width of its `int`, which is a common idiom; and one whose
characters no longer fit in 32 bits as they are run together is too long, unless it has an
error. -/
def warnings (l : CharacterLiteral) : List String :=
  if l.kind != .plain || !l.isMultiple then []
  else
    let (_, overflows) := l.units.foldl (fun (acc : Nat × Bool) u =>
      ((acc.1 * 256 + u % 256) % Nat.pow 2 32, acc.2 || acc.1 ≥ Nat.pow 2 24)) (0, false)
    (if l.units.length == 4 then [] else ["multi-character character constant"]) ++
      (if overflows && l.errors.isEmpty then ["character constant too long for its type"] else [])

/-- The width in bits and whether it is unsigned, of a literal's value on a target with the
model `m`: a plain literal of several characters is an `int`, a plain one of one character a
`char`, a wide one a `wchar_t`, and the Unicode ones are unsigned of their unit's width. -/
def valueWidth (m : TypeModel) (l : CharacterLiteral) : Nat × Bool :=
  match l.kind with
  | .plain => if l.isMultiple then (32, false) else (8, m.charUnsigned)
  | .wide => (m.wcharType.bitsIn m, m.wcharType.isUnsignedIn m)
  | k => (k.widthIn m, true)

/-- The value of a literal: the characters of a plain literal of several run together a byte
each in 32 bits, otherwise the last one counts; the value is then taken at the literal's
width and signedness. -/
def value (m : TypeModel) (l : CharacterLiteral) : Int :=
  let raw : Nat :=
    if l.kind == .plain && l.isMultiple then
      l.units.foldl (fun acc u => (acc * 256 + u % 256) % Nat.pow 2 32) 0
    else l.units.getLast?.getD 0
  let (width, unsigned) := l.valueWidth m
  let v := raw % Nat.pow 2 width
  if !unsigned && v ≥ Nat.pow 2 (width - 1) then (v : Int) - Int.pow 2 width else v

end CharacterLiteral

/-- The code units that encode a character in units of `width` bits: UTF-8 bytes, UTF-16 units,
or the character itself. -/
def encodeUnits (width : Nat) (v : Nat) : List Nat :=
  if width == 8 then
    if v < 0x80 then [v]
    else if v < 0x800 then [0xC0 + v / 64, 0x80 + v % 64]
    else if v < 0x10000 then [0xE0 + v / 4096, 0x80 + v / 64 % 64, 0x80 + v % 64]
    else [0xF0 + v / 262144, 0x80 + v / 4096 % 64, 0x80 + v / 64 % 64, 0x80 + v % 64]
  else if width == 16 then
    if v < 0x10000 then [v]
    else [0xD800 + (v - 0x10000) / 1024, 0xDC00 + (v - 0x10000) % 1024]
  else [v]

/-- The code units of the body of a string literal whose units are `width` bits wide, its errors
with their byte offsets counted on from `at_`, and whether one of them spoils it; `basic` tells
whether universal character names may name characters of the basic set. -/
def stringBody (width : Nat) (basic : Bool) (at_ : Nat) :
    List Char → List Nat × List (Nat × String) × Bool
  | [] => ([], [], false)
  | ['\\'] => ([], [], false)
  | '\\' :: c :: more =>
    let e := readEscape width basic c more
    let (units, errors, spoiled) :=
      stringBody width basic (at_ + 1 + c.utf8Size + bytesOf (more.take e.extra)) (more.drop e.extra)
    let own := match e.value with
      | .character v => if e.spoils then [] else encodeUnits width v
      | .unit v => [v]
    (own ++ units, e.errorsFrom at_ ++ errors, e.spoils || spoiled)
  | c :: rest =>
    let (units, errors, spoiled) := stringBody width basic (at_ + c.utf8Size) rest
    (encodeUnits width c.toNat ++ units, errors, spoiled)
termination_by cs => cs.length

/-- Whether an escape letter may stand in a string that is not evaluated: the simple escapes of
the standard and universal character names. -/
def isPlainEscape (c : Char) : Bool := "'\"?\\abfnrtvuUN".toList.contains c

/-- How the body of a string literal reads where it is not evaluated, as the message of a
static assertion: the simple escapes and universal character names stand for their
characters, and every other escape is an error. The errors come with their byte offsets,
counted on from `at_`; `basic` tells whether universal character names may name characters of
the basic set. -/
def unevaluatedBody (basic : Bool) (at_ : Nat) : List Char → List Char × List (Nat × String)
  | [] => ([], [])
  | ['\\'] => ([], [])
  | '\\' :: c :: more =>
    let e := readEscape 8 basic c more
    let spelling := String.ofList ('\\' :: c :: more.take e.extra)
    let (t, errs) :=
      unevaluatedBody basic (at_ + 1 + c.utf8Size + bytesOf (more.take e.extra)) (more.drop e.extra)
    let own : List Char := match e.value with
      | .character v => if e.spoils then [] else [Char.ofNat v]
      | .unit v => if isPlainEscape c then [Char.ofNat v] else []
    let invalid := if isPlainEscape c then []
      else [(at_, "invalid escape sequence '" ++ spelling ++ "' in an unevaluated string literal")]
    (own ++ t, e.errorsFrom at_ ++ invalid ++ errs)
  | c :: rest =>
    let (t, errs) := unevaluatedBody basic (at_ + c.utf8Size) rest
    (c :: t, errs)
termination_by cs => cs.length

/-- The kind of a string literal's spelling, by its prefix, the byte offset of its body, and its
body between the quotes. -/
def stringPiece (text : String) : CharKind × Nat × List Char :=
  let cs := text.toList
  let (kind, n) : CharKind × Nat := match cs with
    | 'L' :: _ => (.wide, 1)
    | 'u' :: '8' :: _ => (.utf8, 2)
    | 'u' :: _ => (.utf16, 1)
    | 'U' :: _ => (.utf32, 1)
    | _ => (.plain, 0)
  (kind, n + 1, (cs.drop (n + 1)).dropLast)

/-- Adjacent string literals read together: their kind, their code units, their errors, each
with the index of the literal it is in and its byte offset there, and whether an error leaves
them without a value. -/
structure StringLiteral where
  kind : CharKind
  units : List Nat
  errors : List (Nat × Nat × String)
  spoiled : Bool
deriving Inhabited

/-- Reads adjacent string literals on a target with the model `m`: the kind is that of the first
one with a prefix, and every one is encoded in it; `basic` tells whether universal character
names may name characters of the basic set. -/
def joinStrings (m : TypeModel) (basic : Bool) (texts : List String) : StringLiteral :=
  let pieces := texts.map stringPiece
  let kind := ((pieces.map (·.1)).find? (· != .plain)).getD .plain
  let read := pieces.map fun (_, start, body) => stringBody (kind.widthIn m) basic start body
  { kind, units := read.flatMap (·.1),
    errors := (read.zipIdx.map fun ((_, errors, _), i) => errors.map fun (o, msg) => (i, o, msg)).flatten,
    spoiled := read.any (·.2.2) }

end NativeBindings.Header
