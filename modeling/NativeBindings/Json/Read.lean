import NativeBindings.Json.Value
import NativeBindings.Text.Digits

/-!
# Reading JSON text

`parse` reads one JSON document. Besides standard JSON it accepts the names `NaN`, `Infinity`
and `-Infinity`. Blanks are space, tab, line feed and carriage return; a leading byte-order
mark is refused. A failure names the first place where the text stops being JSON, counted in
characters from the start, and says what was expected there:

* `Expecting value` where no value starts;
* `Expecting property name enclosed in double quotes`, `Expecting ':' delimiter` and
  `Expecting ',' delimiter` inside objects and arrays;
* `Unterminated string starting at`, `Invalid control character at`, `Invalid \escape` and
  `Invalid \uXXXX escape` inside strings;
* `Extra data` where text follows the document.

`DecodeError.render` adds the line and column of that place: `msg: line L column C (char P)`.

Reading also gives up, without a place, on a whole number of more than 4300 digits, which it
does not convert, and on arrays and objects nested `nestingLimit` deep, where the reader runs
out of room for its recursion. Reading goes from the start, so the first of these failures met
is the one given.
-/

namespace NativeBindings.Json

open Text (isDigit digitsValue)

/-- Where and why a text is not JSON. -/
structure DecodeError where
  message : String
  pos : Nat
deriving Inhabited, Repr, DecidableEq

/-- Why reading a text failed: it is not JSON; or a whole number in it has more digits than
are converted, with the number of its digits; or its arrays and objects nest too deep. -/
inductive ReadFailure where
  | invalid (e : DecodeError)
  | tooManyDigits (digits : Nat)
  | tooDeep
deriving Inhabited, Repr, DecidableEq

/-- The most digits a whole number may have. -/
def digitLimit : Nat := 4300

/-- The depth of nesting at which an array or object is too deep to read. -/
def nestingLimit : Nat := 990

/-- The error text, with the line and column of its place in the text `src`. -/
def DecodeError.render (e : DecodeError) (src : List Char) : String :=
  let before := src.take e.pos
  let line := before.count '\n' + 1
  let col := match (before.reverse.findIdx? (· == '\n')) with
    | some k => k + 1
    | none => e.pos + 1
  e.message ++ ": line " ++ toString line ++ " column " ++ toString col ++ " (char " ++
    toString e.pos ++ ")"

/-- JSON blanks. -/
def isBlank (c : Char) : Bool := c == ' ' || c == '\t' || c == '\n' || c == '\r'

/-- Skips blanks, counting them. -/
def skipBlanks : List Char → Nat → List Char × Nat
  | c :: cs, pos => if isBlank c then skipBlanks cs (pos + 1) else (c :: cs, pos)
  | [], pos => ([], pos)

/-- The value of a hexadecimal digit. -/
def hexValue? (c : Char) : Option Nat :=
  if '0' ≤ c && c ≤ '9' then some (c.toNat - '0'.toNat)
  else if 'a' ≤ c && c ≤ 'f' then some (c.toNat - 'a'.toNat + 10)
  else if 'A' ≤ c && c ≤ 'F' then some (c.toNat - 'A'.toNat + 10)
  else none

/-- The value of four hexadecimal digits. -/
def hex4? : List Char → Option Nat
  | [a, b, c, d] => do
    let a ← hexValue? a
    let b ← hexValue? b
    let c ← hexValue? c
    let d ← hexValue? d
    pure (((a * 16 + b) * 16 + c) * 16 + d)
  | _ => none

/-- A code point as a character; a lone surrogate becomes the replacement character. -/
def codeChar (n : Nat) : Char :=
  if n < 0xd800 || (0xdfff < n && n < 0x110000) then Char.ofNat n else '�'

/-- The character of a one-letter escape. -/
def simpleEscape? : Char → Option Char
  | '"' => some '"'
  | '\\' => some '\\'
  | '/' => some '/'
  | 'b' => some '\x08'
  | 'f' => some '\x0c'
  | 'n' => some '\n'
  | 'r' => some '\r'
  | 't' => some '\t'
  | _ => none

/-- Reads the rest of a string whose opening quote stood at `start`; `pos` is the place of the
first unread character. Returns the text with its unpaired surrogate codes, the rest and its
place. Every step reads at least one character, so `fuel` above the length of the text
suffices. -/
def readString (start : Nat) : Nat → List Char → Nat → List Char → List Unpaired →
    Except DecodeError ((String × List Unpaired) × List Char × Nat)
  | 0, _, _, _, _ => .error ⟨"Unterminated string starting at", start⟩
  | fuel + 1, cs, pos, acc, lone =>
    let single (n : Nat) : List Unpaired :=
      if 0xd800 ≤ n && n ≤ 0xdfff then ⟨acc.length, n⟩ :: lone else lone
    match cs with
    | [] => .error ⟨"Unterminated string starting at", start⟩
    | '"' :: rest => .ok ((String.ofList acc.reverse, lone.reverse), rest, pos + 1)
    | '\\' :: rest =>
      match rest with
      | [] => .error ⟨"Unterminated string starting at", start⟩
      | 'u' :: more =>
        -- four digits must be followed by at least one more character
        if more.length ≤ 4 then .error ⟨"Invalid \\uXXXX escape", pos + 1⟩
        else
          match hex4? (more.take 4) with
          | none => .error ⟨"Invalid \\uXXXX escape", pos + 1⟩
          | some hi =>
            let after := more.drop 4
            if 0xd800 ≤ hi && hi ≤ 0xdbff && after.length > 6 && after.take 2 == ['\\', 'u'] then
              match hex4? ((after.drop 2).take 4) with
              | none => .error ⟨"Invalid \\uXXXX escape", pos + 7⟩
              | some lo =>
                if 0xdc00 ≤ lo && lo ≤ 0xdfff then
                  let c := codeChar (0x10000 + (hi - 0xd800) * 0x400 + (lo - 0xdc00))
                  readString start fuel (after.drop 6) (pos + 12) (c :: acc) lone
                else readString start fuel after (pos + 6) (codeChar hi :: acc) (single hi)
            else readString start fuel after (pos + 6) (codeChar hi :: acc) (single hi)
      | e :: more =>
        match simpleEscape? e with
        | some c => readString start fuel more (pos + 2) (c :: acc) lone
        | none => .error ⟨"Invalid \\escape", pos⟩
    | c :: rest =>
      if c.toNat ≤ 0x1f then .error ⟨"Invalid control character at", pos⟩
      else readString start fuel rest (pos + 1) (c :: acc) lone

/-- Reads a number at `pos`: `-`, an integer part without leading zeros, an optional fraction
and an optional exponent (an `e` without digits is left unread). `none` when no number starts. -/
def readNumber (cs : List Char) (pos : Nat) : Option (Value × List Char × Nat) :=
  let (neg, cs1) := match cs with
    | '-' :: r => (true, r)
    | r => (false, r)
  let whole := match cs1 with
    | '0' :: _ => ['0']
    | c :: r => if isDigit c then c :: r.takeWhile isDigit else []
    | [] => []
  if whole.isEmpty then none
  else
    let cs2 := cs1.drop whole.length
    let frac := match cs2 with
      | '.' :: d :: r => if isDigit d then d :: r.takeWhile isDigit else []
      | _ => []
    let cs3 := if frac.isEmpty then cs2 else cs2.drop (frac.length + 1)
    let (expDigits, expNeg, expLen) := match cs3 with
      | e :: r =>
        if e == 'e' || e == 'E' then
          let (sgn, r2, k) := match r with
            | '-' :: r2 => (true, r2, 2)
            | '+' :: r2 => (false, r2, 2)
            | r2 => (false, r2, 1)
          let ds := r2.takeWhile isDigit
          if ds.isEmpty then ([], false, 0) else (ds, sgn, k + ds.length)
        else ([], false, 0)
      | [] => ([], false, 0)
    let rest := cs3.drop expLen
    let used := (if neg then 1 else 0) + whole.length + (if frac.isEmpty then 0 else frac.length + 1) + expLen
    let mantissa : Int := digitsValue (whole ++ frac)
    let mantissa := if neg then -mantissa else mantissa
    let expValue : Int := digitsValue expDigits
    let exponent := (if expNeg then -expValue else expValue) - frac.length
    if frac.isEmpty && expDigits.isEmpty then some (.int mantissa, rest, pos + used)
    else some (.float mantissa exponent, rest, pos + used)

/-- The keyword values, tried in order at the start of a value. -/
def namedValues : List (String × Value) :=
  [("null", .null), ("true", .bool true), ("false", .bool false), ("NaN", .nonFinite "NaN"),
   ("Infinity", .nonFinite "Infinity"), ("-Infinity", .nonFinite "-Infinity")]

/-- A keyword value at the start of the text, and its length. -/
def readNamed (cs : List Char) : Option (Value × Nat) :=
  (namedValues.find? (fun nv => nv.1.toList.isPrefixOf cs)).map fun nv => (nv.2, nv.1.length)

mutual

/-- Reads one value at `pos`, inside `depth` arrays and objects. -/
def readValue : Nat → Nat → List Char → Nat → Except ReadFailure (Value × List Char × Nat)
  | 0, _, _, pos => .error (.invalid ⟨"Expecting value", pos⟩)
  | fuel + 1, depth, cs, pos =>
    match cs with
    | '"' :: rest =>
      match readString pos (rest.length + 1) rest (pos + 1) [] [] with
      | .ok ((s, lone), rest, p) => .ok (.str s lone, rest, p)
      | .error e => .error (.invalid e)
    | '{' :: rest =>
      if depth + 1 ≥ nestingLimit then .error .tooDeep
      else
        let (rest, p) := skipBlanks rest (pos + 1)
        match rest with
        | '}' :: r => .ok (.obj [], r, p + 1)
        | _ => readMembers fuel (depth + 1) rest p []
    | '[' :: rest =>
      if depth + 1 ≥ nestingLimit then .error .tooDeep
      else
        let (rest, p) := skipBlanks rest (pos + 1)
        match rest with
        | ']' :: r => .ok (.arr [], r, p + 1)
        | _ => readItems fuel (depth + 1) rest p []
    | _ =>
      match readNamed cs with
      | some (v, n) => .ok (v, cs.drop n, pos + n)
      | none =>
        match readNumber cs pos with
        | some r@(.int _, _, p) =>
          let digits := ((cs.take (p - pos)).filter isDigit).length
          if digits > digitLimit then .error (.tooManyDigits digits) else .ok r
        | some r => .ok r
        | none => .error (.invalid ⟨"Expecting value", pos⟩)

/-- Reads the members of an object from the first key on, inside `depth` arrays and objects
counting this one. -/
def readMembers : Nat → Nat → List Char → Nat → List (String × Value) →
    Except ReadFailure (Value × List Char × Nat)
  | 0, _, _, pos, _ => .error (.invalid ⟨"Expecting value", pos⟩)
  | fuel + 1, depth, cs, pos, acc =>
    match cs with
    | '"' :: rest =>
      match readString pos (rest.length + 1) rest (pos + 1) [] [] with
      | .error e => .error (.invalid e)
      | .ok ((key, _), rest, p) =>
        let (rest, p) := skipBlanks rest p
        match rest with
        | ':' :: rest =>
          let (rest, p) := skipBlanks rest (p + 1)
          match readValue fuel depth rest p with
          | .error e => .error e
          | .ok (v, rest, p) =>
            let acc := (key, v) :: acc
            let (rest, p) := skipBlanks rest p
            match rest with
            | '}' :: r => .ok (.obj acc.reverse, r, p + 1)
            | ',' :: r =>
              let (r, p) := skipBlanks r (p + 1)
              readMembers fuel depth r p acc
            | _ => .error (.invalid ⟨"Expecting ',' delimiter", p⟩)
        | _ => .error (.invalid ⟨"Expecting ':' delimiter", p⟩)
    | _ => .error (.invalid ⟨"Expecting property name enclosed in double quotes", pos⟩)

/-- Reads the items of an array from the first item on, inside `depth` arrays and objects
counting this one. -/
def readItems : Nat → Nat → List Char → Nat → List Value →
    Except ReadFailure (Value × List Char × Nat)
  | 0, _, _, pos, _ => .error (.invalid ⟨"Expecting value", pos⟩)
  | fuel + 1, depth, cs, pos, acc =>
    match readValue fuel depth cs pos with
    | .error e => .error e
    | .ok (v, rest, p) =>
      let acc := v :: acc
      let (rest, p) := skipBlanks rest p
      match rest with
      | ']' :: r => .ok (.arr acc.reverse, r, p + 1)
      | ',' :: r =>
        let (r, p) := skipBlanks r (p + 1)
        readItems fuel depth r p acc
      | _ => .error (.invalid ⟨"Expecting ',' delimiter", p⟩)

end

/-- Reads a JSON document that makes up the whole text. -/
def parse (text : String) : Except ReadFailure Value :=
  let cs := text.toList
  match cs with
  | '\uFEFF' :: _ => .error (.invalid ⟨"Unexpected UTF-8 BOM (decode using utf-8-sig)", 0⟩)
  | _ =>
    let (rest, p) := skipBlanks cs 0
    match readValue (2 * cs.length + 2) 0 rest p with
    | .error e => .error e
    | .ok (v, rest, p) =>
      let (rest, p) := skipBlanks rest p
      if rest.isEmpty then .ok v else .error (.invalid ⟨"Extra data", p⟩)

end NativeBindings.Json
