import NativeBindings.Json.Value
import NativeBindings.Json.Binary64
import NativeBindings.Text.Digits
import NativeBindings.Text.Blank

/-!
# Reading typed records from JSON, leniently

Configuration and declarations arrive as JSON objects whose members are checked one by one.
The checks are lenient in the usual way for such schemas: a flag may be written `"yes"`, `1` or
`"off"`, a number `"3"`, `"1_000"` or `3.0`, but text must be text and a list a list. A number
written with a fraction or an exponent counts as the double nearest to it. Every member is
checked, and all the problems found are reported together, each as an `Issue` with the path to
the offending member and the name of the kind of problem (`missing`, `string_type`,
`int_parsing`, …).

`Validated` is the applicative that collects the issues of independent checks.
-/

namespace NativeBindings.Json

open Text (isDigit digitsValue isWhiteSpace)

/-- A problem with one member: where it is, and what kind it is. -/
structure Issue where
  loc : List String
  kind : String
deriving Inhabited, Repr, DecidableEq

/-- The same issue, one level deeper under `key`. -/
def Issue.under (key : String) (i : Issue) : Issue := { i with loc := key :: i.loc }

/-- A checked value, or every issue found while checking it. -/
inductive Validated (α : Type) where
  | ok (a : α)
  | issues (found : List Issue)
deriving Inhabited, Repr

namespace Validated

/-- Applies a function to a checked value. -/
def map {α β : Type} (f : α → β) : Validated α → Validated β
  | ok a => ok (f a)
  | issues is => issues is

/-- Combines two independent checks; the issues of both are kept, in order. -/
def seq {α β : Type} : Validated (α → β) → Validated α → Validated β
  | ok f, ok a => ok (f a)
  | ok _, issues is => issues is
  | issues is, ok _ => issues is
  | issues is, issues js => issues (is ++ js)

instance : Functor Validated := ⟨map, fun b v => map (fun _ => b) v⟩

instance : Applicative Validated where
  pure := ok
  seq f x := seq f (x ())

/-- Continues with a check that needs the value; stops at the first issues. -/
def andThen {α β : Type} : Validated α → (α → Validated β) → Validated β
  | ok a, k => k a
  | issues is, _ => issues is

/-- All issues one level deeper under `key`. -/
def under {α : Type} (key : String) : Validated α → Validated α
  | ok a => ok a
  | issues is => issues (is.map (Issue.under key))

/-- The outcome as an `Except`. -/
def toExcept {α : Type} : Validated α → Except (List Issue) α
  | ok a => .ok a
  | issues is => .error is

end Validated

/-- A check of one value: the value read, or the kind of problem. -/
abbrev Check (α : Type) := Value → Except String α

/-- Text only. -/
def asString : Check String
  | .str s _ => .ok s
  | _ => .error "string_type"

/-- The words read as `false`. -/
def falseWords : List String := ["0", "off", "f", "false", "n", "no"]

/-- The words read as `true`. -/
def trueWords : List String := ["1", "on", "t", "true", "y", "yes"]

/-- The whole number that a double stands for, when it is finite, integral and inside the range
of 64-bit integers (both ends excluded); otherwise the kind of problem. -/
def doubleAsInt (d : Binary64) : Except String Int :=
  match d with
  | .infinite _ => .error "finite_number"
  | .finite .. =>
    match d.toInt? with
    | none => .error "int_from_float"
    | some v => if -Int.pow 2 63 < v && v < Int.pow 2 63 then .ok v else .error "int_parsing_size"

/-- A flag: a boolean, `0` or `1` (also as a double), or one of the flag words in any case. A
double that is not a whole number of 64 bits is no flag at all. -/
def asBool : Check Bool
  | .bool b => .ok b
  | .int 0 => .ok false
  | .int 1 => .ok true
  | .int _ => .error "bool_parsing"
  | .float m e =>
    match doubleAsInt (Binary64.ofJson m e) with
    | .ok 0 => .ok false
    | .ok 1 => .ok true
    | .ok _ => .error "bool_parsing"
    | .error _ => .error "bool_type"
  | .nonFinite _ => .error "bool_type"
  | .str s _ =>
    let w := s.toLower
    if falseWords.contains w then .ok false
    else if trueWords.contains w then .ok true
    else .error "bool_parsing"
  | _ => .error "bool_type"

/-- The characters of a text without the white space around it. -/
def trimmed (s : String) : List Char :=
  (s.toList.dropWhile isWhiteSpace).reverse.dropWhile isWhiteSpace |>.reverse

/-- Digits with single underscores between them: the digits, or none when an underscore
starts, ends or doubles. -/
def withoutUnderscores (cs : List Char) : Option (List Char) :=
  if !cs.contains '_' then some cs
  else if cs.head? == some '_' || cs.getLast? == some '_' || (cs.zip (cs.drop 1)).any (· == ('_', '_'))
  then none
  else some (cs.filter (· != '_'))

/-- The most digits an integer written as text may have. -/
def maxIntDigits : Nat := 4300

/-- The digits of an integer in the strict form of a JSON number: an optional `-`, then `0` or
digits without a leading zero. -/
def strictIntDigits? (cs : List Char) : Option (Bool × List Char) :=
  let (neg, body) := match cs with
    | '-' :: r => (true, r)
    | r => (false, r)
  if body.isEmpty || !body.all isDigit || (body.length > 1 && body.head? == some '0') then none
  else some (neg, body)

/-- An integer written as text in the lenient form: blanks around it, an optional sign, digits
with single underscores between them, and optionally a point followed by one or more zeros.
The digits after leading zeros are the ones that count towards the limit. -/
def lenientIntDigits? (s : String) : Option (Bool × List Char) := do
  let cs := trimmed s
  let whole := cs.takeWhile (· != '.')
  let frac := cs.dropWhile (· != '.')
  let fracOk := match frac with
    | [] => true
    | _ :: zs => !zs.isEmpty && zs.all (· == '0')
  if !fracOk then none
  let whole ← withoutUnderscores whole
  let (neg, body) := match whole with
    | '-' :: r => (true, r)
    | '+' :: r => (false, r)
    | r => (false, r)
  if body.isEmpty || !body.all isDigit then none
  else some (neg, body.dropWhile (· == '0'))

/-- An integer written as text. The strict form of a JSON number is read first, and one with
more than `maxIntDigits` digits is too large; otherwise the lenient form is read, and one with
too many significant digits is no integer. -/
def parseIntText (s : String) : Except String Int :=
  let signed (neg : Bool) (ds : List Char) : Int :=
    let n : Int := digitsValue ds
    if neg then -n else n
  match strictIntDigits? s.toList with
  | some (neg, ds) => if ds.length > maxIntDigits then .error "int_parsing_size" else .ok (signed neg ds)
  | none =>
    match lenientIntDigits? s with
    | some (neg, ds) => if ds.length > maxIntDigits then .error "int_parsing" else .ok (signed neg ds)
    | none => .error "int_parsing"

/-- An integer: an integer, a flag, a double that is a whole number of 64 bits, or integer
text. -/
def asInt : Check Int
  | .int i => .ok i
  | .bool b => .ok (if b then 1 else 0)
  | .float m e => doubleAsInt (Binary64.ofJson m e)
  | .nonFinite _ => .error "finite_number"
  | .str s _ => parseIntText s
  | _ => .error "int_type"

/-- A check that also accepts `null`, as `none`. -/
def nullable {α : Type} (check : Check α) : Check (Option α)
  | .null => .ok none
  | v => (check v).map some

/-- Turns the outcome of a check into a validated value at the current place. -/
def Check.here {α : Type} (r : Except String α) : Validated α :=
  match r with
  | .ok a => .ok a
  | .error k => .issues [⟨[], k⟩]

/-- A member that must be present. -/
def required {α : Type} (members : List (String × Value)) (key : String) (check : Check α) :
    Validated α :=
  match Value.member? members key with
  | none => .issues [⟨[key], "missing"⟩]
  | some v => (Check.here (check v)).under key

/-- A member with a default. -/
def optional {α : Type} (members : List (String × Value)) (key : String) (default : α)
    (check : Check α) : Validated α :=
  match Value.member? members key with
  | none => .ok default
  | some v => (Check.here (check v)).under key

/-- A list of items, each checked with its index as its place. -/
def itemsOf {α β : Type} (check : β → Validated α) (items : List β) : Validated (List α) :=
  go 0 items
where
  go (i : Nat) : List β → Validated (List α)
    | [] => .ok []
    | v :: vs => (List.cons <$> (check v).under (toString i)) <*> go (i + 1) vs

/-- A list of values of one kind; anything else is a `list_type` issue. -/
def listOf {α : Type} (check : Check α) : Value → Validated (List α)
  | .arr items => itemsOf (fun v => Check.here (check v)) items
  | _ => .issues [⟨[], "list_type"⟩]

end NativeBindings.Json
