import NativeBindings.Header.DriverOption.Table
import NativeBindings.Header.Warnings

/-!
# Arguments the compiler driver does not know

The driver reads its arguments against its table of options (`driverOptionTable`). An argument
that does not start with a dash, or is a dash alone, names an input, and so does every argument
after `--`. Another is matched against the spellings of the options: an option that stands alone
matches only itself, one whose value is joined to it matches every argument it begins, and one
that takes its value or values from the arguments after it takes them. An argument that matches
nothing is reported as unknown.

The report suggests the spelling nearest the argument: the one at the least edit distance, the
first in the table among equals, when that distance is at most one. A spelling that ends in `=`
or `:` is compared with the argument up to that character and suggests itself with the rest of
the argument after it; when that rest is empty it counts one more. Names of fewer than four
characters are not suggested. When no spelling of the driver is near, a spelling of the front
end that the argument matches exactly is suggested behind `-Xclang`, which passes the argument
after it on to the front end.
-/

namespace NativeBindings.Header

/-- What the driver does with an option. -/
inductive OptionShape where
  /-- The option stands alone. -/
  | flag
  /-- Its value follows it in the same argument. -/
  | joined
  /-- It takes this many arguments after it. -/
  | separate (count : Nat)
  /-- Its value follows it in the same argument or is the next argument. -/
  | joinedOrSeparate
deriving DecidableEq, Repr, Inhabited

/-- An option of the table: its spelling, what the driver does with it (nothing when only the
front end knows it), and whether the front end knows it. -/
structure DriverOption where
  spelling : String
  shape : Option OptionShape
  frontEnd : Bool
deriving Repr, Inhabited

namespace DriverOption

/-- The shape a letter of `driverOptionTable` stands for; `some none` for an option that only
the front end knows. -/
def shapeOfLetter? : Char → Option (Option OptionShape)
  | 'f' => some (some .flag)
  | 'j' => some (some .joined)
  | 's' => some (some (.separate 1))
  | 'b' => some (some .joinedOrSeparate)
  | '2' => some (some (.separate 2))
  | '3' => some (some (.separate 3))
  | 'n' => some none
  | _ => none

/-- Reads one word of `driverOptionTable`. -/
def ofWord? (w : String) : Option DriverOption :=
  match w.toList with
  | k :: rest =>
    let (frontEnd, spelling) := match rest with
      | '+' :: s => (true, s)
      | s => (false, s)
    (shapeOfLetter? k).map fun shape => { spelling := String.ofList spelling, shape, frontEnd }
  | [] => none

/-- Whether the driver takes an argument as this option. -/
def takes (o : DriverOption) (a : String) : Bool :=
  match o.shape with
  | none => false
  | some .joined | some .joinedOrSeparate => a.startsWith o.spelling
  | some _ => a == o.spelling

/-- How many of the arguments after it an argument spelled as this option takes. -/
def valuesAfter (o : DriverOption) : Nat :=
  match o.shape with
  | some (.separate n) => n
  | some .joinedOrSeparate => 1
  | _ => 0

/-- The name of the option: its spelling without the leading dash, or the two leading dashes. -/
def name (o : DriverOption) : String :=
  if o.spelling.startsWith "--" then (o.spelling.drop 2).toString else (o.spelling.drop 1).toString

/-- How far the spelling is from an argument, with the suggestion it makes (see the module
header). -/
def distance (o : DriverOption) (a : String) : Nat × String :=
  match o.spelling.toList.getLast? with
  | some d =>
    if d == '=' || d == ':' then
      let (before, after) := a.toList.span (· != d)
      let (compared, value) := match after with
        | _ :: value => (before ++ [d], value)
        | [] => (before, [])
      (editDistance o.spelling.toList compared + (if value.isEmpty then 1 else 0),
        o.spelling ++ String.ofList value)
    else (editDistance o.spelling.toList a.toList, o.spelling)
  | none => (editDistance [] a.toList, o.spelling)

end DriverOption

/-- The options of `driverOptionTable`, in order. -/
def driverOptions : List DriverOption :=
  ((" ".intercalate driverOptionTable).splitOn " ").filterMap DriverOption.ofWord?

/-- The suggestion nearest an argument among some options, with its distance: the first at the
least distance, names of fewer than four characters left out. -/
def nearestSpelling (a : String) (os : List DriverOption) : Option (Nat × String) :=
  os.foldl (fun best o =>
    if o.name.length < 4 then best
    else
      let (d, s) := o.distance a
      match best with
      | some (bd, _) => if d < bd then some (d, s) else best
      | none => some (d, s)) none

/-- The error about an argument that the driver does not know, with a suggestion when one is
near (see the module header). -/
def unknownArgumentMessage (a : String) : String :=
  let frontEnd : String :=
    match nearestSpelling a (driverOptions.filter (·.frontEnd)) with
    | some (0, s) => "unknown argument '" ++ a ++ "'; did you mean '-Xclang " ++ s ++ "'?"
    | _ => "unknown argument: '" ++ a ++ "'"
  match nearestSpelling a (driverOptions.filter (·.shape.isSome)) with
  | some (d, s) =>
    if d ≤ 1 then "unknown argument '" ++ a ++ "'; did you mean '" ++ s ++ "'?" else frontEnd
  | none => frontEnd

/-- The arguments that the driver does not know, in order. -/
def unknownArguments (args : List String) : List String :=
  go args.length args
where
  /-- Reads the arguments left, with fuel for each of them. -/
  go : Nat → List String → List String
    | 0, _ => []
    | _, [] => []
    | fuel + 1, a :: rest =>
      if a == "--" then []
      else if a == "-" || !a.startsWith "-" then go fuel rest
      else
        match driverOptions.find? (fun o => o.shape.isSome && o.spelling == a) with
        | some o => go fuel (rest.drop o.valuesAfter)
        | none => if driverOptions.any (·.takes a) then go fuel rest else a :: go fuel rest

/-- The errors of the driver about the arguments it does not know, in order. -/
def unknownArgumentErrors (args : List String) : List String :=
  (unknownArguments args).map unknownArgumentMessage

end NativeBindings.Header
