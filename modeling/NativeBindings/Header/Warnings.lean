import NativeBindings.Header.Token
import NativeBindings.Header.Features

/-!
# What options and pragmas make of warnings

A warning has a class (`Severity`) and a group, whose name the options `-Wgroup`,
`-Wno-group`, `-Werror=group` and `-Wno-error=group` and the pragmas `clang diagnostic` use. A
group may lie inside others (`groupParents`): `-Wno-gnu` silences `zero-length-array` too. The
group `pedantic` holds besides its own every extension that is off by default.

The level of a warning (`Level`) starts from its class and goes through the warning options in
order, then through the diagnostic pragmas that come before it (`WarningOptions.levelAt`):

* `-Wgroup` makes the warnings of the group warnings, and `-Wno-group` silences them; a warning
  made an error stays one when it is asked for again as a warning;
* `-Werror` makes every warning that is shown an error, `-Werror=group` makes those of the
  group errors, shown or not, and `-Wno-error=group` keeps them warnings whatever `-Werror`
  says; `-Wfatal-errors` does the same for errors, which it makes fatal;
* `-Weverything` shows the warnings that are off, unless an option or pragma named them, and
  `-Wno-everything` silences every warning;
* `-pedantic` shows the extensions that no option or pragma named, and `-pedantic-errors`
  makes them errors;
* `-w` silences every warning that is not an error by default.

A pragma that asks for a warning keeps it one whatever `-Werror` says.

Only errors are part of the result, so a warning is kept where it ends an error or a fatal
error. An option naming no group is itself warned about (`unknownOptionWarnings`), with the
group of the nearest name when one is nearest.
-/

namespace NativeBindings.Header

/-- The levels a message may end at, from silenced to fatal. -/
inductive Level where
  | ignored
  | warning
  | error
  | fatal
deriving DecidableEq, Inhabited, Repr

namespace Level

/-- The rank of a level, in the order of the constructors. -/
def rank : Level → Nat
  | .ignored => 0
  | .warning => 1
  | .error => 2
  | .fatal => 3

/-- The higher of two levels. -/
def max (a b : Level) : Level := if a.rank ≥ b.rank then a else b

/-- Whether a level makes a message part of the result. -/
def shown (l : Level) : Bool := l.rank ≥ 2

end Level

/-- The level a warning of a class starts at. -/
def Severity.defaultLevel : Severity → Level
  | .warning | .extWarning => .warning
  | .ignored | .extension => .ignored
  | .defaultError => .error

/-- The groups that hold each group directly, for the groups whose warnings are read here and
those that hold them. -/
def groupParents : List (String × List String) :=
  [("unknown-pragmas", ["pragmas", "most"]), ("ignored-pragmas", ["pragmas"]),
   ("pragma-pack", ["pragmas"]), ("pragma-pack-suspicious-include", ["pragma-pack"]),
   ("pragma-clang-attribute", ["pragmas"]),
   ("unknown-attributes", ["attributes"]), ("ignored-attributes", ["attributes"]),
   ("implicit-int", ["implicit"]), ("implicit-function-declaration", ["implicit"]),
   ("implicit", ["most"]), ("most", ["all"]), ("multichar", ["most"]), ("trigraphs", ["most"]),
   ("comment", ["most"]), ("unused", ["most"]), ("unused-macros", []),
   ("int-conversion", ["conversion"]), ("constant-conversion", ["conversion"]),
   ("literal-conversion", ["conversion"]), ("float-conversion", ["conversion"]),
   ("float-overflow-conversion", ["float-conversion"]),
   ("float-zero-conversion", ["float-conversion"]),
   ("bool-conversion", ["conversion"]), ("null-conversion", ["conversion"]),
   ("shorten-64-to-32", ["conversion"]), ("sign-conversion", ["conversion"]),
   ("implicit-int-conversion", ["conversion"]), ("implicit-float-conversion", ["conversion"]),
   ("incompatible-function-pointer-types", ["incompatible-pointer-types"]),
   ("incompatible-pointer-types-discards-qualifiers", ["incompatible-pointer-types"]),
   ("zero-length-array", ["gnu"]), ("gnu-empty-struct", ["gnu"]),
   ("gnu-include-next", ["gnu"]), ("gnu-zero-variadic-macro-arguments", ["gnu"]),
   ("gnu-folding-constant", ["gnu"]), ("gnu-designator", ["gnu"]),
   ("gnu-statement-expression", ["gnu"]), ("gnu-conditional-omitted-operand", ["gnu"]),
   ("gnu-anonymous-struct", ["gnu"]), ("gnu-alignof-expression", ["gnu"]),
   ("gnu-case-range", ["gnu"]), ("gnu-complex-integer", ["gnu"]),
   ("gnu-imaginary-constant", ["gnu"]), ("gnu-label-as-value", ["gnu"]),
   ("gnu-line-marker", ["gnu"]), ("gnu-null-pointer-arithmetic", ["gnu"]),
   ("gnu-pointer-arith", ["gnu", "pointer-arith"]), ("gnu-union-cast", ["gnu"]),
   ("gnu-variable-sized-type-not-at-end", ["gnu"]), ("gnu-zero-line-directive", ["gnu"]),
   ("gnu-flexible-array-initializer", ["gnu"]), ("gnu-offsetof-extensions", ["gnu"]),
   ("gnu-binary-literal", ["gnu"]), ("gnu-auto-type", ["gnu"]),
   ("gnu-compound-literal-initializer", ["gnu"]), ("vla-extension", ["gnu"]),
   ("deprecated-non-prototype", ["strict-prototypes"]),
   ("deprecated-declarations", ["deprecated"]),
   ("c++11-extra-semi", ["extra-semi"]),
   ("c2x-extensions", ["c23-extensions"]),
   ("shift-count-negative", ["shift-count"]), ("shift-count-overflow", ["shift-count"]),
   ("pragma-system-header-outside-header", []), ("pragma-once-outside-header", [])]

/-- The groups that hold a group, itself first, to depth `fuel`. -/
def groupAncestors : Nat → String → List String
  | 0, g => [g]
  | fuel + 1, g =>
    g :: ((groupParents.lookup g).getD []).flatMap (groupAncestors fuel)

/-- Whether a warning belongs to a group: its own, one that holds it, or `pedantic` for an
extension that is off by default. -/
def Warning.inGroup (w : Warning) (g : String) : Bool :=
  (!w.group.isEmpty && (groupAncestors 8 w.group).contains g) ||
    (g == "pedantic" && w.severity == .extension)

/-- What the options and pragmas have said about one warning: its level, whether they named it
(`user`), and whether `-Werror` and `-Wfatal-errors` leave it as it is. -/
structure Mapping where
  level : Level
  user : Bool := false
  noWerror : Bool := false
  noFatal : Bool := false
deriving Inhabited, Repr

/-- The mapping that an option or pragma asking for a level gives: a warning asked for stays an
error or fatal error that it already is. -/
def Mapping.set (m : Mapping) (l : Level) : Mapping :=
  let l := if l == .warning && (m.level == .error || m.level == .fatal) then m.level else l
  { level := l, user := true, noWerror := m.noWerror }

/-- The state of the options and pragmas for one warning: its mapping, and whether warnings are
errors (`-Werror`), errors fatal (`-Wfatal-errors`), and every warning shown (`-Weverything`). -/
structure WarningState where
  mapping : Mapping
  warningsAsErrors : Bool := false
  errorsAsFatal : Bool := false
  enableAll : Bool := false
deriving Inhabited, Repr

/-- The warning options of a reading: the `-W` options in order, each without its `-W`, and
`-pedantic`, `-pedantic-errors` and `-w`. -/
structure WarningOptions where
  flags : List String := []
  pedantic : Bool := false
  pedanticErrors : Bool := false
  ignoreAll : Bool := false
deriving Inhabited, Repr

/-- What a diagnostic pragma asks: to save the state, to bring back the one saved last, or to
give the warnings of a group a level (`everything` for all of them). -/
inductive DiagnosticPragma where
  | push
  | pop
  | map (level : Level) (group : String)
deriving DecidableEq, Inhabited, Repr

namespace WarningState

/-- The state after one `-W` option, for a warning `w`. -/
def applyFlag (w : Warning) (st : WarningState) (opt : String) : WarningState :=
  let opt := if opt == "format=0" then "no-format" else opt
  let positive := !opt.startsWith "no-"
  let name := if positive then opt else (opt.drop 3).toString
  if name == "system-headers" then st
  else if name == "everything" then
    if positive then { st with enableAll := true }
    else { st with enableAll := false, mapping := st.mapping.set .ignored }
  else if name.startsWith "error" then
    let rest := (name.drop 5).toString
    if rest.isEmpty then { st with warningsAsErrors := positive }
    else if !rest.startsWith "=" && rest != "-implicit-function-declaration" then st
    else
      let spec := (rest.drop 1).toString
      if spec.isEmpty then { st with warningsAsErrors := positive }
      else if !w.inGroup spec then st
      else if positive then { st with mapping := st.mapping.set .error }
      else
        let m := st.mapping
        let level := if m.level == .error || m.level == .fatal then .warning else m.level
        { st with mapping := { m with level, noWerror := true } }
  else if name.startsWith "fatal-errors" then
    let rest := (name.drop 12).toString
    if rest.isEmpty then { st with errorsAsFatal := positive }
    else if !(rest.startsWith "=" || rest.startsWith "-") || rest.length == 1 then st
    else
      let spec := (rest.drop 1).toString
      if !w.inGroup spec then st
      else if positive then { st with mapping := st.mapping.set .fatal }
      else
        let m := st.mapping
        { st with mapping := { m with level := if m.level == .fatal then .error else m.level,
                                      noFatal := true } }
  else if w.inGroup name then
    { st with mapping := st.mapping.set (if positive then .warning else .ignored) }
  else st

/-- The state after one diagnostic pragma, for a warning `w`, with the states saved. -/
def applyPragma (w : Warning) (acc : WarningState × List WarningState) (p : DiagnosticPragma) :
    WarningState × List WarningState :=
  let (st, saved) := acc
  match p with
  | .push => (st, st :: saved)
  | .pop =>
    match saved with
    | s :: rest => (s, rest)
    | [] => (st, [])
  | .map level group =>
    if group == "everything" || w.inGroup group then
      -- a warning that a pragma asks for stays one under `-Werror`
      let m := st.mapping.set level
      let m := if level == .warning && m.level == .warning then { m with noWerror := true } else m
      ({ st with mapping := m }, saved)
    else (st, saved)

end WarningState

namespace WarningOptions

/-- The level at which extensions that no option named are shown. -/
def extensionLevel (o : WarningOptions) : Level :=
  if o.pedanticErrors then .error else if o.pedantic then .warning else .ignored

/-- The state that the options leave for a warning. -/
def stateFor (o : WarningOptions) (w : Warning) : WarningState :=
  o.flags.foldl (WarningState.applyFlag w)
    { mapping := { level := w.severity.defaultLevel, noWerror := w.noWerror } }

/-- The level of a warning `w` after the options and then the diagnostic pragmas before it. -/
def levelAt (o : WarningOptions) (pragmas : List DiagnosticPragma) (w : Warning) : Level :=
  let st := (pragmas.foldl (WarningState.applyPragma w) (o.stateFor w, [])).1
  let m := st.mapping
  let r := m.level
  let r := if st.enableAll && r == .ignored && !m.user then .warning else r
  let r := if w.isExtension && !m.user then r.max o.extensionLevel else r
  if r == .ignored then .ignored
  else if o.ignoreAll && (r == .warning || (r.shown && w.severity != .defaultError)) then .ignored
  else
    let r := if r == .warning && st.warningsAsErrors && !m.noWerror then .error else r
    if r == .error && st.errorsAsFatal && !m.noFatal then .fatal else r

/-- The level of an error: fatal under `-Wfatal-errors`. -/
def errorLevel (o : WarningOptions) : Level :=
  let fatal := o.flags.foldl (fun f opt =>
    if opt == "fatal-errors" then true else if opt == "no-fatal-errors" then false else f) false
  if fatal then .fatal else .error

end WarningOptions

/-- Whether a diagnostic pragma read at a place, `time` tokens being read before it, comes
before a message: in the same file, by the offsets; otherwise by the tokens read. -/
def pragmaBefore (pragma : Nat × Position) (time : Nat) (pos : Option Position) : Bool :=
  match pos with
  | some p => if p.file == pragma.2.file then pragma.2.offset < p.offset else pragma.1 ≤ time
  | none => false

/-- What the options and the diagnostic pragmas make of a message read after `time` tokens:
the message as an error or fatal error, or nothing when it is left a warning or silenced. -/
def WarningOptions.classify (o : WarningOptions) (pragmas : List ((Nat × Position) × DiagnosticPragma))
    (time : Nat) (d : Diagnostic) : Option Diagnostic :=
  match d.warning with
  | none =>
    if d.fatal || o.errorLevel == .fatal then some { d with fatal := true } else some d
  | some w =>
    let before := (pragmas.filter fun (at_, _) => pragmaBefore at_ time d.pos).map (·.2)
    match o.levelAt before w with
    | .fatal => some { d with fatal := true, warning := none }
    | .error => some { d with warning := none }
    | _ => none

/-- One row of the table of edit distances: from the prefix of one list that ends in `c` to
each prefix of `b`, given the row `prev` of the prefix before it, whose length is `i`. -/
def distanceRow (c : Char) (b : List Char) (prev : List Nat) (i : Nat) : List Nat :=
  go b prev (i + 1) [i + 1]
where
  /-- Fills the row from the left: `diag` and `up` are the entries of `prev` before and at the
  place filled, `left` the entry just filled. -/
  go : List Char → List Nat → Nat → List Nat → List Nat
    | cb :: bs, diag :: up :: ps, left, acc =>
      let v := min (min (up + 1) (left + 1)) (diag + if c == cb then 0 else 1)
      go bs (up :: ps) v (v :: acc)
    | _, _, _, acc => acc.reverse

/-- The edit distance between two lists of characters, replacements counting as one edit. -/
def editDistance (a b : List Char) : Nat :=
  let (_, last) := a.foldl (fun (acc : Nat × List Nat) c =>
    (acc.1 + 1, distanceRow c b acc.2 acc.1)) (0, List.range (b.length + 1))
  last.getLast?.getD 0

/-- The group whose name is nearest a name that names none: the only one at the least edit
distance, within the name's length. -/
def nearestGroup (name : String) : Option String :=
  let step (acc : Option String × Nat) (g : String) : Option String × Nat :=
    let d := editDistance g.toList name.toList
    if d < acc.2 then (some g, d) else if d == acc.2 then (none, acc.2) else acc
  (warningGroups.foldl step (none, name.length + 1)).1

/-- The warning about an option that names no group, with the prefix it was written with. -/
def unknownOptionMessage (pre name : String) : String :=
  "unknown warning option '" ++ pre ++ name ++ "'" ++
    match nearestGroup name with
    | some g => "; did you mean '" ++ pre ++ g ++ "'?"
    | none => ""

/-- The warnings about the `-W` options that name no group, in order. -/
def unknownOptionWarnings (flags : List String) : List String :=
  flags.filterMap fun opt =>
    let opt := if opt == "format=0" then "no-format" else opt
    let positive := !opt.startsWith "no-"
    let name := if positive then opt else (opt.drop 3).toString
    if name == "system-headers" || name == "everything" then none
    else if name.startsWith "error" then
      let rest := (name.drop 5).toString
      if rest.isEmpty || rest == "=" || rest == "-implicit-function-declaration" then none
      else if !rest.startsWith "=" then
        some ("unknown -Werror warning specifier: '-W" ++ opt ++ "'")
      else
        let spec := (rest.drop 1).toString
        if warningGroups.contains spec then none else some (unknownOptionMessage "-Werror=" spec)
    else if name.startsWith "fatal-errors" then
      let rest := (name.drop 12).toString
      if rest.isEmpty then none
      else if !(rest.startsWith "=" || rest.startsWith "-") || rest.length == 1 then
        some ("unknown -Wfatal-errors warning specifier: '-W" ++ opt ++ "'")
      else
        let spec := (rest.drop 1).toString
        if warningGroups.contains spec then none
        else some (unknownOptionMessage "-Wfatal-errors=" spec)
    else if warningGroups.contains name then none
    else some (unknownOptionMessage (if positive then "-W" else "-Wno-") name)

end NativeBindings.Header
