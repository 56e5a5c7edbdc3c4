import NativeBindings.Header.Pragma

/-!
# Pragmas that read a line of their own

Besides `#pragma pack`, the front end reads these pragmas from the tokens after their names. A
line that does not read so does nothing, with a warning of the kind `ignored-pragmas` or, for
some of them, an error:

* `#pragma options align=K` and `#pragma align=K` save the limit of `#pragma pack` in force and
  set another: `packed` is `pack(1)`, `native`, `natural` and `power` lift the limit, `mac68k`
  asks for two bytes where the target allows it, and `reset` takes the saved limit back;
* `#pragma ms_struct on`, `off` or `reset` says whether the records defined after it lay out
  their bit-fields as Microsoft's compiler does;
* `#pragma comment(kind, "text")` passes text on to the linker;
* `#pragma clang fp option(value) ...` sets how floating point is computed;
* `#pragma push_macro("name")` and `#pragma pop_macro("name")` save a macro's definition and
  bring it back.
-/

namespace NativeBindings.Header

/-- The kind of warning about a pragma that is ignored. -/
def ignoredPragma : Warning := .on "ignored-pragmas"

/-- What is wrong with a pragma line: the place, the kind of warning (none for an error), and
the message. -/
structure PragmaComplaint where
  pos : Position
  warning : Option Warning
  message : String
deriving Inhabited

/-- The place of the first of some tokens, or the end of the line when there are none. -/
def placeOf (ts : List Token) (eol : Position) : Position := (ts.head?.map (·.pos)).getD eol

/-- The choices of `#pragma options align`. -/
inductive AlignChoice where
  | native
  | natural
  | packed
  | power
  | mac68k
  | reset
deriving DecidableEq, Inhabited, Repr

/-- The choice a word names. -/
def AlignChoice.ofName? : String → Option AlignChoice
  | "native" => some .native
  | "natural" => some .natural
  | "packed" => some .packed
  | "power" => some .power
  | "mac68k" => some .mac68k
  | "reset" => some .reset
  | _ => none

/-- Reads the tokens after `options` (when `options` holds) or `align`, `eol` being the end of
the line: `align = K` after `options`, `= K` after `align`. -/
def readAlignLine (options : Bool) (ts : List Token) (eol : Position) :
    Except (Position × String) AlignChoice :=
  let which := if options then "options align" else "align"
  let name := if options then "options" else "align"
  let afterAlign : Except (Position × String) (List Token) :=
    if !options then .ok ts
    else match ts with
      | t :: rest =>
        if t.isIdent "align" then .ok rest
        else .error (t.pos, "expected 'align' following '#pragma options' - ignored")
      | [] => .error (eol, "expected 'align' following '#pragma options' - ignored")
  match afterAlign with
  | .error e => .error e
  | .ok (eq :: more) =>
    if !eq.isPunct "=" then .error (eq.pos, "expected '=' following '#pragma " ++ which ++ "' - ignored")
    else
      match more with
      | k :: after =>
        if k.kind != .identifier then
          .error (k.pos, "expected identifier in '#pragma " ++ name ++ "' - ignored")
        else
          match AlignChoice.ofName? k.text with
          | none => .error (k.pos, "invalid alignment option in '#pragma " ++ which ++ "' - ignored")
          | some c =>
            match after with
            | [] => .ok c
            | x :: _ => .error (x.pos, "extra tokens at end of '#pragma " ++ name ++ "' - ignored")
      | [] => .error (eol, "expected identifier in '#pragma " ++ name ++ "' - ignored")
  | .ok [] => .error (eol, "expected '=' following '#pragma " ++ which ++ "' - ignored")

/-- What a choice of `#pragma options align` made at `pos` does with the limits `s` in force:
the request it makes, or what keeps it from making one. `mac68k` tells whether the target
allows that choice. `reset` takes back the limit saved last; with none saved it removes a limit
that is set, and otherwise fails. -/
def AlignChoice.act (c : AlignChoice) (mac68k : Bool) (pos : Position) (s : PackState) :
    Except PragmaComplaint PackAction :=
  match c with
  | .native | .natural | .power => .ok (.push none (some 0) pos)
  | .packed => .ok (.push none (some 1) pos)
  | .mac68k =>
    if mac68k then .ok (.push none (some 2) pos)
    else .error ⟨pos, none, "mac68k alignment pragma is not supported on this target"⟩
  | .reset =>
    if !s.saved.isEmpty then .ok (.pop none none)
    else if s.limit != 0 then .ok (.set 0)
    else .error ⟨pos, some ignoredPragma, "#pragma options align=reset failed: stack empty"⟩

/-- Reads the tokens after `ms_struct`: whether the layout of Microsoft's compiler is asked
for. -/
def readMsStructLine (ts : List Token) (eol : Position) : Except (Position × String) Bool :=
  let incorrect := "incorrect use of '#pragma ms_struct on|off' - ignored"
  match ts with
  | t :: rest =>
    let choice : Option Bool :=
      if t.kind != .identifier then none
      else if t.text == "on" then some true
      else if t.text == "off" || t.text == "reset" then some false
      else none
    match choice with
    | none => .error (t.pos, incorrect)
    | some on =>
      match rest with
      | [] => .ok on
      | x :: _ => .error (x.pos, "extra tokens at end of '#pragma ms_struct' - ignored")
  | [] => .error (eol, incorrect)

/-- The kinds of `#pragma comment`. -/
def commentKinds : List String := ["linker", "lib", "compiler", "exestr", "user"]

/-- What is wrong with the tokens after `comment`, whose token is `c`: they must be a kind in
parentheses, with a string after a comma if one follows. Objects of the ELF format (`elf`) take
only `lib`; another kind is ignored with a warning. -/
def commentComplaint? (elf : Bool) (c : Token) (ts : List Token) (eol : Position) :
    Option PragmaComplaint :=
  let malformed := "pragma comment requires parenthesized identifier and optional string"
  let close (rest : List Token) : Option PragmaComplaint :=
    match rest with
    | rp :: more =>
      if !rp.isPunct ")" then some ⟨rp.pos, none, malformed⟩
      else match more with
        | [] => none
        | x :: _ => some ⟨x.pos, none, malformed⟩
    | [] => some ⟨eol, none, malformed⟩
  match ts with
  | lp :: k :: more =>
    if !lp.isPunct "(" || k.kind != .identifier then some ⟨c.pos, none, malformed⟩
    else if !commentKinds.contains k.text then some ⟨k.pos, none, "unknown kind of pragma comment"⟩
    else if elf && k.text != "lib" then
      some ⟨k.pos, some ignoredPragma, "'#pragma comment " ++ k.text ++ "' ignored"⟩
    else
      match more with
      | comma :: after =>
        if !comma.isPunct "," then close more
        else if (after.head?.map (·.kind)) != some .string then
          some ⟨placeOf after eol, none, "expected string literal in pragma comment"⟩
        else close (after.dropWhile (·.kind == .string))
      | [] => close []
  | _ => some ⟨c.pos, none, malformed⟩

/-- The options of `#pragma clang fp`, with the values each takes and how the error about
another value lists them. -/
def fpOptions : List (String × List String × String) :=
  [("contract", ["on", "off", "fast"], "'fast' or 'on' or 'off'"),
   ("reassociate", ["on", "off"], "'on' or 'off'"),
   ("reciprocal", ["on", "off"], "'on' or 'off'"),
   ("exceptions", ["ignore", "maytrap", "strict"], "'ignore', 'maytrap' or 'strict'"),
   ("eval_method", ["source", "double", "extended"], "'source', 'double' or 'extended'")]

/-- Reads the options of `#pragma clang fp` one after the other, each `option(value)`: what is
wrong with the first that does not read, or with the tokens after the last. -/
def fpComplaint? (eol : Position) : Nat → List Token → Option PragmaComplaint
  | 0, _ => none
  | _, [] => none
  | fuel + 1, t :: rest =>
    if t.kind != .identifier then
      some ⟨t.pos, some ignoredPragma, "extra tokens at end of '#pragma clang fp' - ignored"⟩
    else
      match fpOptions.find? (·.1 == t.text) with
      | none =>
        some ⟨t.pos, none, "invalid option '" ++ t.text ++ "'; expected 'contract', " ++
          "'reassociate', 'reciprocal', or 'exceptions'"⟩
      | some (name, values, listed) =>
        match rest with
        | lp :: v :: rp :: more =>
          if !lp.isPunct "(" then some ⟨lp.pos, none, "expected '('"⟩
          else if v.kind != .identifier || !values.contains v.text then
            some ⟨v.pos, none, "unexpected argument '" ++ v.text ++ "' to '#pragma clang fp " ++
              name ++ "'; expected " ++ listed⟩
          else if !rp.isPunct ")" then some ⟨rp.pos, none, "expected ')'"⟩
          else fpComplaint? eol fuel more
        | [lp, v] =>
          if !lp.isPunct "(" then some ⟨lp.pos, none, "expected '('"⟩
          else if v.kind != .identifier || !values.contains v.text then
            some ⟨v.pos, none, "unexpected argument '" ++ v.text ++ "' to '#pragma clang fp " ++
              name ++ "'; expected " ++ listed⟩
          else some ⟨eol, none, "expected ')'"⟩
        | [lp] =>
          if !lp.isPunct "(" then some ⟨lp.pos, none, "expected '('"⟩
          else some ⟨eol, none, "unexpected argument '' to '#pragma clang fp " ++ name ++
            "'; expected " ++ listed⟩
        | [] => some ⟨eol, none, "expected '('"⟩

/-- What is wrong with the tokens after `clang fp`: at least one option must follow. -/
def fpLineComplaint? (ts : List Token) (eol : Position) : Option PragmaComplaint :=
  match ts with
  | t :: _ =>
    if t.kind != .identifier then
      some ⟨t.pos, none, "missing option; expected 'contract', 'reassociate', 'reciprocal', or " ++
        "'exceptions'"⟩
    else fpComplaint? eol (ts.length + 1) ts
  | [] =>
    some ⟨eol, none, "missing option; expected 'contract', 'reassociate', 'reciprocal', or " ++
      "'exceptions'"⟩

/-- The macro name that the tokens after `push_macro` or `pop_macro` give: a plain string in
parentheses. -/
def macroPragmaName? (ts : List Token) : Option String :=
  match ts with
  | lp :: s :: rp :: _ =>
    if lp.isPunct "(" && s.kind == .string && s.text.startsWith "\"" && rp.isPunct ")" then
      some (String.ofList ((s.text.toList.drop 1).dropLast))
    else none
  | _ => none

end NativeBindings.Header
