import NativeBindings.Header.Token
import NativeBindings.Header.Literal

/-!
# `#pragma pack`

`#pragma pack` limits the alignment of the members of the records defined after it. Its forms:

* `pack(N)` sets the limit, and `pack()` or `pack(0)` removes it;
* `pack(push)` saves the limit on a stack, with a label in `pack(push, label)`, and
  `pack(push, N)` or `pack(push, label, N)` then sets a new one;
* `pack(pop)` takes back the last limit saved, `pack(pop, label)` the one saved with that
  label, dropping the ones above it, and `pack(pop, N)` then sets a new one;
* `pack(show)` changes nothing.

A limit must be `0` or a power of two up to 16; a request with another limit, or written in
another way, is ignored with a warning, and so is a `pop` with nothing saved, though a warning
says so. `PackState.limitAt` gives the limit in force before a token from the requests read
before it.
-/

namespace NativeBindings.Header

/-- A request of `#pragma pack` that changes something. -/
inductive PackAction where
  /-- Sets the limit; `0` removes it. -/
  | set (limit : Nat)
  /-- Saves the limit, with a label if one is given, and then sets a new one if one is given;
  `pos` is the place of the request. -/
  | push (label : Option String) (limit : Option Nat) (pos : Position)
  | pop (label : Option String) (limit : Option Nat)
deriving DecidableEq, Inhabited, Repr

/-- Whether a limit may be asked for: `0` or a power of two up to 16. -/
def validPackLimit (n : Nat) : Bool := [0, 1, 2, 4, 8, 16].contains n

/-- What a `#pragma pack` line asks for: `pack()` removes the limit, `pack(N)` sets one,
`pack(show)` shows it, and `push` and `pop` save and restore. -/
inductive PackVerb where
  | reset
  | set
  | show
  | push
  | pop
deriving DecidableEq, Inhabited, Repr

/-- A `#pragma pack` line as its tokens read: what it asks for, the label it names, and the
token of the limit it gives. -/
structure PackLine where
  verb : PackVerb
  label : Option String := none
  limit : Option Token := none
deriving Inhabited

/-- The kind of warning a message about a `#pragma pack` line is: the value that `show` asks
for and a `pop` with both a name and an alignment belong to no group; the other messages say
that the line is ignored. -/
def packWarning (message : String) : Warning :=
  if message.startsWith "value of" || message.startsWith "specifying both" then .on ""
  else .on "ignored-pragmas"

/-- The warning about a `#pragma pack` line whose tokens after `pack` do not read. -/
def malformedPack : String := "expected integer or identifier in '#pragma pack' - ignored"

/-- Reads the tokens after `pack`, `eol` being the end of the line: the line's request, or the
warning, with its place, that makes the line ignored. After `(` come a number, `show`, or
`push` or `pop` with an optional label and number, each after a comma; then `)` and the end
of the line. Anything else before the `)` asks to remove the limit. -/
def PackLine.read (ts : List Token) (eol : Position) : Except (Position × String) PackLine :=
  let finish (line : PackLine) (rest : List Token) : Except (Position × String) PackLine :=
    match rest with
    | rp :: more =>
      if !rp.isPunct ")" then .error (rp.pos, "missing ')' after '#pragma pack' - ignoring")
      else
        match more with
        | [] => .ok line
        | x :: _ => .error (x.pos, "extra tokens at end of '#pragma pack' - ignored")
    | [] => .error (eol, "missing ')' after '#pragma pack' - ignoring")
  match ts with
  | lp :: rest =>
    if !lp.isPunct "(" then .error (lp.pos, "missing '(' after '#pragma pack' - ignoring")
    else
      match rest with
      | t :: more =>
        if t.kind == .number then finish { verb := .set, limit := some t } more
        else if t.isIdent "show" then finish { verb := .show } more
        else if t.isIdent "push" || t.isIdent "pop" then
          let verb := if t.text == "push" then PackVerb.push else .pop
          match more with
          | c :: after =>
            if !c.isPunct "," then finish { verb } more
            else
              match after with
              | x :: after =>
                if x.kind == .number then finish { verb, limit := some x } after
                else if x.kind == .identifier then
                  match after with
                  | c2 :: after2 =>
                    if !c2.isPunct "," then finish { verb, label := some x.text } after
                    else
                      match after2 with
                      | y :: after3 =>
                        if y.kind == .number then
                          finish { verb, label := some x.text, limit := some y } after3
                        else .error (y.pos, malformedPack)
                      | [] => .error (eol, malformedPack)
                  | [] => finish { verb, label := some x.text } []
                else .error (x.pos, malformedPack)
              | [] => .error (eol, malformedPack)
          | [] => finish { verb } []
        else if t.kind == .identifier then
          .error (t.pos, "unknown action for '#pragma pack' - ignored")
        else finish { verb := .reset } rest
      | [] => finish { verb := .reset } []
  | [] => .error (eol, "missing '(' after '#pragma pack' - ignoring")

/-- A limit saved by `push`: its label, the limit, and the place of the request. -/
structure PackSlot where
  label : Option String
  limit : Nat
  pos : Position
deriving Inhabited, Repr

/-- The limit in force and the limits saved, newest first. -/
structure PackState where
  limit : Nat := 0
  saved : List PackSlot := []
deriving Inhabited, Repr

namespace PackState

/-- The state after a request. -/
def apply (s : PackState) : PackAction → PackState
  | .set n => { s with limit := n }
  | .push label n pos => { limit := n.getD s.limit, saved := ⟨label, s.limit, pos⟩ :: s.saved }
  | .pop label n =>
    let s := match label with
      | some l =>
        match s.saved.dropWhile (·.label != some l) with
        | slot :: older => { limit := slot.limit, saved := older }
        | [] => s
      | none =>
        match s.saved with
        | slot :: older => { limit := slot.limit, saved := older }
        | [] => s
    match n with
    | some n => { s with limit := n }
    | none => s

/-- The state after requests given in order. -/
def after (requests : List PackAction) : PackState := requests.foldl apply {}

/-- The limit in force before the token numbered `k`, the requests being given with the number
of tokens read before each, in order. -/
def limitAt (requests : List (Nat × PackAction)) (k : Nat) : Nat :=
  (after ((requests.filter (·.1 ≤ k)).map (·.2))).limit

end PackState

/-- What a `#pragma pack` line that reads does, at `pos`, with the limits `s` in force: the
request it makes, if any, and the warnings about it. A limit that may not be asked for makes
the line ignored; `show` shows the limit, `8` when none is set; a `pop` with nothing saved, or
with both a label and a limit, is warned about but still made. -/
def PackLine.act (line : PackLine) (pos : Position) (s : PackState) :
    List String × Option PackAction :=
  let limit : Option (Option Nat) := line.limit.map fun t =>
    match NumberLiteral.read t.text with
    | .integer v _ _ => if validPackLimit v then some v else none
    | _ => none
  match limit with
  | some none => (["expected #pragma pack parameter to be '1', '2', '4', '8', or '16'"], none)
  | _ =>
    let n := limit.bind id
    match line.verb with
    | .show => (["value of #pragma pack(show) == " ++ toString (if s.limit == 0 then 8 else s.limit)], none)
    | .reset => ([], some (.set 0))
    | .set => ([], some (.set (n.getD 0)))
    | .push => ([], some (.push line.label n pos))
    | .pop =>
      ((if n.isSome && line.label.isSome then ["specifying both a name and alignment to 'pop' is undefined"]
        else []) ++ (if s.saved.isEmpty then ["#pragma pack(pop, ...) failed: stack empty"] else []),
       some (.pop line.label n))

end NativeBindings.Header
