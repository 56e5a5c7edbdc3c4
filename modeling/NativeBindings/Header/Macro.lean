import NativeBindings.Header.Lexer
import NativeBindings.Header.Features

/-!
# Macros and their expansion

A macro replaces its name, and for a function-like macro the parenthesised arguments after
it, by its body. Expansion follows the C rules:

* in the body, a parameter stands for its argument after that has been expanded on its own,
  `#p` for the argument's spelling as a string literal, and `a ## b` for the token that the
  two spellings make together (an empty argument leaves nothing to join; `, ## __VA_ARGS__`
  drops the comma when there are no variable arguments);
* the result is scanned again together with the tokens after the use, so that a body may end
  in the name of a function-like macro whose arguments follow the use;
* every token remembers the macros whose expansion made it, and a macro never expands a token
  that remembers it, which makes recursive macros stop.

A token made by an expansion stands at the outermost use of a macro. Inside a `#if` line the
operators `defined` and `__has_include` are answered here too.
-/

namespace NativeBindings.Header

/-- A macro definition: object-like when it has no parameter list. The last parameter of a
variadic macro collects the extra arguments. -/
structure Macro where
  name : String
  params : Option (List String) := none
  variadic : Bool := false
  body : List Token := []
  /-- It was defined by the front end itself, not by an option or a file. -/
  predefined : Bool := false
  /-- `#pragma push_macro` saved it, so that it may be defined again without a warning. -/
  redefinable : Bool := false
deriving Inhabited, Repr

/-- Whether two definitions of a macro are the same: the same parameters, and the same tokens
with the same blanks between them. -/
def Macro.sameAs (a b : Macro) : Bool :=
  a.params == b.params && a.variadic == b.variadic && a.body.length == b.body.length &&
    ((a.body.zip b.body).zipIdx.all fun ((x, y), i) =>
      x.kind == y.kind && x.text == y.text && (i == 0 || x.spaced == y.spaced))

/-- What an expansion changes besides its tokens: the counter behind `__COUNTER__`, the
messages, each with the number of tokens finished before it, and, when an error made a `#if`
line unusable, how many messages there were up to that error. -/
structure Effects where
  counter : Nat := 0
  /-- Newest first. -/
  diagnostics : List (Nat × Diagnostic) := []
  failedAt : Option Nat := none
  /-- The number of tokens finished so far. -/
  done : Nat := 0
  /-- A macro's argument is being expanded. -/
  inArgument : Bool := false
deriving Inhabited

/-- Adds an error at a place after which expansion goes on. -/
def Effects.note (ef : Effects) (pos : Position) (message : String) : Effects :=
  { ef with diagnostics := (ef.done, ⟨some pos, message, false, none⟩) :: ef.diagnostics }

/-- Adds an error at a place that makes a `#if` line unusable. -/
def Effects.error (ef : Effects) (pos : Position) (message : String) : Effects :=
  let ef := ef.note pos message
  { ef with failedAt := ef.failedAt.orElse fun _ => some ef.diagnostics.length }

/-- Whether an error made a `#if` line unusable. -/
def Effects.failed (ef : Effects) : Bool := ef.failedAt.isSome

/-- Notes that the tokens of `acc` are finished. The tokens of a macro's argument are finished
only with the use of the macro, so nothing changes while one is expanded. -/
def Effects.after (ef : Effects) (acc : List Token) : Effects :=
  if ef.inArgument then ef else { ef with done := acc.length }

/-- What an expansion reads: the macros in force, newest first, and where it happens. -/
structure Scope where
  macros : List Macro
  /-- The expansion is of a `#if` line. -/
  inCondition : Bool := false
  /-- Whether a header can be found, by its name and whether it was written in `<>`. -/
  hasHeader : String → Bool → Bool := fun _ _ => false
  /-- The name of the file the run started from. -/
  baseFile : String := ""
  /-- How deep in includes the expansion happens. -/
  level : Nat := 0
  /-- The end of the line being expanded, where a missing operand is reported. -/
  lineEnd : Position := default
  /-- The `#line` directives read so far. -/
  marks : List LineMark := []
  /-- How text is cut into tokens, for the tokens that `##` makes. -/
  lexMode : LexMode := {}
  /-- What the feature queries answer by. -/
  features : FeatureContext := {}
  /-- The builtin macros that have been undefined or defined again, which no longer act. -/
  withdrawn : List String := []

/-- The macro of a name. -/
def Scope.lookup (sc : Scope) (name : String) : Option Macro := sc.macros.find? (·.name == name)

/-- Whether a name is a builtin macro that still acts. -/
def Scope.builtin (sc : Scope) (name : String) : Bool :=
  builtinMacroNames.contains name && !sc.withdrawn.contains name

/-- Whether a name is a macro: one defined, or a builtin one. -/
def Scope.defines (sc : Scope) (name : String) : Bool :=
  (sc.lookup name).isSome || sc.builtin name

namespace Token

/-- A token placed at a macro use. -/
def placedAt (use : Token) (t : Token) : Token :=
  { t with pos := use.pos, finish := none, expanded := true, lineStart := false }

/-- A number token. -/
def number (use : Token) (text : String) : Token :=
  { kind := .number, text, pos := use.pos, expanded := true, spaced := use.spaced }

end Token

/-- Marks the result of an expansion: every token stands at the use, remembers the macros of
`hidden` and the place `ending` where the outermost use ends, and the last one ends where the
use ends. -/
def placeExpansion (use : Token) (finish : Option Position) (ending : Position)
    (hidden : List String) (ts : List Token) : List Token :=
  let placed := ts.map fun t =>
    { Token.placedAt use t with hidden := hidden ++ t.hidden.filter (· ∉ hidden),
                                useEnd := some ending }
  let placed := match placed with
    | first :: more => { first with spaced := use.spaced } :: more
    | [] => []
  match placed.getLast? with
  | some last => placed.dropLast ++ [{ last with finish }]
  | none => []

/-- The spelling of a token inside a string literal made by `#`. -/
def stringizeText (t : Token) : String :=
  if t.zeroWidth then ""
  else if t.kind == .string || t.kind == .character then
    String.ofList (t.text.toList.flatMap fun c => if c == '"' || c == '\\' then ['\\', c] else [c])
  else t.text

/-- The string literal that `#` makes of an argument: the spellings with one blank wherever
the argument had blanks between tokens. -/
def stringize (use : Token) (arg : List Token) : Token :=
  let pieces := arg.zipIdx.map fun (t, i) =>
    (if i > 0 && (t.spaced || t.lineStart) then " " else "") ++ stringizeText t
  { kind := .string, text := "\"" ++ String.join pieces ++ "\"", pos := use.pos, expanded := true,
    spaced := use.spaced }

/-- The token that two spellings make together, if they make exactly one. -/
def pasteTokens (mode : LexMode) (a b : Token) : Option Token :=
  match (lex mode "<scratch space>" (a.text ++ b.text)).tokens.filter (·.kind != .newline) with
  | [t] => some { a with kind := t.kind, text := t.text,
                         hidden := a.hidden.filter (· ∈ b.hidden) }
  | _ => none

/-- Joins the last token of `os` (newest first) with `t`, reporting a join that makes no
single token. -/
def glue (mode : LexMode) (use : Token) (os : List Token) (t : Token) (ef : Effects) :
    List Token × Effects :=
  match os with
  | last :: before =>
    match pasteTokens mode last t with
    | some joined => (joined :: before, ef)
    | none =>
      (t :: last :: before,
        { ef with diagnostics := (ef.done, ⟨some use.pos, "pasting formed '" ++ last.text ++ t.text ++
            "', an invalid preprocessing token", false, none⟩) :: ef.diagnostics })
  | [] => ([t], ef)

/-- The index of a parameter name. -/
def paramIndex (params : List String) (t : Token) : Option Nat :=
  if t.kind == .identifier then params.idxOf? t.text else none

/-- Puts the arguments into a function-like macro's body, `os` holding the output so far,
newest first. `expandArg` expands an argument on its own. -/
def substitute (mode : LexMode) (expandArg : List Token → Effects → List Token × Effects) (use : Token)
    (params : List String) (variadic : Bool) (args : List (List Token)) :
    List Token → List Token → Effects → List Token × Effects
  | [], os, ef => (os.reverse, ef)
  | h :: body, os, ef =>
    let arg (i : Nat) : List Token := args.getD i []
    let isVariadicParam (i : Nat) : Bool := variadic && i + 1 == params.length
    match body with
    | p :: rest =>
      match (if h.isPunct "#" then paramIndex params p else none) with
      | some i => substitute mode expandArg use params variadic args rest (stringize use (arg i) :: os) ef
      | none =>
        match (if h.isPunct "##" then paramIndex params p else none) with
        | some i =>
          if (arg i).isEmpty then
            -- a comma before empty variable arguments goes away
            let os := match os with
              | c :: more => if isVariadicParam i && c.isPunct "," then more else os
              | [] => os
            substitute mode expandArg use params variadic args rest os ef
          else if isVariadicParam i && (os.head?.map (·.isPunct ",")).getD false then
            substitute mode expandArg use params variadic args rest ((arg i).reverse ++ os) ef
          else
            match arg i with
            | a :: more =>
              let (os, ef) := glue mode use os a ef
              substitute mode expandArg use params variadic args rest (more.reverse ++ os) ef
            | [] => substitute mode expandArg use params variadic args rest os ef
        | none =>
          if h.isPunct "##" then
            let (os, ef) := glue mode use os p ef
            substitute mode expandArg use params variadic args rest os ef
          else
            match paramIndex params h with
            | some i =>
              if p.isPunct "##" then
                if (arg i).isEmpty then
                  match rest with
                  | q :: rest' =>
                    match paramIndex params q with
                    | some j => substitute mode expandArg use params variadic args rest' ((arg j).reverse ++ os) ef
                    | none => substitute mode expandArg use params variadic args (q :: rest') os ef
                  | [] => substitute mode expandArg use params variadic args [] os ef
                else substitute mode expandArg use params variadic args (p :: rest) ((arg i).reverse ++ os) ef
              else
                let (e, ef) := expandArg (arg i) ef
                substitute mode expandArg use params variadic args (p :: rest) (e.reverse ++ os) ef
            | none => substitute mode expandArg use params variadic args (p :: rest) (h :: os) ef
    | [] =>
      match paramIndex params h with
      | some i =>
        let (e, ef) := expandArg (arg i) ef
        substitute mode expandArg use params variadic args [] (e.reverse ++ os) ef
      | none => substitute mode expandArg use params variadic args [] (h :: os) ef
termination_by b => b.length

/-- The tokens up to the `)` that closes a parenthesis opened before them, `depth` more deep,
and the tokens after it; `none` when they end first. -/
def closingParen : List Token → Nat → List Token → Option (List Token × List Token)
  | [], _, _ => none
  | t :: rest, depth, acc =>
    if t.isPunct ")" then
      if depth == 0 then some (acc.reverse, rest) else closingParen rest (depth - 1) (t :: acc)
    else if t.isPunct "(" then closingParen rest (depth + 1) (t :: acc)
    else closingParen rest depth (t :: acc)

theorem closingParen_length (ts : List Token) (depth : Nat) (acc : List Token) :
    ∀ r, closingParen ts depth acc = some r → r.2.length < ts.length := by
  induction ts generalizing depth acc with
  | nil => simp [closingParen]
  | cons t rest ih =>
    intro r h
    simp only [closingParen] at h
    split at h
    · split at h
      · cases h; simp
      · have := ih _ _ r h; simp; omega
    · split at h
      · have := ih _ _ r h; simp; omega
      · have := ih _ _ r h; simp; omega

/-- A variadic body with each `__VA_OPT__(...)` resolved: it stands for what it holds when the
variable arguments are there, and for nothing otherwise, when a `##` that joins it goes too.
`out` holds the tokens so far, newest first. -/
def resolveOptional (present : Bool) (ts : List Token) (out : List Token) : List Token :=
  match ts with
  | [] => out.reverse
  | t :: rest =>
    match rest with
    | lp :: more =>
      if t.isIdent "__VA_OPT__" && lp.isPunct "(" then
        match h : closingParen more 0 [] with
        | some (inner, after) =>
          have : after.length < more.length := closingParen_length more 0 [] _ h
          if present then resolveOptional present after (inner.reverse ++ out)
          else
            match h2 : after with
            | hh :: after' =>
              have : after'.length < after.length := by simp [h2]
              if hh.isPunct "##" then resolveOptional present after' out
              else resolveOptional present after (match out with
                | o :: os => if o.isPunct "##" then os else out
                | [] => out)
            | [] => resolveOptional present [] (match out with
                | o :: os => if o.isPunct "##" then os else out
                | [] => out)
        | none => resolveOptional present (lp :: more) (t :: out)
      else resolveOptional present (lp :: more) (t :: out)
    | [] => resolveOptional present [] (t :: out)
termination_by ts.length

/-- Splits the tokens after a `(` into arguments up to the matching `)`. Once `limit`
arguments have started, commas belong to the last one. Returns the arguments, the `)` and the
tokens after it, or `none` when the tokens end first. -/
def splitArguments (limit : Nat) : List Token → Nat → List Token → List (List Token) →
    Option (List (List Token) × Token × List Token)
  | [], _, _, _ => none
  | t :: rest, depth, cur, args =>
    if t.isPunct ")" then
      if depth == 0 then some ((cur.reverse :: args).reverse, t, rest)
      else splitArguments limit rest (depth - 1) (t :: cur) args
    else if t.isPunct "(" then splitArguments limit rest (depth + 1) (t :: cur) args
    else if t.isPunct "," && depth == 0 && args.length + 1 < limit then
      splitArguments limit rest 0 [] (cur.reverse :: args)
    else splitArguments limit rest depth (t :: cur) args

/-- Why the arguments of a use do not fit its macro. -/
inductive ArgumentError where
  | tooMany
  | tooFew
deriving DecidableEq, Repr

/-- The message of an argument error. -/
def ArgumentError.message : ArgumentError → String
  | .tooMany => "too many arguments provided to function-like macro invocation"
  | .tooFew => "too few arguments provided to function-like macro invocation"

/-- The arguments of a use, one per parameter. A variadic macro may be used without its
variable arguments; a macro of one parameter may be used with an empty argument. -/
def fitArguments (params : List String) (variadic : Bool) (args : List (List Token)) :
    Except ArgumentError (List (List Token)) :=
  let n := params.length
  if n == 0 then
    if args.length == 1 && (args.head?.map List.isEmpty).getD true then .ok [] else .error .tooMany
  else if args.length == n then .ok args
  else if variadic && args.length + 1 == n then .ok (args ++ [[]])
  else if args.length < n then .error .tooFew
  else .error .tooMany

/-- Where a use with more arguments than `n` parameters is reported, from the tokens after its
`(`: at the first token of the first argument too many, or at the comma before it when it is
empty. -/
def extraArgumentPlace (n : Nat) (ts : List Token) : Option Position :=
  let rec go : List Token → Nat → Nat → Option Position → Option Position
    | [], _, _, _ => none
    | t :: rest, depth, commas, lastComma =>
      if depth == 0 && commas == n then
        if t.isPunct "," || t.isPunct ")" then lastComma else some t.pos
      else if t.isPunct "(" then go rest (depth + 1) commas lastComma
      else if t.isPunct ")" then
        if depth == 0 then none else go rest (depth - 1) commas lastComma
      else if t.isPunct "," && depth == 0 then go rest depth (commas + 1) (some t.pos)
      else go rest depth commas lastComma
  go ts 0 0 none

/-- Whether the parentheses and braces of the arguments of a use nest properly. -/
def bracketsMatch (ts : List Token) : Bool :=
  let step (open_ : Option (List Bool)) (t : Token) : Option (List Bool) := do
    let stack ← open_
    if t.isPunct "(" then some (true :: stack)
    else if t.isPunct "\x7b" then some (false :: stack)
    else if t.isPunct ")" then
      match stack with
      | true :: rest => some rest
      | _ => none
    else if t.isPunct "\x7d" then
      match stack with
      | false :: rest => some rest
      | _ => none
    else some stack
  (ts.foldl step (some [])) == some []

/-- The arguments of a use with too many of them for its `n` parameters, taking the commas
inside braces as parts of braced lists instead: each argument that such a comma joins is put
in parentheses that have no spelling. None when that does not help: no comma was inside braces,
an argument so joined starts with a brace, or the number of arguments is still not `n`. -/
def regroupBraced (n : Nat) (args : List (List Token)) : Option (List (List Token)) :=
  let comma : Token := { kind := .punctuator, text := ",", pos := default }
  let all := (args.intersperse [comma]).flatten
  if !bracketsMatch all then none
  else
    let depthAfter (d : Int) (a : List Token) : Int :=
      a.foldl (fun d t => if t.isPunct "\x7b" then d + 1 else if t.isPunct "\x7d" then d - 1 else d) d
    -- the fixed arguments newest first, the argument being joined with its commas, whether it
    -- is being joined, its brace depth, and whether an argument so joined starts with a brace
    let step (st : List (List Token) × List Token × Bool × Int × Bool) (a : List Token) :=
      let (done, cur, joined, depth, bad) := st
      let cur := if joined then cur ++ [{ comma with pos := (a.head?.map (·.pos)).getD default }] ++ a
        else a
      let depth := depthAfter depth a
      if depth != 0 then (done, cur, true, depth, bad)
      else
        let bad := bad || (joined && (cur.head?.map (·.isPunct "\x7b")).getD false)
        let first := (cur.head?.map (·.pos)).getD default
        let fixed := if joined then
            { kind := .punctuator, text := "(", pos := first, zeroWidth := true } :: cur ++
              [{ kind := .punctuator, text := ")", pos := first, zeroWidth := true }]
          else cur
        (fixed :: done, [], false, 0, bad)
    let (done, _, _, _, bad) := args.foldl step ([], [], false, 0, false)
    let fixedAny := args.length != done.length
    if bad || !fixedAny || done.length != n then none else some done.reverse

/-- Reads up to the `)` that closes a feature query whose operand has been read, `depth`
parentheses deep; a comma or another token before it is an error, and after the first of these
no more are reported. `none` when the line ends first. -/
def closeQuery (lineEnd : Position) (last : String) :
    List Token → Nat → Bool → List (Position × String) →
      Option (List Token) × List (Position × String)
  | [], _, _, errs => (none, errs ++ [(lineEnd, "unterminated function-like macro invocation")])
  | t :: r, depth, quiet, errs =>
    if t.isPunct ")" then
      if depth == 0 then (some r, errs) else closeQuery lineEnd last r (depth - 1) quiet errs
    else
      let message := if t.isPunct "," then
          "too many arguments provided to function-like macro invocation"
        else "missing ')' after '" ++ last ++ "'"
      let depth := if t.isPunct "(" then depth + 1 else depth
      closeQuery lineEnd last r depth true (if quiet then errs else errs ++ [(t.pos, message)])

/-- Reads the operand of a feature query from its first token `x`: a name, with a scope
`s : : name` for a C23 attribute, or a string literal for `__has_warning`. Returns the value,
the spelling of the last token of the operand, the tokens after it and the errors. -/
def queryOperand (sc : Scope) (q : FeatureQuery) (x : Token) (rest : List Token) :
    Nat × String × List Token × List (Position × String) :=
  if q == .warning then
    if x.kind == .string && x.text.startsWith "\"" then
      (q.answer sc.features none ((x.text.drop 1).dropEnd 1).toString, x.text, rest, [])
    else (0, x.text, rest, [(x.pos, "builtin warning check macro requires a parenthesized string")])
  else if x.kind != .identifier then
    (0, x.text, rest, [(x.pos, "builtin feature check macro requires a parenthesized identifier")])
  else
    match rest with
    | c1 :: c2 :: n :: more =>
      if q == .cAttribute && c1.isPunct ":" && c2.isPunct ":" then
        if n.kind == .identifier then
          (q.answer sc.features (some x.text) n.text, n.text, more, [])
        else
          (0, n.text, more, [(n.pos, "builtin feature check macro requires a parenthesized identifier")])
      else (q.answer sc.features none x.text, x.text, rest, [])
    | _ => (q.answer sc.features none x.text, x.text, rest, [])

/-- Reads a feature query after its name `use`: its value, or `none` when the line ends first
and so ends the expansion; the tokens after it; and the errors met. A token other than `(`
after the name stands for `0`. -/
def readQuery (sc : Scope) (q : FeatureQuery) (use : Token) (rest : List Token) :
    Option Nat × List Token × List (Position × String) :=
  let missingParen := "missing '(' after '" ++ use.text ++ "'"
  match rest with
  | [] => (none, [], [(sc.lineEnd, missingParen)])
  | lp :: r =>
    if !lp.isPunct "(" then (some 0, r, [(lp.pos, missingParen)])
    else
      match r with
      | [] => (none, [], [(sc.lineEnd, "unterminated function-like macro invocation")])
      | x :: more =>
        if x.isPunct ")" then
          (some 0, more, [(x.pos, "too few arguments provided to function-like macro invocation")])
        else
          let (value, last, after, errs) := queryOperand sc q x more
          match closeQuery sc.lineEnd last after 0 false errs with
          | (some r', errs) => (some value, r', errs)
          | (none, errs) => (none, [], errs)

/-- The number token a feature query stands for; a date gets the suffix `L`. -/
def queryToken (use : Token) (value : Nat) : Token :=
  Token.number use (toString value ++ (if value > 1 then "L" else ""))

/-- A header name written in the tokens of an include operand. -/
structure HeaderName where
  name : String
  /-- The name was written in `<>`. -/
  angled : Bool
  /-- The place after the name's last token. -/
  finish : Position

/-- The header name written in the tokens of an include operand: a string literal, or the
spellings between `<` and `>`. Returns the name and the tokens after it. -/
def headerName : List Token → Option (HeaderName × List Token)
  | [] => none
  | t :: rest =>
    if t.kind == .string && t.text.startsWith "\"" then
      some (⟨(t.text.drop 1).dropEnd 1 |>.toString, false, t.finish.getD t.pos⟩, rest)
    else if t.isPunct "<" then
      let inside := rest.takeWhile (fun u => !u.isPunct ">")
      let after := rest.drop inside.length
      match after with
      | close :: more =>
        let text := String.join (inside.zipIdx.map fun (u, i) =>
          (if i > 0 && u.spaced then " " else "") ++ u.text)
        some (⟨text, true, close.finish.getD close.pos⟩, more)
      | [] => none
    else none

/-- The value of a builtin macro at a use, if the name is one. -/
def builtinValue (sc : Scope) (use : Token) (ef : Effects) : Option (Token × Effects) :=
  let quoted (s : String) : Token :=
    { kind := .string, text := "\"" ++ String.ofList (s.toList.flatMap fun c =>
        if c == '"' || c == '\\' then ['\\', c] else [c]) ++ "\"",
      pos := use.pos, expanded := true, spaced := use.spaced }
  match use.text with
  | "__LINE__" =>
    some (Token.number use (toString ((use.useEnd.getD use.pos).presumed sc.marks).line), ef)
  | "__FILE__" => some (quoted (use.pos.presumed sc.marks).file, ef)
  | "__FILE_NAME__" =>
    let file := (use.pos.presumed sc.marks).file
    some (quoted ((file.splitOn "/").getLast?.getD file), ef)
  | "__BASE_FILE__" => some (quoted sc.baseFile, ef)
  | "__COUNTER__" => some (Token.number use (toString ef.counter), { ef with counter := ef.counter + 1 })
  | "__INCLUDE_LEVEL__" => some (Token.number use (toString sc.level), ef)
  | "__FLT_EVAL_METHOD__" => some (Token.number use "0", ef)
  | _ => none

/-- Expands the macros in a list of tokens, `acc` holding the finished tokens newest first.
`fuel` bounds the number of steps; what is left when it runs out stays as it is. -/
def expandTokens (sc : Scope) : Nat → List Token → List Token → Effects → List Token × Effects
  | 0, ts, acc, ef => (acc.reverse ++ ts, ef)
  | _ + 1, [], acc, ef => (acc.reverse, ef)
  | fuel + 1, t :: rest, acc, ef =>
    if t.kind != .identifier then expandTokens sc fuel rest (t :: acc) ef
    else if sc.inCondition && t.text == "defined" then
      let answer (name : String) : Token := Token.number t (if sc.defines name then "1" else "0")
      match rest with
      | x :: r =>
        if x.kind == .identifier then expandTokens sc fuel r (answer x.text :: acc) ef
        else if x.isPunct "(" then
          match r with
          | y :: z :: r' =>
            if y.kind != .identifier then
              (acc.reverse, (ef.after acc).error y.pos "macro name must be an identifier")
            else if z.isPunct ")" then expandTokens sc fuel r' (answer y.text :: acc) ef
            else (acc.reverse, (ef.after acc).error z.pos "missing ')' after 'defined'")
          | [y] =>
            if y.kind != .identifier then (acc.reverse, (ef.after acc).error y.pos "macro name must be an identifier")
            else (acc.reverse, (ef.after acc).error sc.lineEnd "missing ')' after 'defined'")
          | [] => (acc.reverse, (ef.after acc).error sc.lineEnd "macro name missing")
        else (acc.reverse, (ef.after acc).error x.pos "macro name must be an identifier")
      | [] => (acc.reverse, (ef.after acc).error sc.lineEnd "macro name missing")
    else if (t.text == "__has_include" || t.text == "__has_include_next") && sc.builtin t.text then
      -- after an error the last token read stands for the operator, and the end of the line
      -- ends the expansion
      let missing (what : String) : String := "missing '" ++ what ++ "' after '" ++ t.text ++ "'"
      let opened := (rest.head?.map (·.isPunct "(")).getD false
      let ef := if opened then ef else (ef.after acc).note (t.finish.getD t.pos) (missing "(")
      let operand := if opened then rest.drop 1 else rest
      match headerName operand with
      | some (h, after) =>
        match after with
        | rp :: r' =>
          if rp.isPunct ")" then
            let v := Token.number t (if sc.hasHeader h.name h.angled then "1" else "0")
            expandTokens sc fuel r' (v :: acc) ef
          else expandTokens sc fuel r' (rp :: acc) ((ef.after acc).note h.finish (missing ")"))
        | [] => (acc.reverse, (ef.after acc).note h.finish (missing ")"))
      | none =>
        let ef := if opened then
            (ef.after acc).note ((operand.head?.map (·.pos)).getD sc.lineEnd)
              "expected \"FILENAME\" or <FILENAME>"
          else ef
        match operand with
        | x :: r' =>
          if x.isPunct ")" then expandTokens sc fuel r' (Token.number t "0" :: acc) ef
          else expandTokens sc fuel r' (x :: acc) ef
        | [] => (acc.reverse, ef)
    else if let some q := (if sc.builtin t.text then FeatureQuery.ofName? t.text else none) then
      let (value, after, errs) := readQuery sc q t rest
      let ef := errs.foldl (fun ef (p, m) => (ef.after acc).note p m) ef
      match value with
      | some v => expandTokens sc fuel after (queryToken t v :: acc) ef
      | none => (acc.reverse, ef)
    else if t.hidden.contains t.text then expandTokens sc fuel rest (t :: acc) ef
    else
      match if sc.builtin t.text then builtinValue sc t ef else none with
      | some (v, ef) => expandTokens sc fuel rest (v :: acc) ef
      | none =>
        match sc.lookup t.text with
        | none => expandTokens sc fuel rest (t :: acc) ef
        | some m =>
          match m.params with
          | none =>
            let (body, ef) := substitute sc.lexMode (fun a ef => (a, ef)) t [] false [] m.body [] (ef.after acc)
            let body := placeExpansion t t.finish (t.useEnd.getD t.pos) (t.hidden ++ [m.name]) body
            expandTokens sc fuel (body ++ rest) acc ef
          | some params =>
            match rest with
            | lp :: r =>
              if !lp.isPunct "(" then expandTokens sc fuel rest (t :: acc) ef
              else
                match splitArguments (if m.variadic then params.length else r.length + 1) r 0 [] [] with
                | none => (acc.reverse, (ef.after acc).error t.pos "unterminated function-like macro invocation")
                | some (args, rp, after) =>
                  let ef := ef.after acc
                  let expandWith (args : List (List Token)) (ef : Effects) :
                      List Token × Effects :=
                    let expandArg (a : List Token) (ef : Effects) : List Token × Effects :=
                      let (ts, inner) := expandTokens sc fuel a [] { ef with inArgument := true }
                      (ts, { inner with inArgument := ef.inArgument, done := ef.done })
                    let body := if m.variadic && m.body.any (·.isIdent "__VA_OPT__") then
                        resolveOptional (!(expandArg (args.getLastD []) ef).1.isEmpty) m.body []
                      else m.body
                    let (body, ef) := substitute sc.lexMode expandArg t params m.variadic args body [] ef
                    let hidden := (t.hidden.filter (· ∈ rp.hidden)) ++ [m.name]
                    let body := placeExpansion t rp.finish (rp.useEnd.getD rp.pos) hidden body
                    expandTokens sc fuel (body ++ after) acc ef
                  match fitArguments params m.variadic args with
                  | .error .tooMany =>
                    let place := (extraArgumentPlace params.length r).getD t.pos
                    match regroupBraced params.length args with
                    | some fixed => expandWith fixed (ef.note place ArgumentError.tooMany.message)
                    | none => expandTokens sc fuel after acc (ef.error place ArgumentError.tooMany.message)
                  | .error e => expandTokens sc fuel after acc (ef.error rp.pos e.message)
                  | .ok args => expandWith args ef
            | [] => expandTokens sc fuel rest (t :: acc) ef

/-- Expands a run of tokens with generous fuel. -/
def Scope.expand (sc : Scope) (ts : List Token) (ef : Effects) : List Token × Effects :=
  expandTokens sc (100000 + 64 * ts.length) ts [] ef

end NativeBindings.Header
