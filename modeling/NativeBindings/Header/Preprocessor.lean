import NativeBindings.Header.Macro
import NativeBindings.Header.Condition
import NativeBindings.Header.Keywords
import NativeBindings.Header.Predefined
import NativeBindings.Header.Pragma
import NativeBindings.Header.Pragmas
import NativeBindings.Header.KnownPragmas
import NativeBindings.Files.Tree
import NativeBindings.Header.Parsed

/-!
# Preprocessing a unit

`preprocess` reads a main file and the files it includes into the token list that the parser
reads, ending with an `endOfFile` token at the end of the main file. It carries out the
directives of C:

* `#define` and `#undef` change the macros; text lines are expanded with the macros in force;
* `#if`, `#ifdef`, `#ifndef`, `#elif`, `#elifdef`, `#elifndef`, `#else` and `#endif` choose the
  lines that count; in lines that do not count only these directives are followed;
* `#include`, `#include_next` and `#import` read another file in place; a quoted name is looked
  for first beside the including file, then in the `-iquote` directories, and every name in the
  `-I`, `-isystem` and `-idirafter` directories, in that order; `#pragma once` and `#import`
  read a file only once;
* `#error` reports the rest of its line; `#warning`, `#line`, `#ident` and other pragmas
  change nothing here.

Every include met in a line that counts is recorded with the place of its `#`, whether the file
was found or not. A file that cannot be found is a fatal error: the reading goes on, but no
later message is kept. Each message is numbered by the count of tokens read before it, so that
the parser's messages can be put among them in the order they arise.
-/

namespace NativeBindings.Header

/-- A file being read: its name as the front end knows it, its path, its bytes, and how deep
in includes it is. -/
structure SourceFile where
  name : String
  path : Files.Path
  bytes : ByteArray
  level : Nat
  /-- The place in the search chain of the directory the file was found in; none for the main
  file and for one found beside the file that includes it or by an absolute name. -/
  searchIndex : Option Nat := none
  /-- The place of the name of the include that opened the file, and the limit of
  `#pragma pack` in force then. -/
  includedAt : Option (Position × Nat) := none
deriving Inhabited

/-- An open conditional: where its `#if` stood, whether the lines around it count, whether one
of its branches has been chosen, whether the current branch counts, and whether `#else` was
seen. -/
structure Branch where
  pos : Position
  parentActive : Bool
  taken : Bool
  active : Bool
  seenElse : Bool
deriving Inhabited, Repr

/-- A file on its way through the reader: its lines left, its open conditionals, and its text
tokens not yet expanded, newest first. -/
structure Frame where
  file : SourceFile
  lines : List (List Token)
  branches : List Branch := []
  pending : List Token := []
  lexErrors : List Diagnostic := []
  /-- Whether the text of the frame is left out, only its directives counting. -/
  quiet : Bool := false
  /-- The end of the file, when the file is not empty and its last line has no line break. -/
  unfinishedAt : Option Position := none
deriving Inhabited

/-- The end of a text that is not empty and whose last line has no line break, where the lexer
placed the end of the file. -/
def unfinishedEnd (text : String) (eof : Position) : Option Position :=
  if text.isEmpty || text.endsWith "\n" || text.endsWith "\r" then none else some eof

/-- Whether the lines of a frame count now. -/
def Frame.active (fr : Frame) : Bool := (fr.branches.head?.map (·.active)).getD true

/-- What reading a unit has produced so far. -/
structure Reading where
  /-- The macros in force, newest first. -/
  macros : List Macro := []
  counter : Nat := 0
  /-- The tokens read, newest first, and their number. -/
  output : List Token := []
  count : Nat := 0
  /-- Newest first. -/
  inclusions : List Inclusion := []
  /-- Newest first, each with the number of tokens read before it. -/
  diagnostics : List (Nat × Diagnostic) := []
  silenced : Bool := false
  /-- The files read once at most: those with `#pragma once`, and those that `#import` named. -/
  once : List Files.Path := []
  /-- The files read so far, the main one first among them: `#import` reads none of them
  again. -/
  entered : List Files.Path := []
  /-- The `#line` directives read, in order. -/
  marks : List LineMark := []
  /-- The `#pragma pack` requests, newest first, each with the number of tokens read before
  it. -/
  packs : List (Nat × PackAction) := []
  /-- The builtin macros undefined or defined again, which no longer act. -/
  withdrawn : List String := []
  /-- The diagnostic pragmas, newest first, each with the number of tokens read before it and
  its place. -/
  diagnosticPragmas : List ((Nat × Position) × DiagnosticPragma) := []
  /-- How many states the diagnostic pragmas have saved and not yet brought back. -/
  savedStates : Nat := 0
  /-- The identifiers that `#pragma GCC poison` forbids. -/
  poisoned : List String := []
  /-- The definitions that `#pragma push_macro` saved, newest first: the name, and the
  definition or none when the name was not defined. -/
  pushedMacros : List (String × Option Macro) := []
  /-- The `#pragma ms_struct` requests, newest first, each with the number of tokens read
  before it. -/
  msStructs : List (Nat × Bool) := []
deriving Inhabited

namespace Reading

/-- Keeps a message, unless a fatal error came before; a fatal one silences the rest. -/
def report (r : Reading) (d : Diagnostic) (time : Nat := r.count) : Reading :=
  if r.silenced then r
  else { r with diagnostics := (time, d) :: r.diagnostics, silenced := d.fatal }

/-- Keeps an error at a place. -/
def error (r : Reading) (pos : Position) (message : String) : Reading :=
  r.report ⟨some pos, message, false, none⟩

/-- Keeps a warning of a kind at a place; the options and pragmas decide at the end whether it
is an error. -/
def warn (r : Reading) (w : Warning) (pos : Position) (message : String) : Reading :=
  r.report (Diagnostic.warningAt w pos message)

/-- The limit of `#pragma pack` in force. -/
def packLimit (r : Reading) : Nat := (PackState.after (r.packs.reverse.map (·.2))).limit

/-- Whether a macro name is one that the language itself defines: a builtin macro that still
acts, or one that the front end predefines with a name that the standards reserve, starting
with `__STDC` or `__cpp`, or `__cplusplus`. -/
def languageDefined (r : Reading) (name : String) : Bool :=
  (builtinMacroNames.contains name && !r.withdrawn.contains name) ||
    ((r.macros.find? (·.name == name)).any (·.predefined) &&
      (name.startsWith "__STDC" || name.startsWith "__cpp" || name == "__cplusplus"))

/-- Adds tokens to the output. -/
def emit (r : Reading) (ts : List Token) : Reading :=
  { r with output := ts.reverse ++ r.output, count := r.count + ts.length }

/-- Defines a macro, replacing an earlier definition of its name. -/
def define (r : Reading) (m : Macro) : Reading :=
  { r with macros := m :: r.macros.filter (·.name != m.name) }

/-- Removes the definition of a name. -/
def undefine (r : Reading) (name : String) : Reading :=
  { r with macros := r.macros.filter (·.name != name) }

/-- Reports each identifier among tokens read from a file that `#pragma GCC poison` forbids,
`time` telling how many tokens were read before the first of them. -/
def poisonUses (r : Reading) (ts : List Token) (time : Nat := r.count) : Reading :=
  if r.poisoned.isEmpty then r
  else
    ts.zipIdx.foldl (fun r (t, i) =>
      if t.kind == .identifier && !t.expanded && r.poisoned.contains t.text then
        r.report ⟨some t.pos, "attempt to use a poisoned identifier", false, none⟩ (time + i)
      else r) r

/-- Stops a builtin macro from acting, once it is undefined or defined again. -/
def withdraw (r : Reading) (name : String) : Reading :=
  if builtinMacroNames.contains name && !r.withdrawn.contains name then
    { r with withdrawn := name :: r.withdrawn }
  else r

end Reading

/-- How the options cut text into tokens: the edition decides which literals and identifier
characters there are, and trigraphs are on in the ISO standards before C23 and C++17 unless
asked otherwise. -/
def Options.lexMode (o : Options) : LexMode :=
  let cxx := o.language == .cxx
  { c99 := cxx || o.standard != .c89
    c11 := cxx || !(o.standard == .c89 || o.standard == .c99)
    c23 := cxx || o.standard == .c23
    trigraphs := o.trigraphs.getD
      (!o.gnu && if cxx then [98, 11, 14].contains o.cxxYear else o.standard != .c23)
    identifiers :=
      if cxx || o.standard == .c23 then .unicode
      else if o.standard == .c89 || o.standard == .c99 then .c99 else .c11
    cxx }

/-- What a reading works with: the files, the options, and the main file's name. -/
structure Setting where
  tree : Files.Tree
  options : Options
  mainName : String

/-- The lines of a token list, each ending with its `newline` token. -/
def splitLines (ts : List Token) : List (List Token) :=
  let (lines, cur) := ts.foldl (fun (acc : List (List Token) × List Token) t =>
    if t.kind == .newline then ((t :: acc.2).reverse :: acc.1, []) else (acc.1, t :: acc.2)) ([], [])
  (if cur.isEmpty then lines else cur.reverse :: lines).reverse

/-- The directory part of a file name, empty when it has none. -/
def directoryOf (name : String) : String :=
  match (name.splitOn "/").dropLast with
  | [] => ""
  | parts => "/".intercalate parts

/-- A file name in a directory. -/
def inDirectory (dir name : String) : String :=
  if dir.isEmpty then name else if dir.endsWith "/" then dir ++ name else dir ++ "/" ++ name

namespace Setting

/-- Whether a name is a file that can be read. -/
def isFile (st : Setting) (name : String) : Bool :=
  st.tree.namesExisting name && (st.tree.resolveExisting? name).any st.tree.isFile

/-- The directories searched for header names, in order: the `-iquote` ones, which only quoted
names search, then the `-I`, `-isystem` and `-idirafter` ones. -/
def searchChain (st : Setting) : List String :=
  st.options.quoteDirs ++ st.options.angledDirs ++ st.options.systemDirs ++ st.options.afterDirs

/-- The file that a header name stands for, if one is found, with the place in the search chain
of the directory it is found in. An absolute name is taken as it is, and a quoted one is looked
for first beside the including file; neither has a place in the chain. The search starts at
`start` when one is given, as for `#include_next`, and otherwise at the start of the chain
for a quoted name and after the `-iquote` directories for one in `<>`. -/
def locateHeader (st : Setting) (includer : String) (name : String) (angled : Bool)
    (start : Option Nat) : Option (String × Option Nat) :=
  if name.startsWith "/" then (if st.isFile name then some (name, none) else none)
  else
    let beside := if angled || start.isSome then none
      else
        let candidate := inDirectory (directoryOf includer) name
        if st.isFile candidate then some (candidate, none) else none
    beside.orElse fun _ =>
      let first := start.getD (if angled then st.options.quoteDirs.length else 0)
      ((st.searchChain.zipIdx.drop first).findSome? fun (dir, i) =>
        let candidate := inDirectory dir name
        if st.isFile candidate then some (candidate, some i) else none)

/-- The name of the file that a header name stands for, if one is found. -/
def findHeader (st : Setting) (includer : String) (name : String) (angled : Bool) : Option String :=
  (st.locateHeader includer name angled none).map (·.1)

/-- The scope of an expansion in a file. -/
def scope (st : Setting) (r : Reading) (file : SourceFile) (inCondition : Bool)
    (lineEnd : Position) : Scope :=
  { macros := r.macros, inCondition, baseFile := st.mainName, level := file.level, lineEnd,
    marks := r.marks, hasHeader := fun name angled => (st.findHeader file.name name angled).isSome,
    lexMode := st.options.lexMode, features := st.options.featureContext,
    withdrawn := r.withdrawn }

end Setting

/-- Whether tokens start with the operand `( "…" )` of `_Pragma`. -/
def isPragmaOperand : List Token → Bool
  | lp :: s :: rp :: _ => lp.isPunct "(" && s.kind == .string && rp.isPunct ")"
  | _ => false

/-- Takes the `_Pragma ( "…" )` operators out of expanded text, `kept` tokens having been kept
before it: gives the text left and each operator's string literal with the number of tokens
kept before it. -/
def takePragmaOperators (kept : Nat) : List Token → List Token × List (Nat × Token)
  | [] => ([], [])
  | t :: rest =>
    if t.isIdent "_Pragma" && isPragmaOperand rest then
      let (ts, ps) := takePragmaOperators kept (rest.drop 3)
      (ts, (kept, rest.getD 1 default) :: ps)
    else
      let (ts, ps) := takePragmaOperators (kept + 1) rest
      (t :: ts, ps)
termination_by l => l.length

/-- The text that a `_Pragma` string stands for: without its prefix and quotes, `\\` and
`\"` read as the characters they escape. -/
def destringize (literal : String) : String :=
  let body := (literal.toList.dropWhile (· != '"')).drop 1 |>.dropLast
  let rec go : List Char → List Char
    | '\\' :: c :: rest => if c == '\\' || c == '"' then c :: go rest else '\\' :: go (c :: rest)
    | c :: rest => c :: go rest
    | [] => []
  String.ofList (go body)

/-- Carries out a `#pragma pack` line whose `pack` token is `p`, given the tokens after it and
the end of the line, before the tokens read so far: a request that reads is kept, and the
warnings about the line are made at their places. -/
def Reading.pack (r : Reading) (before : Nat) (p : Token) (ts : List Token)
    (eol : Position) : Reading :=
  match PackLine.read ts eol with
  | .error (pos, m) => r.warn (packWarning m) pos m
  | .ok line =>
    let (warnings, action) := line.act p.pos (PackState.after (r.packs.reverse.map (·.2)))
    let r := warnings.foldl (fun r m => r.warn (packWarning m) p.pos m) r
    match action with
    | some a => { r with packs := (before, a) :: r.packs }
    | none => r

/-- The text of a plain string literal, its escaped characters taken as written. -/
def literalText (s : String) : String :=
  let rec unescape : List Char → List Char
    | '\\' :: c :: rest => c :: unescape rest
    | c :: rest => c :: unescape rest
    | [] => []
  String.ofList (unescape ((s.toList.drop 1).dropLast))

/-- Carries out a diagnostic pragma, `clang diagnostic` or `GCC diagnostic`, whose
`diagnostic` token is `d`, given the tokens after it, unexpanded, and the end of the line, read
`before` tokens being read: `push` and `pop` save and bring back the state of the warnings, and
`ignored`, `warning`, `error` and `fatal` give a level to the group that the string after them
names by its option, `-Wgroup`. What does not read so is warned about. -/
def Reading.diagnosticPragma (r : Reading) (before : Nat) (d : Token) (ts : List Token)
    (eol : Position) : Reading :=
  let unknownPragma : Warning := .on "unknown-pragmas"
  let invalid := "pragma diagnostic expected 'error', 'warning', 'ignored', 'fatal', 'push', or 'pop'"
  let record (p : DiagnosticPragma) (r : Reading) : Reading :=
    { r with diagnosticPragmas := ((before, d.pos), p) :: r.diagnosticPragmas }
  let extra (rest : List Token) (r : Reading) : Reading :=
    match rest with
    | t :: _ => r.warn unknownPragma t.pos "unexpected token in pragma diagnostic"
    | [] => r
  match ts with
  | [] => r.warn unknownPragma eol invalid
  | v :: rest =>
    if v.kind != .identifier then r.warn unknownPragma v.pos invalid
    else if v.text == "pop" then
      if r.savedStates == 0 then
        r.warn unknownPragma ((rest.head?.map (·.pos)).getD eol) "pragma diagnostic pop could not pop, no matching push"
      else extra rest (record .pop { r with savedStates := r.savedStates - 1 })
    else if v.text == "push" then extra rest (record .push { r with savedStates := r.savedStates + 1 })
    else
      let level? : Option Level := match v.text with
        | "ignored" => some .ignored
        | "warning" => some .warning
        | "error" => some .error
        | "fatal" => some .fatal
        | _ => none
      match level? with
      | none => r.warn unknownPragma ((rest.head?.map (·.pos)).getD eol) invalid
      | some level =>
        let isString (t : Token) : Bool := t.kind == .string && t.text.startsWith "\""
        let strings := rest.takeWhile isString
        let after := rest.drop strings.length
        match strings.head? with
        | none => r.error ((rest.head?.map (·.pos)).getD eol) "expected string literal in pragma diagnostic"
        | some first =>
          if !after.isEmpty then extra after r
          else
            let name := String.join (strings.map fun t => literalText t.text)
            if name.length < 3 || !(name.startsWith "-W" || name.startsWith "-R") then
              r.warn unknownPragma first.pos "pragma diagnostic expected option name (e.g. \"-Wundef\")"
            else if name.startsWith "-R" then r
            else
              let group := (name.drop 2).toString
              if group == "everything" || warningGroups.contains group then record (.map level group) r
              else r.warn (.on "unknown-warning-option") first.pos ("unknown warning group '" ++ name ++ "', ignored")

/-- Carries out `#pragma GCC poison`, given the tokens after `poison`: each identifier is
forbidden from then on, with a warning when it names a macro; a token that is no identifier
ends the line with an error. -/
def Reading.poison (r : Reading) : List Token → Reading
  | [] => r
  | t :: rest =>
    if t.kind != .identifier then r.error t.pos "can only poison identifier tokens"
    else if r.poisoned.contains t.text then r.poison rest
    else
      let isMacro := r.macros.any (·.name == t.text) ||
        (builtinMacroNames.contains t.text && !r.withdrawn.contains t.text)
      let r := if isMacro then r.warn (.on "") t.pos "poisoning existing macro" else r
      { r with poisoned := t.text :: r.poisoned }.poison rest

/-- Carries out `#pragma push_macro` (`push`) or `#pragma pop_macro` for a name: a push saves
the name's definition, which may then be defined again without a warning; a pop brings back the
definition saved last, or no definition when there was none, and warns when nothing was
saved. -/
def Reading.pushOrPopMacro (r : Reading) (push : Bool) (at_ : Position) (name : String) : Reading :=
  if push then
    let current := (r.macros.find? (·.name == name)).map fun m => { m with redefinable := true }
    let r := match current with
      | some m => r.define m
      | none => r
    { r with pushedMacros := (name, current) :: r.pushedMacros }
  else
    let (newer, from_) := r.pushedMacros.span (·.1 != name)
    match from_ with
    | (_, saved) :: older =>
      let r := { r with pushedMacros := newer ++ older }.undefine name
      match saved with
      | some m => r.define m
      | none => r
    | [] =>
      r.warn (.on "ignored-pragmas") at_
        ("pragma pop_macro could not pop '" ++ name ++ "', no matching push_macro")

/-- Carries out `#pragma GCC dependency`, given the tokens after `dependency`: the file it
names must be found as an include would find it. -/
def Setting.dependency (st : Setting) (fr : Frame) (r : Reading) (ts : List Token)
    (eol : Position) : Reading :=
  let place := placeOf ts eol
  match headerName ts with
  | none => r.error place "expected \"FILENAME\" or <FILENAME>"
  | some (⟨name, angled, _⟩, _) =>
    if name.isEmpty then r.error place "empty filename"
    else match st.locateHeader fr.file.name name angled none with
      | some _ => r
      | none => r.report ⟨some place, "'" ++ name ++ "' file not found", true, none⟩

/-- Carries out a pragma whose first word is `p`, given the tokens after it, unexpanded, and the
end of the line, read `before` tokens being read: `pack`, `options` and `align`, `ms_struct`,
`comment`, `push_macro` and `pop_macro`, and of the `GCC` and `clang` families `diagnostic`,
`poison`, `system_header`, `dependency` and `fp`. The pragmas read by the handlers of the front
end see their tokens with macros expanded. -/
def Setting.pragmaLine (st : Setting) (fr : Frame) (r : Reading) (before : Nat) (p : Token)
    (rest : List Token) (eol : Position) : Reading :=
  let o := st.options
  let expand (ts : List Token) : List Token := ((st.scope r fr.file false eol).expand ts {}).1
  let complain (r : Reading) (c : PragmaComplaint) : Reading :=
    match c.warning with
    | some w => r.warn w c.pos c.message
    | none => r.error c.pos c.message
  if p.isIdent "pack" then r.pack before p (expand rest) eol
  else if p.isIdent "options" || p.isIdent "align" then
    match readAlignLine (p.text == "options") (expand rest) eol with
    | .error (pos, m) => r.warn ignoredPragma pos m
    | .ok c =>
      match c.act o.target.isDarwin p.pos (PackState.after (r.packs.reverse.map (·.2))) with
      | .ok a => { r with packs := (before, a) :: r.packs }
      | .error c => complain r c
  else if p.isIdent "ms_struct" then
    match readMsStructLine (expand rest) eol with
    | .error (pos, m) => r.warn ignoredPragma pos m
    | .ok on => { r with msStructs := (before, on) :: r.msStructs }
  else if p.isIdent "comment" && (o.microsoft || o.target.isELF) then
    match commentComplaint? o.target.isELF p (expand rest) eol with
    | some c => complain r c
    | none => r
  else if p.isIdent "push_macro" || p.isIdent "pop_macro" then
    match macroPragmaName? (expand rest) with
    | none => r.error p.pos ("pragma " ++ p.text ++ " requires a parenthesized string")
    | some name => r.pushOrPopMacro (p.text == "push_macro") p.pos name
  else if p.isIdent "GCC" || p.isIdent "clang" then
    match rest with
    | q :: more =>
      if q.isIdent "diagnostic" then r.diagnosticPragma before q more eol
      else if q.isIdent "poison" then r.poison more
      else if q.isIdent "system_header" then
        if fr.file.level == 0 then
          r.warn (.on "pragma-system-header-outside-header") q.pos
            "#pragma system_header ignored in main file"
        else r
      else if q.isIdent "dependency" then st.dependency fr r more eol
      else if p.text == "clang" && q.isIdent "fp" then
        match fpLineComplaint? (expand more) eol with
        | some c => complain r c
        | none => r
      else r
    | [] => r
  else r

/-- Carries out the pragmas of `_Pragma` operators that the lexer reads from their strings, each
before the tokens of `kept` that it stands before; what they warn about stands at the string. An
identifier that a pragma poisons is reported among the tokens after it. -/
def Setting.pragmaOperators (st : Setting) (fr : Frame) (r : Reading) (ps : List (Nat × Token))
    (kept : List Token) : Reading :=
  let o := st.options
  ps.foldl (fun r (k, s) =>
    let ts := ((lex o.lexMode "<pragma>" (destringize s.text)).tokens.filter (·.kind != .newline)).map
      fun t => { t with pos := s.pos }
    let r := match unknownPragma? o.microsoft o.target.isELF o.openmp ts s.pos with
      | some (pos, w, m) => r.warn w pos m
      | none => r
    match ts with
    | p :: rest =>
      let poisonedBefore := r.poisoned
      let r := st.pragmaLine fr r (r.count + k) p rest s.pos
      if r.poisoned.length == poisonedBefore.length then r
      else
        let fresh := r.poisoned.take (r.poisoned.length - poisonedBefore.length)
        let checked := { r with poisoned := fresh }.poisonUses (kept.drop k) (r.count + k)
        { checked with poisoned := r.poisoned }
    | [] => r) r

/-- Expands the text lines of a frame that wait and adds them to the output. -/
def flush (st : Setting) (fr : Frame) (r : Reading) : Frame × Reading :=
  if fr.pending.isEmpty then (fr, r)
  else
    let sc := st.scope r fr.file false default
    let (ts, ef) := sc.expand fr.pending.reverse { counter := r.counter }
    let r := { r with counter := ef.counter }
    let r := ef.diagnostics.reverse.foldl (fun r (time, d) => r.report d (r.count + time)) r
    let (ts, pragmas) := takePragmaOperators 0 ts
    let r := st.pragmaOperators fr r pragmas ts
    ({ fr with pending := [] }, r.emit ts)

/-- The parameters of a function-like macro after its `(`: the names, whether it is variadic,
and the body after the `)`. -/
def readParams : Nat → List Token → List String → Except (Position × String) (List String × Bool × List Token)
  | 0, _, _ => .error (default, "missing ')' in macro parameter list")
  | _ + 1, [], _ => .error (default, "missing ')' in macro parameter list")
  | fuel + 1, t :: rest, acc =>
    if t.isPunct ")" then
      if acc.isEmpty then .ok ([], false, rest)
      else .error (t.pos, "expected identifier in macro parameter list")
    else if t.isPunct "..." then
      match rest with
      | rp :: body =>
        if rp.isPunct ")" then .ok ((acc ++ ["__VA_ARGS__"]), true, body)
        else .error (rp.pos, "missing ')' in macro parameter list")
      | [] => .error (default, "missing ')' in macro parameter list")
    else if t.kind == .identifier then
      if acc.contains t.text then .error (t.pos, "duplicate macro parameter name '" ++ t.text ++ "'")
      else
        match rest with
        | sep :: more =>
          if sep.isPunct ")" then .ok (acc ++ [t.text], false, more)
          else if sep.isPunct "," then readParams fuel more (acc ++ [t.text])
          else if sep.isPunct "..." then
            match more with
            | rp :: body =>
              if rp.isPunct ")" then .ok (acc ++ [t.text], true, body)
              else .error (rp.pos, "missing ')' in macro parameter list")
            | [] => .error (default, "missing ')' in macro parameter list")
          else .error (sep.pos, "expected comma in macro parameter list")
        | [] => .error (default, "missing ')' in macro parameter list")
    else if t.kind == .newline then .error (t.pos, "missing ')' in macro parameter list")
    else .error (t.pos, "invalid token in macro parameter list")

/-- The place after the first `#` of a function-like body that is not followed by a parameter
or `__VA_OPT__`: the token that follows it, or the line end. -/
def strayHash (params : List String) (eol : Position) : List Token → Option Position
  | [] => none
  | t :: rest =>
    if t.isPunct "#" then
      match rest with
      | p :: _ =>
        if p.kind == .identifier && (params.contains p.text || p.text == "__VA_OPT__") then
          strayHash params eol rest
        else some p.pos
      | [] => some eol
    else strayHash params eol rest

/-- Reads a `#define` line: the tokens after `define`, its end excluded, and the line end. -/
def readDefine (args : List Token) (eol : Position) : Except (Position × String) Macro :=
  match args with
  | [] => .error (eol, "macro name missing")
  | n :: rest =>
    if n.kind != .identifier then .error (n.pos, "macro name must be an identifier")
    else if n.text == "defined" then .error (n.pos, "'defined' cannot be used as a macro name")
    else
      let bodyChecks (fnLike : Bool) (params : List String) (body : List Token) :
          Except (Position × String) Unit :=
        match (if fnLike then strayHash params eol body else none) with
        | some p => .error (p, "'#' is not followed by a macro parameter")
        | none =>
          match body.head?, body.getLast? with
          | some f, some l =>
            if f.isPunct "##" then .error (f.pos, "'##' cannot appear at start of macro expansion")
            else if l.isPunct "##" then .error (l.pos, "'##' cannot appear at end of macro expansion")
            else .ok ()
          | _, _ => .ok ()
      match rest with
      | lp :: more =>
        if lp.isPunct "(" && !lp.spaced then
          match readParams (more.length + 1) (more ++ [{ kind := .newline, text := "\n", pos := eol }]) [] with
          | .error (p, m) => .error (if p == default then eol else p, m)
          | .ok (params, variadic, body) =>
            let body := body.filter (·.kind != .newline)
            match bodyChecks true params body with
            | .error e => .error e
            | .ok () => .ok { name := n.text, params := some params, variadic, body }
        else
          match bodyChecks false [] rest with
          | .error e => .error e
          | .ok () => .ok { name := n.text, body := rest }
      | [] => .ok { name := n.text }

/-- The message of a `#error` or `#warning` line: the rest of the line as it is written, without
the spaces that start it. -/
def userMessage (args : List Token) : String :=
  match args.find? (·.kind == .message) with
  | some t => String.ofList (t.text.toList.dropWhile (· == ' '))
  | none => ""

/-- The `...` of a macro parameter list, the tokens after its `(`, that the list reaches before
anything that ends it or is wrong in it, with whether a name comes before it (`args...`). -/
def variadicMark : List Token → Option (Position × Bool)
  | t :: rest =>
    if t.isPunct "..." then some (t.pos, false)
    else if t.kind == .identifier then
      match rest with
      | sep :: more =>
        if sep.isPunct "..." then some (sep.pos, true)
        else if sep.isPunct "," then variadicMark more
        else none
      | [] => none
    else none
  | [] => none

/-- Warns about the `...` of a function-like macro: one after a name is a GNU extension, and
variadic macros came with C99. -/
def Setting.variadicMacro (st : Setting) (r : Reading) (args : List Token) : Reading :=
  match args with
  | n :: lp :: more =>
    if n.kind != .identifier || !lp.isPunct "(" || lp.spaced then r
    else
      match variadicMark more with
      | some (pos, true) => r.warn (.ext "variadic-macros") pos "named variadic macros are a GNU extension"
      | some (pos, false) =>
        if st.options.language == .c && st.options.standard == .c89 then
          r.warn (.ext "variadic-macros") pos "variadic macros are a C99 feature"
        else r
      | none => r
  | _ => r

/-- Warns about a `#define` line whose macro name is not followed by a blank before an
object-like body: C99 and C++11 require one, and C90 recommends one, requiring it before a
character outside its basic set. -/
def Setting.macroNameSpacing (st : Setting) (r : Reading) (args : List Token) : Reading :=
  match args with
  | n :: t :: _ =>
    if n.kind != .identifier || n.text == "defined" || t.spaced || t.isPunct "(" then r
    else
      let modern := if st.options.language == .cxx then cxxSince st.options.cxxYear 11
        else st.options.standard != .c89
      if modern then r.warn (.extWarn "c99-extensions") t.pos "ISO C99 requires whitespace after the macro name"
      else if t.isPunct "@" || t.kind == .stray then
        r.warn (.extWarn "") t.pos "whitespace required after macro name"
      else r.warn (.on "") t.pos "whitespace recommended after macro name"
  | _ => r

/-- The pragmas that give a message: `#pragma message`, `#pragma GCC warning` and
`#pragma GCC error`. -/
inductive PragmaMessageKind where
  | message
  | warning
  | error
deriving DecidableEq, Inhabited, Repr

/-- The name of a kind of message pragma, as its errors name it. -/
def PragmaMessageKind.name : PragmaMessageKind → String
  | .message => "message"
  | .warning => "warning"
  | .error => "error"

/-- Carries out a pragma that gives a message, whose name token is `at_`, given the tokens after
it, expanded: plain string literals, in parentheses or not, whose texts run together are the
message. It is a warning, but for `#pragma GCC error`; a line that does not read so is an
error. -/
def Setting.pragmaMessage (st : Setting) (r : Reading) (fr : Frame) (at_ : Token)
    (kind : PragmaMessageKind) (ts : List Token) (eol : Position) : Reading :=
  let (ts, _) := (st.scope r fr.file false eol).expand ts {}
  let isString (t : Token) : Bool := t.kind == .string && t.text.startsWith "\""
  let place (l : List Token) : Position := (l.head?.map (·.pos)).getD eol
  let malformed := "pragma " ++ kind.name ++ " requires parenthesized string"
  let opened : Option (Bool × List Token) := match ts with
    | t :: rest => if t.isPunct "(" then some (true, rest) else if isString t then some (false, ts) else none
    | [] => none
  match opened with
  | none => r.error at_.pos malformed
  | some (paren, ts) =>
    let strings := ts.takeWhile isString
    let rest := ts.drop strings.length
    if strings.isEmpty then r.error (place ts) ("expected string literal in pragma " ++ kind.name)
    else
      let closed : Option (List Token) :=
        if paren then
          match rest with
          | rp :: more => if rp.isPunct ")" then some more else none
          | [] => none
        else some rest
      match closed with
      | some [] =>
        let text := String.join (strings.map fun t => literalText t.text)
        if kind == .error then r.error at_.pos text
        else r.warn { Warning.on "#pragma-messages" with noWerror := true } at_.pos text
      | some more => r.error (place more) malformed
      | none => r.error (place rest) malformed

/-- The truth of a `#if` or `#elif` line; an error makes it false. -/
def conditionTruth (st : Setting) (fr : Frame) (r : Reading) (directive : Token)
    (args : List Token) (eol : Position) : Bool × Reading :=
  if args.isEmpty then
    (false, r.error eol ("#" ++ directive.text ++ " with no expression"))
  else
    let sc := st.scope r fr.file true eol
    let (ts, ef) := sc.expand args { counter := r.counter }
    let r := { r with counter := ef.counter }
    match ef.failedAt with
    | some n => (false, (ef.diagnostics.reverse.take n).foldl (fun r (_, d) => r.report d) r)
    | none =>
      let r := ef.diagnostics.reverse.foldl (fun r (_, d) => r.report d) r
      let (b, errors) :=
        evaluateCondition (st.options.declarationStandard == .c23) st.options.typeModel eol ts
      (b, errors.foldl (fun r e => r.error e.pos e.message) r)

/-- Whether a `#ifdef`-like line names a defined macro; `none` after an error. -/
def definedName (r : Reading) (args : List Token) (eol : Position) : Option Bool × Reading :=
  match args with
  | [] => (none, r.error eol "macro name missing")
  | n :: _ =>
    if n.kind != .identifier then (none, r.error n.pos "macro name must be an identifier")
    else
      (some (r.macros.any (·.name == n.text) ||
        (builtinMacroNames.contains n.text && !r.withdrawn.contains n.text)), r)

/-- The largest depth of nested includes. -/
def includeDepthLimit : Nat := 200

/-- Carries out an include directive: records it and opens the file found. The search starts at
`start` in the search chain when one is given. -/
def includeFile (st : Setting) (fr : Frame) (r : Reading) (hash : Token) (args : List Token)
    (eol : Position) (importOnce quiet : Bool) (start : Option Nat := none) : Reading × Option Frame :=
  let header := match headerName args with
    | some h => some h
    | none =>
      let (ts, _) := (st.scope r fr.file false eol).expand args {}
      headerName ts
  match header with
  | none =>
    let place := (args.head?.map (·.pos)).getD eol
    (r.error place "expected \"FILENAME\" or <FILENAME>", none)
  | some (⟨name, angled, _⟩, _) =>
    let place := (args.head?.map (·.pos)).getD eol
    if name.isEmpty then (r.error place "empty filename", none)
    else
      let found := st.locateHeader fr.file.name name angled start
      let (found, r) := match found with
        | some f => (some f, r)
        | none =>
          if angled then
            match st.findHeader fr.file.name name false with
            | some f => (some (f, none), r.error place ("'" ++ name ++ "' file not found with <angled> include; use \"quotes\" instead"))
            | none => (none, r.report ⟨some place, "'" ++ name ++ "' file not found", true, none⟩)
          else (none, r.report ⟨some place, "'" ++ name ++ "' file not found", true, none⟩)
      let r := { r with inclusions := ⟨hash.pos, found.map (·.1)⟩ :: r.inclusions }
      match found with
      | none => (r, none)
      | some (fname, searchIndex) =>
        let path := st.tree.resolve fname
        if r.once.contains path || (importOnce && r.entered.contains path) then
          (if importOnce then { r with once := path :: r.once } else r, none)
        else if fr.file.level + 1 ≥ includeDepthLimit then
          (r.error place ("#include nested depth " ++ toString (fr.file.level + 1) ++
            " exceeds maximum of " ++ toString includeDepthLimit), none)
        else
          let r := if importOnce then { r with once := path :: r.once } else r
          let r := { r with entered := path :: r.entered }
          let text := (st.tree.contents? path).getD ""
          let lexed := lex st.options.lexMode fname text
          let file : SourceFile := { name := fname, path, bytes := text.toUTF8, level := fr.file.level + 1,
                                     searchIndex, includedAt := some (place, r.packLimit) }
          (r, some { file, lines := splitLines lexed.tokens, lexErrors := lexed.errors,
                     quiet := quiet || fr.quiet, unfinishedAt := unfinishedEnd text lexed.eof })

/-- The texts of the errors of a `#line` directive, or of a line marker (`# 7 "file"`) when
`marker` holds. -/
structure LineWording where
  requires : String
  digits : String
  filename : String

/-- The error texts of `#line` directives and of line markers. -/
def LineWording.of (marker : Bool) : LineWording :=
  if marker then
    ⟨"line marker directive requires a positive integer argument",
     "GNU line marker directive requires a simple digit sequence",
     "invalid filename for line marker directive"⟩
  else
    ⟨"#line directive requires a positive integer argument",
     "#line directive requires a simple digit sequence",
     "invalid filename for #line directive"⟩

/-- The line number that a token gives: decimal digits, digit separators aside, read in 32
bits, where a digit that takes the value below the value before it is an error. Gives the
place and text of the error otherwise. -/
def lineNumber (w : LineWording) (t : Token) : Except (Position × String) Nat :=
  if t.kind != .number then .error (t.pos, w.requires)
  else go t.text.toList.zipIdx 0
where
  go : List (Char × Nat) → Nat → Except (Position × String) Nat
    | [], v => .ok v
    | (c, i) :: rest, v =>
      if c.toNat == 39 then go rest v
      else if !c.isDigit then
        .error ({ t.pos with column := t.pos.column + i, offset := t.pos.offset + i }, w.digits)
      else
        let next := (v * 10 + (c.toNat - 48)) % 4294967296
        if next < v then .error (t.pos, w.requires) else go rest next

/-- The wording of the errors of a line marker's flags. -/
def flagWording : LineWording :=
  ⟨"invalid flag line marker directive", "#line directive requires a simple digit sequence", ""⟩

/-- Reads the flags after a line marker's file name: `1` for a file entered or `2` for one
left, then `3` for a system header, then `4` for one that is C, each optional and in this
order. `depth` is the number of files that markers of this file have entered and not left; a
`2` needs one. Gives the change to that number, or the place and text of the first error. -/
def markerFlags (depth : Int) (flags : List Token) : Except (Position × String) Int :=
  let invalid (t : Token) : Except (Position × String) Int := .error (t.pos, flagWording.requires)
  let tail (change : Int) : List Token → Except (Position × String) Int
    | [] => .ok change
    | t :: rest => do
      let v ← lineNumber flagWording t
      if v != 3 then invalid t
      else
        match rest with
        | [] => .ok change
        | u :: more => do
          let w ← lineNumber flagWording u
          if w != 4 then invalid u
          else
            match more with
            | [] => .ok change
            | x :: _ => invalid x
  match flags with
  | [] => .ok 0
  | t :: rest => do
    let v ← lineNumber flagWording t
    if v == 1 then tail 1 rest
    else if v == 2 then
      if depth ≤ 0 then .error (t.pos, "invalid line marker flag '2': cannot pop empty include stack")
      else tail (-1) rest
    else tail 0 (t :: rest)

/-- Carries out a `#line` directive, or a line marker when `marker` holds, whose directive
token is `d`: the lines after it are numbered from the number it gives, and belong to the file
it names, or else to the file the line of the directive belongs to. The operands are
expanded; a line marker's number is its directive token. -/
def lineDirective (st : Setting) (fr : Frame) (r : Reading) (d : Token) (args : List Token)
    (eol : Position) (marker : Bool) : Reading :=
  let w := LineWording.of marker
  let (ts, _) := (st.scope r fr.file false eol).expand args {}
  let eod : Token := { kind := .newline, text := "", pos := eol }
  let (number, rest) := if marker then (d, ts) else (ts.headD eod, ts.drop 1)
  match lineNumber w number with
  | .error (p, msg) => r.error p msg
  | .ok n =>
    let mark (name : String) (entered : Int) : Reading :=
      { r with marks := r.marks ++ [⟨fr.file.name, number.pos.line + 1, n, name, entered⟩] }
    match rest with
    | [] => mark (d.pos.presumed r.marks).file 0
    | s :: flags =>
      if s.kind == .string && s.text.startsWith "\"" then
        if marker then
          let depth := (r.marks.filter (·.file == fr.file.name)).foldl (fun n m => n + m.entered) 0
          match markerFlags depth flags with
          | .ok entered => mark (literalText s.text) entered
          | .error (p, msg) => r.error p msg
        else mark (literalText s.text) 0
      else r.error s.pos w.filename

/-- Carries out one directive line of a frame whose pending text has been expanded. Returns
the frame, the reading, and the frame of a file to read now. -/
def directive (st : Setting) (fr : Frame) (r : Reading) (line : List Token) :
    Frame × Reading × Option Frame :=
  let body := line.drop 1
  let eol := (line.getLast?.map (·.pos)).getD default
  match body with
  | [] => (fr, r, none)
  | d :: rest =>
    let args := rest.filter (·.kind != .newline)
    if d.kind == .newline then (fr, r, none)
    else
      let name := if d.kind == .identifier then d.text else ""
      let parentActive := fr.active
      let push (active : Bool) : Frame :=
        { fr with branches := ⟨d.pos, parentActive, active, active, false⟩ :: fr.branches }
      match name with
      | "if" =>
        if !parentActive then (push false, r, none)
        else
          let (b, r) := conditionTruth st fr r d args eol
          (push b, r, none)
      | "ifdef" | "ifndef" =>
        if !parentActive then (push false, r, none)
        else
          let (v, r) := definedName r args eol
          match v with
          | some v => (push (if name == "ifdef" then v else !v), r, none)
          | none => (push false, r, none)
      | "elif" | "elifdef" | "elifndef" =>
        let r := if name == "elif" then r
          else
            let cxx := st.options.language == .cxx
            if (if cxx then cxxSince st.options.cxxYear 23 else st.options.standard == .c23) then r
            else r.warn (.ext (if cxx then "c++23-extensions" else "c23-extensions")) d.pos
              ("use of a '#" ++ name ++ "' directive is a " ++ (if cxx then "C++23" else "C23") ++
                " extension")
        match fr.branches with
        | [] => (fr, r.error d.pos ("#" ++ name ++ " without #if"), none)
        | b :: bs =>
          if b.seenElse then (fr, r.error d.pos ("#" ++ name ++ " after #else"), none)
          else if b.taken || !b.parentActive then
            ({ fr with branches := { b with active := false } :: bs }, r, none)
          else
            let (v, r) :=
              if name == "elif" then conditionTruth st fr r d args eol
              else
                match definedName r args eol with
                | (some v, r) => (if name == "elifdef" then v else !v, r)
                | (none, r) => (false, r)
            ({ fr with branches := { b with active := v, taken := v } :: bs }, r, none)
      | "else" =>
        match fr.branches with
        | [] => (fr, r.error d.pos "#else without #if", none)
        | b :: bs =>
          if b.seenElse then (fr, r.error d.pos "#else after #else", none)
          else
            let v := b.parentActive && !b.taken
            ({ fr with branches := { b with active := v, taken := true, seenElse := true } :: bs }, r, none)
      | "endif" =>
        match fr.branches with
        | [] => (fr, r.error d.pos "#endif without #if", none)
        | _ :: bs => ({ fr with branches := bs }, r, none)
      | _ =>
        if !parentActive then (fr, r, none)
        else
          let inBuiltin := fr.file.name == "<built-in>"
          match name with
          | "define" =>
            let r := if inBuiltin then r else st.variadicMacro (st.macroNameSpacing r args) args
            match readDefine args eol with
            | .ok m =>
              let m := { m with predefined := inBuiltin && !st.options.defines.any (·.1 == m.name) }
              let at_ := (args.head?.map (·.pos)).getD eol
              let r := if inBuiltin then r
                else if r.languageDefined m.name then r.warn (.on "builtin-macro-redefined") at_ "redefining builtin macro"
                else
                  match r.macros.find? (·.name == m.name) with
                  | some old =>
                    if old.sameAs m || old.redefinable then r else r.warn (.extWarn "macro-redefined") at_ ("'" ++ m.name ++ "' macro redefined")
                  | none => r
              (fr, (r.withdraw m.name).define m, none)
            | .error (p, msg) => (fr, r.error p msg, none)
          | "undef" =>
            match args with
            | [] => (fr, r.error eol "macro name missing", none)
            | n :: _ =>
              if n.kind != .identifier then (fr, r.error n.pos "macro name must be an identifier", none)
              else
                let r := if !inBuiltin && r.languageDefined n.text then
                    r.warn (.on "builtin-macro-redefined") n.pos "undefining builtin macro"
                  else r
                (fr, (r.withdraw n.text).undefine n.text, none)
          | "include" | "import" =>
            let r := if name == "import" && !st.options.objc then
                r.warn (.ext "import-preprocessor-directive-pedantic") d.pos "#import is a language extension"
              else r
            let (r, next) := includeFile st fr r (line.headD default) args eol (name == "import") false
            (fr, r, next)
          | "include_next" =>
            let r := r.warn (.ext "gnu-include-next") d.pos "#include_next is a language extension"
            let (r, start) :=
              if fr.file.level == 0 then
                if st.options.headerInput then (r, none)
                else (r.warn (.on "include-next-outside-header") d.pos "#include_next in primary source file", none)
              else
                match fr.file.searchIndex with
                | some k => (r, some (k + 1))
                | none =>
                  (r.warn (.on "include-next-absolute-path") d.pos ("#include_next in file found relative to primary source " ++
                    "file or found by absolute path; will search from start of include path"), none)
            let (r, next) := includeFile st fr r (line.headD default) args eol false false start
            (fr, r, next)
          | "__include_macros" =>
            let (r, next) := includeFile st fr r (line.headD default) args eol false true
            (fr, r, next)
          | "error" => (fr, r.error d.pos (userMessage args), none)
          | "warning" =>
            let cxx := st.options.language == .cxx
            let r := if (if cxx then cxxSince st.options.cxxYear 23 else st.options.standard == .c23) then r
              else r.warn (.ext "") d.pos
                ("#warning is a " ++ (if cxx then "C++23" else "C23") ++ " extension")
            (fr, r.warn (.on "#warnings") d.pos (userMessage args), none)
          | "pragma" =>
            let o := st.options
            let r := match unknownPragma? o.microsoft o.target.isELF o.openmp args eol with
              | some (pos, w, m) => r.warn w pos m
              | none => r
            match args with
            | p :: rest =>
              if p.isIdent "once" then
                if fr.file.level == 0 && !inBuiltin && !st.options.headerInput then
                  (fr, r.warn (.on "pragma-once-outside-header") p.pos "#pragma once in main file", none)
                else (fr, { r with once := fr.file.path :: r.once }, none)
              else if p.isIdent "message" then
                (fr, st.pragmaMessage r fr p .message rest eol, none)
              else if p.isIdent "GCC" && (rest.head?.any (·.isIdent "warning")) then
                (fr, st.pragmaMessage r fr (rest.headD p) .warning (rest.drop 1) eol, none)
              else if p.isIdent "GCC" && (rest.head?.any (·.isIdent "error")) then
                (fr, st.pragmaMessage r fr (rest.headD p) .error (rest.drop 1) eol, none)
              else (fr, st.pragmaLine fr r r.count p rest eol, none)
            | [] => (fr, r, none)
          | "line" => (fr, lineDirective st fr r d args eol false, none)
          | "ident" | "sccs" =>
            (fr, r.warn (.ext "") d.pos "#ident is a language extension", none)
          | "assert" | "unassert" => (fr, r, none)
          | _ =>
            if d.kind == .number then (fr, lineDirective st fr r d args eol true, none)
            else (fr, r.error d.pos "invalid preprocessing directive", none)

/-- Closes a frame whose lines are done: expands what waits, reports the lexer's errors and
each conditional left open. In C a file whose last line has no line break is an extension; and
an included file that leaves another `#pragma pack` limit in force than it found is warned
about at its include. -/
def closeFrame (st : Setting) (fr : Frame) (r : Reading) : Reading :=
  let (fr, r) := flush st fr r
  let r := fr.lexErrors.foldl (fun r d => r.report d) r
  let r := fr.branches.foldl (fun r b => r.error b.pos "unterminated conditional directive") r
  let r := match fr.unfinishedAt with
    | some p => if st.options.language == .cxx then r else r.warn (.ext "newline-eof") p "no newline at end of file"
    | none => r
  match fr.file.includedAt with
  | some (pos, limit) =>
    if r.packLimit != limit then
      r.warn (.on "pragma-pack") pos "the current #pragma pack alignment value is modified in the included file"
    else r
  | none => r

/-- The tokens of a line of text, `waiting` tokens being read before them: the complaints and
warnings of the lexer about them are reported where they are read, and the characters it left
out go. -/
def textOfLine (r : Reading) (waiting : Nat) (line : List Token) :
    List Token × Reading :=
  let (kept, r) := line.foldl (fun (acc : List Token × Reading) t =>
    let (kept, r) := acc
    let time := r.count + waiting + kept.length
    let r := t.complaints.foldl (fun r (pos, m) => r.report ⟨some pos, m, false, none⟩ time) r
    let r := t.warnings.foldl (fun r (pos, w, m) => r.report (Diagnostic.warningAt w pos m) time) r
    let r := r.poisonUses [t] time
    if t.kind == .dropped || t.kind == .newline then (kept, r)
    else ({ t with complaints := [], warnings := [] } :: kept, r)) ([], r)
  (kept.reverse, r)

/-- Reports the warnings of the lexer about the tokens of a directive line. -/
def directiveWarnings (r : Reading) (line : List Token) : Reading :=
  line.foldl (fun r t => t.warnings.foldl (fun r (pos, w, m) => r.warn w pos m) r) r

/-- The tokens of a directive line that are read as identifiers, where a poisoned one is an
error: those after the directive's name, but for the names that `#pragma GCC poison` poisons
and the header name of an include. The text of `#error` and `#warning` is read as it stands. -/
def identifiersRead (line : List Token) : List Token :=
  match line.drop 1 with
  | d :: rest =>
    if ["error", "warning", "ident", "sccs", "line", "assert", "unassert"].contains d.text then []
    else if ["include", "include_next", "import", "__include_macros"].contains d.text then
      if rest.head?.any (·.kind == .identifier) then rest else []
    else if d.text == "pragma" then
      match rest with
      | f :: q :: _ =>
        if (f.isIdent "GCC" || f.isIdent "clang") && q.isIdent "poison" then [f, q] else rest
      | _ => rest
    else rest
  | [] => []

/-- Reads the frames, the first one on top, one line per step. -/
def runFrames (st : Setting) : Nat → List Frame → Reading → Reading
  | 0, _, r => r
  | _ + 1, [], r => r
  | fuel + 1, fr :: frames, r =>
    match fr.lines with
    | [] => runFrames st fuel frames (closeFrame st fr r)
    | line :: rest =>
      let fr := { fr with lines := rest }
      let isDirective := match line with
        | t :: _ => t.isPunct "#" && t.lineStart
        | [] => false
      if isDirective then
        let (fr, r) := flush st fr r
        let r := if fr.active then (directiveWarnings r line).poisonUses (identifiersRead line) else r
        let line := line.map fun t => if t.kind == .dropped then { t with kind := .stray } else t
        match directive st fr r line with
        | (fr, r, none) => runFrames st fuel (fr :: frames) r
        | (fr, r, some next) => runFrames st fuel (next :: fr :: frames) r
      else if fr.active && !fr.quiet then
        let (text, r) := textOfLine r fr.pending.length line
        runFrames st fuel ({ fr with pending := text.reverse ++ fr.pending } :: frames) r
      else runFrames st fuel (fr :: frames) r

/-- A unit after preprocessing: its tokens, ending with `endOfFile`, the includes met, and the
messages, each with the number of tokens read before it. -/
structure Preprocessed where
  tokens : List Token
  inclusions : List Inclusion
  diagnostics : List (Nat × Diagnostic)
  /-- The `#line` directives read, in order. -/
  marks : List LineMark
  /-- The `#pragma pack` requests, in order, each with the number of tokens read before it. -/
  packs : List (Nat × PackAction)
  /-- The diagnostic pragmas, in order, each with the number of tokens read before it and its
  place. -/
  diagnosticPragmas : List ((Nat × Position) × DiagnosticPragma)
  /-- The `#pragma ms_struct` requests, in order, each with the number of tokens read before
  it. -/
  msStructs : List (Nat × Bool)
deriving Inhabited

/-- The steps a reading may take: one line each. -/
def readingSteps : Nat := 4000000

/-- Preprocesses the main file of a setting, whose text and path are given. -/
def preprocess (st : Setting) (mainPath : Files.Path) (mainText : String) : Preprocessed :=
  let builtin := lex st.options.lexMode "<built-in>" (predefinedText st.options)
  let builtinFrame : Frame :=
    { file := { name := "<built-in>", path := Files.Path.root, bytes := ByteArray.empty, level := 0 }, lines := splitLines builtin.tokens }
  let mainLexed := lex st.options.lexMode st.mainName mainText
  let mainFrame : Frame :=
    { file := { name := st.mainName, path := mainPath, bytes := mainText.toUTF8, level := 0 }, lines := splitLines mainLexed.tokens,
      lexErrors := mainLexed.errors, unfinishedAt := unfinishedEnd mainText mainLexed.eof }
  let r := runFrames st readingSteps [builtinFrame] { entered := [mainPath] }
  let r := runFrames st readingSteps [mainFrame] r
  let eof : Token := { kind := .endOfFile, text := "", pos := mainLexed.eof, finish := some mainLexed.eof,
                       lineStart := true }
  ⟨(eof :: r.output).reverse, r.inclusions.reverse, r.diagnostics.reverse, r.marks, r.packs.reverse,
    r.diagnosticPragmas.reverse, r.msStructs.reverse⟩

end NativeBindings.Header
