/-!
# Tokens of C text

A header is read as a list of preprocessing tokens. Each token keeps its spelling, the place
where it stands, and the few facts about its surroundings that the preprocessor needs: whether
blanks come before it, whether it starts a line, and which macros may not expand it again.

Places count lines from 1 and columns in bytes from 1, as C compilers report them. A token that
comes out of a macro expansion stands where the outermost use of a macro was written, so that
every declaration made by a macro is reported at that use.
-/

namespace NativeBindings.Header

/-- A place in a file: the file's name as the front end knows it, the line, the column counted
in bytes from 1, and the offset in bytes from the start of the file. -/
structure Position where
  file : String
  line : Nat
  column : Nat
  offset : Nat
deriving DecidableEq, Inhabited, Repr

/-- The text `FILE:LINE:COLUMN` of a place. -/
def Position.render (p : Position) : String :=
  p.file ++ ":" ++ toString p.line ++ ":" ++ toString p.column

/-- What a `#line` directive says: from line `start` of the file `file` on, the lines are
numbered from `line` and belong to the file named `name`. -/
structure LineMark where
  file : String
  start : Nat
  line : Nat
  name : String
  /-- The change a line marker's flag makes to the stack of files it tells of: `1` for a file
  entered, `-1` for one left, `0` without either flag. -/
  entered : Int := 0
deriving Inhabited, Repr

/-- The place a position is shown at after the `#line` directives before it, given in the
order they were read: the line and file name that the last of them in its file before it says,
counted on from there. Errors are reported at the place itself; the name of a record without
a name shows this place. -/
def Position.presumed (marks : List LineMark) (p : Position) : Position :=
  match (marks.filter fun m => m.file == p.file && m.start ≤ p.line).getLast? with
  | some m => { p with file := m.name, line := m.line + (p.line - m.start) }
  | none => p

/-- The classes of warnings, by how they are treated before options and pragmas change them;
only errors are part of the result, so a warning counts only where it becomes one.

* `warning` is on by default;
* `ignored` is off unless asked for;
* `extWarning` is about an extension and on by default;
* `extension` is about an extension and off unless `-pedantic` asks for it;
* `defaultError` is an error unless an option or pragma makes it less. -/
inductive Severity where
  | warning
  | ignored
  | extWarning
  | extension
  | defaultError
deriving DecidableEq, Inhabited, Repr

/-- A kind of warning: its class, the group whose name options and pragmas use for it (empty
for none), and whether `-Werror` leaves it a warning. -/
structure Warning where
  severity : Severity
  group : String := ""
  noWerror : Bool := false
deriving DecidableEq, Inhabited, Repr

namespace Warning

/-- A warning of a group, on by default. -/
def on (group : String) : Warning := { severity := .warning, group }

/-- A warning of a group, off by default. -/
def off (group : String) : Warning := { severity := .ignored, group }

/-- A warning about an extension, on by default. -/
def extWarn (group : String) : Warning := { severity := .extWarning, group }

/-- A warning about an extension, off unless `-pedantic` asks for it. -/
def ext (group : String) : Warning := { severity := .extension, group }

/-- A warning that is an error by default. -/
def error (group : String) : Warning := { severity := .defaultError, group }

/-- Whether the warning is about an extension. -/
def isExtension (w : Warning) : Bool := w.severity == .extWarning || w.severity == .extension

end Warning

/-- The kinds of preprocessing tokens. A `stray` token is a character that starts no other
token; `newline` ends a line of text outside comments; `endOfFile` closes the main file. -/
inductive TokenKind where
  | identifier
  | number
  | character
  | string
  | punctuator
  | stray
  /-- A character that the lexer leaves out of the text, with a complaint. -/
  | dropped
  /-- The rest of a `#error` or `#warning` line as it is written, comments and all. -/
  | message
  | newline
  | endOfFile
deriving DecidableEq, Inhabited, Repr

/-- A preprocessing token. -/
structure Token where
  kind : TokenKind
  text : String
  /-- Where the token stands; for a token made by a macro, the place of the outermost use. -/
  pos : Position
  /-- The place just after the token's last byte. A token made by a macro has one only when
  it is the last token of its expansion: the place after the macro's use. -/
  finish : Option Position := none
  /-- The token was made by a macro expansion. -/
  expanded : Bool := false
  /-- Blanks or a comment come before the token. -/
  spaced : Bool := false
  /-- The token is the first of its line. -/
  lineStart : Bool := false
  /-- The macros whose expansion made this token, which may not expand it again. -/
  hidden : List String := []
  /-- What the lexer found wrong in the token, reported when the token is read as text. -/
  complaints : List (Position × String) := []
  /-- What the lexer warns about in the token, reported with its complaints. -/
  warnings : List (Position × Warning × String) := []
  /-- For a token made by a macro, where the outermost use of a macro that made it ends: its
  name, or the `)` after its arguments. -/
  useEnd : Option Position := none
  /-- The token was put in by the preprocessor without a spelling of its own. -/
  zeroWidth : Bool := false
deriving Inhabited, Repr

namespace Token

/-- Whether the token is the punctuator `s`. -/
def isPunct (t : Token) (s : String) : Bool := t.kind == .punctuator && t.text == s

/-- Whether the token is the identifier `s`. -/
def isIdent (t : Token) (s : String) : Bool := t.kind == .identifier && t.text == s

/-- The identifier's name, if the token is one. -/
def ident? (t : Token) : Option String := if t.kind == .identifier then some t.text else none

/-- The place of byte `n` of the token's spelling. A token made by a macro stands at the use as
a whole, so every byte of it does. -/
def byteAt (t : Token) (n : Nat) : Position :=
  if t.expanded then t.pos
  else { t.pos with column := t.pos.column + n, offset := t.pos.offset + n }

end Token

/-- A message of the front end, with the place it is about when it has one: an error, or a
warning of a kind (`warning`), which the options and pragmas may make an error. An error makes
the message part of the result; a fatal error also silences every later message. -/
structure Diagnostic where
  pos : Option Position
  message : String
  fatal : Bool := false
  warning : Option Warning := none
deriving Inhabited, Repr

/-- An error at a place. -/
def Diagnostic.errorAt (pos : Position) (message : String) : Diagnostic := { pos := some pos, message }

/-- A warning of a kind at a place. -/
def Diagnostic.warningAt (w : Warning) (pos : Position) (message : String) : Diagnostic :=
  { pos := some pos, message, warning := some w }

end NativeBindings.Header
