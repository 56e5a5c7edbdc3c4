import NativeBindings.Header.Literal

/-!
# The value of a `#if` line

After macro expansion a `#if` line is an integer constant expression. Its arithmetic is on
64-bit integers, signed unless an operand is unsigned; a name that is left over counts as `0`
(and `true` as `1` in C23). `&&`, `||` and `?:` evaluate only the operands they need, so a
division by zero in an operand that is not evaluated is no error.

The expression is read by precedence climbing with the binding powers below, where `)` and the
end of the line bind at `0` and end every operand. The whole line is read at the power of `?`,
so a comma or a colon there ends the expression; what follows it is an error but the value
read so far stands. Some errors leave the value alone too (a literal too large, which is cut
to 64 bits, or a suffix that C does not have); the others end the evaluation and make the line
false. `evaluateCondition` gives the truth and every error in the order they arise.
-/

namespace NativeBindings.Header

/-- A value of the preprocessor's arithmetic: a 64-bit integer, signed or unsigned. -/
structure Word where
  value : Int
  unsigned : Bool := false
deriving DecidableEq, Inhabited, Repr

namespace Word

/-- Brings a value into the range of its signedness. -/
def wrap (w : Word) : Word :=
  let m : Int := w.value % 18446744073709551616
  if w.unsigned then ⟨m, true⟩
  else if m ≥ 9223372036854775808 then ⟨m - 18446744073709551616, false⟩ else ⟨m, false⟩

/-- The 64 bits of a value, as a natural number. -/
def bits (v : Int) : Nat := (v % 18446744073709551616).toNat

/-- A signed truth value. -/
def ofBool (b : Bool) : Word := ⟨if b then 1 else 0, false⟩

/-- Whether the value is not zero. -/
def isTrue (w : Word) : Bool := w.value != 0

/-- Shifts left: an amount of 64 or more, or a negative one, leaves no bits. -/
def shiftLeft (a b : Word) : Word :=
  let amount := bits b.value
  if amount ≥ 64 then ⟨0, a.unsigned⟩ else wrap ⟨a.value * Int.pow 2 amount, a.unsigned⟩

/-- Shifts right, keeping the sign of a signed value. The amount is taken in 32 bits, and one
of 64 or more shifts by 63. -/
def shiftRight (a b : Word) : Word :=
  let amount := bits b.value % 4294967296
  let amount := if amount ≥ 64 then 63 else amount
  if a.unsigned then ⟨(bits a.value / Nat.pow 2 amount : Nat), true⟩
  else ⟨a.value / Int.pow 2 amount, false⟩

end Word

/-- An error of a `#if` line. -/
structure ConditionError where
  pos : Position
  message : String
deriving Inhabited, Repr

/-- The binding power of what follows an operand: `0` for `)` and the end of the line, and
`none` for tokens that cannot follow an operand. -/
def followPrecedence : Option Token → Option Nat
  | none => some 0
  | some t =>
    if t.kind != .punctuator then none
    else
      match t.text with
      | "*" | "/" | "%" => some 14
      | "+" | "-" => some 13
      | "<<" | ">>" => some 12
      | "<" | ">" | "<=" | ">=" => some 11
      | "==" | "!=" => some 10
      | "&" => some 9
      | "^" => some 8
      | "|" => some 7
      | "&&" => some 6
      | "||" => some 5
      | "?" => some 4
      | "," => some 3
      | ":" => some 2
      | ")" => some 0
      | _ => none

/-- The binding power of the `?` operator, at which a whole line is read. -/
def conditionalPrecedence : Nat := 4

/-- The binding power that the operands of a `?` take: a comma expression. -/
def commaPrecedence : Nat := 3

/-- Applies an arithmetic, comparison or bitwise operator after the usual conversions: both
operands are unsigned when one is. Comparisons give a signed truth value. `none` when it
divides by zero. -/
def applyBinary (op : String) (a b : Word) : Option Word :=
  let u := a.unsigned || b.unsigned
  let mk (v : Int) : Word := Word.wrap ⟨v, u⟩
  let av := (Word.wrap ⟨a.value, u⟩).value
  let bv := (Word.wrap ⟨b.value, u⟩).value
  match op with
  | "*" => some (mk (av * bv))
  | "/" => if bv == 0 then none else some (mk (av.tdiv bv))
  | "%" => if bv == 0 then none else some (mk (av.tmod bv))
  | "+" => some (mk (av + bv))
  | "-" => some (mk (av - bv))
  | "<<" => some (a.shiftLeft b)
  | ">>" => some (a.shiftRight b)
  | "<" => some (Word.ofBool (av < bv))
  | ">" => some (Word.ofBool (av > bv))
  | "<=" => some (Word.ofBool (av ≤ bv))
  | ">=" => some (Word.ofBool (av ≥ bv))
  | "==" => some (Word.ofBool (av == bv))
  | "!=" => some (Word.ofBool (av != bv))
  | "&" => some (mk (Int.ofNat (Word.bits av &&& Word.bits bv)))
  | "^" => some (mk (Int.ofNat (Word.bits av ^^^ Word.bits bv)))
  | "|" => some (mk (Int.ofNat (Word.bits av ||| Word.bits bv)))
  | "&&" => some (Word.ofBool (a.isTrue && b.isTrue))
  | "||" => some (Word.ofBool (a.isTrue || b.isTrue))
  | _ => some b

/-- An operand read: its value, and the name it was when it is a lone name. -/
structure Operand where
  word : Word
  name : Option Token := none
deriving Inhabited

/-- What evaluation reads besides the tokens: the standard and the end of the line. -/
structure ConditionSetting where
  c23 : Bool
  eol : Position
  /-- What the target decides about the types of character literals. -/
  model : TypeModel := {}

/-- Evaluation: it reports errors in order and may stop at one. -/
abbrev Evaluation := ExceptT Unit (StateM (Array ConditionError))

/-- Reports an error and goes on. -/
def reportCondition (pos : Position) (message : String) : Evaluation Unit :=
  modify (·.push ⟨pos, message⟩)

/-- Reports an error and stops. -/
def stopCondition {α : Type} (pos : Position) (message : String) : Evaluation α := do
  reportCondition pos message
  throw ()

/-- The value of a number token; `live` tells whether the operand is evaluated. -/
def numberWord (live : Bool) (t : Token) : Evaluation Word := do
  match NumberLiteral.read t.text with
  | .invalid errors =>
    for (at_, message) in errors do reportCondition (t.byteAt at_) message
    throw ()
  | .floating _ _ => stopCondition t.pos "floating point literal in preprocessor expression"
  | .integer v _ sfx =>
    if sfx.imaginary then stopCondition t.pos "floating point literal in preprocessor expression"
    if sfx.sizeT then reportCondition t.pos "'size_t' suffix for literals is a C++23 feature"
    if v ≥ 18446744073709551616 then
      if live then
        reportCondition t.pos "integer literal is too large to be represented in any integer type"
      return ⟨(v % 18446744073709551616 : Nat), true⟩
    else return ⟨v, sfx.unsigned || v ≥ 9223372036854775808⟩

/-- The value of a character token. -/
def characterWord (c23 : Bool) (m : TypeModel) (t : Token) : Evaluation Word := do
  let l := CharacterLiteral.read m c23 t.text
  for (at_, message) in l.errors do reportCondition (t.byteAt at_) message
  if l.spoiled then throw ()
  return ⟨l.value m, (l.valueWidth m).2⟩

/-- Reports a token that cannot follow an operand: a `(` after a lone name is the use of a
function-like macro that is not defined. -/
def unexpectedAfter {α : Type} (env : ConditionSetting) (lhs : Operand) (ts : List Token) :
    Evaluation α :=
  match ts, lhs.name with
  | t :: _, some n =>
    if t.isPunct "(" then stopCondition n.pos ("function-like macro '" ++ n.text ++ "' is not defined")
    else stopCondition t.pos "token is not a valid binary operator in a preprocessor subexpression"
  | t :: _, none => stopCondition t.pos "token is not a valid binary operator in a preprocessor subexpression"
  | [], _ => stopCondition env.eol "token is not a valid binary operator in a preprocessor subexpression"

mutual

/-- Reads an operand: a number, a character, a name, a parenthesised expression, or a unary
operator applied to an operand. `live` tells whether errors of evaluation count. -/
def readOperand (env : ConditionSetting) (live : Bool) : Nat → List Token →
    Evaluation (Operand × List Token)
  | 0, _ => stopCondition env.eol "expected value in expression"
  | _ + 1, [] => stopCondition env.eol "expected value in expression"
  | fuel + 1, t :: rest => do
    if t.kind == .identifier then
      return (⟨Word.ofBool (env.c23 && t.text == "true"), some t⟩, rest)
    else if t.kind == .number then return (⟨← numberWord live t, none⟩, rest)
    else if t.kind == .character then return (⟨← characterWord env.c23 env.model t, none⟩, rest)
    else if t.isPunct "(" then
      let (v, after) ← readOperand env live fuel rest
      let (v, after) ←
        if (after.head?.map (·.isPunct ")")).getD false then pure (v, after)
        else readBinary env live fuel 1 v after
      match after with
      | rp :: more =>
        if rp.isPunct ")" then return (⟨v.word, none⟩, more)
        else stopCondition rp.pos "expected ')' in preprocessor expression"
      | [] => stopCondition env.eol "expected ')' in preprocessor expression"
    else if t.isPunct ")" then stopCondition t.pos "expected value in expression"
    else if t.isPunct "-" || t.isPunct "+" || t.isPunct "~" || t.isPunct "!" then
      let (v, after) ← readOperand env live fuel rest
      let w := v.word
      let r : Word :=
        if t.text == "-" then Word.wrap ⟨-w.value, w.unsigned⟩
        else if t.text == "~" then Word.wrap ⟨-w.value - 1, w.unsigned⟩
        else if t.text == "!" then Word.ofBool (!w.isTrue)
        else w
      return (⟨r, none⟩, after)
    else stopCondition t.pos "invalid token at start of a preprocessor expression"

/-- Applies the binary operators after an operand while they bind at least as tightly as
`minPrec`. -/
def readBinary (env : ConditionSetting) (live : Bool) : Nat → Nat → Operand → List Token →
    Evaluation (Operand × List Token)
  | 0, _, lhs, ts => return (lhs, ts)
  | fuel + 1, minPrec, lhs, ts =>
    match followPrecedence ts.head? with
    | none => unexpectedAfter env lhs ts
    | some p => climb env live fuel minPrec lhs p ts

/-- The loop of `readBinary`, `peek` being the binding power of the next token. -/
def climb (env : ConditionSetting) (live : Bool) : Nat → Nat → Operand → Nat → List Token →
    Evaluation (Operand × List Token)
  | 0, _, lhs, _, ts => return (lhs, ts)
  | _ + 1, _, lhs, _, [] => return (lhs, [])
  | fuel + 1, minPrec, lhs, peek, op :: rest => do
    if peek < minPrec then return (lhs, op :: rest)
    let rhsLive :=
      if op.text == "&&" || op.text == "?" then live && lhs.word.isTrue
      else if op.text == "||" then live && !lhs.word.isTrue else live
    let (rhs, after) ← readOperand env rhsLive fuel rest
    match followPrecedence after.head? with
    | none => unexpectedAfter env rhs after
    | some next =>
      let rhsPrec := if op.text == "?" then commaPrecedence else peek + 1
      let (rhs, after) ←
        if next ≥ rhsPrec then readBinary env rhsLive fuel rhsPrec rhs after
        else pure (rhs, after)
      if op.text == "?" then
        match after with
        | colon :: more =>
          if !colon.isPunct ":" then stopCondition colon.pos "expected ':'"
          else
            let elseLive := live && !lhs.word.isTrue
            let (v, after) ← readOperand env elseLive fuel more
            let (v, after) ← readBinary env elseLive fuel peek v after
            let u := rhs.word.unsigned || v.word.unsigned
            let r := Word.wrap ⟨if lhs.word.isTrue then rhs.word.value else v.word.value, u⟩
            climb env live fuel minPrec ⟨r, none⟩ ((followPrecedence after.head?).getD 0) after
        | [] => stopCondition env.eol "expected ':'"
      else if op.text == ":" then stopCondition op.pos "':' without preceding '?'"
      else
        let next := (followPrecedence after.head?).getD 0
        match applyBinary op.text lhs.word rhs.word with
        | some w => climb env live fuel minPrec ⟨w, none⟩ next after
        | none =>
          if live then
            stopCondition op.pos ((if op.text == "%" then "remainder" else "division") ++
              " by zero in preprocessor expression")
          else
            let u := lhs.word.unsigned || rhs.word.unsigned
            climb env live fuel minPrec ⟨⟨0, u⟩, none⟩ next after

end

/-- Reads a whole line: an operand, the operators after it at the power of `?`, and then the
end of the line. -/
def conditionValue (env : ConditionSetting) (ts : List Token) : Evaluation Bool := do
  let fuel := 4 * ts.length + 8
  let (v, after) ← readOperand env true fuel ts
  let (v, after) ←
    if after.isEmpty then pure (v, after) else readBinary env true fuel conditionalPrecedence v after
  match after with
  | [] => return v.word.isTrue
  | t :: _ =>
    reportCondition t.pos "expected end of line in preprocessor expression"
    return v.word.isTrue

/-- The truth of the expanded tokens of a `#if` line that ends at `eol`, and the errors of
evaluating them in order; a line whose evaluation stops at an error is false. -/
def evaluateCondition (c23 : Bool) (m : TypeModel) (eol : Position) (ts : List Token) :
    Bool × List ConditionError :=
  match (conditionValue ⟨c23, eol, m⟩ ts).run.run #[] with
  | (.ok b, errors) => (b, errors.toList)
  | (.error _, errors) => (false, errors.toList)

end NativeBindings.Header
