import NativeBindings.Header.Expr.Builtin

/-!
# Expressions in declarations

Declarations hold expressions in a few places: array sizes, enumerator values, bit-field
widths, static assertions and `typeof`. `Expr` keeps what those need: the type of an
expression (`Entities.typeOf`), its value when it is an integer constant expression
(`Entities.evaluate`), and its text as the front end prints it (`Entities.printExpr`), which is
part of the spelling of a `typeof` type.

Integer arithmetic follows C on the target: operands are promoted to at least `int`, the
usual arithmetic conversions pick a common type, and results wrap to the width of their type.
Sizes and alignments are those of `Entities.layout`.
-/

namespace NativeBindings.Header

namespace Entities

/-- The type of the member `name` of a record type, looking into anonymous members. -/
def memberType (e : Entities) : Nat → Ty → String → Option Ty
  | 0, _, _ => none
  | fuel + 1, t, name =>
    match e.tagOf? t with
    | none => none
    | some i =>
      (e.tag i).members.findSome? fun m =>
        if m.name == name then some m.type
        else if m.name.isEmpty then e.memberType fuel m.type name else none

/-- The number of scalars that initialize a value of a type when its inner braces are left
out: one for a scalar, those of every element of an array and every member of a structure,
unnamed bit-fields apart, and those of the first member of a union. -/
def scalarCount (e : Entities) : Nat → Ty → Nat
  | 0, _ => 1
  | fuel + 1, t =>
    match e.bare t with
    | .array _ el (.constant n) _ _ => n * e.scalarCount fuel el
    | .tag _ i =>
      let d := e.tag i
      if d.kind == .struct then
        (d.members.filter fun m => !(m.name.isEmpty && m.bits.isSome)).foldl
          (fun acc m => acc + e.scalarCount fuel m.type) 0
      else if d.kind == .union then
        match d.members.head? with
        | some m => e.scalarCount fuel m.type
        | none => 1
      else 1
    | _ => 1

/-- The length that an initializer gives an array of unknown size with elements of a type: one
more than the characters of a string literal, braced or not, for an array of characters, and
otherwise the elements that a braced list fills. A braced list, a string or a scalar fills one
element; scalars for elements that are aggregates fill one element together, as many as the
element holds; an array designator moves to the element it names. -/
def initializedLength (e : Entities) (element : Ty) (init : Expr) : Option Nat :=
  let characters := (e.arithmetic? element).any Builtin.isInteger
  match init with
  | .string _ units => some (units.length + 1)
  | .initList [.string _ units] =>
    if characters then some (units.length + 1) else some 1
  | .initList items =>
    let per := max 1 (e.scalarCount depthLimit element)
    let step (st : Nat × Nat × Nat) (item : Expr) : Nat × Nat × Nat :=
      let (pos, filled, top) := st
      let (pos, filled, v) := match item with
        | .designated _ (some k) v => (k, 0, v)
        | .designated _ none v => (pos, filled, v)
        | v => (pos, filled, v)
      let whole := per == 1 || (match v with
        | .initList _ | .string .. => true
        | _ => false)
      if whole then
        let pos := if filled > 0 then pos + 1 else pos
        (pos + 1, 0, max top (pos + 1))
      else if filled + 1 == per then (pos + 1, 0, max top (pos + 1))
      else (pos, filled + 1, max top (pos + 1))
    some (items.foldl step (0, 0, 0)).2.2
  | _ => none

mutual

/-- The type of an expression. -/
def typeOf (e : Entities) : Nat → Expr → Ty
  | 0, _ => .int
  | fuel + 1, x =>
    match x with
    | .integer _ b _ => .builtin {} b
    | .floating _ b => .builtin {} b
    | .imaginary _ b => .complex {} (.builtin {} b)
    | .character _ _ b => .builtin {} b
    | .string k units =>
      .array {} (.builtin {} (k.elementTypeIn e.model)) (.constant (units.length + 1)) {} false
    | .enumerator _ _ t => t
    | .variable _ t => t
    | .undeclared _ => .int
    | .paren a => typeOf e fuel a
    | .unary op a =>
      let t := typeOf e fuel a
      if op == "__extension__" then t
      else if op == "__real" || op == "__imag" then
        match e.bare t with
        | .complex _ el => el
        | _ => t
      else if op == "!" then .int
      else if op == "*" then
        match e.bare t with
        | .pointer _ p => p
        | .array _ el .. => el
        | _ => .int
      else if op == "&" then .pointer {} t
      else if op == "++" || op == "--" then t
      else
        match e.arithmetic? t with
        | some b => .builtin {} (if b.isFloating then b else promote b)
        | none => t
    | .postUnary _ a _ => typeOf e fuel a
    | .binary op a b _ =>
      if ["<", ">", "<=", ">=", "==", "!=", "&&", "||"].contains op then .int
      else
        let ta := typeOf e fuel a
        let tb := typeOf e fuel b
        if op == "<<" || op == ">>" then
          match e.arithmetic? ta with
          | some x => .builtin {} (promote x)
          | none => .int
        else
          match e.arithmetic? ta, e.arithmetic? tb with
          | some x, some y => .builtin {} (commonArithmetic e.model x y)
          | none, some _ => ta
          | some _, none => tb
          | none, none => if op == "-" then .builtin {} e.model.ptrdiffType else ta
    | .assign _ a _ _ => typeOf e fuel a
    | .conditional _ a b =>
      let ta := typeOf e fuel a
      let tb := typeOf e fuel b
      match e.arithmetic? ta, e.arithmetic? tb with
      | some x, some y => .builtin {} (commonArithmetic e.model x y)
      | _, _ => ta
    | .omittedConditional a b =>
      let ta := typeOf e fuel a
      let tb := typeOf e fuel b
      match e.arithmetic? ta, e.arithmetic? tb with
      | some x, some y => .builtin {} (commonArithmetic e.model x y)
      | _, _ => ta
    | .choose _ a b first => typeOf e fuel (if first then a else b)
    | .generic _ assocs chosen =>
      match chosen.bind fun i => assocs[i]? with
      | some (_, v) => typeOf e fuel v
      | none => .int
    | .recovery _ => .int
    | .cast t _ => t
    | .sizeofType _ | .sizeofExpr _ | .alignofType .. | .alignofExpr .. | .offsetof .. =>
      .builtin {} e.model.sizeType
    | .member _ _ _ t _ => t
    | .index a b =>
      let ta := typeOf e fuel a
      let tb := typeOf e fuel b
      let elementOf (t : Ty) : Option Ty := match e.bare t with
        | .pointer _ p => some p
        | .array _ el .. => some el
        | _ => none
      ((elementOf ta).orElse fun _ => elementOf tb).getD .int
    | .sourceLocation _ v =>
      match v with
      | .string .. => .pointer {} (.builtin { const := true } .char)
      | _ => .builtin {} .unsignedInt
    | .call f _ _ =>
      let tf := typeOf e fuel f
      let fn := match e.bare tf with
        | .pointer _ p => e.bare p
        | other => other
      match fn with
      | .function r .. => r
      | _ => .int
    | .comma _ b _ => typeOf e fuel b
    | .compoundLiteral t _ => t
    | .initList _ => .int
    | .designated _ _ v => typeOf e fuel v
    | .typesCompatible .. => .int
    | .invalid => .int

/-- The value of an expression that the front end folds to a constant; `none` when it does
not. Only the operand that `&&`, `||` and `?:` choose is evaluated; the left operand of a comma
is evaluated too, and one that does not fold (a read of a variable, a call) keeps the whole
from folding. -/
def evaluate (e : Entities) : Nat → Expr → Option Value
  | 0, _ => none
  | fuel + 1, x =>
    match x with
    | .integer v b _ => some (.integer (Constant.wrap e.model v b))
    | .floating v b => some (.floating v b)
    | .character v _ b => some (.integer (Constant.wrap e.model v b))
    | .enumerator _ v t => (e.arithmetic? t).map fun b => .integer (Constant.wrap e.model v b)
    | .paren a => evaluate e fuel a
    | .unary "__extension__" a | .unary "__real" a => evaluate e fuel a
    | .unary "__imag" a =>
      (evaluate e fuel a).map fun v => match v with
        | .integer c => .integer ⟨0, c.type⟩
        | .floating _ t => .floating (.finite false 0 0) t
    | .unary op a => (evaluate e fuel a).bind (applyUnary e.model op)
    | .binary op a b _ =>
      if op == "&&" || op == "||" then
        match evaluate e fuel a with
        | some va =>
          if va.truth == (op == "||") then some (Value.ofTruth va.truth)
          else (evaluate e fuel b).map fun vb => Value.ofTruth vb.truth
        | none => none
      else
        match evaluate e fuel a, evaluate e fuel b with
        | some va, some vb => applyValue e.model op va vb
        | _, _ => none
    | .conditional c a b =>
      match evaluate e fuel c, e.arithmetic? (typeOf e fuel x) with
      | some vc, some t => (evaluate e fuel (if vc.truth then a else b)).bind (·.convert e.model t)
      | _, _ => none
    | .omittedConditional c b =>
      match evaluate e fuel c, e.arithmetic? (typeOf e fuel x) with
      | some vc, some t =>
        (if vc.truth then some vc else evaluate e fuel b).bind (·.convert e.model t)
      | _, _ => none
    | .choose _ a b first => evaluate e fuel (if first then a else b)
    | .generic _ assocs chosen =>
      match chosen.bind fun i => assocs[i]? with
      | some (_, v) => evaluate e fuel v
      | none => none
    | .call (.variable name _) args _ => e.foldBuiltin (evaluate e fuel) (typeOf e fuel) name args
    | .sourceLocation _ v => evaluate e fuel v
    | .cast t a =>
      match e.arithmetic? t with
      | some b => (evaluate e fuel a).bind (·.convert e.model b)
      | none => none
    | .index a b =>
      let literal (x : Expr) : Option (CharKind × List Nat) := match x with
        | .string k units | .sourceLocation _ (.string k units) => some (k, units)
        | _ => none
      match literal a, literal b with
      | some (k, units), _ =>
        match evaluate e fuel b with
        | some (.integer c) => stringElement e.model k units c.value
        | _ => none
      | _, some (k, units) =>
        match evaluate e fuel a with
        | some (.integer c) => stringElement e.model k units c.value
        | _ => none
      | _, _ => none
    | .comma a b _ =>
      let literal : Bool := match a with
        | .string .. => true
        | _ => false
      if literal || (evaluate e fuel a).isSome then evaluate e fuel b else none
    | .sizeofType t => (e.layout fuel t).map fun (s, _) => .integer ⟨s, e.model.sizeType⟩
    | .sizeofExpr a => (e.layout fuel (typeOf e fuel a)).map fun (s, _) => .integer ⟨s, e.model.sizeType⟩
    | .alignofType k t => (e.alignment fuel (k == "__alignof") t).map fun al => .integer ⟨al, e.model.sizeType⟩
    | .alignofExpr k a =>
      (e.alignment fuel (k == "__alignof") (typeOf e fuel a)).map fun al => .integer ⟨al, e.model.sizeType⟩
    | .offsetof _ _ v => v.map fun n => .integer ⟨n, e.model.sizeType⟩
    | .typesCompatible _ _ v => some (Value.ofTruth v)
    | _ => none

end

/-- The suffix with which an integer of a type is printed. -/
def integerSuffix : Builtin → String
  | .unsignedInt => "U"
  | .long => "L"
  | .unsignedLong => "UL"
  | .longLong => "LL"
  | .unsignedLongLong => "ULL"
  | _ => ""

/-- The suffix with which a floating literal of a type is printed. -/
def floatingSuffix : Builtin → String
  | .float => "F"
  | .longDouble => "L"
  | .float16 => "F16"
  | .float128 => "Q"
  | _ => ""

/-- The escape that stands for a character in a printed literal, if one does: the backslash,
the quote that closes the literal, and the control characters with letters. -/
def escapeFor (quote : Nat) (c : Nat) : Option String :=
  if c == 92 then some "\\\\"
  else if c == quote then some ("\\" ++ (Char.ofNat c).toString)
  else
    match c with
    | 7 => some "\\a" | 8 => some "\\b" | 12 => some "\\f" | 10 => some "\\n"
    | 13 => some "\\r" | 9 => some "\\t" | 11 => some "\\v"
    | _ => none

/-- Whether a byte is a printable character. -/
def isPrintable (c : Nat) : Bool := 0x20 ≤ c && c < 0x7F

/-- `n` in hexadecimal, at least `width` digits long. -/
def hexDigits (upper : Bool) (width : Nat) (n : Nat) : String :=
  let ds := Nat.toDigits 16 n
  let ds := if upper then ds.map Char.toUpper else ds
  String.ofList (List.replicate (width - ds.length) '0' ++ ds)

/-- A character literal as the front end prints it from its value: an escape where there is
one, the character when it is printable, and a hexadecimal escape otherwise. A plain literal's
negative value is taken as its byte. -/
def printCharacter (kind : CharKind) (value : Int) : String :=
  let v := (value % (Nat.pow 2 32 : Nat)).toNat
  let body := match escapeFor 39 v with
    | some esc => esc
    | none =>
      let v := if v ≥ 0xFFFFFF00 && kind == .plain then v % 256 else v
      if v < 256 && isPrintable v then (Char.ofNat v).toString
      else if v < 256 then "\\x" ++ hexDigits false 2 v
      else if v ≤ 0xFFFF then "\\u" ++ hexDigits false 4 v
      else "\\U" ++ hexDigits false 8 v
  kind.literalPrefix ++ "'" ++ body ++ "'"

/-- The body of a printed string literal from a position on; `afterHex` tells whether the
unit before was printed as a hexadecimal escape, which a hexadecimal digit after it would
extend. -/
def printUnits (kind : CharKind) (afterHex : Bool) : List Nat → String
  | [] => ""
  | c :: rest =>
    match escapeFor 34 c with
    | some esc => esc ++ printUnits kind false rest
    | none =>
      if c > 0xFF then
        if kind == .wide || (0xD800 ≤ c && c ≤ 0xDFFF) || c ≥ 0x110000 then
          "\\x" ++ hexDigits true 1 c ++ printUnits kind true rest
        else if c > 0xFFFF then "\\U" ++ hexDigits true 8 c ++ printUnits kind false rest
        else "\\u" ++ hexDigits true 4 c ++ printUnits kind false rest
      else
        let gap := if afterHex && (Char.ofNat c).isAlphanum && isHexDigit (Char.ofNat c) then "\"\"" else ""
        let shown := if isPrintable c then (Char.ofNat c).toString
          else "\\" ++ String.ofList [Char.ofNat (48 + c / 64 % 8), Char.ofNat (48 + c / 8 % 8), Char.ofNat (48 + c % 8)]
        gap ++ shown ++ printUnits kind false rest

/-- Joins UTF-16 surrogate pairs into the characters they encode. -/
def joinSurrogates : List Nat → List Nat
  | hi :: lo :: rest =>
    if 0xD800 ≤ hi && hi ≤ 0xDBFF && 0xDC00 ≤ lo && lo ≤ 0xDFFF then
      (0x10000 + (hi - 0xD800) * 1024 + (lo - 0xDC00)) :: joinSurrogates rest
    else hi :: joinSurrogates (lo :: rest)
  | rest => rest

/-- A string literal as the front end prints it. -/
def printString (kind : CharKind) (units : List Nat) : String :=
  let units := if kind == .utf16 then joinSurrogates units else units
  kind.literalPrefix ++ "\"" ++ printUnits kind false units ++ "\""

/-- A floating literal as the front end prints it: its value with the digits its type needs,
a final `.` when the digits alone would read as an integer, and the suffix of its type. -/
def printFloating (v : FloatValue) (b : Builtin) : String :=
  let text := v.print b.binaryFormat
  let text := if text.all fun c => c.isDigit || c == '-' then text ++ "." else text
  text ++ floatingSuffix b

/-- The text of an expression as the front end prints it. -/
def printExpr (e : Entities) : Nat → Expr → String
  | 0, _ => ""
  | fuel + 1, x =>
    match x with
    | .integer v b text =>
      -- `true`, `false` and `nullptr` are printed as written
      if b == .bool || b == .nullptr then text else toString v ++ integerSuffix b
    | .floating v b => printFloating v b
    | .imaginary text _ => text
    | .character v k _ => printCharacter k v
    | .string k units => printString k units
    | .enumerator n _ _ | .variable n _ | .undeclared n => n
    | .paren a => "(" ++ printExpr e fuel a ++ ")"
    | .unary op a =>
      let gap : Bool := match op, a with
        | "__real", _ | "__imag", _ | "__extension__", _ => true
        | "+", .unary .. | "-", .unary .. | "+", .postUnary .. | "-", .postUnary .. => true
        | _, _ => false
      op ++ (if gap then " " else "") ++ printExpr e fuel a
    | .postUnary op a _ => printExpr e fuel a ++ op
    | .binary op a b _ => printExpr e fuel a ++ " " ++ op ++ " " ++ printExpr e fuel b
    | .assign op a b _ => printExpr e fuel a ++ " " ++ op ++ " " ++ printExpr e fuel b
    | .conditional c a b =>
      printExpr e fuel c ++ " ? " ++ printExpr e fuel a ++ " : " ++ printExpr e fuel b
    | .omittedConditional c b => printExpr e fuel c ++ " ?: " ++ printExpr e fuel b
    | .choose c a b _ =>
      "__builtin_choose_expr(" ++ printExpr e fuel c ++ ", " ++ printExpr e fuel a ++ ", " ++
        printExpr e fuel b ++ ")"
    | .generic c assocs _ =>
      "_Generic(" ++ printExpr e fuel c ++ String.join (assocs.map fun (t, v) =>
        ", " ++ (match t with
          | some t => e.spell t
          | none => "default") ++ ": " ++ printExpr e fuel v) ++ ")"
    | .recovery parts => "<recovery-expr>(" ++ ", ".intercalate (parts.map (printExpr e fuel)) ++ ")"
    | .cast t a => "(" ++ e.spell t ++ ")" ++ printExpr e fuel a
    | .sizeofType t => "sizeof(" ++ e.spell t ++ ")"
    | .sizeofExpr a => "sizeof " ++ printExpr e fuel a
    | .alignofType k t => k ++ "(" ++ e.spell t ++ ")"
    | .alignofExpr k a => k ++ " " ++ printExpr e fuel a
    | .member a n arrow _ _ => printExpr e fuel a ++ (if arrow then "->" else ".") ++ n
    | .index a b => printExpr e fuel a ++ "[" ++ printExpr e fuel b ++ "]"
    | .call f args _ => printExpr e fuel f ++ "(" ++ ", ".intercalate (args.map (printExpr e fuel)) ++ ")"
    | .sourceLocation name _ => name ++ "()"
    | .comma a b _ => printExpr e fuel a ++ " , " ++ printExpr e fuel b
    | .compoundLiteral t i => "(" ++ e.spell t ++ ")" ++ printExpr e fuel i
    | .initList items => "\x7b" ++ ", ".intercalate (items.map (printExpr e fuel)) ++ "\x7d"
    | .designated d _ v => d ++ (if d.endsWith ":" then " " else " = ") ++ printExpr e fuel v
    | .offsetof t path _ => "__builtin_offsetof(" ++ e.spell t ++ ", " ++ path ++ ")"
    | .typesCompatible a b _ => "__builtin_types_compatible_p(" ++ e.spell a ++ ", " ++ e.spell b ++ ")"
    | .invalid => ""

/-- The type of an expression. -/
def exprType (e : Entities) (x : Expr) : Ty := e.typeOf depthLimit x

/-- The value that an expression folds to. -/
def foldedValue (e : Entities) (x : Expr) : Option Value := e.evaluate depthLimit x

/-- The place of the call that keeps an expression from folding, found in the order in which
`evaluate` reads the operands; `none` when what fails is not a call. The front end points at
that call rather than at the start of the expression, since all it has to say is that the call
is not allowed there. -/
def failedCall (e : Entities) : Nat → Expr → Option Position
  | 0, _ => none
  | fuel + 1, x =>
    let fails (a : Expr) : Bool := (e.evaluate fuel a).isNone
    let inner (a : Expr) : Option Position := if fails a then failedCall e fuel a else none
    match x with
    | .paren a | .unary _ a | .cast _ a | .sourceLocation _ a => inner a
    | .binary op a b _ =>
      if fails a then failedCall e fuel a
      else if op == "&&" || op == "||" then
        match e.evaluate fuel a with
        | some va => if va.truth == (op == "||") then none else inner b
        | none => none
      else inner b
    | .conditional c a b =>
      match e.evaluate fuel c with
      | some vc => inner (if vc.truth then a else b)
      | none => failedCall e fuel c
    | .omittedConditional c b =>
      match e.evaluate fuel c with
      | some vc => if vc.truth then none else inner b
      | none => failedCall e fuel c
    | .choose _ a b first => inner (if first then a else b)
    | .generic _ assocs chosen =>
      match chosen.bind fun i => assocs[i]? with
      | some (_, v) => inner v
      | none => none
    | .comma a b _ =>
      let literal : Bool := match a with
        | .string .. => true
        | _ => false
      if !literal && fails a then failedCall e fuel a else inner b
    | .call _ _ pos => some pos
    | _ => none

/-- The value of an integer constant expression: one that folds to an integer. -/
def constantValue (e : Entities) (x : Expr) : Option Constant :=
  match e.foldedValue x with
  | some (.integer c) => some c
  | _ => none

/-- The text of an expression. -/
def exprText (e : Entities) (x : Expr) : String := e.printExpr depthLimit x

/-- The signed overflows met in evaluating an expression, in the order they arise: for each
`+`, `-` or `*` of signed integers whose exact result its type does not hold, the place of the
operator and the result as the type holds it. Only what `evaluate` evaluates is looked into:
the operand that `&&`, `||` and `?:` choose, and no operand of `sizeof`. -/
def overflows (e : Entities) : Nat → Expr → List (Position × Constant)
  | 0, _ => []
  | fuel + 1, x =>
    match x with
    | .paren a | .unary _ a | .cast _ a => e.overflows fuel a
    | .binary op a b pos =>
      let first := e.overflows fuel a
      if op == "&&" || op == "||" then
        match e.evaluate fuel a with
        | some va => if va.truth == (op == "||") then first else first ++ e.overflows fuel b
        | none => first
      else
        let inner := first ++ e.overflows fuel b
        match e.evaluate fuel a, e.evaluate fuel b with
        | some (.integer ca), some (.integer cb) =>
          let t := commonInteger e.model ca.type cb.type
          let x := (Constant.wrap e.model ca.value t).value
          let y := (Constant.wrap e.model cb.value t).value
          let exact : Option Int :=
            if op == "+" then some (x + y) else if op == "-" then some (x - y)
            else if op == "*" then some (x * y) else none
          match exact with
          | some v =>
            if t.isUnsignedIn e.model || Constant.fits e.model v t then inner
            else inner ++ [(pos, Constant.wrap e.model v t)]
          | none => inner
        | _, _ => inner
    | .conditional c a b | .choose c a b _ =>
      let first := e.overflows fuel c
      let chosen := match x, e.evaluate fuel c with
        | .choose _ _ _ taken, _ => some taken
        | _, some vc => some vc.truth
        | _, none => none
      match chosen with
      | some true => first ++ e.overflows fuel a
      | some false => first ++ e.overflows fuel b
      | none => first
    | .comma a b _ => e.overflows fuel a ++ e.overflows fuel b
    | _ => []

/-- The signed overflows that checking a full expression, such as an initializer, finds: an
operation at its top, parentheses and casts aside, is evaluated whole; the items of a braced
list are checked each, the last first, and so are the arguments of a call, the index of a
subscript and the initializer of a compound literal. -/
def fullExpressionOverflows (e : Entities) : Nat → Expr → List (Position × Constant)
  | 0, _ => []
  | fuel + 1, x =>
    match x with
    | .paren a | .cast _ a => e.fullExpressionOverflows fuel a
    | .unary .. | .binary .. | .assign .. | .comma .. => e.overflows fuel x
    | .initList items => (items.reverse.map (e.fullExpressionOverflows fuel)).flatten
    | .designated _ _ v => e.fullExpressionOverflows fuel v
    | .call _ args _ => (args.reverse.map (e.fullExpressionOverflows fuel)).flatten
    | .index _ i => e.fullExpressionOverflows fuel i
    | .compoundLiteral _ init => e.fullExpressionOverflows fuel init
    | _ => []

/-- The binary digits of a natural number: none for zero. -/
def binaryLength (n : Nat) : Nat := if n == 0 then 0 else Nat.log2 n + 1

/-- The warnings that an operator gives when it is built, from the values of its operands: a
division or remainder of integers by a constant zero, a shift by a negative count or by at least
the width of its promoted left operand and, for a left shift of a signed constant, a negative
value shifted or a result that needs more bits than the type has, its sign apart. Only the last
is given where the value is not computed when the program runs, `evaluated` false. -/
def operatorWarning (e : Entities) (evaluated : Bool) (op : String) (a b : Expr) :
    Option (Warning × String) :=
  let integer? (x : Expr) : Option Builtin :=
    (e.arithmetic? (e.exprType x)).filter Builtin.isInteger
  match integer? a, integer? b, e.constantValue b with
  | some ta, some _, some cb =>
    if op == "/" || op == "%" then
      if cb.value == 0 && evaluated then
        some (.on "division-by-zero", (if op == "/" then "division" else "remainder") ++ " by zero is undefined")
      else none
    else if op == "<<" || op == ">>" then
      let t := promote ta
      let width := t.bitsIn e.model
      if cb.value < 0 then (if evaluated then some (.on "shift-count-negative", "shift count is negative") else none)
      else if cb.value ≥ width then
        (if evaluated then some (.on "shift-count-overflow", "shift count >= width of type") else none)
      else if op == "<<" && !t.isUnsignedIn e.model then
        match e.constantValue a with
        | some ca =>
          if ca.value < 0 then
            if evaluated then some (.on "shift-negative-value", "shifting a negative signed value is undefined")
            else none
          else
            let needed := binaryLength ca.value.toNat + 1 + cb.value.toNat
            if needed ≤ width + 1 then none
            else
              some (.on "shift-overflow", "signed shift result (0x" ++ hexDigits true 0 (ca.value.toNat * Nat.pow 2 cb.value.toNat) ++
                ") requires " ++ toString needed ++ " bits to represent, but '" ++ t.name e.c23 ++
                "' only has " ++ toString width ++ " bits")
        | none => none
      else none
    else none
  | _, _, _ => none

/-- The warnings that building the operators of an expression gives, in the order they are
built: the operands of an operator before it. The operands of `sizeof` and of an alignment
query, and the controlling expression of a generic selection, are not evaluated. -/
def operatorWarnings (e : Entities) (evaluated : Bool) : Nat → Expr → List (Position × Warning × String)
  | 0, _ => []
  | fuel + 1, x =>
    let go := e.operatorWarnings evaluated fuel
    match x with
    | .paren a | .unary _ a | .cast _ a | .postUnary _ a _ | .member a _ _ _ _
    | .compoundLiteral _ a | .designated _ _ a => go a
    | .binary op a b pos =>
      go a ++ go b ++ ((e.operatorWarning evaluated op a b).map (pos, ·)).toList
    | .assign _ a b _ | .comma a b _ | .index a b | .omittedConditional a b => go a ++ go b
    | .conditional c a b | .choose c a b _ => go c ++ go a ++ go b
    | .call f args _ => go f ++ (args.map go).flatten
    | .initList items | .recovery items => (items.map go).flatten
    | .generic control assocs _ =>
      e.operatorWarnings false fuel control ++ (assocs.map fun (_, v) => go v).flatten
    | .sizeofExpr a | .alignofExpr _ a => e.operatorWarnings false fuel a
    | _ => []

end Entities

end NativeBindings.Header
