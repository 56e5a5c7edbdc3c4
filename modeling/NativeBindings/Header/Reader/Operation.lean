import NativeBindings.Header.Reader.Sema

/-!
# Operands

Every operator takes operands of some types only: `%` and the bitwise operators integers, the
multiplicative ones arithmetic values, `+` and `-` a pointer moved by an integer too, and a
comparison pointers as well. A cast converts to and from scalar types, a call needs a function
and the number of arguments its prototype names, an assignment a modifiable object and a
value that converts to its type.

When the operands do not fit, the front end reports it and keeps what is left as a recovery
expression (`Expr.recovery`) that holds the operands and has no type of its own; a subscript, a
cast or a member access that does not fit leaves nothing (`Expr.invalid`). An operation on an
operand that holds such an error already is taken as it is, without checks, so that one error
is reported once.

The checks are pure functions of the entities and the operands (`Entities.binaryProblem`,
`Entities.castProblem`, ...); the `Read` functions at the end report what they find.
-/

namespace NativeBindings.Header

/-- Whether an expression holds a part that could not be read; such an expression has been
reported, and the whole of it is an error. -/
def Expr.broken : Nat → Expr → Bool
  | 0, _ => false
  | fuel + 1, e =>
    match e with
    | .invalid | .undeclared _ => true
    | .paren a | .unary _ a | .postUnary _ a _ | .cast _ a | .sizeofExpr a | .alignofExpr _ a
    | .member a .. | .compoundLiteral _ a | .designated _ _ a => Expr.broken fuel a
    | .initList items | .recovery items => items.any (Expr.broken fuel)
    | .binary _ a b _ | .assign _ a b _ | .index a b | .comma a b _
    | .omittedConditional a b => Expr.broken fuel a || Expr.broken fuel b
    | .conditional c a b | .choose c a b _ =>
      Expr.broken fuel c || Expr.broken fuel a || Expr.broken fuel b
    | .generic c assocs _ => Expr.broken fuel c || assocs.any (Expr.broken fuel ·.2)
    | .call f args _ => Expr.broken fuel f || args.any (Expr.broken fuel)
    | _ => false

/-- Whether an expression holds an error that has been reported: a part that could not be read,
or an operation whose operands do not fit it. -/
def Expr.hasErrors : Nat → Expr → Bool
  | 0, _ => false
  | fuel + 1, e =>
    match e with
    | .invalid | .undeclared _ | .recovery _ => true
    | .paren a | .unary _ a | .postUnary _ a _ | .cast _ a | .sizeofExpr a | .alignofExpr _ a
    | .member a .. | .compoundLiteral _ a | .designated _ _ a => Expr.hasErrors fuel a
    | .initList items => items.any (Expr.hasErrors fuel)
    | .binary _ a b _ | .assign _ a b _ | .index a b | .comma a b _
    | .omittedConditional a b => Expr.hasErrors fuel a || Expr.hasErrors fuel b
    | .conditional c a b | .choose c a b _ =>
      Expr.hasErrors fuel c || Expr.hasErrors fuel a || Expr.hasErrors fuel b
    | .generic c assocs _ => Expr.hasErrors fuel c || assocs.any (Expr.hasErrors fuel ·.2)
    | .call f args _ => Expr.hasErrors fuel f || args.any (Expr.hasErrors fuel)
    | _ => false

/-- Whether an expression could not be read. -/
def broken (e : Expr) : Bool := Expr.broken Entities.depthLimit e

/-- Whether an expression holds an error that has been reported. -/
def hasErrors (e : Expr) : Bool := Expr.hasErrors Entities.depthLimit e

/-- What is wrong with the operands of a binary operator. -/
inductive OperandProblem where
  /-- The operands do not fit the operator at all. -/
  | invalidOperands
  /-- Two pointers are subtracted whose targets are not compatible. -/
  | incompatiblePointers
  /-- A pointer to an incomplete type is moved. -/
  | incompletePointee (pointee : Ty)
deriving Inhabited

/-- Why an expression cannot be assigned to. -/
inductive Unassignable where
  | notLValue
  | array (type : Ty)
  | function (type : Ty)
  | constVariable (name : String) (type : Ty)
  | readOnly
  | incomplete (type : Ty)
deriving Inhabited

/-- What is wrong with a cast. -/
inductive CastProblem where
  /-- The target type is neither `void` nor scalar. -/
  | targetNotScalar
  /-- The operand's value is not scalar. -/
  | operandNotScalar (source : Ty)
  /-- A floating value cast to a pointer. -/
  | floatingToPointer (source : Ty)
  /-- A pointer cast to a floating type. -/
  | pointerToFloating
deriving Inhabited

namespace Entities

/-- Whether a type is an arithmetic type: an integer, floating or complex type, or an enum. -/
def isArithmeticType (e : Entities) (t : Ty) : Bool :=
  (e.arithmetic? t).isSome || (match e.bare t with
    | .complex .. => true
    | _ => false)

/-- Whether a type is an integer type, an enum or a bit-precise integer included. -/
def isIntegerType (e : Entities) (t : Ty) : Bool := (e.arithmetic? t).any Builtin.isInteger

/-- Whether a type is a real type: arithmetic, but not complex. -/
def isRealType (e : Entities) (t : Ty) : Bool := (e.arithmetic? t).isSome

/-- The type a pointer type points to. -/
def pointee? (e : Entities) (t : Ty) : Option Ty :=
  match e.bare t with
  | .pointer _ p => some p
  | _ => none

/-- Whether a type is a scalar type: arithmetic or a pointer. -/
def isScalarType (e : Entities) (t : Ty) : Bool := e.isArithmeticType t || (e.pointee? t).isSome

/-- Whether the front end takes an operand of this type without the checks made here: vectors,
atomic types and types that are not known. -/
def uncheckedType (e : Entities) (t : Ty) : Bool :=
  match e.bare t with
  | .vector .. | .atomic .. | .invalid => true
  | _ => false

/-- The type of an operand as arithmetic operators see it: its value's type, with an integer
narrower than `int` promoted. -/
def promotedType (e : Entities) (x : Expr) : Ty :=
  let t := e.valueType x
  match e.bare t with
  | .builtin _ b => if b.isInteger then .builtin {} (promote b) else t
  | _ => t

/-- Whether moving a pointer to `pointee` is an error: the pointee is an incomplete object type.
A pointer to `void` or to a function moves by one byte, as an extension. -/
def movesIncomplete (e : Entities) (pointee : Ty) : Bool :=
  e.isIncomplete pointee && !e.isVoid pointee

/-- How a pointer to `pointee` fails to be moved, if it does. -/
def pointerMove (e : Entities) (pointee : Ty) : Option OperandProblem :=
  if e.movesIncomplete pointee then some (.incompletePointee pointee) else none

/-- How the operands of a binary operator, of the value types `a` and `b`, fail to fit it, if
they do. -/
def binaryProblem (e : Entities) (op : String) (a b : Ty) : Option OperandProblem :=
  let invalid : Option OperandProblem := some .invalidOperands
  let arithmetic := e.isArithmeticType a && e.isArithmeticType b
  let integers := e.isIntegerType a && e.isIntegerType b
  match op with
  | "*" | "/" => if arithmetic then none else invalid
  | "%" | "<<" | ">>" | "&" | "^" | "|" => if integers then none else invalid
  | "+" =>
    if arithmetic then none
    else match e.pointee? a, e.pointee? b with
      | some p, none => if e.isIntegerType b then e.pointerMove p else invalid
      | none, some p => if e.isIntegerType a then e.pointerMove p else invalid
      | _, _ => invalid
  | "-" =>
    if arithmetic then none
    else match e.pointee? a, e.pointee? b with
      | some p, none => if e.isIntegerType b then e.pointerMove p else invalid
      | some p, some q =>
        if e.compatible depthLimit ((e.canonical p).setQuals {}) ((e.canonical q).setQuals {}) then
          e.pointerMove p
        else some .incompatiblePointers
      | _, _ => invalid
  | "<" | ">" | "<=" | ">=" =>
    if e.isRealType a && e.isRealType b then none
    else match e.pointee? a, e.pointee? b with
      | some _, some _ => none
      | some _, none => if e.isIntegerType b then none else invalid
      | none, some _ => if e.isIntegerType a then none else invalid
      | none, none => invalid
  | "==" | "!=" =>
    if arithmetic then none
    else match e.pointee? a, e.pointee? b with
      | some _, some _ => none
      | some _, none => if e.isIntegerType b then none else invalid
      | none, some _ => if e.isIntegerType a then none else invalid
      | none, none => invalid
  | "&&" | "||" => if e.isScalarType a && e.isScalarType b then none else invalid
  | _ => none

/-- Why an expression cannot be assigned to or incremented, if it cannot: it is not an object,
or an array, a function, an incomplete object, or one qualified `const`. -/
def unassignable? (e : Entities) (x : Expr) : Option Unassignable :=
  let t := e.exprType x
  let inner := match x with
    | .paren a => a
    | a => a
  if !isLValue x then some .notLValue
  else if e.isArray t then some (.array t)
  else if e.isFunction t then some (.function t)
  else if (e.canonical t).quals.const then
    match inner with
    | .variable name _ => some (.constVariable name t)
    | _ => some .readOnly
  else if e.isIncomplete t then some (.incomplete t)
  else none

/-- How a cast of `x` to `target` fails, if it does. A cast to `void` takes anything, and one to
the operand's own record type is allowed as an extension. -/
def castProblem (e : Entities) (target : Ty) (x : Expr) : Option CastProblem :=
  let source := e.valueType x
  if e.isVoid target || e.uncheckedType target || e.uncheckedType source then none
  else if !e.isScalarType target then
    if (e.canonical target).setQuals {} == (e.canonical source).setQuals {} then none
    else some .targetNotScalar
  else if !e.isScalarType source then some (.operandNotScalar source)
  else
    let floating (t : Ty) : Bool := (e.arithmetic? t).any Builtin.isFloating
    if (e.pointee? target).isSome && floating source then some (.floatingToPointer source)
    else if floating target && (e.pointee? source).isSome then some .pointerToFloating
    else none

/-- Whether the operands of a conditional operator, of the value types `a` and `b`, fit
together: arithmetic values, the same record, `void` on either side, pointers, or a pointer and
an integer. -/
def conditionalFits (e : Entities) (a b : Ty) : Bool :=
  (e.isArithmeticType a && e.isArithmeticType b) || e.isVoid a || e.isVoid b ||
    (e.canonical a).setQuals {} == (e.canonical b).setQuals {} ||
    (match e.pointee? a, e.pointee? b with
      | some _, some _ => true
      | some _, none => e.isIntegerType b
      | none, some _ => e.isIntegerType a
      | none, none => false)

/-- The function type a callee's value has: that of a function, or of the function a pointer
points to. -/
def calleeType? (e : Entities) (f : Expr) : Option Ty :=
  match e.pointee? (e.valueType f) with
  | some p => if e.isFunction p then some (e.bare p) else none
  | none => none

/-- Whether an expression names a function itself, not a pointer to one; parentheses aside. -/
def namedFunction? (e : Entities) : Expr → Option String
  | .paren (.variable name t) | .variable name t => if e.isFunction t then some name else none
  | _ => none

end Entities

/-- The message for arguments that are too few or too many for a prototype with `params`
parameters, the first named `first` when the callee names a function that names it. -/
def arityMessage (tooMany : Bool) (params args : Nat) (variadic : Bool) (first : Option String) :
    String :=
  let head := if tooMany then "too many arguments to function call, "
    else "too few arguments to function call, "
  match first, params == 1 with
  | some name, true =>
    if tooMany then head ++ "expected single argument '" ++ name ++ "', have " ++ toString args ++
      " arguments"
    else if variadic then head ++ "at least argument '" ++ name ++ "' must be specified"
    else head ++ "single argument '" ++ name ++ "' was not specified"
  | _, _ =>
    head ++ "expected " ++ (if variadic && !tooMany then "at least " else "") ++ toString params ++
      ", have " ++ toString args

namespace Read

/-- Reports how the operands of a binary operator fail to fit it, from their types as written. -/
def reportOperands (problem : OperandProblem) (a b : Expr) (pos : Position) : Read Unit := do
  let e ← entities
  match problem with
  | .invalidOperands =>
    report pos ("invalid operands to binary expression (" ++ (← quoteType (e.exprType a)) ++
      " and " ++ (← quoteType (e.exprType b)) ++ ")")
  | .incompatiblePointers =>
    report pos ((← quoteType (e.valueType a)) ++ " and " ++ (← quoteType (e.valueType b)) ++
      " are not pointers to compatible types")
  | .incompletePointee p =>
    report pos ("arithmetic on a pointer to an incomplete type " ++ (← quoteType p))

/-- Reports why an expression cannot be assigned to. -/
def reportUnassignable (u : Unassignable) (pos : Position) : Read Unit := do
  match u with
  | .notLValue => report pos "expression is not assignable"
  | .array t => report pos ("array type " ++ (← quoteType t) ++ " is not assignable")
  | .function t => report pos ("non-object type " ++ (← quoteType t) ++ " is not assignable")
  | .constVariable name t =>
    report pos ("cannot assign to variable '" ++ name ++ "' with const-qualified type " ++
      (← quoteType t))
  | .readOnly => report pos "read-only variable is not assignable"
  | .incomplete t => report pos ("incomplete type " ++ (← quoteType t) ++ " is not assignable")

/-- A binary operator applied to its operands, checked; the operands left as a recovery
expression when they do not fit. -/
def binaryOperation (op : String) (a b : Expr) (pos : Position) : Read Expr := do
  let node := Expr.binary op a b pos
  let e ← entities
  if op == "," || hasErrors a || hasErrors b then return node
  let ta := e.promotedType a
  let tb := e.promotedType b
  if e.uncheckedType ta || e.uncheckedType tb then return node
  match e.binaryProblem op ta tb with
  | some problem =>
    reportOperands problem a b pos
    return .recovery [a, b]
  | none => return node

/-- An assignment checked: the left operand must be a modifiable object, the operands of a
compound assignment must fit its operator, and the value of a simple one must convert to the
object's type. -/
def assignOperation (op : String) (a b : Expr) (pos : Position) : Read Expr := do
  let node := Expr.assign op a b pos
  let e ← entities
  if hasErrors a || hasErrors b then return node
  let ta := e.promotedType a
  let tb := e.promotedType b
  if e.uncheckedType ta || e.uncheckedType tb then return node
  if op != "=" then
    if let some problem := e.binaryProblem (String.ofList op.toList.dropLast) ta tb then
      reportOperands problem a b pos
      return .recovery [a, b]
  if let some u := e.unassignable? a then
    reportUnassignable u pos
    return .recovery [a, b]
  if op == "=" then
    let target := (e.exprType a).setQuals {}
    let source := e.valueType b
    let c := e.conversion target source (e.isNullPointer Entities.depthLimit b)
    if let some m := c.message .assigning (← quoteType target) (← quoteType source)
        (e.conversionHint target source b) then
      match c.warning? with
      | some w => warn w pos m
      | none => report pos m
    if c.fatal then return .recovery [a, b]
  return node

/-- A prefix operator applied to its operand, checked. -/
def unaryOperation (op : String) (a : Expr) (pos : Position) : Read Expr := do
  let node := Expr.unary op a
  let e ← entities
  if op == "__extension__" || hasErrors a then return node
  let t := e.promotedType a
  if e.uncheckedType t then return node
  let fail (message : String) : Read Expr := do
    report pos message
    return .recovery [a]
  match op with
  | "*" =>
    if (e.pointee? t).isSome then return node
    fail ("indirection requires pointer operand (" ++ (← quoteType t) ++ " invalid)")
  | "&" =>
    if Entities.isLValue a || e.isFunction (e.exprType a) then return node
    fail ("cannot take the address of an rvalue of type " ++ (← quoteType (e.exprType a)))
  | "+" | "-" =>
    if e.isArithmeticType t then return node
    fail ("invalid argument type " ++ (← quoteType t) ++ " to unary expression")
  | "~" =>
    if e.isIntegerType t || e.isArithmeticType t && !e.isRealType t then return node
    fail ("invalid argument type " ++ (← quoteType t) ++ " to unary expression")
  | "!" =>
    if e.isScalarType t then return node
    fail ("invalid argument type " ++ (← quoteType t) ++ " to unary expression")
  | "__real" | "__imag" =>
    if e.isArithmeticType t then return node
    fail ("invalid type " ++ (← quoteType t) ++ " to " ++ op ++ " operator")
  | _ =>
    let written := e.exprType a
    let increment := op == "++"
    if e.uncheckedType written then return node
    if !(e.isRealType written || e.isArithmeticType written) then
      match e.pointee? written with
      | some p =>
        if e.movesIncomplete p then
          return ← fail ("arithmetic on a pointer to an incomplete type " ++ (← quoteType p))
      | none =>
        return ← fail ("cannot " ++ (if increment then "increment" else "decrement") ++
          " value of type " ++ (← quoteType written))
    if let some u := e.unassignable? a then
      reportUnassignable u pos
      return .recovery [a]
    return node

/-- A suffix `++` or `--` applied to its operand, checked as the prefix one is. -/
def postfixOperation (op : String) (a : Expr) (pos : Position) : Read Expr := do
  match ← unaryOperation op a pos with
  | .recovery parts => return .recovery parts
  | _ => return .postUnary op a pos

/-- A conditional operator checked: the condition must be scalar, and the operands must fit
together. `a` is none for the GNU form without a middle operand. -/
def conditionalOperation (c : Expr) (a : Option Expr) (b : Expr) (pos : Position) : Read Expr := do
  let node := match a with
    | some a => Expr.conditional c a b
    | none => .omittedConditional c b
  let parts := match a with
    | some a => [c, a, b]
    | none => [c, b]
  let e ← entities
  if parts.any hasErrors then return node
  let tc := e.promotedType c
  let ta := e.promotedType (a.getD c)
  let tb := e.promotedType b
  if [tc, ta, tb].any e.uncheckedType then return node
  if !e.isScalarType tc then
    report pos ("used type " ++ (← quoteType tc) ++ " where arithmetic or pointer type is required")
    return .recovery parts
  if !e.conditionalFits ta tb then
    report pos ("incompatible operand types (" ++ (← quoteType ta) ++ " and " ++ (← quoteType tb) ++ ")")
    return .recovery parts
  return node

/-- A cast checked; nothing is left of one that fails. `lparen` is the place of its `(`, and
`start` that of its operand. -/
def castOperation (t : Ty) (a : Expr) (lparen start : Position) : Read Expr := do
  let e ← entities
  if hasErrors a then return .cast t a
  let at_ := Expr.place start Entities.depthLimit a
  match e.castProblem t a with
  | none => return .cast t a
  | some problem =>
    match problem with
    | .targetNotScalar =>
      report lparen ("used type " ++ (← quoteType t) ++ " where arithmetic or pointer type is required")
    | .operandNotScalar s =>
      report at_ ("operand of type " ++ (← quoteType s) ++ " where arithmetic or pointer type is required")
    | .floatingToPointer s =>
      report at_ ("operand of type " ++ (← quoteType s) ++ " cannot be cast to a pointer type")
    | .pointerToFloating => report at_ ("pointer cannot be cast to type " ++ (← quoteType t))
    return .invalid

/-- The names of the parameters of the latest declaration of a function. -/
def parameterNames (name : String) : Read (List String) := do
  let s ← get
  let found := s.decls.toList.reverse.findSome? fun d => match d with
    | .function n _ _ params _ => if n == name then some params else none
    | _ => none
  return (found.getD []).map fun i => (s.decls.getD i default).name

/-- A call checked: the callee must be a function or a pointer to one, the arguments as many as
its prototype names, and each must convert to its parameter's type. The arguments come with
the places they start at; `start` is the place of the callee, and `lparen` and `rparen` are the
places of the parentheses. -/
def callOperation (f : Expr) (args : List (Expr × Position)) (start lparen rparen : Position) :
    Read Expr := do
  let values := args.map (·.1)
  let node := Expr.call f values start
  let e ← entities
  if hasErrors f || values.any hasErrors then return node
  let recovery := Expr.recovery (f :: values)
  match e.calleeType? f with
  | none =>
    let t := e.valueType f
    if e.uncheckedType t then return node
    report lparen ("called object type " ++ (← quoteType t) ++ " is not a function or function pointer")
    return recovery
  | some (.function _ params variadic true) =>
    let first ← match e.namedFunction? f with
      | some name => pure (← parameterNames name).head?
      | none => pure none
    let first := first.filter (!·.isEmpty)
    if values.length < params.length then
      report rparen (arityMessage false params.length values.length variadic first)
      return recovery
    if values.length > params.length && !variadic then
      let extra := (args.getD params.length (.invalid, rparen)).2
      report extra (arityMessage true params.length values.length variadic first)
      return recovery
    let mut usable := true
    for ((x, start), p) in args.zip params do
      let target := (e.adjustParam p).setQuals {}
      let source := e.valueType x
      if e.uncheckedType source || e.uncheckedType target then continue
      let c := e.conversion target source (e.isNullPointer Entities.depthLimit x)
      if let some m := c.message .passing (← quoteType target) (← quoteType source)
          (e.conversionHint target source x) then
        match c.warning? with
        | some w => warn w start m
        | none => report start m
      if c.fatal then usable := false
    return if usable then node else recovery
  | some _ => return node

/-- A subscript checked: one operand must be a pointer, after arrays decay, and the other an
integer. Nothing is left of one that fails. `lbracket` is the place of its `[`. -/
def subscriptOperation (a i : Expr) (lbracket : Position) : Read Expr := do
  let e ← entities
  if hasErrors a || hasErrors i then return .index a i
  let ta := e.valueType a
  let ti := e.valueType i
  if e.uncheckedType ta || e.uncheckedType ti then return .index a i
  let (pointer, index) := if (e.pointee? ta).isSome then (ta, ti) else (ti, ta)
  match e.pointee? pointer with
  | none =>
    report lbracket "subscripted value is not an array, pointer, or vector"
    return .invalid
  | some p =>
    if !e.isIntegerType index then
      report lbracket "array subscript is not an integer"
      return .invalid
    if e.movesIncomplete p then
      report lbracket ("subscript of pointer to incomplete type " ++ (← quoteType p))
      return .invalid
    return .index a i

end Read

end NativeBindings.Header
