import NativeBindings.Header.Entity

/-!
# Layout of types

The size and alignment of a type on the target, a 64-bit x86 system: builtin types are aligned
to their size, arrays to their elements, and a record is laid out member by member in bits.

A member that is not a bit-field starts at the next multiple of its alignment: that of its type,
raised by an `aligned` attribute, cut to one byte when it is packed, and cut to the limit of a
`#pragma pack` in force. A flexible array member takes no room but is aligned as its elements
are. A bit-field takes the next free bits, unless that would make it cross a boundary of its
type's alignment, in which case it starts at that boundary; packing and `#pragma pack` let it
cross, and a bit-field of width zero always moves to the boundary. Unnamed bit-fields do not
raise the alignment of the record. A union places every member at its start. The record's
alignment is the largest of its members' and of its own `aligned` attribute, and its size is
rounded up to it.
-/

namespace NativeBindings.Header

/-- `n` rounded up to a multiple of `a`; `n` itself when `a` is `0`. -/
def alignUp (n a : Nat) : Nat := if a == 0 then n else (n + a - 1) / a * a

/-- How far the layout of a record has come, in bits: the end of the data placed, the bits at
its end that a bit-field left free, and the size; and the alignment so far, in bytes. -/
structure Placement where
  dataBits : Nat := 0
  unfilled : Nat := 0
  sizeBits : Nat := 0
  align : Nat := 1
  /-- In Microsoft's layout of bit-fields, the bits of the unit that the last bit-field opened;
  `0` after a member that is no bit-field. -/
  lastUnit : Nat := 0
deriving Inhabited, Repr

/-- What a record's own attributes and pragmas decide for all its members. -/
structure RecordRules where
  isUnion : Bool
  packed : Bool
  /-- The limit of a `#pragma pack`, in bytes; `0` for none. -/
  maxFieldAlign : Nat
  /-- Bit-fields are laid out as Microsoft's compiler does. -/
  msStruct : Bool := false

namespace Placement

/-- Places a member that is not a bit-field, of `size` and `align` bytes, giving the bit at
which it starts. -/
def placeField (p : Placement) (r : RecordRules) (m : Member) (size align : Nat) : Placement × Nat :=
  let packedAlign := max 1 m.aligned
  let unpacked := max align m.aligned
  let (packedAlign, unpacked) :=
    if r.maxFieldAlign == 0 then (packedAlign, unpacked)
    else (min packedAlign r.maxFieldAlign, min unpacked r.maxFieldAlign)
  let fieldAlign := if r.packed || m.packed then packedAlign else unpacked
  let offset := if r.isUnion then 0 else alignUp (p.dataBits / 8) fieldAlign
  let dataBits := if r.isUnion then max p.dataBits (8 * size) else 8 * (offset + size)
  ({ dataBits, unfilled := 0, sizeBits := max p.sizeBits dataBits, align := max p.align fieldAlign },
    8 * offset)

/-- Places a bit-field of `width` bits whose type has `size` and `align` bytes, giving the bit
at which it starts; `named` tells whether it has a name. -/
def placeBitField (p : Placement) (r : RecordRules) (m : Member) (width size align : Nat)
    (named : Bool) : Placement × Nat :=
  let unitBits := 8 * size
  let packed := r.packed || m.packed
  let explicit := 8 * m.aligned
  let limit := 8 * r.maxFieldAlign
  let fieldAlign := if packed && width != 0 then 1 else 8 * align
  let unpacked := 8 * align
  let (fieldAlign, unpacked) :=
    if explicit == 0 then (fieldAlign, unpacked) else (max fieldAlign explicit, max unpacked explicit)
  let fieldAlign :=
    if limit == 0 || width == 0 then fieldAlign
    else if packed then min unpacked limit else min fieldAlign limit
  let start := if r.isUnion then 0 else p.dataBits - p.unfilled
  let start :=
    if width == 0 || (limit == 0 && start % fieldAlign + width > unitBits) then alignUp start fieldAlign
    else if explicit != 0 && (limit == 0 || explicit ≤ limit) then alignUp start explicit
    else start
  let fieldAlign := if named then fieldAlign else 1
  let (dataBits, unfilled) :=
    if r.isUnion then (max p.dataBits (alignUp width 8), p.unfilled)
    else
      let finish := start + width
      (alignUp finish 8, alignUp finish 8 - finish)
  ({ dataBits, unfilled, sizeBits := max p.sizeBits dataBits, align := max p.align (fieldAlign / 8) },
    start)

/-- Places a bit-field of `width` bits whose type has `size` and `align` bytes as Microsoft's
compiler does, giving the bit at which it starts; `named` tells whether it has a name. A
bit-field takes a whole unit of its type, aligned to the unit's size, and the bit-fields after
it share that unit while their types have the same size and they fit in what is left. A
bit-field of width zero ends the unit, and counts only after another bit-field. Packing does
not move bit-fields, and in a union nothing aligns them. -/
def placeMicrosoftBitField (p : Placement) (r : RecordRules) (m : Member) (width size : Nat)
    (named : Bool) : Placement × Nat :=
  let unitBits := 8 * size
  let fresh := p.lastUnit != unitBits || p.unfilled < width
  let unfilled := if fresh then 0 else p.unfilled
  let fieldAlign := if fresh && p.lastUnit == 0 && width == 0 then 1 else unitBits
  let explicit := 8 * m.aligned
  let (fieldAlign, unpacked) :=
    if explicit == 0 then (fieldAlign, fieldAlign) else (max fieldAlign explicit, max fieldAlign explicit)
  let limit := 8 * r.maxFieldAlign
  let (fieldAlign, unpacked) :=
    if limit == 0 || width == 0 then (fieldAlign, unpacked)
    else
      let unpacked := min unpacked limit
      (if r.packed || m.packed then unpacked else min fieldAlign limit, unpacked)
  let fieldAlign := if r.isUnion then 1 else fieldAlign
  let start := if r.isUnion then 0 else p.dataBits - unfilled
  let (start, unfilled) :=
    if width == 0 || width > unfilled then (alignUp start fieldAlign, 0) else (start, unfilled)
  let fieldAlign := if named then fieldAlign else 1
  let (dataBits, unfilled, lastUnit) :=
    if r.isUnion then (max p.dataBits (if width == 0 then 8 else unitBits), unfilled, p.lastUnit)
    else if width != 0 then
      let (dataBits, unfilled) := if unfilled == 0 then (start + unitBits, unitBits) else (p.dataBits, unfilled)
      (dataBits, unfilled - width, unitBits)
    else
      let finish := alignUp start 8
      (finish, finish - start, 0)
  let _ := unpacked
  ({ dataBits, unfilled, lastUnit, sizeBits := max p.sizeBits dataBits,
     align := max p.align (fieldAlign / 8) }, start)

end Placement

/-- The size of the builtin type that the elements of a type have, through arrays, when that
size is a power of two: the alignment that Microsoft's layout gives a member of the type. -/
def builtinUnit (size : Ty → Option (Nat × Nat)) (bare : Ty → Ty) : Nat → Ty → Option Nat
  | 0, _ => none
  | fuel + 1, t =>
    match bare t with
    | .array _ el _ _ _ => builtinUnit size bare fuel el
    | b@(.builtin ..) =>
      match size b with
      | some (s, _) => if s != 0 && s &&& (s - 1) == 0 then some s else none
      | none => none
    | _ => none

/-- Places the members of a record in turn from `start`, giving where the layout ends and the
bit at which each member starts; `size` gives the size and alignment of a type, and `bare` its
type without sugar. A member whose type has no size stops the layout. -/
def placeMembers (size : Ty → Option (Nat × Nat)) (bare : Ty → Ty) (r : RecordRules)
    (start : Placement) (members : List Member) : Option (Placement × List Nat) :=
  let step (acc : Option (Placement × List Nat)) (m : Member) : Option (Placement × List Nat) := do
    let (p, starts) ← acc
    let unitAlign (a : Nat) (t : Ty) : Nat :=
      if r.msStruct then max a ((builtinUnit size bare 16 t).getD 0) else a
    let (p, bit) ← match m.bits, bare m.type with
      | some w, _ =>
        let (s, a) ← size m.type
        if r.msStruct then some (p.placeMicrosoftBitField r m w s !m.name.isEmpty)
        else some (p.placeBitField r m w s a !m.name.isEmpty)
      | none, .array _ el .incomplete _ _ =>
        let (_, a) ← size el
        some (p.placeField r m 0 (unitAlign a el))
      | none, _ =>
        let (s, a) ← size m.type
        some (p.placeField r m s (unitAlign a m.type))
    some (p, starts ++ [bit])
  members.foldl step (some (start, []))

/-- How far a record laid out as Microsoft's compiler does has come: its size and alignment in
bytes, and, after a bit-field, the size of that bit-field's unit and the bits left in it. -/
structure MicrosoftPlacement where
  size : Nat := 0
  align : Nat := 1
  unit : Nat := 0
  remaining : Nat := 0
  afterBitField : Bool := false
deriving Inhabited, Repr

namespace MicrosoftPlacement

/-- The alignment of a member of `align` bytes: raised by an `aligned` attribute, cut by
packing and by a `#pragma pack`, but never below the attribute's. -/
def memberAlign (r : RecordRules) (m : Member) (align : Nat) : Nat :=
  let a := max align m.aligned
  let a := if r.maxFieldAlign == 0 then a else min a r.maxFieldAlign
  let a := if r.packed || m.packed then 1 else a
  max a m.aligned

/-- Places a member that is not a bit-field, giving the bit at which it starts. -/
def placeField (p : MicrosoftPlacement) (r : RecordRules) (m : Member) (size align : Nat) :
    MicrosoftPlacement × Nat :=
  let a := memberAlign r m align
  let offset := if r.isUnion then 0 else alignUp p.size a
  ({ p with size := max p.size (offset + size), align := max p.align a, afterBitField := false },
    8 * offset)

/-- Places a bit-field of `width` bits whose type has `size` and `align` bytes, giving the bit
at which it starts. Bit-fields share a unit only while their types have the same size; a
bit-field of width zero ends the unit before it, and is ignored unless one comes before it. -/
def placeBitField (p : MicrosoftPlacement) (r : RecordRules) (m : Member) (width size align : Nat) :
    MicrosoftPlacement × Nat :=
  let a := memberAlign r m align
  let width := min width (8 * size)
  if width == 0 then
    if !p.afterBitField then (p, if r.isUnion then 0 else 8 * p.size)
    else if r.isUnion then ({ p with size := max p.size size, afterBitField := false }, 0)
    else
      let offset := alignUp p.size a
      ({ p with size := offset, align := max p.align a, afterBitField := false }, 8 * offset)
  else if !r.isUnion && p.afterBitField && p.unit == size && width ≤ p.remaining then
    ({ p with remaining := p.remaining - width }, 8 * p.size - p.remaining)
  else if r.isUnion then
    ({ p with size := max p.size size, afterBitField := true, unit := size }, 0)
  else
    let offset := alignUp p.size a
    ({ size := offset + size, align := max p.align a, unit := size, remaining := 8 * size - width,
       afterBitField := true }, 8 * offset)

end MicrosoftPlacement

/-- Places the members of a record in turn as Microsoft's compiler does, giving the record's
size and alignment in bytes and the bit at which each member starts. -/
def placeMembersMicrosoft (size : Ty → Option (Nat × Nat)) (bare : Ty → Ty) (r : RecordRules)
    (start : MicrosoftPlacement) (members : List Member) : Option (MicrosoftPlacement × List Nat) :=
  let step (acc : Option (MicrosoftPlacement × List Nat)) (m : Member) :
      Option (MicrosoftPlacement × List Nat) := do
    let (p, starts) ← acc
    let (p, bit) ← match m.bits, bare m.type with
      | some w, _ =>
        let (s, a) ← size m.type
        some (p.placeBitField r m w s a)
      | none, .array _ el .incomplete _ _ =>
        let (_, a) ← size el
        some (p.placeField r m 0 a)
      | none, _ =>
        let (s, a) ← size m.type
        some (p.placeField r m s a)
    some (p, starts ++ [bit])
  members.foldl step (some (start, []))

namespace TagDef

/-- What a record's own attributes and pragmas decide for all its members. -/
def rules (d : TagDef) : RecordRules :=
  { isUnion := d.kind == .union, packed := d.packed, maxFieldAlign := d.maxFieldAlign,
    msStruct := d.msStruct }

/-- Where the layout of a record's members starts: nothing placed, aligned as its attribute
asks. -/
def start (d : TagDef) : Placement := { align := max 1 d.aligned }

end TagDef

namespace Entities

/-- The integer type that an enum stands for, or `int`. -/
def enumBuiltin (e : Entities) (i : Nat) : Builtin :=
  match (e.tag i).enumType with
  | some t =>
    match e.bare t with
    | .builtin _ b => b
    | _ => .int
  | none => .int

/-- Lays out the members of a record whose members' sizes come from `size`: the record's size
and alignment in bytes, and the bit at which each member starts. -/
def placeRecordWith (e : Entities) (size : Ty → Option (Nat × Nat)) (d : TagDef) :
    Option ((Nat × Nat) × List Nat) :=
  if e.model.microsoftLayout then
    (placeMembersMicrosoft size e.bare d.rules { align := max 1 d.aligned } d.members).map
      fun (p, starts) => ((alignUp p.size p.align, p.align), starts)
  else
    (placeMembers size e.bare d.rules d.start d.members).map fun (p, starts) =>
      ((alignUp p.sizeBits (8 * p.align) / 8, p.align), starts)

/-- The size and alignment of a type in bytes, if it has them. -/
def layout (e : Entities) : Nat → Ty → Option (Nat × Nat)
  | 0, _ => none
  | fuel + 1, t =>
    match t with
    | .typedef _ j =>
      let d := e.typedef j
      (e.layout fuel d.underlying).map fun (s, a) => (s, if d.aligned == 0 then a else d.aligned)
    | .elaborated _ _ n _ => e.layout fuel n
    | .decayed _ a => e.layout fuel a
    -- a reference has the size of what it refers to
    | .reference _ r => e.layout fuel r
    | .decltype _ _ u => e.layout fuel u
    | .typeofType _ i _ => e.layout fuel i
    | .typeofExpr _ _ i _ => e.layout fuel i
    | .attributed _ _ eq => e.layout fuel eq
    | .builtin _ b => some (b.sizeIn e.model, b.alignIn e.model)
    | .pointer _ p =>
      let size := e.model.pointerSizeIn (e.canonical p).quals.space
      some (size, size)
    | .blockPointer .. => some (e.model.pointerSize, e.model.pointerSize)
    -- `id`, `Class` and `SEL` are pointers; the type of a class has no size of its own
    | .objcObject _ n =>
      if ["id", "Class", "SEL"].contains n then some (e.model.pointerSize, e.model.pointerSize)
      else none
    | .array _ el (.constant n) _ _ => (e.layout fuel el).map fun (s, a) => (n * s, a)
    | .array .. => none
    | .function .. => some (1, 1)
    | .complex _ el => (e.layout fuel el).map fun (s, a) => (2 * s, a)
    | .vector _ el n _ =>
      (e.layout fuel el).map fun (s, _) =>
        let a := Nat.pow 2 (Nat.log2 (2 * (n * s) - 1))
        (alignUp (n * s) a, a)
    | .atomic _ i =>
      (e.layout fuel i).map fun (s, a) =>
        if s == 0 then (1, a)
        else if s ≤ e.model.atomicPromote then
          let rounded := Nat.pow 2 (Nat.log2 (2 * s - 1))
          (rounded, rounded)
        else (s, a)
    | .bitInt _ _ n =>
      let bytes := if n ≤ 8 then 1 else if n ≤ 16 then 2 else if n ≤ 32 then 4 else 8 * ((n + 63) / 64)
      some (bytes, min bytes 8)
    | .tag _ i =>
      let d := e.tag i
      if !d.complete then none
      else if d.kind == .enum then
        some ((e.enumBuiltin i).sizeIn e.model, (e.enumBuiltin i).alignIn e.model)
      else (e.placeRecordWith (e.layout fuel) d).map (·.1)
    | .invalid => none

/-- Whether a typedef's alignment attribute fixes the alignment of a type. -/
def alignFixed (e : Entities) : Nat → Ty → Bool
  | 0, _ => false
  | fuel + 1, t =>
    match t with
    | .typedef _ j => (e.typedef j).aligned != 0 || e.alignFixed fuel (e.typedef j).underlying
    | .elaborated _ _ n _ | .decayed _ n | .typeofType _ n _ | .typeofExpr _ _ n _
    | .decltype _ _ n | .attributed _ _ n => e.alignFixed fuel n
    | _ => false

/-- The type whose preferred alignment counts for a type: arrays give their elements', complex
numbers their parts'. -/
def preferredBase (e : Entities) : Nat → Ty → Ty
  | 0, t => t
  | fuel + 1, t =>
    match e.bare t with
    | .array _ el .. | .complex _ el => e.preferredBase fuel el
    | b => b

/-- The alignment of a type in bytes, if it has one: the one its layout requires, or, when
`preferred`, the one the target prefers, which is the size of a `double` or `long long` that the
ABI aligns less, or of an array, complex number or enum of one, unless an attribute of a typedef
fixed it. -/
def alignment (e : Entities) (fuel : Nat) (preferred : Bool) (t : Ty) : Option Nat := do
  let (_, a) ← e.layout fuel t
  if !preferred || e.alignFixed fuel t then return a
  match e.preferredBase fuel t with
  | .builtin _ b => return max a (b.preferredAlignIn e.model)
  | .tag _ i =>
    if (e.tag i).kind == .enum then return max a ((e.enumBuiltin i).preferredAlignIn e.model)
    else return a
  | _ => return a

/-- The offset in bytes of a member of a complete record type, looked for in its anonymous
members too, with the member's type. -/
def memberOffset (e : Entities) : Nat → Ty → String → Option (Nat × Ty)
  | 0, _, _ => none
  | fuel + 1, t, name =>
    match e.tagOf? t with
    | none => none
    | some i =>
      let d := e.tag i
      if !d.complete || d.kind == .enum then none
      else
        match e.placeRecordWith (e.layout depthLimit) d with
        | none => none
        | some (_, starts) =>
          (d.members.zip starts).findSome? fun (m, bit) =>
            if m.name == name then some (bit / 8, m.type)
            else if m.name.isEmpty then
              (e.memberOffset fuel m.type name).map fun (o, mt) => (bit / 8 + o, mt)
            else none

/-- The member of a name in a complete record, looked for in its unnamed members too: its type,
whether it is a bit-field, and the bit at which it starts when the record can be laid out. -/
def memberNamed (e : Entities) : Nat → Ty → String → Option (Ty × Bool × Option Nat)
  | 0, _, _ => none
  | fuel + 1, t, name =>
    match e.tagOf? t with
    | none => none
    | some i =>
      let d := e.tag i
      if !d.complete || d.kind == .enum then none
      else
        let starts : List (Option Nat) := match e.placeRecordWith (e.layout depthLimit) d with
          | some (_, starts) => starts.map some
          | none => d.members.map fun _ => none
        (d.members.zip starts).findSome? fun (m, bit) =>
          if m.name == name then some (m.type, m.bits.isSome, bit)
          else if m.name.isEmpty then
            (e.memberNamed fuel m.type name).map fun (mt, bf, inner) =>
              (mt, bf, do some ((← bit) + (← inner)))
          else none

end Entities

end NativeBindings.Header
