/-!
# JSON values

The values of a JSON document as the configuration reader produces them. Numbers written
without a fraction or exponent are integers of any size; others keep their decimal digits.
An object keeps its members in the order they were written, duplicates included; `member?`
reads it the way a dictionary built from it would, so the last duplicate wins.

A string escape may name half of a UTF-16 surrogate pair without the other half. Such a string
holds a code that is no character: the text shows it as U+FFFD and `Unpaired` records it, since
a text holding one has no UTF-8 form (`Unpaired.encodeMessage?`).
-/

namespace NativeBindings.Json

/-- A surrogate code that an escape left without its partner: its place in the text, counted in
characters, and the code. -/
structure Unpaired where
  index : Nat
  code : Nat
deriving Inhabited, Repr, DecidableEq

namespace Unpaired

/-- The codes that follow one another in the text from `next` on. -/
def runFrom (next : Nat) : List Unpaired → List Unpaired
  | v :: rest => if v.index == next then v :: runFrom (next + 1) rest else []
  | [] => []

/-- The first code and those that follow it directly in the text. -/
def firstRun : List Unpaired → List Unpaired
  | [] => []
  | u :: rest => u :: runFrom (u.index + 1) rest

/-- A code as four lower-case hexadecimal digits. -/
def hex4 (n : Nat) : String :=
  let digits := Nat.toDigits 16 n
  String.ofList (List.replicate (4 - digits.length) '0' ++ digits)

/-- Why a text with these unpaired codes cannot be encoded as UTF-8, naming the first run of
codes that follow one another; none when there are none. -/
def encodeMessage? (us : List Unpaired) : Option String :=
  match firstRun us with
  | [] => none
  | [u] =>
    some ("'utf-8' codec can't encode character '\\u" ++ hex4 u.code ++ "' in position " ++
      toString u.index ++ ": surrogates not allowed")
  | u :: rest =>
    let last := (rest.getLast?.map (·.index)).getD u.index
    some ("'utf-8' codec can't encode characters in position " ++ toString u.index ++ "-" ++
      toString last ++ ": surrogates not allowed")

end Unpaired

/-- A JSON value. -/
inductive Value where
  | null
  | bool (b : Bool)
  /-- A number written without fraction or exponent. -/
  | int (i : Int)
  /-- A number written with a fraction or an exponent: `mantissa * 10 ^ exponent`. -/
  | float (mantissa : Int) (exponent : Int)
  /-- One of the non-finite numbers `NaN`, `Infinity`, `-Infinity`, by its name. -/
  | nonFinite (name : String)
  /-- A string; `unpaired` lists the codes in it that are no characters. -/
  | str (s : String) (unpaired : List Unpaired)
  | arr (items : List Value)
  /-- An object, its members in written order. -/
  | obj (members : List (String × Value))
deriving Inhabited, Repr

namespace Value

/-- The value of the last member with a given key. -/
def member? (members : List (String × Value)) (key : String) : Option Value :=
  (members.reverse.find? (fun m => m.1 == key)).map (·.2)

theorem sizeOf_lt_of_member? {members : List (String × Value)} {key : String} {w : Value}
    (h : member? members key = some w) : sizeOf w < sizeOf (Value.obj members) := by
  unfold member? at h
  cases hf : members.reverse.find? (fun m => m.1 == key) with
  | none => simp [hf] at h
  | some m =>
    simp only [hf, Option.map_some, Option.some.injEq] at h
    have hm : m ∈ members := List.mem_reverse.mp (List.mem_of_find?_eq_some hf)
    have h1 := List.sizeOf_lt_of_mem hm
    have h2 : sizeOf m.2 < sizeOf m := by
      cases m with
      | mk a b =>
        show sizeOf b < sizeOf (a, b)
        rw [Prod.mk.sizeOf_spec]
        omega
    simp only [Value.obj.sizeOf_spec]
    subst h
    omega

theorem sizeOf_lt_of_mem_arr {items : List Value} {w : Value} (h : w ∈ items) :
    sizeOf w < sizeOf (Value.arr items) := by
  have := List.sizeOf_lt_of_mem h
  simp only [Value.arr.sizeOf_spec]
  omega

end Value

end NativeBindings.Json
