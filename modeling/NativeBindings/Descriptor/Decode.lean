import NativeBindings.Descriptor.Basic
import NativeBindings.Json.Lax

/-!
# Descriptors from JSON

A serialised descriptor is an object with the members `category`, `spelling`, `is_const`,
`element`, `size`, `pointee`, `result` and `arguments`. Only the first two are required; a
missing or `null` child stays absent. The members are checked in that order, children
recursively, and every issue is reported with its path.
-/

namespace NativeBindings.CType

open Json

/-- A category by its name; any other value is an `enum` issue. -/
def checkCategory : Check Category
  | .str s _ =>
    match Category.ofName? s with
    | some c => .ok c
    | none => .error "enum"
  | _ => .error "enum"

/-- Reads a descriptor from a JSON value. -/
def validate : Value → Validated CType
  | .obj members =>
    let sub (key : String) : Validated (Option CType) :=
      match _h : Value.member? members key with
      | none => .ok none
      | some .null => .ok none
      | some v => ((validate v).map some).under key
    let args : Validated (Option (List CType)) :=
      match _h : Value.member? members "arguments" with
      | none => .ok none
      | some .null => .ok none
      | some (.arr items) =>
        ((itemsOf (fun (p : { v // v ∈ items }) => validate p.1) items.attach).map some).under
          "arguments"
      | some _ => .issues [⟨["arguments"], "tuple_type"⟩]
    (fun cat sp c el sz pt rs ar => CType.mk cat sp c el sz pt rs ar)
      <$> required members "category" checkCategory
      <*> required members "spelling" asString
      <*> optional members "is_const" false asBool
      <*> sub "element"
      <*> optional members "size" none (nullable asInt)
      <*> sub "pointee"
      <*> sub "result"
      <*> args
  | _ => .issues [⟨[], "model_type"⟩]
termination_by v => sizeOf v
decreasing_by
  all_goals first
    | exact Value.sizeOf_lt_of_member? _h
    | (have h1 := Value.sizeOf_lt_of_member? _h
       have h2 := Value.sizeOf_lt_of_mem_arr p.2
       omega)

end NativeBindings.CType
