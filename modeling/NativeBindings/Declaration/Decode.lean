import NativeBindings.Declaration.Basic
import NativeBindings.Json.Lax

/-!
# Declarations from JSON

Locations, variables, structs and functions as JSON objects, checked member by member. The
members of a struct are checked in the order `name`, `location`, `fields`, `is_union`,
`is_definition`; those of a function in the order `name`, `location`, `returns`, `parameters`.
-/

namespace NativeBindings

open Json

/-- Reads a location: `file` (text or `null`, absent by default), `line`, `column`. -/
def Location.validate : Value → Validated Location
  | .obj ms =>
    (fun f l c => Location.mk f l c)
      <$> optional ms "file" none (nullable asString)
      <*> required ms "line" asInt
      <*> required ms "column" asInt
  | _ => .issues [⟨[], "model_type"⟩]

/-- Reads a variable: `name` and `type`, both text. -/
def Variable.validate : Value → Validated Variable
  | .obj ms => Variable.mk <$> required ms "name" asString <*> required ms "type" asString
  | _ => .issues [⟨[], "model_type"⟩]

/-- A nested record member that must be present. -/
def nested {α : Type} (ms : List (String × Value)) (key : String) (read : Value → Validated α) :
    Validated α :=
  match Value.member? ms key with
  | none => .issues [⟨[key], "missing"⟩]
  | some v => (read v).under key

/-- A member holding a list of records, empty by default. -/
def listMember {α : Type} (ms : List (String × Value)) (key : String)
    (read : Value → Validated α) : Validated (List α) :=
  match Value.member? ms key with
  | none => .ok []
  | some (.arr items) => (itemsOf read items).under key
  | some _ => .issues [⟨[key], "list_type"⟩]

/-- Reads a struct. -/
def Struct.validate : Value → Validated Struct
  | .obj ms =>
    (fun n l fs u d => Struct.mk n l fs u d)
      <$> required ms "name" asString
      <*> nested ms "location" Location.validate
      <*> listMember ms "fields" Variable.validate
      <*> optional ms "is_union" false asBool
      <*> optional ms "is_definition" true asBool
  | _ => .issues [⟨[], "model_type"⟩]

/-- Reads a function. -/
def Function.validate : Value → Validated Function
  | .obj ms =>
    (fun n l r ps => Function.mk n l r ps)
      <$> required ms "name" asString
      <*> nested ms "location" Location.validate
      <*> required ms "returns" asString
      <*> listMember ms "parameters" Variable.validate
  | _ => .issues [⟨[], "model_type"⟩]

end NativeBindings
