import NativeBindings.Config.Basic
import NativeBindings.Json.Lax
import NativeBindings.Files.Path

/-!
# Configuration from JSON

A configuration object is checked member by member in the order `output`, `library_name`,
`class_name`, `clang_args`, `include_dirs`, `follow_includes`, `follow_system_includes`;
absent members take their defaults and unknown members are ignored. The output path is kept in
its normal text (`Files.normalizeText`).
-/

namespace NativeBindings.Config

open Json

/-- A path: text only, kept in normal form. -/
def asPath : Check String
  | .str s _ => .ok (Files.normalizeText s)
  | _ => .error "path_type"

/-- A list member of text items, empty by default. -/
def textList (ms : List (String × Value)) (key : String) : Validated (List String) :=
  match Value.member? ms key with
  | none => .ok []
  | some v => (listOf asString v).under key

/-- The members of a configuration object whose text cannot be encoded as UTF-8, in member
order, each with the reason for its first such text. -/
def unencodableMembers (ms : List (String × Value)) : List (String × String) :=
  let texts : Value → List (List Unpaired)
    | .str _ us => [us]
    | .arr items => items.filterMap fun v => match v with
      | .str _ us => some us
      | _ => none
    | _ => []
  ["output", "library_name", "class_name", "clang_args", "include_dirs"].filterMap fun key =>
    (Value.member? ms key).bind fun v =>
      ((texts v).findSome? Unpaired.encodeMessage?).map fun m => (key, m)

/-- Reads a configuration. -/
def validate : Value → Validated Config
  | .obj ms =>
    (fun o l c a d f s => Config.mk o l c a d f s (unencodableMembers ms))
      <$> optional ms "output" none (nullable asPath)
      <*> optional ms "library_name" none (nullable asString)
      <*> optional ms "class_name" "Marshal" asString
      <*> textList ms "clang_args"
      <*> textList ms "include_dirs"
      <*> optional ms "follow_includes" true asBool
      <*> optional ms "follow_system_includes" false asBool
  | _ => .issues [⟨[], "model_type"⟩]

end NativeBindings.Config
