import NativeBindings.Command.Configure
import NativeBindings.Proofs.PathNormalForm

/-!
# The library of data models, and what the command asks of it

Configurations are checked and dumped by a library of data models (`Config.Model`). What the
command relies on is small (`Config.Model.Lawful`): the dump holds every member of a
configuration under its name, an absent value as `null`; an object that holds a configuration's
members is checked as that configuration, its output path in normal text; and a configuration
that passed the check holds its output path in normal text.

The model the command runs with, `Config.model`, meets these laws (`Config.model_lawful`). The
check is peeled apart one member at a time (`Validated.seq_eq_ok`), and the output path is the
first member checked.

Under the laws, every configuration that a source gives holds its output path in normal text:
one loaded from a file was checked (`Config.load_output_normal` and the lemmas after it).
-/

namespace NativeBindings

namespace Json

namespace Validated

theorem map_eq_ok {α β : Type} {f : α → β} {x : Validated α} {b : β} :
    (f <$> x) = .ok b ↔ ∃ a, x = .ok a ∧ f a = b := by
  cases x <;> simp [Functor.map, map]

theorem seq_eq_ok {α β : Type} {f : Validated (α → β)} {x : Validated α} {b : β} :
    (f <*> x) = .ok b ↔ ∃ g a, f = .ok g ∧ x = .ok a ∧ g a = b := by
  cases f <;> cases x <;> simp [Seq.seq, seq]

end Validated

theorem itemsOf_strings (ss : List String) : ∀ i,
    itemsOf.go (fun v => Check.here (asString v)) i (ss.map (Value.str · [])) = .ok ss := by
  induction ss with
  | nil => intro i; rfl
  | cons s ss ih =>
    intro i
    simp only [List.map_cons, itemsOf.go]
    rw [ih (i + 1)]
    rfl

/-- A list of texts passes the check of text lists as it is. -/
theorem listOf_strings (ss : List String) :
    listOf asString (.arr (ss.map (Value.str · []))) = .ok ss :=
  itemsOf_strings ss 0

theorem validated_map_ok {α β : Type} (f : α → β) (a : α) :
    (f <$> Validated.ok a : Validated β) = .ok (f a) := rfl

theorem validated_seq_ok {α β : Type} (f : α → β) (a : α) :
    (Validated.ok f <*> Validated.ok a : Validated β) = .ok (f a) := rfl

theorem encodeMessage?_nil : Unpaired.encodeMessage? [] = none := rfl

end Json

namespace Config

open Json

/-! ## The laws -/

/-- The members of a configuration as a dump holds them, an absent value as `null`. -/
def members (c : Config) : List (String × Value) :=
  [("output", Command.textValue c.output), ("library_name", Command.textValue c.libraryName),
   ("class_name", .str c.className []), ("clang_args", Command.textsValue c.clangArgs),
   ("include_dirs", Command.textsValue c.includeDirs), ("follow_includes", .bool c.followIncludes),
   ("follow_system_includes", .bool c.followSystemIncludes)]

theorem members_keys_nodup (c : Config) : (c.members.map (·.1)).Nodup := by
  simp [members]

/-- What the command asks of a library of data models. -/
structure Model.Lawful (M : Model) : Prop where
  /-- The dump holds every member under its name, an absent value as `null`. -/
  dump_members : ∀ c, M.dump c = .obj c.members
  /-- An object holding a configuration's members, its texts with no unpaired codes, is checked
  as that configuration, its output path in normal text. -/
  check_members : ∀ {ms : List (String × Value)} {o l : Option String} {cls : String}
    {args dirs : List String} {follow followSystem : Bool},
    Value.member? ms "output" = some (Command.textValue o) →
    Value.member? ms "library_name" = some (Command.textValue l) →
    Value.member? ms "class_name" = some (.str cls []) →
    Value.member? ms "clang_args" = some (Command.textsValue args) →
    Value.member? ms "include_dirs" = some (Command.textsValue dirs) →
    Value.member? ms "follow_includes" = some (.bool follow) →
    Value.member? ms "follow_system_includes" = some (.bool followSystem) →
    M.check (.obj ms) = .ok ⟨o.map Files.normalizeText, l, cls, args, dirs, follow, followSystem, []⟩
  /-- A configuration that passed the check holds its output path in normal text. -/
  check_output : ∀ {v : Value} {c : Config}, M.check v = .ok c →
    c.output.map Files.normalizeText = c.output

/-! ## The model the command runs with -/

/-- The dump of a configuration holds every member. -/
theorem toJson_members (c : Config) : toJson c false = .obj c.members := by
  cases h1 : c.output <;> cases h2 : c.libraryName <;>
    simp [toJson, members, Command.textValue, Command.textsValue, h1, h2]

/-- An object holding a configuration's members, its texts with no unpaired codes, passes the
check as that configuration, its output path in normal text. -/
theorem validate_of_members {ms : List (String × Value)} {o l : Option String} {cls : String}
    {args dirs : List String} {follow followSystem : Bool}
    (ho : Value.member? ms "output" = some (Command.textValue o))
    (hl : Value.member? ms "library_name" = some (Command.textValue l))
    (hc : Value.member? ms "class_name" = some (.str cls []))
    (ha : Value.member? ms "clang_args" = some (Command.textsValue args))
    (hd : Value.member? ms "include_dirs" = some (Command.textsValue dirs))
    (hf : Value.member? ms "follow_includes" = some (.bool follow))
    (hs : Value.member? ms "follow_system_includes" = some (.bool followSystem)) :
    validate (.obj ms) =
      .ok ⟨o.map Files.normalizeText, l, cls, args, dirs, follow, followSystem, []⟩ := by
  -- no member holds a text with an unpaired code
  have hu : unencodableMembers ms = [] := by
    unfold unencodableMembers
    rw [List.filterMap_eq_nil_iff]
    intro key hkey
    simp only [List.mem_cons, List.not_mem_nil, or_false] at hkey
    rcases hkey with rfl | rfl | rfl | rfl | rfl
    · rw [ho]; cases o <;> rfl
    · rw [hl]; cases l <;> rfl
    · rw [hc]; rfl
    all_goals
      simp only [ha, hd, Option.bind_some]
      -- each item of a list member is a text with no unpaired code
      refine Option.map_eq_none_iff.2 (List.findSome?_eq_none_iff.2 fun us hus => ?_)
      obtain ⟨v, hv, hvus⟩ := List.mem_filterMap.1 hus
      obtain ⟨s, -, rfl⟩ := List.mem_map.1 hv
      cases hvus
      exact encodeMessage?_nil
  dsimp only [validate]
  rw [hu]
  cases o <;> cases l <;>
    simp [Json.optional, textList, ho, hl, hc, ha, hd, hf, hs, Command.textValue,
      Command.textsValue, listOf_strings, nullable, asPath, asString, asBool, Check.here,
      Validated.under, validated_map_ok, validated_seq_ok, Except.map]

/-- A path member read as an optional, nullable path is in normal text. -/
theorem optional_path_normal {ms : List (String × Value)} {key : String} {o : Option String}
    (h : Json.optional ms key none (nullable asPath) = .ok o) :
    o.map Files.normalizeText = o := by
  unfold Json.optional at h
  cases hm : Value.member? ms key with
  | none => rw [hm] at h; cases h; rfl
  | some v =>
    rw [hm] at h
    cases v <;> simp [nullable, asPath, Check.here, Validated.under, Except.map] at h
    case null => subst h; rfl
    case str s _ => subst h; simp [Files.normalizeText_normalizeText]

/-- A configuration read from JSON holds its output path in normal text. -/
theorem validate_output_normal {v : Value} {c : Config} (h : validate v = .ok c) :
    c.output.map Files.normalizeText = c.output := by
  cases v
  case obj ms =>
    dsimp only [validate] at h
    -- the output is the first of the seven checks
    obtain ⟨g6, _, h6, -, rfl⟩ := Validated.seq_eq_ok.1 h
    obtain ⟨g5, _, h5, -, rfl⟩ := Validated.seq_eq_ok.1 h6
    obtain ⟨g4, _, h4, -, rfl⟩ := Validated.seq_eq_ok.1 h5
    obtain ⟨g3, _, h3, -, rfl⟩ := Validated.seq_eq_ok.1 h4
    obtain ⟨g2, _, h2, -, rfl⟩ := Validated.seq_eq_ok.1 h3
    obtain ⟨g1, _, h1, -, rfl⟩ := Validated.seq_eq_ok.1 h2
    obtain ⟨o, ho, rfl⟩ := Validated.map_eq_ok.1 h1
    exact optional_path_normal ho
  all_goals cases h

/-- The model the command runs with meets the laws. -/
theorem model_lawful : model.Lawful where
  dump_members := toJson_members
  check_members := validate_of_members
  check_output := validate_output_normal

/-! ## Loading under the laws -/

section Loading

variable {M : Model} (hM : M.Lawful)
include hM

theorem ofText_output_normal {text : String} {c : Config} (h : ofText M text = .ok c) :
    c.output.map Files.normalizeText = c.output := by
  unfold ofText at h
  cases hp : Json.parse text with
  | error e => rw [hp] at h; cases e <;> cases h
  | ok v =>
    rw [hp] at h
    dsimp only at h
    cases hv : M.check v with
    | ok c' => rw [hv] at h; cases h; exact hM.check_output hv
    | issues is => rw [hv] at h; cases h

theorem load_output_normal {tree : Files.Tree} {p : Files.Path} {c : Config}
    (h : load M tree p = .ok c) : c.output.map Files.normalizeText = c.output := by
  unfold load at h
  cases hr : tree.readText p with
  | error e => rw [hr] at h; cases h
  | ok text => rw [hr] at h; exact ofText_output_normal hM h

theorem loadText_output_normal {tree : Files.Tree} {text : String} {c : Config}
    (h : loadText M tree text = .ok c) : c.output.map Files.normalizeText = c.output := by
  unfold loadText at h
  cases hl : tree.locate text with
  | error e => rw [hl] at h; cases h
  | ok p => rw [hl] at h; exact load_output_normal hM h

theorem findFrom_output_normal {tree : Files.Tree} :
    ∀ {n : Nat} {dir : Files.Path} {c : Config}, findFrom M tree n dir = .ok (some c) →
      c.output.map Files.normalizeText = c.output
  | 0, _, _, h => by cases h
  | n + 1, dir, c, h => by
    unfold findFrom at h
    split at h
    · cases h
    · dsimp only at h
      split at h
      · -- the project file of `dir` is the one loaded
        cases hl : load M tree (dir.child projectFileName) with
        | error e => rw [hl] at h; cases h
        | ok c' => rw [hl] at h; cases h; exact load_output_normal hM hl
      · exact findFrom_output_normal h

theorem find_output_normal {tree : Files.Tree} {start : Files.Path} {c : Config}
    (h : find M tree start = .ok (some c)) : c.output.map Files.normalizeText = c.output :=
  findFrom_output_normal hM h

end Loading

end Config

end NativeBindings
