import NativeBindings.Proofs.ConfigModel

/-!
# Command-line options over the source configuration

`configure` takes the options as the options library reports them, keeps those reported as
given, puts the source's entries before the values of the list options, merges the result over
the source's members and checks the merged members again. This file shows that the whole of it
is the plain override `Config.withOptions`: each option given replaces its member (an empty
text and a `--no-…` switch among them), each one not given leaves the source's value as it is,
and the repeatable options add their values after the source's entries
(`configure_eq_withOptions`).

The steps:

* lookups in a dictionary built by merging, filtering and updating members
  (`Json.Value.member?_append`, `member?_filter`, `member?_map_value`), so that a member of the
  merge is the option's value when it is given and the source's otherwise (`merge_text`,
  `merge_flag`, `merge_texts`);
* a library of data models that meets the laws the command asks of it (`Config.Model.Lawful`)
  checks the merged members as the override, with the output path in normal text
  (`check_merged`);
* every configuration that a source gives already holds its output path in normal text
  (`source_output_normal`), so checking it again changes nothing.

The model the command runs with meets the laws, so the command's configuration is the override
(`configure_model_eq_withOptions`).
-/

namespace NativeBindings

namespace Json

namespace Value

/-- A key is looked up among the later members first. -/
theorem member?_append (ms ns : List (String × Value)) (k : String) :
    member? (ms ++ ns) k = (member? ns k).or (member? ms k) := by
  unfold member?
  rw [List.reverse_append, List.find?_append]
  cases ns.reverse.find? (·.1 == k) <;> rfl

theorem member?_cons (m : String × Value) (ms : List (String × Value)) (k : String) :
    member? (m :: ms) k = (member? ms k).or (if m.1 = k then some m.2 else none) := by
  rw [← List.singleton_append, member?_append]
  by_cases h : m.1 = k <;> simp [member?, h]

theorem member?_eq_none {ms : List (String × Value)} {k : String} (h : k ∉ ms.map (·.1)) :
    member? ms k = none := by
  unfold member?
  rw [Option.map_eq_none_iff, List.find?_eq_none]
  intro m hm hk
  exact h (List.mem_map.2 ⟨m, List.mem_reverse.1 hm, beq_iff_eq.1 hk⟩)

/-- Changing the values of members, not their keys, changes the value found. -/
theorem member?_map_value (f : String → Value → Value) (ms : List (String × Value)) (k : String) :
    member? (ms.map fun m => (m.1, f m.1 m.2)) k = (member? ms k).map (f k) := by
  unfold member?
  -- the keys are unchanged, so the same member is found
  have hp : ((fun m : String × Value => m.1 == k) ∘ fun m : String × Value => (m.1, f m.1 m.2)) =
      (·.1 == k) := rfl
  rw [← List.map_reverse, List.find?_map, hp]
  cases hf : ms.reverse.find? (·.1 == k) with
  | none => rfl
  | some m =>
    have hk : m.1 = k := by simpa using List.find?_some hf
    simp [hk]

/-- Keeping the members whose values pass a test, when no key is repeated, keeps the member
found exactly when its value passes. -/
theorem member?_filter (q : Value → Bool) (k : String) :
    ∀ {ms : List (String × Value)}, (ms.map (·.1)).Nodup →
      member? (ms.filter (q ·.2)) k = (member? ms k).filter q
  | [], _ => rfl
  | m :: ms, hnodup => by
    obtain ⟨hm, hms⟩ := List.nodup_cons.1 hnodup
    have ih := member?_filter q k hms
    by_cases hk : m.1 = k
    · -- `m` is the only member of its key
      have hnone : member? ms k = none := member?_eq_none (hk ▸ hm)
      have hnone' : member? (ms.filter (q ·.2)) k = none := by rw [ih, hnone]; rfl
      by_cases hq : q m.2 <;> simp [hq, member?_cons, hk, hnone, hnone', Option.filter_some]
    · by_cases hq : q m.2 <;> simp [hq, member?_cons, hk, ih]

/-- In a dictionary whose keys are not repeated, a key is found with the value stored under it. -/
theorem member?_of_mem {k : String} {v : Value} :
    ∀ {ms : List (String × Value)}, (ms.map (·.1)).Nodup → (k, v) ∈ ms → member? ms k = some v
  | [], _, h => absurd h List.not_mem_nil
  | m :: ms, hnodup, h => by
    obtain ⟨hm, hms⟩ := List.nodup_cons.1 hnodup
    rcases List.mem_cons.1 h with rfl | h
    · -- the first member holds the key, which no later member repeats
      rw [member?_cons, member?_eq_none hm]
      simp
    · rw [member?_cons, member?_of_mem hms h]
      rfl

end Value

end Json

/-! ## The override that the options ask for -/

namespace Command.Arguments

/-- Whether an option given replaces the member `key` outright; the repeatable options add to
their members instead. -/
def replaces (a : Arguments) (key : String) : Bool :=
  match key with
  | "output" => a.output.isSome
  | "library_name" => a.libraryName.isSome
  | "class_name" => a.className.isSome
  | "follow_includes" => a.followIncludes.isSome
  | "follow_system_includes" => a.followSystemIncludes.isSome
  | _ => false

end Command.Arguments

namespace Config

/-- The configuration that command-line options ask for over a source configuration: each option
given replaces its member, a path by its normal text, each one not given leaves the member as it
is, and the repeatable options add their values after the source's entries. A member replaced no
longer holds the source's text, nor its reason for having no UTF-8 form. -/
def withOptions (c : Config) (a : Command.Arguments) : Config where
  output := (a.output.map Files.normalizeText).or c.output
  libraryName := a.libraryName.or c.libraryName
  className := a.className.getD c.className
  clangArgs := c.clangArgs ++ a.clangArgs
  includeDirs := c.includeDirs ++ a.includeDirs
  followIncludes := a.followIncludes.getD c.followIncludes
  followSystemIncludes := a.followSystemIncludes.getD c.followSystemIncludes
  unencodable := c.unencodable.filter fun m => !a.replaces m.1

end Config

namespace Command

open Json

/-! ## The merge, member by member -/

/-- An option of a single value counts as given exactly when it has one. -/
@[simp] theorem isGiven_textValue (o : Option String) : isGiven (textValue o) = o.isSome := by
  cases o <;> rfl

@[simp] theorem isGiven_flagValue (o : Option Bool) : isGiven (flagValue o) = o.isSome := by
  cases o <;> rfl

/-- A text option given replaces the member's text, an empty one too; one not given leaves it. -/
theorem merge_text (o d : Option String) :
    ((some (textValue o)).filter isGiven).or (some (textValue d)) = some (textValue (o.or d)) := by
  cases o <;> rfl

/-- A switch given replaces the member's flag, also when it turns it off; one not given leaves
it. -/
theorem merge_flag (o : Option Bool) (d : Bool) :
    ((some (flagValue o)).filter isGiven).or (some (.bool d)) = some (.bool (o.getD d)) := by
  cases o <;> rfl

/-- A repeatable option adds its values after the member's entries; given no time, it leaves
them. -/
theorem merge_texts (xs entries : List String) :
    (((some (textsValue xs)).filter isGiven).map (prependEntries entries)).or
        (some (textsValue entries)) = some (textsValue (entries ++ xs)) := by
  cases xs <;> simp [textsValue, isGiven, prependEntries, Option.filter_some]

theorem reported_keys_nodup (a : Arguments) : (a.reported.map (·.1)).Nodup := by
  simp [Arguments.reported]

/-- The update of a member: what the option reports, when it is given, with the source's entries
put first for a list member. -/
theorem member?_updates (base : Config) (a : Arguments) (k : String) :
    Value.member? (updates base a) k =
      ((Value.member? a.reported k).filter isGiven).map (withSourceEntries base k) := by
  unfold updates
  rw [Value.member?_map_value (withSourceEntries base),
    Value.member?_filter isGiven k (reported_keys_nodup a)]

theorem withSourceEntries_clangArgs (base : Config) :
    withSourceEntries base "clang_args" = prependEntries base.clangArgs := by
  funext v
  simp [withSourceEntries]

theorem withSourceEntries_includeDirs (base : Config) :
    withSourceEntries base "include_dirs" = prependEntries base.includeDirs := by
  funext v
  simp [withSourceEntries]

theorem withSourceEntries_of_ne (base : Config) {k : String} (h1 : k ≠ "clang_args")
    (h2 : k ≠ "include_dirs") : withSourceEntries base k = id := by
  funext v
  simp [withSourceEntries, h1, h2]

/-- A member of the merge: the option's value when it is given, with the source's entries first
for a list member, and the source's value otherwise. -/
theorem member?_merged {base : Config} {a : Arguments} {k : String} {r d : Value}
    (hr : (k, r) ∈ a.reported) (hd : (k, d) ∈ base.members) :
    Value.member? (base.members ++ updates base a) k =
      (((some r).filter isGiven).map (withSourceEntries base k)).or (some d) := by
  rw [Value.member?_append, member?_updates, Value.member?_of_mem (reported_keys_nodup a) hr,
    Value.member?_of_mem (Config.members_keys_nodup base) hd]

theorem merged_text {base : Config} {a : Arguments} {k : String} {o d : Option String}
    (hr : (k, textValue o) ∈ a.reported) (hd : (k, textValue d) ∈ base.members)
    (hk : withSourceEntries base k = id) :
    Value.member? (base.members ++ updates base a) k = some (textValue (o.or d)) := by
  rw [member?_merged hr hd, hk, Option.map_id_apply, merge_text]

theorem merged_flag {base : Config} {a : Arguments} {k : String} {o : Option Bool} {d : Bool}
    (hr : (k, flagValue o) ∈ a.reported) (hd : (k, .bool d) ∈ base.members)
    (hk : withSourceEntries base k = id) :
    Value.member? (base.members ++ updates base a) k = some (.bool (o.getD d)) := by
  rw [member?_merged hr hd, hk, Option.map_id_apply, merge_flag]

theorem merged_texts {base : Config} {a : Arguments} {k : String} {xs entries : List String}
    (hr : (k, textsValue xs) ∈ a.reported) (hd : (k, textsValue entries) ∈ base.members)
    (hk : withSourceEntries base k = prependEntries entries) :
    Value.member? (base.members ++ updates base a) k = some (textsValue (entries ++ xs)) := by
  rw [member?_merged hr hd, hk, merge_texts]

/-- Checking the merge gives the override that the options ask for, with the output path in
normal text and no text without a UTF-8 form (the dump holds its texts as plain text). -/
theorem check_merged {M : Config.Model} (hM : M.Lawful) (base : Config) (a : Arguments) :
    M.check ((M.dump base).override (updates base a)) =
      .ok { base.withOptions a with
        output := (base.withOptions a).output.map Files.normalizeText, unencodable := [] } := by
  rw [hM.dump_members]
  apply hM.check_members
  · exact merged_text (by simp [Arguments.reported]) (by simp [Config.members])
      (withSourceEntries_of_ne base (by decide) (by decide))
  · exact merged_text (by simp [Arguments.reported]) (by simp [Config.members])
      (withSourceEntries_of_ne base (by decide) (by decide))
  · -- the class name always has a value, so the source's stands when no option is given
    refine (@merged_text base a "class_name" a.className (some base.className)
      (by simp [Arguments.reported]) (by simp [Config.members, textValue])
      (withSourceEntries_of_ne base (by decide) (by decide))).trans ?_
    show _ = some (Value.str (a.className.getD base.className) [])
    cases a.className <;> rfl
  · exact merged_texts (by simp [Arguments.reported]) (by simp [Config.members])
      (withSourceEntries_clangArgs base)
  · exact merged_texts (by simp [Arguments.reported]) (by simp [Config.members])
      (withSourceEntries_includeDirs base)
  · exact merged_flag (by simp [Arguments.reported]) (by simp [Config.members])
      (withSourceEntries_of_ne base (by decide) (by decide))
  · exact merged_flag (by simp [Arguments.reported]) (by simp [Config.members])
      (withSourceEntries_of_ne base (by decide) (by decide))

/-- The merge keeps the source's texts in every member but those that an option given replaces
outright. -/
theorem keepsSource_updates (base : Config) (a : Arguments) (k : String) :
    keepsSource (updates base a) k = !a.replaces k := by
  unfold keepsSource Arguments.replaces
  rw [member?_updates]
  split
  case h_6 h1 h2 h3 h4 h5 =>
    -- a key that no single-valued option sets: a list member, or no member at all
    by_cases hl : k = "clang_args" ∨ k = "include_dirs"
    · rcases hl with rfl | rfl <;> rfl
    · have hnone : Value.member? a.reported k = none := by
        apply Value.member?_eq_none
        simp only [Arguments.reported, List.map_cons, List.map_nil, List.mem_cons,
          List.not_mem_nil, or_false, not_or] at hl ⊢
        exact ⟨h1, h2, h3, hl.1, hl.2, h4, h5⟩
      simp [hnone]
  -- the member of a single-valued option is replaced exactly when the option has a value
  all_goals simp [Value.member?, Arguments.reported, Option.filter_some, apply_ite Option.isNone]

/-- A configuration whose output path is in normal text keeps it so under the options. -/
theorem withOptions_output_normal {base : Config} (a : Arguments)
    (h : base.output.map Files.normalizeText = base.output) :
    (base.withOptions a).output.map Files.normalizeText = (base.withOptions a).output := by
  show ((a.output.map Files.normalizeText).or base.output).map Files.normalizeText =
    (a.output.map Files.normalizeText).or base.output
  cases a.output with
  | none => exact h
  | some s => simp [Files.normalizeText_normalizeText]

/-- Every configuration a source gives holds its output path in normal text: a loaded one was
checked, and the defaults have none. -/
theorem source_output_normal {M : Config.Model} (hM : M.Lawful) {tree : Files.Tree}
    {f : Option String} {c : Config} (h : source M tree f = .ok c) :
    c.output.map Files.normalizeText = c.output := by
  cases f with
  | some f => exact Config.loadText_output_normal hM h
  | none =>
    unfold source at h
    cases hf : Config.find M tree tree.cwd with
    | error e => rw [hf] at h; cases h
    | ok r =>
      rw [hf] at h
      cases r with
      | none => cases h; rfl
      | some c' => cases h; exact Config.find_output_normal hM hf

/-- **The options given override the source configuration.** With a library of data models that
meets the laws the command asks of it, the configuration of an invocation is its source (the file
given with `--config`, else the nearest project file found from the working directory upwards,
else the defaults) with `Config.withOptions`: every option given replaces its member, an empty
text and a `--no-…` switch too, a path by its normal text; every option not given, reported as
nothing or as the empty tuple, leaves the source's value as it is; the compiler arguments and
include directories are the source's followed by those of the command line, in order. Checking
the merged members again changes no member. A source that cannot be read is the failure. -/
theorem configure_eq_withOptions (M : Config.Model) (hM : M.Lawful) (tree : Files.Tree)
    (a : Arguments) : configure M tree a = (source M tree a.configFile).map (·.withOptions a) := by
  unfold configure
  cases hs : source M tree a.configFile with
  | error e => rfl
  | ok base =>
    have hnorm := withOptions_output_normal a (source_output_normal hM hs)
    simp only [bind, Except.bind, Except.map, check_merged hM]
    -- checking again keeps the output path, and the reasons of every member not replaced
    rw [hnorm]
    simp only [keepsSource_updates]
    rfl

/-- The model the command runs with meets the laws, so the configuration of an invocation with
`--no-follow-includes`, an empty `--class-name` and `-I inc`, and no project file, is the
defaults with these options. -/
theorem configure_model_eq_withOptions :
    Config.model.Lawful ∧
      configure Config.model {}
          { followIncludes := some false
            className := some ""
            includeDirs := ["inc"] } =
        (source Config.model {} none).map (·.withOptions
          { followIncludes := some false
            className := some ""
            includeDirs := ["inc"] }) :=
  ⟨Config.model_lawful, configure_eq_withOptions Config.model Config.model_lawful _ _⟩

-- With no project file, `--no-follow-includes`, an empty `--class-name` and `-I inc` replace
-- their members of the defaults.
example :
    configure Config.model {}
      { followIncludes := some false
        className := some ""
        includeDirs := ["inc"] } =
    .ok { followIncludes := false, className := "", includeDirs := ["inc"] } := by
  rfl

end Command

end NativeBindings
