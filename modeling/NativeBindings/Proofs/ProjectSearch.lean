import NativeBindings.Config.File

/-!
# Finding the project configuration

`find` climbs from a directory towards the root and loads the project file of the first
directory on the way that holds an entry named `pinvokegen.json`. The climb ends at a directory
that is its own parent, and only the root is (`Files.Path.parent_eq_self_iff`), so the root is
never looked in: the directories searched are those whose components are a nonempty prefix of the
start's, longest first, and a project file at the root is never found.

`find_loads_nearest_project_file` says this for every library of data models, every tree and
every start. An entry that exists
but is no readable configuration ends the search with the load's error; the search does not go on
past it.
-/

namespace NativeBindings

namespace Files.Path

/-- Only the root is its own parent. -/
theorem parent_eq_self_iff {p : Path} : p.parent = p ↔ p.parts = [] := by
  cases p with
  | mk parts =>
    show (⟨parts.dropLast⟩ : Path) = ⟨parts⟩ ↔ parts = []
    rw [mk.injEq]
    constructor
    · intro h
      have hlen := congrArg List.length h
      rw [List.length_dropLast] at hlen
      exact List.eq_nil_of_length_eq_zero (by omega)
    · rintro rfl
      rfl

/-- A directory at or above `dir`, when `dir` is not the root, is `dir` itself or lies at or
above its parent. -/
theorem prefix_iff_of_ne_root {d dir : Path} (h : dir.parts ≠ []) :
    d.parts <+: dir.parts ↔ d.parts = dir.parts ∨ d.parts <+: dir.parent.parts := by
  have hsplit := List.dropLast_concat_getLast h
  rw [← hsplit, List.prefix_concat_iff, hsplit]
  exact Iff.rfl

theorem length_parent (p : Path) : p.parent.parts.length = p.parts.length - 1 :=
  List.length_dropLast

end Files.Path

namespace Config

open Files

/-- A search that has reached the root finds nothing. -/
theorem findFrom_root (M : Model) (tree : Tree) (n : Nat) {dir : Path} (h : dir.parts = []) :
    findFrom M tree (n + 1) dir = .ok none := by
  rw [findFrom, if_pos (beq_iff_eq.2 (Path.parent_eq_self_iff.2 h).symm)]

/-- Below the root, a search loads the directory's project file when it has one, and goes on
from the parent otherwise. -/
theorem findFrom_step (M : Model) (tree : Tree) (n : Nat) {dir : Path} (h : dir.parts ≠ []) :
    findFrom M tree (n + 1) dir =
      if tree.pathExists (dir.child projectFileName) then
        (load M tree (dir.child projectFileName)).map some
      else findFrom M tree n dir.parent := by
  have hne : (dir == dir.parent) = false :=
    beq_eq_false_iff_ne.2 fun heq => h (Path.parent_eq_self_iff.1 heq.symm)
  rw [findFrom, if_neg (Bool.eq_false_iff.1 hne)]

/-- A load that is kept as found is never the answer "nothing found". -/
theorem map_some_ne_ok_none (r : Except LoadError Config) : r.map some ≠ .ok none := by
  cases r <;> simp [Except.map]

/-- Directories whose components are the same have the same project file. -/
theorem child_eq_of_parts_eq {d dir : Path} (h : d.parts = dir.parts) (name : String) :
    d.child name = dir.child name := by
  simp only [Path.child, h]

/-- A search with fuel to spare finds nothing exactly when no directory below the root, at or
above the start, holds a project file. -/
theorem findFrom_eq_none_iff (M : Model) (tree : Tree) :
    ∀ (fuel : Nat) (dir : Path), dir.parts.length < fuel →
      (findFrom M tree fuel dir = .ok none ↔
        ∀ d : Path, d.parts ≠ [] → d.parts <+: dir.parts →
          tree.pathExists (d.child projectFileName) = false)
  | 0, _, hfuel => absurd hfuel (Nat.not_lt_zero _)
  | n + 1, dir, hfuel => by
    by_cases hroot : dir.parts = []
    · -- at the root no directory is left to look in
      rw [findFrom_root M tree n hroot]
      refine iff_of_true rfl fun d hd hpre => ?_
      rw [hroot, List.prefix_nil] at hpre
      exact absurd hpre hd
    · have hparent : dir.parent.parts.length < n := by
        rw [Path.length_parent]
        have := List.length_pos_iff.2 hroot
        omega
      rw [findFrom_step M tree n hroot]
      cases hfile : tree.pathExists (dir.child projectFileName) with
      | true =>
        -- the project file of `dir` is loaded, whatever the load gives
        rw [if_pos rfl]
        refine ⟨fun h => absurd h (map_some_ne_ok_none _), fun h => ?_⟩
        rw [h dir hroot (List.prefix_refl _)] at hfile
        cases hfile
      | false =>
        rw [if_neg Bool.false_ne_true, findFrom_eq_none_iff M tree n dir.parent hparent]
        constructor
        · intro h d hd hpre
          rcases (Path.prefix_iff_of_ne_root hroot).1 hpre with heq | hpar
          · rw [child_eq_of_parts_eq heq]
            exact hfile
          · exact h d hd hpar
        · intro h d hd hpar
          exact h d hd (hpar.trans (List.dropLast_prefix _))

/-- A search with fuel to spare loads the project file of the nearest directory below the root,
at or above the start, that holds one. -/
theorem findFrom_eq_load (M : Model) (tree : Tree) :
    ∀ (fuel : Nat) (dir d : Path), dir.parts.length < fuel →
      d.parts ≠ [] → d.parts <+: dir.parts → tree.pathExists (d.child projectFileName) = true →
      (∀ d' : Path, d'.parts <+: dir.parts → d.parts.length < d'.parts.length →
        tree.pathExists (d'.child projectFileName) = false) →
      findFrom M tree fuel dir = (load M tree (d.child projectFileName)).map some
  | 0, _, _, hfuel, _, _, _, _ => absurd hfuel (Nat.not_lt_zero _)
  | n + 1, dir, d, hfuel, hd, hpre, hfile, hnear => by
    have hroot : dir.parts ≠ [] := fun h => hd (List.prefix_nil.1 (h ▸ hpre))
    rw [findFrom_step M tree n hroot]
    rcases (Path.prefix_iff_of_ne_root hroot).1 hpre with heq | hpar
    · -- `d` is `dir`, whose project file exists
      rw [← child_eq_of_parts_eq heq, hfile, if_pos rfl]
    · -- `dir` lies strictly below `d`, so it holds no project file and the search goes on
      have hlt : d.parts.length < dir.parts.length := by
        have hle := hpar.length_le
        rw [Path.length_parent] at hle
        have := List.length_pos_iff.2 hroot
        omega
      have hparent : dir.parent.parts.length < n := by
        rw [Path.length_parent]
        omega
      rw [hnear dir (List.prefix_refl _) hlt, if_neg Bool.false_ne_true]
      exact findFrom_eq_load M tree n dir.parent d hparent hd hpar hfile
        fun d' hd' hlt' => hnear d' (hd'.trans (List.dropLast_prefix _)) hlt'

/-- **The search loads the nearest project file below the root.** `find` gives nothing exactly
when no directory whose components are a nonempty prefix of the start's holds an entry named
`pinvokegen.json`; otherwise it gives the load of the project file of the longest such
directory that holds one. The root, whose components are empty, is never searched. -/
theorem find_loads_nearest_project_file (M : Model) (tree : Tree) (start : Path) :
    (find M tree start = .ok none ↔
      ∀ d : Path, d.parts ≠ [] → d.parts <+: start.parts →
        tree.pathExists (d.child projectFileName) = false) ∧
    ∀ d : Path, d.parts ≠ [] → d.parts <+: start.parts →
      tree.pathExists (d.child projectFileName) = true →
      (∀ d' : Path, d'.parts <+: start.parts → d.parts.length < d'.parts.length →
        tree.pathExists (d'.child projectFileName) = false) →
      find M tree start = (load M tree (d.child projectFileName)).map some :=
  ⟨findFrom_eq_none_iff M tree _ start (Nat.lt_succ_self _),
    fun d => findFrom_eq_load M tree _ start d (Nat.lt_succ_self _)⟩

/-- A tree whose only file is a project file at the root. -/
def rootProjectFile : Tree where
  files := [(⟨[projectFileName]⟩, "\x7b\"class_name\": \"Root\"\x7d")]

/-- A tree with a project file at the root and one in `/tmp`. -/
def tmpProjectFile : Tree where
  files := [(⟨[projectFileName]⟩, "\x7b\"class_name\": \"Root\"\x7d"),
    (⟨["tmp", projectFileName]⟩, "\x7b\"class_name\": \"Tmp\"\x7d")]

/-- The project file at the root is never found: a search from `/tmp/w` finds nothing when the
root holds the only one, and loads the one of `/tmp` when `/tmp` holds one too. -/
theorem project_file_found_below_root :
    rootProjectFile.pathExists (Path.root.child projectFileName) = true ∧
      find Config.model rootProjectFile ⟨["tmp", "w"]⟩ = .ok none ∧
      find Config.model tmpProjectFile ⟨["tmp", "w"]⟩ =
        (load Config.model tmpProjectFile (Path.child ⟨["tmp"]⟩ projectFileName)).map some := by
  refine ⟨by decide, (find_loads_nearest_project_file _ _ _).1.2 fun d hd hpre => ?_,
    (find_loads_nearest_project_file _ _ _).2 ⟨["tmp"]⟩ (by decide) (by decide) (by decide)
      fun d hpre hlen => ?_⟩
  · -- the directories searched are `/tmp/w` and `/tmp`
    obtain ⟨parts⟩ := d
    rcases List.prefix_cons_iff.1 hpre with rfl | ⟨t, rfl, ht⟩
    · exact absurd rfl hd
    · rcases List.prefix_cons_iff.1 ht with rfl | ⟨t', rfl, ht'⟩
      · decide
      · rw [List.prefix_nil.1 ht']
        decide
  · -- the only directory below `/tmp` on the way is `/tmp/w`
    obtain ⟨parts⟩ := d
    rcases List.prefix_cons_iff.1 hpre with rfl | ⟨t, rfl, ht⟩
    · exact absurd hlen (by decide)
    · rcases List.prefix_cons_iff.1 ht with rfl | ⟨t', rfl, ht'⟩
      · exact absurd hlen (by decide)
      · rw [List.prefix_nil.1 ht']
        decide

end Config

end NativeBindings
