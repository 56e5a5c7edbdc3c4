import NativeBindings.Proofs.Expansion
import Mathlib.Data.List.Nodup

/-!
# Each header is read once, and the walk's fuel never runs out

A walk reads a header, walks its items, and at a followed `#include` walks the included header
in turn, which may include others, itself among them. `walkFile` bounds that recursion by fuel,
and `walk` starts it above the number of files of the tree. Two facts make the bound harmless and
the recursion cheap:

* a header is marked walked before it is read, and a header marked walked is never walked
  again, so a walk reads fresh files only, each once (`ReadsFresh`, `ExpandsFile.readsFresh`);
* a header that is read is a file of the tree, so each nested walk starts with one file fewer
  left to walk (`pending_lt`), and a walk given more fuel than that never reaches the end of it:
  its answer, failure included, is the same for every such fuel (`walkFile_fuel_congr`).

Between two nested walks the walk only descends the declarations of the header being walked,
which walks no file (`walkDecl_files`). `walkFile_reads_each_file_once` puts these together.
-/

namespace NativeBindings.Collection

open Header

variable {α β : Type} {s : Setup}

/-! ## Files read fresh -/

/-- From the walked files `V` to `V'` a walk reads the files `new`, in order: files of the tree,
none walked before, none twice. -/
def ReadsFresh (s : Setup) (V V' : List Files.Path) : Prop :=
  ∃ new, V' = V ++ new ∧ new.Nodup ∧ ∀ q ∈ new, q ∉ V ∧ q ∈ s.tree.files.map Prod.fst

theorem ReadsFresh.refl (V : List Files.Path) : ReadsFresh s V V :=
  ⟨[], by simp, List.nodup_nil, by simp⟩

/-- Reading one file of the tree not walked yet. -/
theorem ReadsFresh.read {V : List Files.Path} {p : Files.Path} (hp : p ∉ V)
    (hf : p ∈ s.tree.files.map Prod.fst) : ReadsFresh s V (V ++ [p]) :=
  ⟨[p], rfl, List.nodup_singleton p, fun q hq => by rw [List.mem_singleton.1 hq]; exact ⟨hp, hf⟩⟩

theorem ReadsFresh.trans {V₁ V₂ V₃ : List Files.Path} (h₁ : ReadsFresh s V₁ V₂)
    (h₂ : ReadsFresh s V₂ V₃) : ReadsFresh s V₁ V₃ := by
  obtain ⟨new₁, rfl, hnd₁, hf₁⟩ := h₁
  obtain ⟨new₂, rfl, hnd₂, hf₂⟩ := h₂
  refine ⟨new₁ ++ new₂, by simp, ?_, ?_⟩
  · -- what the second stretch reads was not walked after the first
    refine List.nodup_append.2 ⟨hnd₁, hnd₂, fun a ha b hb hab => ?_⟩
    exact (hf₂ b hb).1 (List.mem_append_right _ (hab ▸ ha))
  · intro q hq
    rcases List.mem_append.1 hq with hq | hq
    · exact hf₁ q hq
    · exact ⟨fun hV => (hf₂ q hq).1 (List.mem_append_left _ hV), (hf₂ q hq).2⟩

/-- A walk reads no more files than are left to walk. -/
theorem ReadsFresh.length_le {V V' : List Files.Path} (h : ReadsFresh s V V') :
    V'.length ≤ V.length + pending s V := by
  obtain ⟨new, rfl, hnd, hf⟩ := h
  have hsub : new ⊆ (s.tree.files.filter fun f => !V.contains f.1).map Prod.fst := by
    intro q hq
    obtain ⟨f, hf', rfl⟩ := List.mem_map.1 (hf q hq).2
    exact List.mem_map.2 ⟨f, List.mem_filter.2 ⟨hf', by simpa using (hf _ hq).1⟩, rfl⟩
  have hlen := hnd.length_le_of_subset hsub
  rw [List.length_map] at hlen
  simp only [List.length_append, pending]
  omega

mutual

/-- **An expansion reads each file once.** Each fresh file of an expansion is read where it is
marked walked, and a file already walked is not read again. -/
theorem ExpandsFile.readsFresh {R V V' : List Files.Path} {p : Files.Path} {ds : List Walked} :
    ExpandsFile s R V p V' ds → ReadsFresh s V V'
  | .walked _ => ReadsFresh.refl _
  | .fresh hp hu hi => (ReadsFresh.read hp (Setup.mem_files_of_unit? hu)).trans hi.readsFresh

theorem ExpandsItem.readsFresh {R V V' : List Files.Path} {u : Parsed} {owner : String}
    {item : Parsed.Item} {ds : List Walked} :
    ExpandsItem s R u owner V item V' ds → ReadsFresh s V V'
  | .decl => ReadsFresh.refl _
  | .follow _ he => he.readsFresh
  | .skip _ => ReadsFresh.refl _

theorem ExpandsItems.readsFresh {R V V' : List Files.Path} {u : Parsed} {owner : String}
    {items : List Parsed.Item} {ds : List Walked} :
    ExpandsItems s R u owner V items V' ds → ReadsFresh s V V'
  | .nil => ReadsFresh.refl _
  | .cons he hi => he.readsFresh.trans hi.readsFresh

end

/-! ## Runs that agree -/

variable {w : Walker}

/-- Two computations run alike when their continuations do on every result of the first. -/
theorem run_bind_congr {m : WalkM α} {f g : α → WalkM β}
    (h : ∀ a w', m.run w = .ok (a, w') → (f a).run w' = (g a).run w') :
    (m >>= f).run w = (m >>= g).run w := by
  rw [StateT.run_bind, StateT.run_bind]
  cases hm : m.run w with
  | error e => rfl
  | ok p => exact h p.1 p.2 hm

/-- Two loops run alike from a state of an invariant that the first loop's steps keep, when
their steps run alike on every state of the invariant. -/
theorem run_forIn_congr {γ : Type} {I : Walker → Prop} {xs : List γ}
    {f g : γ → PUnit → WalkM (ForInStep PUnit)}
    (hfg : ∀ x v, I v → (f x PUnit.unit).run v = (g x PUnit.unit).run v)
    (hI : ∀ x v r v', I v → (f x PUnit.unit).run v = .ok (r, v') → I v') :
    ∀ {w : Walker}, I w → (forIn xs PUnit.unit f).run w = (forIn xs PUnit.unit g).run w := by
  induction xs with
  | nil => intro w _; rfl
  | cons x xs ih =>
    intro w hw
    rw [List.forIn_cons, List.forIn_cons, StateT.run_bind, StateT.run_bind, hfg x w hw]
    cases h : (g x PUnit.unit).run w with
    | error e => rfl
    | ok r =>
      obtain ⟨step, v'⟩ := r
      have hf : (f x PUnit.unit).run w = .ok (step, v') := by rw [hfg x w hw]; exact h
      cases step with
      | done b => rfl
      | yield b => exact ih (hI x w _ v' hw hf)

/-! ## The fuel of a walk -/

/-- Every walk carries the property that holds of everything. -/
theorem carried_true : Carried fun _ _ => True := ⟨fun _ _ => trivial, fun _ _ => trivial,
  fun _ _ => trivial⟩

/-- A successful walk of a file with fuel above the files left to walk only adds walked files. -/
theorem walkFile_widens {n : Nat} {p : Files.Path} {w' : Walker} {x : Unit}
    (h : (walkFile s n p).run w = .ok (x, w')) (hn : pending s w.visited < n) :
    w.visited ⊆ w'.visited := by
  obtain ⟨-, -, -, hw⟩ := walkFile_carries carried_true s w.roots n p w w' x [] h hn
    (fun _ => Iff.rfl) trivial
  exact hw.1

/-- **The fuel never runs out.** Walking a file gives the same answer, failure included, for
every fuel above the number of files left to walk. -/
theorem walkFile_fuel_congr (s : Setup) :
    ∀ (n m : Nat) (p : Files.Path) (w : Walker), pending s w.visited < n →
      pending s w.visited < m → (walkFile s n p).run w = (walkFile s m p).run w
  | 0, _, _, _, hn, _ => absurd hn (Nat.not_lt_zero _)
  | _ + 1, 0, _, _, _, hm => absurd hm (Nat.not_lt_zero _)
  | k + 1, j + 1, p, w, hn, hm => by
    rw [walkFile.eq_2, walkFile.eq_2]
    refine run_bind_congr fun v w₀ hget => ?_
    cases hget
    split
    · rfl
    rename_i hvis
    refine run_bind_congr fun _ w₁ hmod => ?_
    cases hmod
    refine run_bind_congr fun u w₂ hread => ?_
    obtain ⟨hunit, ws, hw₂⟩ := run_readHeader_eq_ok hread
    -- the header is marked walked before its items are walked, so the nested walks have one
    -- file fewer left to walk
    have hv₂ : w₂.visited = w.visited ++ [p] := by rw [hw₂]
    have hless : pending s w₂.visited < pending s w.visited := by
      rw [hv₂]
      exact pending_lt s (Setup.mem_files_of_unit? hunit) (by simpa using hvis)
    have hfuel : ∀ v : Walker, w₂.visited ⊆ v.visited →
        pending s v.visited < k ∧ pending s v.visited < j := by
      intro v hv
      have := pending_antitone s hv
      omega
    rw [StateT.run_bind, StateT.run_bind]
    congr 1
    refine run_forIn_congr (fun item v (hv : w₂.visited ⊆ v.visited) => ?_)
      (fun item v r v' hv h => ?_) (List.Subset.refl _)
    · -- the steps differ only in the fuel of the nested walk
      cases item with
      | decl i => rfl
      | inclusion inc =>
        dsimp only
        split
        · split
          · rfl
          · refine run_bind_congr fun v₁ v₂ hget => ?_
            cases hget
            split
            · rw [StateT.run_bind, StateT.run_bind,
                walkFile_fuel_congr s k j _ v (hfuel v hv).1 (hfuel v hv).2]
            · rfl
        · rfl
    · -- a step only adds walked files
      cases item with
      | decl i =>
        obtain ⟨_, v₁, h₁, h₂⟩ := run_bind_eq_ok.1 h
        obtain ⟨-, rfl⟩ := run_pure_eq_ok.1 h₂
        rw [(walkDecl_files h₁).1]
        exact hv
      | inclusion inc =>
        dsimp only at h
        split at h
        · split at h
          · obtain ⟨_, _, h₁, -⟩ := run_bind_eq_ok.1 h
            exact (run_throw_ne_ok h₁).elim
          · obtain ⟨_, _, h₁, h⟩ := run_bind_eq_ok.1 h
            cases h₁
            split at h
            · obtain ⟨_, v₁, h₁, h₂⟩ := run_bind_eq_ok.1 h
              obtain ⟨-, rfl⟩ := run_pure_eq_ok.1 h₂
              exact fun q hq => walkFile_widens h₁ (hfuel v hv).1 (hv hq)
            · obtain ⟨-, rfl⟩ := run_pure_eq_ok.1 h
              exact hv
        · obtain ⟨-, rfl⟩ := run_pure_eq_ok.1 h
          exact hv

/-- **A walk ends before its fuel does, and reads each header once.** Walking a file from any
state, with any two fuels above the number of files left to walk, gives the same answer; and a
successful walk reads only files of the tree that were not walked before, none of them twice, so
no more of them than were left. -/
theorem walkFile_reads_each_file_once {p : Files.Path} {n m : Nat}
    (hn : pending s w.visited < n) (hm : pending s w.visited < m) :
    (walkFile s n p).run w = (walkFile s m p).run w ∧
      ∀ w', (walkFile s n p).run w = .ok ((), w') →
        ReadsFresh s w.visited w'.visited ∧ w'.visited.length ≤ w.visited.length + pending s w.visited := by
  refine ⟨walkFile_fuel_congr s n m p w hn hm, fun w' h => ?_⟩
  obtain ⟨ds, he, -, -⟩ := walkFile_carries carried_true s w.roots n p w w' () [] h hn
    (fun _ => Iff.rfl) trivial
  exact ⟨he.readsFresh, he.readsFresh.length_le⟩

/-- Walking `a.h` of the sample cycle, which includes `b.h`, which includes `a.h` and itself,
from a fresh walker with three and with four levels of fuel: both give the same answer, a success
that walks `a.h` and `b.h` once each. -/
theorem cycle_reads_each_file_once :
    pending Cycle.setup Cycle.start.visited < 3 ∧ pending Cycle.setup Cycle.start.visited < 4 ∧
      (walkFile Cycle.setup 3 Cycle.pathA).run Cycle.start =
        (walkFile Cycle.setup 4 Cycle.pathA).run Cycle.start ∧
      (walkFile Cycle.setup 4 Cycle.pathA).run Cycle.start = .ok ((), Cycle.walker) ∧
      ∀ w', (walkFile Cycle.setup 3 Cycle.pathA).run Cycle.start = .ok ((), w') →
        ReadsFresh Cycle.setup Cycle.start.visited w'.visited ∧
          w'.visited.length ≤ Cycle.start.visited.length + pending Cycle.setup Cycle.start.visited :=
  have h3 : pending Cycle.setup Cycle.start.visited < 3 := by decide
  have h4 : pending Cycle.setup Cycle.start.visited < 4 := by decide
  ⟨h3, h4, (walkFile_reads_each_file_once h3 h4).1, Cycle.walkFile_run,
    (walkFile_reads_each_file_once h3 h4).2⟩

end NativeBindings.Collection
