import NativeBindings.Proofs.Expansion
import NativeBindings.Proofs.TypedefNaming

/-!
# How deep the walk of a declaration goes

`walkDecl` descends from a declaration into the declarations it holds (`Parsed.inside`: the
members of a record, the parameters and the record shown by a typedef or a function), one level
of fuel a step, and a walk of a header gives each of its declarations `u.decls.size + 1` levels.

The fuel only matters if some descent is longer than the fuel. When no declaration holds itself,
directly or through others (`Parsed.Acyclic`, the shape of a front end's tree of cursors), the
declarations a descent passes through before its last one are distinct and each holds something,
so each is a declaration of the unit: a descent has at most `u.decls.size` steps
(`not_descends_size`). The walk of a declaration then never meets the end of its fuel, and giving
it more changes nothing (`walkDecl_fuel_suffices`).
-/

namespace NativeBindings.Header.Parsed

variable (u : Parsed)

/-- A descent of `k` steps from the declaration `i`, each into a declaration the one before
holds. -/
def Descends : Nat → Nat → Prop
  | 0, _ => True
  | k + 1, i => ∃ c ∈ u.inside (u.decl i), Descends k c

/-- `i` holds `c`. -/
def Holds (i c : Nat) : Prop := c ∈ u.inside (u.decl i)

/-- No declaration holds itself, directly or through others. -/
def Acyclic : Prop := ∀ i, ¬ Relation.TransGen u.Holds i i

variable {u}

/-- A place past the declarations of a unit holds nothing. -/
theorem inside_decl_of_size_le {i : Nat} (h : u.decls.size ≤ i) : u.inside (u.decl i) = [] := by
  have hd : u.decl i = default := by simp [decl, Array.getD_eq_getD_getElem?, h]
  rw [hd]
  rfl

theorem lt_size_of_holds {i c : Nat} (h : u.Holds i c) : i < u.decls.size := by
  by_contra hi
  simp [Holds, inside_decl_of_size_le (Nat.le_of_not_lt hi)] at h

/-- A unit is acyclic when a rank falls along every step into a held declaration. -/
theorem acyclic_of_rank (r : Nat → Nat)
    (hr : ∀ i < u.decls.size, ∀ c ∈ u.inside (u.decl i), r c < r i) : u.Acyclic := by
  have hstep : ∀ i c, u.Holds i c → r c < r i := fun i c h => hr i (lt_size_of_holds h) c h
  intro i hi
  have key : ∀ a b, Relation.TransGen u.Holds a b → r b < r a := by
    intro a b hab
    induction hab with
    | single h => exact hstep _ _ h
    | tail _ h ih => exact lt_trans (hstep _ _ h) ih
  exact lt_irrefl _ (key i i hi)

/-- In an acyclic unit, the declarations that a descent of `k` steps from `i` leaves are `k`
distinct declarations of the unit, each reached from `i`. -/
theorem descends_card (hu : u.Acyclic) {k i : Nat} (h : u.Descends k i) :
    ∃ S : Finset Nat, S.card = k ∧
      ∀ x ∈ S, x < u.decls.size ∧ Relation.ReflTransGen u.Holds i x := by
  induction k generalizing i with
  | zero => exact ⟨∅, rfl, by simp⟩
  | succ k ih =>
    obtain ⟨c, hc, hd⟩ := h
    obtain ⟨S, hcard, hS⟩ := ih hd
    -- `i` is not left again further down, or it would hold itself through `c`
    have hi : i ∉ S := fun hiS =>
      hu i (Relation.TransGen.head' hc (hS i hiS).2)
    refine ⟨insert i S, by rw [Finset.card_insert_of_notMem hi, hcard], ?_⟩
    intro x hx
    rcases Finset.mem_insert.1 hx with rfl | hx
    · exact ⟨lt_size_of_holds hc, .refl⟩
    · exact ⟨(hS x hx).1, .head hc (hS x hx).2⟩

/-- In an acyclic unit, no descent has more steps than the unit has declarations. -/
theorem not_descends_size (hu : u.Acyclic) (i : Nat) : ¬ u.Descends (u.decls.size + 1) i := by
  intro h
  obtain ⟨S, hcard, hS⟩ := descends_card hu h
  have hsub : S ⊆ Finset.range u.decls.size := fun x hx => Finset.mem_range.2 (hS x hx).1
  have := Finset.card_le_card hsub
  rw [hcard, Finset.card_range] at this
  omega

end NativeBindings.Header.Parsed

namespace NativeBindings.Collection
open Header

variable {u : Parsed} {owner : String}

theorem forM_congr_of_mem {m : Type → Type} [Monad m] {α : Type} {l : List α}
    {f g : α → m PUnit} (h : ∀ c ∈ l, f c = g c) : l.forM f = l.forM g := by
  induction l with
  | nil => rfl
  | cons a l ih =>
    simp only [List.forM, h a (List.mem_cons_self ..),
      ih fun c hc => h c (List.mem_cons_of_mem a hc)]

/-- A step of the walk depends on its fuel only through the walks of what the declaration
holds. -/
theorem walkDecl_succ_congr {n m i : Nat}
    (h : ∀ agg, ∀ c ∈ u.inside (u.decl i), walkDecl u owner n agg c = walkDecl u owner m agg c)
    (agg : Option Builder) :
    walkDecl u owner (n + 1) agg i = walkDecl u owner (m + 1) agg i := by
  have hloop := fun agg => forM_congr_of_mem (h agg)
  rw [walkDecl.eq_2, walkDecl.eq_2]
  simp only [forIn_unit_eq_forM, hloop]

/-- Fuel beyond the longest descent from a declaration changes nothing in its walk. -/
theorem walkDecl_fuel_congr {k n m i : Nat} (h : ¬ u.Descends k i) (hn : k ≤ n) (hm : k ≤ m)
    (agg : Option Builder) : walkDecl u owner n agg i = walkDecl u owner m agg i := by
  induction n generalizing k m i agg with
  | zero =>
    obtain rfl : k = 0 := by omega
    exact absurd trivial h
  | succ n ih =>
    -- a walk with no fuel left does nothing, so both fuels must be positive
    obtain ⟨k, rfl⟩ : ∃ k', k = k' + 1 := by
      cases k with
      | zero => exact absurd trivial h
      | succ k => exact ⟨k, rfl⟩
    obtain ⟨m, rfl⟩ : ∃ m', m = m' + 1 := ⟨m - 1, by omega⟩
    apply walkDecl_succ_congr
    intro agg c hc
    exact ih (fun hd => h ⟨c, hc, hd⟩) (by omega) (by omega) agg

/-- In a unit where no declaration holds itself, the fuel a header's walk gives each of its
declarations is as good as any more: the walk of a declaration is never cut short. -/
theorem walkDecl_fuel_suffices (hu : u.Acyclic) {n : Nat} (hn : u.decls.size + 1 ≤ n)
    (agg : Option Builder) (i : Nat) :
    walkDecl u owner n agg i = walkDecl u owner (u.decls.size + 1) agg i :=
  walkDecl_fuel_congr (Parsed.not_descends_size hu i) hn le_rfl agg

/-- `b.h` of the sample run: `struct R` holds the record without a name inside it, and the
typedef `Q` holds the record it shows, declared before it. The height of each declaration is a
rank. -/
theorem Cycle.unitB_acyclic : Cycle.unitB.Acyclic :=
  Parsed.acyclic_of_rank (fun i => [1, 0, 0, 0, 0, 1, 0, 2, 2, 1, 0, 0, 0, 0, 0].getD i 0)
    (by decide)

theorem Cycle.walkDecl_record_fuel_suffices :
    Cycle.unitB.Acyclic ∧
      walkDecl Cycle.unitB "/b.h" 64 none 8 =
        walkDecl Cycle.unitB "/b.h" (Cycle.unitB.decls.size + 1) none 8 :=
  ⟨Cycle.unitB_acyclic, walkDecl_fuel_suffices Cycle.unitB_acyclic (by decide) none 8⟩

end NativeBindings.Collection
