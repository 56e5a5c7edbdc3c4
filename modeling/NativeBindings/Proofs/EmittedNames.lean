import NativeBindings.Proofs.StructLedger
import NativeBindings.Managed.Source

/-!
# The C# names of the emitted structs

The generated file declares each collected struct as `struct N`, where `N` is the struct's name
escaped for C# (`Managed.escape`). The collector keeps the raw names of its structs pairwise
distinct (`Collector.Inv`), but escaping is not injective: a C# keyword `k` is written `@k`, and
so is the name `@k`, which escaping leaves alone. A collector may hold both, as C keeps struct
tags apart from typedef names and a walk files a record that a typedef names under the typedef's
C# name: `struct object` and `typedef struct {…} object` give the structs `object` and
`@object`, both declared as `struct @object`.

`escape_eq_escape_iff` says that this is the only way two names meet, so the emitted struct
names of every collector built by requests, and of every walk, are pairwise distinct except for
such keyword twins (`struct_csharp_names_distinct_up_to_twins`).
-/

namespace NativeBindings

namespace Managed

/-- Two names that C# writes alike: a keyword `k`, which is written `@k`, and the name `@k`. -/
def KeywordTwins (a b : String) : Prop :=
  ∃ k, isKeyword k = true ∧ (a = k ∧ b = "@" ++ k ∨ a = "@" ++ k ∧ b = k)

/-- No keyword starts with the verbatim prefix. -/
theorem isKeyword_verbatim (k : String) : isKeyword ("@" ++ k) = false := by
  have hhead : ∀ w ∈ keywords, w.toList.head? ≠ some '@' := by decide
  rw [Bool.eq_false_iff]
  intro h
  have hmem : "@" ++ k ∈ keywords := by simpa [isKeyword] using h
  exact hhead _ hmem (by simp [String.toList_append])

/-- A name with the verbatim prefix is written as it is. -/
theorem escape_verbatim (k : String) : escape ("@" ++ k) = "@" ++ k :=
  escape_of_not_isKeyword (isKeyword_verbatim k)

/-- **Escaping merges keyword twins only.** Two names are written alike in C# exactly when they
are equal or one is a keyword and the other that keyword with the verbatim prefix. -/
theorem escape_eq_escape_iff {a b : String} :
    escape a = escape b ↔ a = b ∨ KeywordTwins a b := by
  constructor
  · intro h
    cases ha : isKeyword a <;> cases hb : isKeyword b <;>
      simp only [escape_of_isKeyword, escape_of_not_isKeyword, ha, hb] at h
    · exact Or.inl h
    · -- `a` is written as it is and `b` with the prefix
      exact Or.inr ⟨b, hb, Or.inr ⟨h, rfl⟩⟩
    · exact Or.inr ⟨a, ha, Or.inl ⟨rfl, h.symm⟩⟩
    · exact Or.inl ((String.append_right_inj "@").mp h)
  · rintro (rfl | ⟨k, hk, ⟨ha, hb⟩ | ⟨ha, hb⟩⟩)
    · rfl
    · rw [ha, hb, escape_of_isKeyword hk, escape_verbatim]
    · rw [ha, hb, escape_of_isKeyword hk, escape_verbatim]

end Managed

namespace Collector

open Managed

variable {c : Collector}

/-- Under the invariant, two collected structs share a C# name only as keyword twins. -/
theorem Inv.structs_escape_pairwise (h : c.Inv) :
    c.structs.Pairwise fun s t => escape s.name = escape t.name → KeywordTwins s.name t.name := by
  have hnames : c.structs.Pairwise fun s t => s.name ≠ t.name := List.pairwise_map.1 h.names_nodup
  refine hnames.imp fun hne heq => ?_
  rcases escape_eq_escape_iff.1 heq with hsame | htwins
  · exact absurd hsame hne
  · exact htwins

end Collector

namespace Collection

/-- The declarations that a successful walk collects satisfy the collector's invariant. -/
theorem walk_collector_inv {fe : Header.Frontend} {tree : Files.Tree} {config : Config} {sources : List String}
    {c : Collected} {ws : List String} (h : walk fe tree config sources = .ok (c, ws)) :
    c.declarations.Inv := by
  obtain ⟨w, -, -, rfl, -, hw, -⟩ :=
    walk_carries carried_ledger (fun _ => ⟨⟨Collector.inv_empty, by simp⟩, fun _ => rfl⟩) h
  exact hw.inv

open Managed

/-- **The emitted structs have distinct C# names, keyword twins apart.** For every sequence of
requests to a collector, and for every successful walk, two struct declarations of the generated
file carry the same C# name only when one struct is named by a C# keyword `k` and the other by
`@k`. -/
theorem struct_csharp_names_distinct_up_to_twins :
    (∀ rs : List Collector.Request, (Collector.ofRequests rs).structs.Pairwise fun s t =>
        escape s.name = escape t.name → KeywordTwins s.name t.name) ∧
    ∀ (fe : Header.Frontend) (tree : Files.Tree) (config : Config) (sources : List String)
      (c : Collected) (ws : List String), walk fe tree config sources = .ok (c, ws) →
      c.declarations.structs.Pairwise fun s t =>
        escape s.name = escape t.name → KeywordTwins s.name t.name :=
  ⟨fun rs => (Collector.inv_empty.serveAll rs).structs_escape_pairwise,
    fun _ _ _ _ _ _ h => (walk_collector_inv h).structs_escape_pairwise⟩

/-- The structs that the walk of the sample cycle collects, `P`, `Q` and `R`, are declared under
distinct C# names. -/
theorem cycle_struct_csharp_names :
    walk Cycle.frontend Cycle.tree {} ["a.h"] = .ok (Cycle.collected, Cycle.warnings) ∧
      Cycle.collected.declarations.structs.Pairwise fun s t =>
        escape s.name = escape t.name → KeywordTwins s.name t.name :=
  ⟨Cycle.walk_eq, struct_csharp_names_distinct_up_to_twins.2 _ _ _ _ _ _ Cycle.walk_eq⟩

/-- A struct named `object` and one named `@object` are both declared as `struct @object`: the
collector keeps both, as their raw names differ. -/
theorem keyword_twin_structs_share_csharp_name :
    ¬ ((Collector.ofRequests [.addStruct ⟨"object", ⟨none, 1, 1⟩, [], false, true⟩,
        .addStruct ⟨"@object", ⟨none, 2, 1⟩, [], false, true⟩]).structs.map
          fun s => escape s.name).Nodup := by
  decide

end Collection

end NativeBindings
