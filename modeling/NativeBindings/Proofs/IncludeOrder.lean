import NativeBindings.Proofs.Expansion

/-!
# The order in which a walk collects functions

Every function a walk collects comes from visiting a function declaration, and visiting one
appends exactly that function. So the functions collected are, in order, those declared in the
subtrees of the top-level declarations the walk reaches (`Walked.functions`), taken in the order
of the expansion of the sources: the inputs in the given order, a file's own top-level items by
offset, an included file spliced in at the `#include` that first reaches it and never again.

`walkDecl_extends` says what walking one declaration collects; that property is carried along the
whole walk (`carried_functionKeys`), and the expansion of the sources is unique, so the functions
a successful walk collects are determined by it (`walk_functions_expand`).
-/

namespace NativeBindings.Collection

open Header

variable {w w' : Walker}

/-- The functions collected so far, by name and location. -/
def Walker.functionKeys (w : Walker) : List (String × Location) :=
  w.collected.declarations.functions.map fun f => (f.name, f.location)

/-! ## Declarations -/

/-- The functions declared in the subtree of declaration `i` that stand in the file `owner`, in
pre-order, `depth` levels deep. A declaration of another file is skipped with its subtree. -/
def declaredFunctions (u : Parsed) (owner : String) : Nat → Nat → List (String × Location)
  | 0, _ => []
  | depth + 1, i =>
    if (u.decl i).pos.file != owner then []
    else
      (match u.decl i with
        | .function name pos .. => [(name, locationOf pos)]
        | _ => []) ++ (u.inside (u.decl i)).flatMap (declaredFunctions u owner depth)

/-- `w'` is `w` with the functions `out` collected, and the same files walked and roots. -/
def Walker.Extends (w : Walker) (out : List (String × Location)) (w' : Walker) : Prop :=
  w'.visited = w.visited ∧ w'.roots = w.roots ∧ w'.functionKeys = w.functionKeys ++ out

theorem Walker.Extends.refl (w : Walker) : w.Extends [] w := ⟨rfl, rfl, by simp⟩

theorem Walker.Extends.trans {w₁ w₂ : Walker} {o₁ o₂ : List (String × Location)}
    (h₁ : w.Extends o₁ w₁) (h₂ : w₁.Extends o₂ w₂) : w.Extends (o₁ ++ o₂) w₂ :=
  ⟨h₂.1.trans h₁.1, h₂.2.1.trans h₁.2.1, by rw [h₂.2.2, h₁.2.2, List.append_assoc]⟩

/-- A visit of a typedef, a record or a field collects no function and walks no file: structs
are added through `Collector.addStruct` and fields through `Collector.addFieldAt`, and neither
moves a function. -/
theorem respects_extends : Respects fun w w' => w.Extends [] w' where
  refl := Walker.Extends.refl
  trans h₁₂ h₂₃ := by simpa using h₁₂.trans h₂₃
  addStruct w s := ⟨rfl, rfl, by simp [Walker.functionKeys, Collector.functions_addStruct]⟩
  addFieldAt w l name type := ⟨rfl, rfl, by simp [Walker.functionKeys]⟩
  aliases _ _ := Walker.Extends.refl _
  waiting _ _ _ := Walker.Extends.refl _
  warnings _ _ := Walker.Extends.refl _

/-- Walking a declaration collects the functions its subtree declares in the file, in
pre-order, and walks no file. -/
theorem walkDecl_extends (u : Parsed) (owner : String) :
    ∀ (depth : Nat) (agg : Option Builder) (i : Nat) (w w' : Walker) (x : Unit),
    (walkDecl u owner depth agg i).run w = .ok (x, w') →
      w.Extends (declaredFunctions u owner depth i) w'
  | 0, _, _, w, w', _, h => by
    obtain ⟨-, rfl⟩ := run_pure_eq_ok.1 h
    exact Walker.Extends.refl w
  | depth + 1, agg, i, w, w', x, h => by
    have ih := walkDecl_extends u owner depth
    rw [walkDecl.eq_2] at h
    rw [declaredFunctions]
    split at h
    · rename_i hfile
      obtain ⟨-, rfl⟩ := run_pure_eq_ok.1 h
      simp only [hfile, if_true]
      exact Walker.Extends.refl w
    rename_i hfile
    simp only [hfile]
    -- the children of the declaration, walked with the record it opens
    have hkids : ∀ (d : Decl) (agg' : Option Builder) (w₁ : Walker) (y : Unit),
        (do
          forIn (u.inside d) PUnit.unit fun c _ => do
            walkDecl u owner depth agg' c
            pure (ForInStep.yield PUnit.unit)
          pure () : WalkM Unit).run w₁ = .ok (y, w') →
        w₁.Extends ((u.inside d).flatMap (declaredFunctions u owner depth)) w' := by
      intro d agg' w₁ y h
      obtain ⟨_, w₂, h₂, h₃⟩ := run_bind_eq_ok.1 h
      obtain ⟨-, rfl⟩ := run_pure_eq_ok.1 h₃
      exact @run_forIn_acc _ _ _ _ (fun ks v v' => v.Extends ks v') Walker.Extends.refl
        Walker.Extends.trans _ _ (ih agg') _ _ h₂
    cases hd : u.decl i with
    | typedef j pos inner =>
      rw [hd] at h
      dsimp only at h
      obtain ⟨_, w₁, h₁, h⟩ := run_bind_eq_ok.1 h
      simp only [pure_bind] at h
      exact (visitTypedef_respects respects_extends h₁).trans (hkids _ _ _ _ h)
    | tag t pos nameToken isDef members =>
      rw [hd] at h
      dsimp only at h
      split at h
      · simp only [pure_bind] at h
        exact (Walker.Extends.refl w).trans (hkids _ _ _ _ h)
      · obtain ⟨_, w₁, h₁, h⟩ := run_bind_eq_ok.1 h
        obtain ⟨_, h₁, -⟩ := run_map_eq_ok.1 h₁
        exact (visitAggregate_respects respects_extends.toRespectsRecords h₁).trans (hkids _ _ _ _ h)
    | function name pos t params inner =>
      rw [hd] at h
      dsimp only at h
      obtain ⟨_, w₁, h₁, h⟩ := run_bind_eq_ok.1 h
      simp only [pure_bind] at h
      obtain ⟨f, ws, hname, hloc, hw₁⟩ := visitFunction_adds h₁
      have hfn : w.Extends [(name, locationOf pos)] w₁ := by
        subst hw₁
        exact ⟨rfl, rfl, by simp [Walker.functionKeys, hname, hloc]⟩
      exact hfn.trans (hkids _ _ _ _ h)
    | field name pos t =>
      rw [hd] at h
      dsimp only at h
      simp only [pure_bind] at h
      simpa [Parsed.inside] using visitField_respects respects_extends.toRespectsRecords h
    | _ =>
      -- parameters, variables and scopes only walk their children
      rw [hd] at h
      dsimp only at h
      simp only [pure_bind] at h
      exact (Walker.Extends.refl w).trans (hkids _ _ _ _ h)

/-- The functions declared in a walked top-level declaration, with the walk's own depth. -/
def Walked.functions (d : Walked) : List (String × Location) :=
  declaredFunctions d.unit d.owner (d.unit.decls.size + 1) d.decl

/-- The functions collected are those of the declarations walked so far. -/
theorem carried_functionKeys :
    Carried fun ds w => w.functionKeys = ds.flatMap Walked.functions where
  decl hP h := by
    rw [(walkDecl_extends _ _ _ _ _ _ _ _ h).2.2, hP, List.flatMap_append, List.flatMap_singleton]
    rfl
  visited _ hP := hP
  warnings _ hP := hP

/-- **What a walk collects.** When a walk succeeds, the functions it collects are, by name and
location, those declared by the top-level declarations of the expansion of its sources, in
order; and every expansion of the sources gives that list. -/
theorem walk_functions_expand {fe : Frontend} {tree : Files.Tree} {config : Config} {sources : List String}
    {c : Collected} {ws : List String} (h : walk fe tree config sources = .ok (c, ws)) :
    (∃ V ds, ExpandsAll ⟨fe, tree, config⟩ (searchRoots tree config sources) []
        (sources.map tree.resolve) V ds ∧
      c.declarations.functions.map (fun f => (f.name, f.location)) =
        ds.flatMap Walked.functions) ∧
      ∀ V ds, ExpandsAll ⟨fe, tree, config⟩ (searchRoots tree config sources) []
        (sources.map tree.resolve) V ds →
        c.declarations.functions.map (fun f => (f.name, f.location)) =
          ds.flatMap Walked.functions := by
  obtain ⟨w, V, ds, rfl, he, hkeys⟩ := walk_carries carried_functionKeys (fun _ => rfl) h
  refine ⟨⟨V, ds, he, hkeys⟩, fun V' ds' he' => ?_⟩
  obtain ⟨-, rfl⟩ := ExpandsAll.det he he'
  exact hkeys

/-- The walk of the sample cycle: `a.h` includes `b.h` before it declares `f`, so `g` of `b.h`
comes first, and `b.h`, included by both files and by itself, is walked once. -/
theorem cycle_functions_expand :
    walk Cycle.frontend Cycle.tree {} ["a.h"] = .ok (Cycle.collected, Cycle.warnings) ∧
      Cycle.walked.flatMap Walked.functions =
        [("g", ⟨some "/b.h", 7, 5⟩), ("f", ⟨some "/a.h", 4, 5⟩)] ∧
      (∃ V ds, ExpandsAll ⟨Cycle.frontend, Cycle.tree, {}⟩ (searchRoots Cycle.tree {} ["a.h"]) []
          (["a.h"].map Cycle.tree.resolve) V ds ∧
        Cycle.collected.declarations.functions.map (fun f => (f.name, f.location)) =
          ds.flatMap Walked.functions) ∧
      ∀ V ds, ExpandsAll ⟨Cycle.frontend, Cycle.tree, {}⟩ (searchRoots Cycle.tree {} ["a.h"]) []
          (["a.h"].map Cycle.tree.resolve) V ds →
        Cycle.collected.declarations.functions.map (fun f => (f.name, f.location)) =
          ds.flatMap Walked.functions :=
  ⟨Cycle.walk_eq, by decide, walk_functions_expand Cycle.walk_eq⟩

end NativeBindings.Collection
