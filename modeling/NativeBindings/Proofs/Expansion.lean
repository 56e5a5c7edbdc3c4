import NativeBindings.Proofs.WalkStep
import Mathlib

/-!
# Which declarations a walk reaches, and in what order

A walk reads every source header as its own unit, and a header's `#include` lines pull further
headers in. This file says, without any state, which top-level declarations such a walk reaches
and in what order, and proves that `walk` reaches exactly those, so that every property of the
collected declarations can be read off the list of declarations walked.

The list is an *expansion*, written as a mutual inductive over the three things the walk loops
through:

* a **file** already walked expands to nothing; a fresh one is marked walked and expands to
  the expansion of its own top-level items, taken in offset order (`Parsed.topLevel`);
* an **item** that is a declaration expands to itself; an `#include` that is followed expands to
  the included file; one that is passed by expands to nothing;
* **items** expand one after the other, the walked files threaded through.

An `#include` is followed when the configuration follows includes, the file was found, and
either system headers are followed or the file lies under one of the search roots: the include
directories and the parents of the sources.

A property of walker states that walking one declaration carries forward (`Carried`) then holds
of a whole walk, indexed by its expansion (`walkFile_carries`, `walk_carries`). The walk's fuel
is respectable for the same reason as in any worklist over files: each nested walk marks one
more file of the tree, so `pending` (files of the tree not yet walked) drops at every level,
and the walk's fuel starts above the number of files.

`Cycle` is a sample run over two headers that include each other and themselves, with units as
a C front end reads them: what its walk collects (`Cycle.walk_eq`) and its expansion
(`Cycle.expands`).
-/

/-! ## The order of a file's items -/

namespace NativeBindings.Header.Parsed

variable (u : Parsed)

/-- The items of the unit that stand in the file `file`, in the order the unit lists them. -/
def ownItems (file : String) : List Item :=
  (u.top.map Item.decl ++ u.inclusions.map Item.inclusion).filter fun x => (u.itemPos x).file == file

/-- Item `a` stands no later than item `b`. -/
def OffsetLE (a b : Item) : Prop := (u.itemPos a).offset ≤ (u.itemPos b).offset

theorem insertItem_perm (x : Item) : ∀ l, (u.insertItem x l).Perm (x :: l)
  | [] => by rw [insertItem]
  | y :: ys => by
    rw [insertItem]
    split
    · exact .refl _
    · exact ((insertItem_perm x ys).cons y).trans (.swap x y ys)

theorem pairwise_insertItem (x : Item) :
    ∀ {l : List Item}, l.Pairwise u.OffsetLE → (u.insertItem x l).Pairwise u.OffsetLE
  | [], _ => List.pairwise_singleton _ _
  | y :: ys, h => by
    obtain ⟨hy, hys⟩ := List.pairwise_cons.1 h
    rw [insertItem]
    split
    · -- `x` goes first: it stands before `y`, hence before all that follows `y`
      rename_i hlt
      refine List.Pairwise.cons (fun z hz => ?_) h
      rcases List.mem_cons.1 hz with rfl | hz
      · exact Nat.le_of_lt hlt
      · exact Nat.le_trans (Nat.le_of_lt hlt) (hy z hz)
    · rename_i hge
      refine List.Pairwise.cons (fun z hz => ?_) (pairwise_insertItem x hys)
      rcases List.mem_cons.1 ((insertItem_perm u x ys).subset hz) with rfl | hz
      · exact Nat.le_of_not_lt hge
      · exact hy z hz

theorem foldl_insertItem_perm :
    ∀ (l acc : List Item), (l.foldl (fun acc x => u.insertItem x acc) acc).Perm (acc ++ l)
  | [], acc => by simp
  | x :: l, acc => by
    rw [List.foldl_cons]
    refine (foldl_insertItem_perm l _).trans ?_
    exact ((u.insertItem_perm x acc).append_right l).trans List.perm_middle.symm

theorem pairwise_foldl_insertItem :
    ∀ (l : List Item) {acc : List Item}, acc.Pairwise u.OffsetLE →
      (l.foldl (fun acc x => u.insertItem x acc) acc).Pairwise u.OffsetLE
  | [], _, h => h
  | x :: l, _, h => pairwise_foldl_insertItem l (u.pairwise_insertItem x h)

/-- **A file's items, in offset order.** The top-level items of a file are the unit's items
that stand in it, each once, sorted by offset. -/
theorem topLevel_perm (file : String) : (u.topLevel file).Perm (u.ownItems file) := by
  simpa [topLevel, ownItems] using u.foldl_insertItem_perm (u.ownItems file) []

theorem topLevel_sorted (file : String) : (u.topLevel file).Pairwise u.OffsetLE :=
  u.pairwise_foldl_insertItem _ List.Pairwise.nil

end NativeBindings.Header.Parsed

namespace NativeBindings.Collection

open Header

variable {w w' : Walker}

/-! ## Declarations -/

/-- A reflexive and transitive relation that each visit of a declaration keeps holds across the
walk of a whole declaration, which is those visits one after the other. A field's visit need keep
it only for the fields the unit declares. -/
theorem walkDecl_rel {R : Walker → Walker → Prop} (refl : ∀ w, R w w)
    (trans : ∀ {w₁ w₂ w₃}, R w₁ w₂ → R w₂ w₃ → R w₁ w₃) (u : Parsed) (owner : String)
    (htypedef : ∀ j w w' (x : Unit), (visitTypedef u j).run w = .ok (x, w') → R w w')
    (hrecord : ∀ t pos isDef parent w w' (b : Builder),
      (visitAggregate u t pos isDef parent).run w = .ok (b, w') → R w w')
    (hfunction : ∀ name pos t params w w' (x : Unit),
      (visitFunction u name pos t params).run w = .ok (x, w') → R w w')
    (hfield : ∀ i name pos t agg w w' (x : Unit), u.decl i = .field name pos t →
      (visitField u agg name t).run w = .ok (x, w') → R w w') :
    ∀ (depth : Nat) (agg : Option Builder) (i : Nat) (w w' : Walker) (x : Unit),
    (walkDecl u owner depth agg i).run w = .ok (x, w') → R w w'
  | 0, _, _, w, w', _, h => by
    obtain ⟨-, rfl⟩ := run_pure_eq_ok.1 h
    exact refl w
  | depth + 1, agg, i, w, w', x, h => by
    have ih := walkDecl_rel refl trans u owner htypedef hrecord hfunction hfield depth
    rw [walkDecl.eq_2] at h
    split at h
    · obtain ⟨-, rfl⟩ := run_pure_eq_ok.1 h
      exact refl w
    -- the children of the declaration, walked with the record it opens
    have hkids : ∀ (d : Decl) (agg' : Option Builder) (w₁ : Walker) (y : Unit),
        (do
          forIn (u.inside d) PUnit.unit fun c _ => do
            walkDecl u owner depth agg' c
            pure (ForInStep.yield PUnit.unit)
          pure () : WalkM Unit).run w₁ = .ok (y, w') → R w₁ w' := by
      intro d agg' w₁ y h
      obtain ⟨_, w₂, h₂, h₃⟩ := run_bind_eq_ok.1 h
      obtain ⟨-, rfl⟩ := run_pure_eq_ok.1 h₃
      exact run_forIn_rel refl trans (fun c _ v _ v' hc => by
        obtain ⟨_, v₁, h₁, h₂⟩ := run_bind_eq_ok.1 hc
        obtain ⟨-, rfl⟩ := run_pure_eq_ok.1 h₂
        exact ih agg' c v _ _ h₁) h₂
    cases hd : u.decl i with
    | typedef j pos inner =>
      rw [hd] at h
      dsimp only at h
      obtain ⟨_, w₁, h₁, h⟩ := run_bind_eq_ok.1 h
      simp only [pure_bind] at h
      exact trans (htypedef _ _ _ _ h₁) (hkids _ _ _ _ h)
    | tag t pos nameToken isDef members =>
      rw [hd] at h
      dsimp only at h
      split at h
      · simp only [pure_bind] at h
        exact hkids _ _ _ _ h
      · obtain ⟨_, w₁, h₁, h⟩ := run_bind_eq_ok.1 h
        obtain ⟨_, h₁, -⟩ := run_map_eq_ok.1 h₁
        exact trans (hrecord _ _ _ _ _ _ _ h₁) (hkids _ _ _ _ h)
    | function name pos t params inner =>
      rw [hd] at h
      dsimp only at h
      obtain ⟨_, w₁, h₁, h⟩ := run_bind_eq_ok.1 h
      simp only [pure_bind] at h
      exact trans (hfunction _ _ _ _ _ _ _ h₁) (hkids _ _ _ _ h)
    | field name pos t =>
      rw [hd] at h
      dsimp only at h
      simp only [pure_bind] at h
      exact hfield i name pos t _ _ _ _ hd h
    | _ =>
      -- parameters, variables and scopes only walk their children
      rw [hd] at h
      dsimp only at h
      simp only [pure_bind] at h
      exact hkids _ _ _ _ h

/-- A relation that visits respect and that appending a function keeps holds across the walk of
a whole declaration. -/
theorem walkDecl_respects {R : Walker → Walker → Prop} (hR : Respects R)
    (hfun : ∀ w (f : Function) (ws : Array String),
      R w { w with
        collected := { w.collected with declarations := w.collected.declarations.addFunction f }
        warnings := ws })
    (u : Parsed) (owner : String) :
    ∀ (depth : Nat) (agg : Option Builder) (i : Nat) (w w' : Walker) (x : Unit),
    (walkDecl u owner depth agg i).run w = .ok (x, w') → R w w' := by
  refine walkDecl_rel hR.refl hR.trans u owner (fun _ _ _ _ h => visitTypedef_respects hR h)
    (fun _ _ _ _ _ _ _ h => visitAggregate_respects hR.toRespectsRecords h)
    (fun _ _ _ _ w _ _ h => ?_)
    (fun _ _ _ _ _ _ _ _ _ h => visitField_respects hR.toRespectsRecords h)
  -- a function's visit appends the function and logs
  obtain ⟨f, ws, -, -, rfl⟩ := visitFunction_adds h
  exact hfun w f ws

/-! ## Files left to walk -/

/-- The files of the tree not among the walked files `V`. -/
def pending (s : Setup) (V : List Files.Path) : Nat :=
  (s.tree.files.filter fun f => !V.contains f.1).length

theorem pending_le_length (s : Setup) (V : List Files.Path) : pending s V ≤ s.tree.files.length :=
  List.length_filter_le _ _

theorem pending_antitone (s : Setup) {V V' : List Files.Path} (h : V ⊆ V') :
    pending s V' ≤ pending s V := by
  apply List.Sublist.length_le
  apply List.monotone_filter_right
  intro f hf
  simp only [Bool.not_eq_eq_eq_not, Bool.not_true, List.contains_eq_mem,
    decide_eq_false_iff_not] at hf ⊢
  exact fun hmem => hf (h hmem)

/-- Marking a file of the tree walked leaves fewer files to walk. -/
theorem pending_lt (s : Setup) {V : List Files.Path} {p : Files.Path}
    (hp : p ∈ s.tree.files.map Prod.fst) (hV : p ∉ V) : pending s (V ++ [p]) < pending s V := by
  obtain ⟨f, hf, rfl⟩ := List.mem_map.1 hp
  have hsub : (s.tree.files.filter fun g => !(V ++ [f.1]).contains g.1).Sublist
      (s.tree.files.filter fun g => !V.contains g.1) := by
    apply List.monotone_filter_right
    intro g hg
    simp_all
  apply Nat.lt_of_le_of_ne hsub.length_le
  intro heq
  have hin : f ∈ s.tree.files.filter fun g => !V.contains g.1 := by simp [hf, hV]
  rw [← hsub.eq_of_length heq] at hin
  simp at hin

/-! ## Expansions -/

/-- A top-level declaration as a walk reaches it: the unit it stands in, the file that unit was
read as, and its index among the unit's declarations. -/
structure Walked where
  unit : Parsed
  owner : String
  decl : Nat

/-- The `#include` line `inc` is followed, into the file `p`. -/
def Follows (s : Setup) (roots : List Files.Path) (inc : Inclusion) (p : Files.Path) : Prop :=
  s.config.followIncludes = true ∧ ∃ name, inc.found = some name ∧ p = s.tree.resolve name ∧
    (s.config.followSystemIncludes = true ∨ ∃ r ∈ roots, p.isUnder r = true)

/-- The `#include` line `inc` is passed by: includes are not followed, or it names a file that
is found but lies under none of the roots while system headers are not followed. An include
that is followed but not found is neither: the walk fails on it. -/
def PassesBy (s : Setup) (roots : List Files.Path) (inc : Inclusion) : Prop :=
  s.config.followIncludes = false ∨ ∃ name, inc.found = some name ∧
    s.config.followSystemIncludes = false ∧ ∀ r ∈ roots, (s.tree.resolve name).isUnder r = false

section Inclusions

variable {s : Setup} {roots : List Files.Path} {inc : Inclusion}

theorem Follows.eq {p q : Files.Path} (hp : Follows s roots inc p) (hq : Follows s roots inc q) :
    p = q := by
  obtain ⟨-, n, hn, rfl, -⟩ := hp
  obtain ⟨-, n', hn', rfl, -⟩ := hq
  rw [hn] at hn'
  cases hn'
  rfl

theorem Follows.not_passesBy {p : Files.Path} (hp : Follows s roots inc p) :
    ¬ PassesBy s roots inc := by
  obtain ⟨hf, n, hn, rfl, hunder⟩ := hp
  rintro (hoff | ⟨n', hn', hsys, hout⟩)
  · rw [hf] at hoff
    cases hoff
  · rw [hn] at hn'
    cases hn'
    rcases hunder with hsys' | ⟨r, hr, hu⟩
    · rw [hsys] at hsys'
      cases hsys'
    · rw [hout r hr] at hu
      cases hu

end Inclusions

mutual

/-- `ExpandsFile s roots V p V' ds`: with the files `V` walked, the file `p` expands to the
top-level declarations `ds` and leaves the files `V'` walked. -/
inductive ExpandsFile (s : Setup) (roots : List Files.Path) :
    List Files.Path → Files.Path → List Files.Path → List Walked → Prop where
  | walked {V : List Files.Path} {p : Files.Path} : p ∈ V → ExpandsFile s roots V p V []
  | fresh {V : List Files.Path} {p : Files.Path} {u : Parsed} {V' : List Files.Path}
      {ds : List Walked} :
      p ∉ V → s.unit? p = some u →
      ExpandsItems s roots u p.render (V ++ [p]) (u.topLevel p.render) V' ds →
      ExpandsFile s roots V p V' ds

/-- One top-level item of the unit `u`, read as the file `owner`. -/
inductive ExpandsItem (s : Setup) (roots : List Files.Path) :
    Parsed → String → List Files.Path → Parsed.Item → List Files.Path → List Walked → Prop where
  | decl {u : Parsed} {owner : String} {V : List Files.Path} {i : Nat} :
      ExpandsItem s roots u owner V (.decl i) V [⟨u, owner, i⟩]
  | follow {u : Parsed} {owner : String} {V : List Files.Path} {inc : Inclusion} {p : Files.Path}
      {V' : List Files.Path} {ds : List Walked} :
      Follows s roots inc p → ExpandsFile s roots V p V' ds →
      ExpandsItem s roots u owner V (.inclusion inc) V' ds
  | skip {u : Parsed} {owner : String} {V : List Files.Path} {inc : Inclusion} :
      PassesBy s roots inc → ExpandsItem s roots u owner V (.inclusion inc) V []

/-- The items of the unit `u`, one after the other. -/
inductive ExpandsItems (s : Setup) (roots : List Files.Path) :
    Parsed → String → List Files.Path → List Parsed.Item → List Files.Path → List Walked →
      Prop where
  | nil {u : Parsed} {owner : String} {V : List Files.Path} : ExpandsItems s roots u owner V [] V []
  | cons {u : Parsed} {owner : String} {V V₁ V₂ : List Files.Path} {item : Parsed.Item}
      {items : List Parsed.Item} {ds₁ ds₂ : List Walked} :
      ExpandsItem s roots u owner V item V₁ ds₁ → ExpandsItems s roots u owner V₁ items V₂ ds₂ →
      ExpandsItems s roots u owner V (item :: items) V₂ (ds₁ ++ ds₂)

end

/-- The sources, one after the other, the walked files threaded through. -/
inductive ExpandsAll (s : Setup) (roots : List Files.Path) :
    List Files.Path → List Files.Path → List Files.Path → List Walked → Prop where
  | nil {V : List Files.Path} : ExpandsAll s roots V [] V []
  | cons {V V₁ V₂ : List Files.Path} {p : Files.Path} {ps : List Files.Path}
      {ds₁ ds₂ : List Walked} :
      ExpandsFile s roots V p V₁ ds₁ → ExpandsAll s roots V₁ ps V₂ ds₂ →
      ExpandsAll s roots V (p :: ps) V₂ (ds₁ ++ ds₂)

/-! ## An expansion is unique -/

section Determinism

variable {s : Setup} {roots : List Files.Path}

mutual

theorem ExpandsFile.det {V V₁ V₂ : List Files.Path} {p : Files.Path} {ds₁ ds₂ : List Walked} :
    ExpandsFile s roots V p V₁ ds₁ → ExpandsFile s roots V p V₂ ds₂ → V₁ = V₂ ∧ ds₁ = ds₂
  | .walked _, .walked _ => ⟨rfl, rfl⟩
  | .walked h₁, .fresh h₂ _ _ => absurd h₁ h₂
  | .fresh h₁ _ _, .walked h₂ => absurd h₂ h₁
  | .fresh _ hu₁ hi₁, .fresh _ hu₂ hi₂ => by
    cases hu₁.symm.trans hu₂
    exact ExpandsItems.det hi₁ hi₂

theorem ExpandsItem.det {u : Parsed} {owner : String} {V V₁ V₂ : List Files.Path}
    {item : Parsed.Item} {ds₁ ds₂ : List Walked} :
    ExpandsItem s roots u owner V item V₁ ds₁ → ExpandsItem s roots u owner V item V₂ ds₂ →
      V₁ = V₂ ∧ ds₁ = ds₂
  | .decl, .decl => ⟨rfl, rfl⟩
  | .follow hf₁ he₁, .follow hf₂ he₂ => by
    cases hf₁.eq hf₂
    exact ExpandsFile.det he₁ he₂
  | .follow hf₁ _, .skip hp₂ => absurd hp₂ hf₁.not_passesBy
  | .skip hp₁, .follow hf₂ _ => absurd hp₁ hf₂.not_passesBy
  | .skip _, .skip _ => ⟨rfl, rfl⟩

theorem ExpandsItems.det {u : Parsed} {owner : String} {V V₁ V₂ : List Files.Path}
    {items : List Parsed.Item} {ds₁ ds₂ : List Walked} :
    ExpandsItems s roots u owner V items V₁ ds₁ → ExpandsItems s roots u owner V items V₂ ds₂ →
      V₁ = V₂ ∧ ds₁ = ds₂
  | .nil, .nil => ⟨rfl, rfl⟩
  | .cons he₁ hi₁, .cons he₂ hi₂ => by
    obtain ⟨rfl, rfl⟩ := ExpandsItem.det he₁ he₂
    obtain ⟨rfl, rfl⟩ := ExpandsItems.det hi₁ hi₂
    exact ⟨rfl, rfl⟩

end

theorem ExpandsAll.det {V V₁ V₂ : List Files.Path} {ps : List Files.Path} {ds₁ ds₂ : List Walked} :
    ExpandsAll s roots V ps V₁ ds₁ → ExpandsAll s roots V ps V₂ ds₂ → V₁ = V₂ ∧ ds₁ = ds₂
  | .nil, .nil => ⟨rfl, rfl⟩
  | .cons he₁ ha₁, .cons he₂ ha₂ => by
    obtain ⟨rfl, rfl⟩ := ExpandsFile.det he₁ he₂
    obtain ⟨rfl, rfl⟩ := ExpandsAll.det ha₁ ha₂
    exact ⟨rfl, rfl⟩

end Determinism

/-! ## The walk follows the expansion -/

/-- From `w` to `w'` the files walked only grow and the roots stay. -/
def Walker.Widens (w w' : Walker) : Prop := w.visited ⊆ w'.visited ∧ w'.roots = w.roots

theorem Walker.Widens.refl (w : Walker) : w.Widens w := ⟨fun _ h => h, rfl⟩

theorem Walker.Widens.trans {w₁ w₂ : Walker} (h₁ : w.Widens w₁) (h₂ : w₁.Widens w₂) :
    w.Widens w₂ :=
  ⟨fun _ h => h₂.1 (h₁.1 h), h₂.2.trans h₁.2⟩

/-- The roots a walker carries are the roots `R`, as members. -/
def Walker.RootsAre (w : Walker) (R : List Files.Path) : Prop := ∀ r, r ∈ w.roots ↔ r ∈ R

theorem Walker.RootsAre.any_isUnder {R : List Files.Path} (hR : w.RootsAre R) (q : Files.Path) :
    (w.roots.any fun r => q.isUnder r) = true ↔ ∃ r ∈ R, q.isUnder r = true := by
  simp only [List.any_eq_true]
  exact exists_congr fun r => and_congr_left fun _ => hR r

theorem Walker.RootsAre.of_widens {R : List Files.Path} (hR : w.RootsAre R) (h : w.Widens w') :
    w'.RootsAre R := by
  intro r
  rw [h.2]
  exact hR r

/-- Walking a declaration walks no file and keeps the roots. -/
theorem walkDecl_files {u : Parsed} {owner : String} {depth : Nat} {agg : Option Builder}
    {i : Nat} {x : Unit} (h : (walkDecl u owner depth agg i).run w = .ok (x, w')) :
    w'.visited = w.visited ∧ w'.roots = w.roots := by
  have hR : Respects fun w w' => w'.visited = w.visited ∧ w'.roots = w.roots :=
    ⟨⟨fun _ => ⟨rfl, rfl⟩, fun h₁ h₂ => ⟨h₂.1.trans h₁.1, h₂.2.trans h₁.2⟩,
      fun _ _ => ⟨rfl, rfl⟩, fun _ _ _ _ => ⟨rfl, rfl⟩, fun _ _ _ => ⟨rfl, rfl⟩,
      fun _ _ => ⟨rfl, rfl⟩⟩, fun _ _ => ⟨rfl, rfl⟩⟩
  exact walkDecl_respects hR (fun _ _ _ => ⟨rfl, rfl⟩) u owner depth agg i w w' x h

/-- A property of walker states, indexed by the declarations walked so far, that walking one
more top-level declaration carries forward, and that marking files walked or logging keeps. -/
structure Carried (P : List Walked → Walker → Prop) : Prop where
  decl : ∀ {ds : List Walked} {u : Parsed} {owner : String} {i : Nat} {w w' : Walker} {x : Unit},
    P ds w → (walkDecl u owner (u.decls.size + 1) none i).run w = .ok (x, w') →
      P (ds ++ [⟨u, owner, i⟩]) w'
  visited : ∀ {ds : List Walked} {w : Walker} (v : List Files.Path), P ds w →
    P ds { w with visited := v }
  warnings : ∀ {ds : List Walked} {w : Walker} (ws : Array String), P ds w →
    P ds { w with warnings := ws }

section Walk

variable {s : Setup} {R : List Files.Path} {P : List Walked → Walker → Prop}

/-- A loop over top-level items in which every step expands its item expands the items. -/
theorem run_forIn_items (u : Parsed) (owner : String) {fuel : Nat}
    {f : Parsed.Item → PUnit → WalkM (ForInStep PUnit)}
    (hf : ∀ item w w' step ds, (f item PUnit.unit).run w = .ok (step, w') →
      pending s w.visited < fuel → w.RootsAre R → P ds w →
      step = .yield PUnit.unit ∧
        ∃ ds', ExpandsItem s R u owner w.visited item w'.visited ds' ∧ P (ds ++ ds') w' ∧
          w.Widens w') :
    ∀ (items : List Parsed.Item) (w w' : Walker) (x : PUnit) (ds : List Walked),
    (forIn items PUnit.unit f).run w = .ok (x, w') → pending s w.visited < fuel → w.RootsAre R →
    P ds w → ∃ ds', ExpandsItems s R u owner w.visited items w'.visited ds' ∧ P (ds ++ ds') w' ∧
      w.Widens w'
  | [], w, w', x, ds, h, _, _, hP => by
    obtain ⟨-, rfl⟩ := run_pure_eq_ok.1 h
    exact ⟨[], .nil, by simpa using hP, Walker.Widens.refl w⟩
  | item :: items, w, w', x, ds, h, hfuel, hR, hP => by
    rw [List.forIn_cons] at h
    obtain ⟨step, w₁, h₁, h⟩ := run_bind_eq_ok.1 h
    obtain ⟨rfl, ds₁, he₁, hP₁, hw₁⟩ := hf item w w₁ step ds h₁ hfuel hR hP
    have hfuel₁ : pending s w₁.visited < fuel :=
      Nat.lt_of_le_of_lt (pending_antitone s hw₁.1) hfuel
    obtain ⟨ds₂, he₂, hP₂, hw₂⟩ :=
      run_forIn_items u owner hf items w₁ w' x _ h hfuel₁ (hR.of_widens hw₁) hP₁
    exact ⟨ds₁ ++ ds₂, .cons he₁ he₂, by simpa using hP₂, hw₁.trans hw₂⟩

/-- **Walking a file follows its expansion.** A walk of `p` with fuel above the files left to
walk reaches the top-level declarations of `p`'s expansion, in order, and walks the files the
expansion walks; every carried property goes along. -/
theorem walkFile_carries (hP : Carried P) (s : Setup) (R : List Files.Path) :
    ∀ (fuel : Nat) (p : Files.Path) (w w' : Walker) (x : Unit) (ds : List Walked),
    (walkFile s fuel p).run w = .ok (x, w') → pending s w.visited < fuel → w.RootsAre R →
    P ds w → ∃ ds', ExpandsFile s R w.visited p w'.visited ds' ∧ P (ds ++ ds') w' ∧ w.Widens w'
  | 0, _, _, _, _, _, _, hfuel, _, _ => absurd hfuel (Nat.not_lt_zero _)
  | fuel + 1, p, w, w', x, ds, h, hfuel, hR, hPw => by
    rw [walkFile.eq_2] at h
    obtain ⟨_, _, h₁, h⟩ := run_bind_eq_ok.1 h
    cases h₁
    split at h
    · -- a file walked before adds nothing
      rename_i hvis
      obtain ⟨-, rfl⟩ := run_pure_eq_ok.1 h
      exact ⟨[], .walked (by simpa using hvis), by simpa using hPw, Walker.Widens.refl w⟩
    rename_i hvis
    have hnot : p ∉ w.visited := by simpa using hvis
    obtain ⟨_, w₁, h₁, h⟩ := run_bind_eq_ok.1 h
    obtain ⟨-, hw₁⟩ := run_pure_eq_ok.1 (show (pure ((), _) : Except Failure _) = _ from h₁)
    obtain ⟨u, w₂, h₂, h⟩ := run_bind_eq_ok.1 h
    obtain ⟨hunit, ws, hw₂⟩ := run_readHeader_eq_ok h₂
    dsimp only at h
    obtain ⟨_, w₃, h₃, h⟩ := run_bind_eq_ok.1 h
    obtain ⟨-, rfl⟩ := run_pure_eq_ok.1 h
    -- the header is marked walked before its items are: this is what makes the fuel suffice
    have hv₂ : w₂.visited = w.visited ++ [p] := by rw [hw₂, ← hw₁]
    have hw₂' : w.Widens w₂ :=
      ⟨by rw [hv₂]; exact List.subset_append_left _ _, by rw [hw₂, ← hw₁]⟩
    have hP₂ : P ds w₂ := by
      rw [hw₂, ← hw₁]
      exact hP.warnings ws (hP.visited _ hPw)
    have hpend : pending s w₂.visited < fuel := by
      have := pending_lt s (Setup.mem_files_of_unit? hunit) hnot
      rw [hv₂]
      omega
    have hloop := run_forIn_items u p.render ?step _ w₂ w₃ _ ds h₃ hpend (hR.of_widens hw₂') hP₂
    · obtain ⟨ds', hexp, hP₃, hw₃⟩ := hloop
      rw [hv₂] at hexp
      exact ⟨ds', .fresh hnot hunit hexp, hP₃, hw₂'.trans hw₃⟩
    -- one item: a declaration, or an `#include` line
    intro item v v' step ds₀ h hp hr hPv
    cases item with
    | decl i =>
      obtain ⟨_, v₁, h₁, h₂⟩ := run_bind_eq_ok.1 h
      obtain ⟨rfl, rfl⟩ := run_pure_eq_ok.1 h₂
      obtain ⟨hv, hr'⟩ := walkDecl_files h₁
      refine ⟨rfl, [⟨u, p.render, i⟩], ?_, hP.decl hPv h₁, ⟨fun _ hq => hv ▸ hq, hr'⟩⟩
      rw [hv]
      exact .decl
    | inclusion inc =>
      dsimp only at h
      split at h
      · rename_i hon
        split at h
        · obtain ⟨_, _, h₁, -⟩ := run_bind_eq_ok.1 h
          exact (run_throw_ne_ok h₁).elim
        rename_i name hfound
        obtain ⟨_, _, h₁, h⟩ := run_bind_eq_ok.1 h
        cases h₁
        split at h
        · rename_i hunder
          obtain ⟨_, v₁, h₁, h₂⟩ := run_bind_eq_ok.1 h
          obtain ⟨rfl, rfl⟩ := run_pure_eq_ok.1 h₂
          obtain ⟨ds', he, hP', hw⟩ := walkFile_carries hP s R fuel _ v v₁ _ ds₀ h₁ hp hr hPv
          have hfollow : Follows s R inc (s.tree.resolve name) :=
            ⟨hon, name, hfound, rfl, (Bool.or_eq_true_iff.1 hunder).imp_right (hr.any_isUnder _).1⟩
          exact ⟨rfl, ds', .follow hfollow he, hP', hw⟩
        · rename_i hout
          obtain ⟨rfl, rfl⟩ := run_pure_eq_ok.1 h
          have hsys : s.config.followSystemIncludes = false ∧
              (v.roots.any fun r => (s.tree.resolve name).isUnder r) = false := by
            simpa using hout
          have hpass : PassesBy s R inc := by
            refine Or.inr ⟨name, hfound, hsys.1, fun r hrR => ?_⟩
            simpa using List.any_eq_false.1 hsys.2 r ((hr r).2 hrR)
          exact ⟨rfl, [], .skip hpass, by simpa using hPv, Walker.Widens.refl v⟩
      · rename_i hoff
        obtain ⟨rfl, rfl⟩ := run_pure_eq_ok.1 h
        exact ⟨rfl, [], .skip (Or.inl (by simpa using hoff)), by simpa using hPv,
          Walker.Widens.refl v⟩

end Walk

/-- The directories a walk searches: the include directories, then the sources' parents. -/
def searchRoots (tree : Files.Tree) (config : Config) (sources : List String) : List Files.Path :=
  config.includeDirs.map tree.resolve ++ sources.map fun p => (tree.resolve p).parent

/-- The roots `walk` gathers, the parents of the paths added to `rs` once each. -/
theorem mem_foldl_parents (r : Files.Path) : ∀ (ps rs : List Files.Path),
    r ∈ ps.foldl (fun rs p => if rs.contains p.parent then rs else rs ++ [p.parent]) rs ↔
      r ∈ rs ∨ ∃ p ∈ ps, r = p.parent
  | [], rs => by simp
  | p :: ps, rs => by
    rw [List.foldl_cons, mem_foldl_parents r ps]
    by_cases hp : p.parent ∈ rs
    · simp only [List.contains_eq_mem, hp, decide_true, if_true, List.mem_cons, exists_eq_or_imp]
      constructor
      · rintro (h | h)
        · exact Or.inl h
        · exact Or.inr (Or.inr h)
      · rintro (h | rfl | h)
        · exact Or.inl h
        · exact Or.inl hp
        · exact Or.inr h
    · simp [hp, or_assoc]

theorem mem_walk_roots (tree : Files.Tree) (config : Config) (sources : List String)
    (r : Files.Path) :
    r ∈ (sources.map tree.resolve).foldl
        (fun rs p => if rs.contains p.parent then rs else rs ++ [p.parent])
        (config.includeDirs.map tree.resolve) ↔ r ∈ searchRoots tree config sources := by
  simp only [mem_foldl_parents, searchRoots, List.mem_append, List.mem_map]
  constructor
  · rintro (h | ⟨_, ⟨q, hq, rfl⟩, rfl⟩)
    · exact Or.inl h
    · exact Or.inr ⟨q, hq, rfl⟩
  · rintro (h | ⟨q, hq, rfl⟩)
    · exact Or.inl h
    · exact Or.inr ⟨_, ⟨q, hq, rfl⟩, rfl⟩

/-- A loop walking sources with fuel above the number of files expands the sources. -/
theorem run_forIn_sources {s : Setup} {R : List Files.Path} {P : List Walked → Walker → Prop}
    (hP : Carried P) {fuel : Nat} (hfuel : s.tree.files.length < fuel) :
    ∀ (ps : List Files.Path) (w w' : Walker) (x : PUnit) (ds : List Walked),
    (forIn ps PUnit.unit fun p _ => do
        walkFile s fuel p
        pure (ForInStep.yield PUnit.unit) : WalkM PUnit).run w = .ok (x, w') → w.RootsAre R →
    P ds w → ∃ ds', ExpandsAll s R w.visited ps w'.visited ds' ∧ P (ds ++ ds') w'
  | [], w, w', x, ds, h, _, hP₀ => by
    obtain ⟨-, rfl⟩ := run_pure_eq_ok.1 h
    exact ⟨[], .nil, by simpa using hP₀⟩
  | p :: ps, w, w', x, ds, h, hR, hP₀ => by
    rw [List.forIn_cons] at h
    obtain ⟨step, w₁, h₁, h⟩ := run_bind_eq_ok.1 h
    obtain ⟨_, w₂, h₂, h₃⟩ := run_bind_eq_ok.1 h₁
    obtain ⟨rfl, rfl⟩ := run_pure_eq_ok.1 h₃
    have hpend : pending s w.visited < fuel :=
      Nat.lt_of_le_of_lt (pending_le_length s _) hfuel
    obtain ⟨ds₁, he₁, hP₁, hw₁⟩ := walkFile_carries hP s R fuel p w w₂ _ ds h₂ hpend hR hP₀
    obtain ⟨ds₂, he₂, hP₂⟩ := run_forIn_sources hP hfuel ps w₂ w' x _ h (hR.of_widens hw₁) hP₁
    exact ⟨ds₁ ++ ds₂, .cons he₁ he₂, by simpa using hP₂⟩

/-- **A walk follows the expansion of its sources.** When a walk succeeds, what it collected is
that of a walker that reached the declarations of the sources' expansion, in order, from no file
walked; every carried property that holds of a fresh walker holds of it. -/
theorem walk_carries {P : List Walked → Walker → Prop} (hP : Carried P)
    (h₀ : ∀ roots, P [] { roots }) {fe : Frontend} {tree : Files.Tree} {config : Config} {sources : List String}
    {c : Collected} {ws : List String} (h : walk fe tree config sources = .ok (c, ws)) :
    ∃ (w : Walker) (V : List Files.Path) (ds : List Walked), w.collected = c ∧
      ExpandsAll ⟨fe, tree, config⟩ (searchRoots tree config sources) [] (sources.map tree.resolve) V
        ds ∧ P ds w := by
  unfold walk at h
  simp only [bind, Except.bind] at h
  split at h
  · cases h
  rename_i r hrun
  obtain ⟨x, w⟩ := r
  simp only [pure, Except.pure, Except.ok.injEq, Prod.mk.injEq] at h
  obtain ⟨rfl, -⟩ := h
  obtain ⟨_, w₁, h₁, h₂⟩ := run_bind_eq_ok.1 hrun
  obtain ⟨-, rfl⟩ := run_pure_eq_ok.1 h₂
  have hfuel : tree.files.length < tree.files.length + (sources.map tree.resolve).length + 1 := by
    omega
  obtain ⟨ds, he, hPw⟩ :=
    run_forIn_sources hP hfuel _ _ w₁ _ [] h₁ (mem_walk_roots tree config sources) (h₀ _)
  exact ⟨w₁, _, ds, rfl, he, hPw⟩

/-- A walk of one source walks its file, with fuel for every file of the tree, from the walker
whose roots are the include directories and the source's directory. -/
theorem walk_singleton (fe : Frontend) (tree : Files.Tree) (config : Config) (src : String) :
    walk fe tree config [src] =
      ((walkFile ⟨fe, tree, config⟩ (tree.files.length + 2) (tree.resolve src)).run
          { roots := [tree.resolve src].foldl
              (fun rs p => if rs.contains p.parent then rs else rs ++ [p.parent])
              (config.includeDirs.map tree.resolve) }).map
        fun r => (r.2.collected, r.2.warnings.toList) := by
  unfold walk
  simp only [List.map_cons, List.map_nil, List.length_singleton, List.forIn_cons, List.forIn_nil,
    StateT.run_bind, StateT.run_pure]
  generalize (walkFile ⟨fe, tree, config⟩ (tree.files.length + 1 + 1) (tree.resolve src)).run _ = r
  cases r <;> rfl

/-! ## Two headers that include each other

A sample run, with units as a C front end reads them. `a.h` defines `P`, includes `b.h` and
declares `f`; `b.h` includes `a.h` and itself, declares `P` again without a body, names a record
without a name `Q`, defines `R` with a field of a record without a name, and declares `g`:

```
a.h                      b.h
#pragma once             #pragma once
struct P { int x; };     #include "a.h"
#include "b.h"           #include "b.h"
int f(void);             struct P;
                         typedef struct { int y; } Q;
                         struct R { struct { int a; } in; int b; };
                         int g(void);
```

Each file is read as a unit of its own, which holds what the other file adds to it too. -/

namespace Cycle

/-- The record `P`, defined in the file `a`. -/
def recordP (a : String) : TagDef :=
  { kind := .struct, name := some "P", pos := ⟨a, 2, 8, 20⟩, freeStanding := true,
    complete := true, members := [⟨"x", .int, none, 0, false⟩], definition := some 0 }

/-- The records of the file `b`, its declarations numbered from `k`: the record without a name
that `Q` names, `R`, and the record without a name inside `R`. -/
def recordsB (b : String) (k : Nat) : List TagDef :=
  [{ kind := .struct, name := none, pos := ⟨b, 5, 9, 61⟩, typedefName := some "Q",
     complete := true, members := [⟨"y", .int, none, 0, false⟩], definition := some (k + 1) },
   { kind := .struct, name := some "R", pos := ⟨b, 6, 8, 89⟩, freeStanding := true,
     complete := true, definition := some (k + 4),
     members := [⟨"in", .elaborated {} (some .struct) (.tag {} 3) "", none, 0, false⟩,
       ⟨"b", .int, none, 0, false⟩] },
   { kind := .struct, name := none, pos := ⟨b, 6, 12, 93⟩, complete := true,
     members := [⟨"a", .int, none, 0, false⟩], definition := some (k + 5) }]

/-- The typedef `Q`, declared in the file `b`. -/
def typedefQ (b : String) : TypedefDef :=
  ⟨"Q", .elaborated {} (some .struct) (.tag {} 1) "", some ⟨b, 5, 27, 79⟩, 0, ""⟩

/-- The type `int (void)`. -/
def intOfVoid : Ty := .function .int [] false true

/-- The declarations of `struct P { int x; };` in the file `a`. -/
def declsP (a : String) : List Decl :=
  [.tag 0 ⟨a, 2, 8, 20⟩ (some 1) true [1], .field "x" ⟨a, 2, 16, 28⟩ .int]

/-- The declarations of `int f(void);` in the file `a`. -/
def declsF (a : String) : List Decl :=
  [.param "" ⟨a, 4, 11, 59⟩ (.builtin {} .void) {}, .function "f" ⟨a, 4, 5, 53⟩ intOfVoid [] {}]

/-- The declarations of the file `b`, numbered from `k`. -/
def declsB (b : String) (k : Nat) : List Decl :=
  [.tag 0 ⟨b, 4, 8, 50⟩ (some 9) false [],
   .tag 1 ⟨b, 5, 9, 61⟩ none true [k + 2],
   .field "y" ⟨b, 5, 22, 74⟩ .int,
   .typedef 0 ⟨b, 5, 27, 79⟩ ⟨some ⟨1, none⟩, []⟩,
   .tag 2 ⟨b, 6, 8, 89⟩ (some 23) true [k + 5, k + 7, k + 8],
   .tag 3 ⟨b, 6, 12, 93⟩ none true [k + 6],
   .field "a" ⟨b, 6, 25, 106⟩ .int,
   .field "in" ⟨b, 6, 30, 111⟩ (.elaborated {} (some .struct) (.tag {} 3) ""),
   .field "b" ⟨b, 6, 38, 119⟩ .int,
   .param "" ⟨b, 7, 11, 135⟩ (.builtin {} .void) {},
   .function "g" ⟨b, 7, 5, 129⟩ intOfVoid [] {}]

/-- `a.h` as a unit: its own declarations, and those of `b.h`, which it includes. -/
def unitA : Parsed where
  entities := { tags := (recordP "/a.h" :: recordsB "b.h" 2).toArray, typedefs := #[typedefQ "b.h"] }
  decls := (declsP "/a.h" ++ declsB "b.h" 2 ++ declsF "/a.h").toArray
  top := [0, 2, 3, 5, 6, 12, 14]
  inclusions := [⟨⟨"/a.h", 3, 1, 34⟩, some "b.h"⟩, ⟨⟨"b.h", 2, 1, 13⟩, some "a.h"⟩,
    ⟨⟨"b.h", 3, 1, 28⟩, some "b.h"⟩]
  errors := []

/-- `b.h` as a unit: the declarations of `a.h`, which it includes first, then its own. -/
def unitB : Parsed where
  entities := { tags := (recordP "a.h" :: recordsB "/b.h" 4).toArray, typedefs := #[typedefQ "/b.h"] }
  decls := (declsP "a.h" ++ declsF "a.h" ++ declsB "/b.h" 4).toArray
  top := [0, 3, 4, 5, 7, 8, 14]
  inclusions := [⟨⟨"/b.h", 2, 1, 13⟩, some "a.h"⟩, ⟨⟨"a.h", 3, 1, 34⟩, some "b.h"⟩,
    ⟨⟨"/b.h", 3, 1, 28⟩, some "b.h"⟩]
  errors := []

def pathA : Files.Path := ⟨["a.h"]⟩

def pathB : Files.Path := ⟨["b.h"]⟩

def tree : Files.Tree where
  files := [(pathA, "#pragma once\nstruct P \x7b int x; \x7d;\n#include \"b.h\"\nint f(void);\n"),
    (pathB, "#pragma once\n#include \"a.h\"\n#include \"b.h\"\nstruct P;\n" ++
      "typedef struct \x7b int y; \x7d Q;\nstruct R \x7b struct \x7b int a; \x7d in; int b; \x7d;\n" ++
      "int g(void);\n")]

def frontend : Frontend := .ofUnits [(pathA, unitA), (pathB, unitB)]

def setup : Setup := ⟨frontend, tree, {}⟩

def locP : Location := ⟨some "/a.h", 2, 8⟩

def locQ : Location := ⟨some "/b.h", 5, 9⟩

def locR : Location := ⟨some "/b.h", 6, 8⟩

/-- What the walk of `a.h` collects: `P`, `Q` named by its typedef, `R` without the field of a
record without a name, then `g` before `f`, as `b.h` is included before `f`. -/
def collected : Collected where
  declarations :=
    ⟨[.struct ⟨"P", locP, [⟨"x", "int"⟩], false, true⟩,
      .struct ⟨"Q", locQ, [⟨"y", "int"⟩], false, true⟩,
      .struct ⟨"R", locR, [⟨"b", "int"⟩], false, true⟩,
      .function ⟨"g", ⟨some "/b.h", 7, 5⟩, "int", []⟩,
      .function ⟨"f", ⟨some "/a.h", 4, 5⟩, "int", []⟩],
     [locP, locQ, locR]⟩

def warnings : List String :=
  ["Anonymous aggregate nested in R (line:6, column:12) is not supported",
   "Skipping field in of R: anonymous aggregate types are not supported"]

/-- A fresh walker of the sample: no file walked, and the directory of `a.h` as its root. -/
def start : Walker := { roots := [Files.Path.root] }

/-- The walker after walking `a.h`: both files walked once, `Q` named. -/
def walker : Walker where
  collected := collected
  visited := [pathA, pathB]
  roots := [Files.Path.root]
  names := [(locQ, "Q")]
  warnings := warnings.toArray

theorem walkFile_run : (walkFile setup 4 pathA).run start = .ok ((), walker) := by
  cbv

theorem walk_eq : walk frontend tree {} ["a.h"] = .ok (collected, warnings) := by
  rw [walk_singleton]
  have hroots : [tree.resolve "a.h"].foldl
      (fun rs p => if rs.contains p.parent then rs else rs ++ [p.parent])
      (([] : List String).map tree.resolve) = [Files.Path.root] := by decide +kernel
  have hpath : tree.resolve "a.h" = pathA := by decide +kernel
  rw [hroots, hpath]
  exact congrArg _ walkFile_run

/-- The top-level declarations the walk reaches, in order: `P` of `a.h`, then the five of `b.h`
through the `#include` between them, then `f`. -/
def walked : List Walked :=
  [⟨unitA, "/a.h", 0⟩, ⟨unitB, "/b.h", 4⟩, ⟨unitB, "/b.h", 5⟩, ⟨unitB, "/b.h", 7⟩,
   ⟨unitB, "/b.h", 8⟩, ⟨unitB, "/b.h", 14⟩, ⟨unitA, "/a.h", 14⟩]

theorem expands :
    ExpandsAll setup (searchRoots tree {} ["a.h"]) [] (["a.h"].map tree.resolve) [pathA, pathB]
      walked := by
  have hfollows : ∀ (name : String) (p : Files.Path) (inc : Inclusion), inc.found = some name →
      tree.resolve name = p → p.isUnder Files.Path.root = true →
      Follows setup (searchRoots tree {} ["a.h"]) inc p :=
    fun name _ _ hinc hp hu => ⟨rfl, name, hinc, hp.symm, .inr ⟨Files.Path.root, by decide +kernel, hu⟩⟩
  have hA : unitA.topLevel pathA.render =
      [.decl 0, .inclusion ⟨⟨"/a.h", 3, 1, 34⟩, some "b.h"⟩, .decl 14] := rfl
  have hB : unitB.topLevel pathB.render =
      [.inclusion ⟨⟨"/b.h", 2, 1, 13⟩, some "a.h"⟩, .inclusion ⟨⟨"/b.h", 3, 1, 28⟩, some "b.h"⟩,
       .decl 4, .decl 5, .decl 7, .decl 8, .decl 14] := rfl
  have hresA : tree.resolve "a.h" = pathA := by decide +kernel
  have hresB : tree.resolve "b.h" = pathB := by decide +kernel
  -- `b.h` includes `a.h`, being walked, and itself, just marked walked
  have hexpB : ExpandsFile setup (searchRoots tree {} ["a.h"]) [pathA] pathB [pathA, pathB]
      [⟨unitB, "/b.h", 4⟩, ⟨unitB, "/b.h", 5⟩, ⟨unitB, "/b.h", 7⟩, ⟨unitB, "/b.h", 8⟩,
       ⟨unitB, "/b.h", 14⟩] := by
    refine .fresh (by decide) (show setup.unit? pathB = some unitB from rfl) ?_
    rw [hB]
    exact .cons (.follow (hfollows _ _ _ rfl hresA rfl) (.walked (by simp)))
      (.cons (.follow (hfollows _ _ _ rfl hresB rfl) (.walked (by simp)))
        (.cons .decl (.cons .decl (.cons .decl (.cons .decl (.cons .decl .nil))))))
  have hexpA : ExpandsFile setup (searchRoots tree {} ["a.h"]) [] pathA [pathA, pathB] walked := by
    refine .fresh List.not_mem_nil (show setup.unit? pathA = some unitA from rfl) ?_
    rw [hA]
    exact .cons .decl (.cons (.follow (hfollows _ _ _ rfl hresB rfl) hexpB) (.cons .decl .nil))
  rw [show ["a.h"].map tree.resolve = [pathA] by simp [hresA]]
  exact .cons hexpA .nil

end Cycle

end NativeBindings.Collection
