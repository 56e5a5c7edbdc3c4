import NativeBindings.Proofs.WalkStep
import NativeBindings.Proofs.EmittedNames
import NativeBindings.Proofs.SourceText

/-!
# The names of a function's parameters

A collected function names each parameter by the name written in its declaration, or, where none
is written, by `arg` followed by the parameter's position (`parameterName`). The names so chosen
are pairwise distinct exactly when the written names are, and no written name is `argN` for a
position `N` that has none (`parameterNames_nodup_iff`): `void f(int arg1, int);` names both of
its parameters `arg1`. The C# declaration escapes each name, and escaping keeps distinct names
apart unless they are keyword twins (`Managed.escape_eq_escape_iff`).

`visitFunction_parameters` says that visiting a function collects exactly these names, and
`collected_parameter_names_distinct_iff` puts the facts together.
-/

namespace NativeBindings.Collection

open Header

/-- The name of the parameter at position `i`: the name written, or `arg` and the position when
none is written. -/
def parameterName (written : String) (i : Nat) : String :=
  if written.isEmpty then "arg" ++ toString i else written

/-- The names of a parameter list whose written names are `written` (empty where none is), its
positions counted from `k`. -/
def parameterNamesFrom (k : Nat) (written : List String) : List String :=
  (written.zipIdx k).map fun p => parameterName p.1 p.2

/-- Different positions give different names. -/
theorem argName_inj {a b : Nat} (h : "arg" ++ toString a = "arg" ++ toString b) : a = b := by
  have hs : toString a = toString b := (String.append_right_inj "arg").mp h
  have hl : Nat.toDigits 10 a = Nat.toDigits 10 b := by
    have := congrArg String.toList hs
    simpa [Nat.repr] using this
  rw [← (Managed.Reading.toDigits_digits a).2, ← (Managed.Reading.toDigits_digits b).2, hl]

theorem argName_ne_empty (a : Nat) : "arg" ++ toString a ≠ "" := by
  intro h
  have := congrArg String.length h
  simp at this

@[simp] theorem parameterNamesFrom_nil (k : Nat) : parameterNamesFrom k [] = [] := rfl

@[simp] theorem parameterNamesFrom_cons (k : Nat) (n : String) (ns : List String) :
    parameterNamesFrom k (n :: ns) = parameterName n k :: parameterNamesFrom (k + 1) ns := rfl

/-- A name is given to some parameter when it is written there, or when it is `argN` for a
position `N` with no name written. -/
theorem mem_parameterNamesFrom (x : String) :
    ∀ (k : Nat) (ns : List String), x ∈ parameterNamesFrom k ns ↔
      (x ∈ ns ∧ x ≠ "") ∨ ∃ i, ("", i) ∈ ns.zipIdx k ∧ x = "arg" ++ toString i
  | k, [] => by simp [parameterNamesFrom]
  | k, n :: ns => by
    -- position `k` holds `n`, and the positions after it are those of `ns`
    have hpos : (∃ i, ("", i) ∈ (n :: ns).zipIdx k ∧ x = "arg" ++ toString i) ↔
        (n = "" ∧ x = "arg" ++ toString k) ∨
          ∃ i, ("", i) ∈ ns.zipIdx (k + 1) ∧ x = "arg" ++ toString i := by
      simp only [List.zipIdx_cons, List.mem_cons, Prod.mk.injEq]
      constructor
      · rintro ⟨i, (⟨hn, rfl⟩ | hi), rfl⟩
        · exact Or.inl ⟨hn.symm, rfl⟩
        · exact Or.inr ⟨i, hi, rfl⟩
      · rintro (⟨hn, rfl⟩ | ⟨i, hi, rfl⟩)
        · exact ⟨k, Or.inl ⟨hn.symm, rfl⟩, rfl⟩
        · exact ⟨i, Or.inr hi, rfl⟩
    rw [parameterNamesFrom_cons, List.mem_cons, mem_parameterNamesFrom x (k + 1) ns, hpos,
      List.mem_cons]
    by_cases hn : n = ""
    · -- nothing is written at `k`, which is named `argk`
      subst hn
      simp only [parameterName, String.isEmpty_iff, ↓reduceIte, true_and]
      rw [or_and_right, and_not_self_iff, false_or]
      exact or_left_comm
    · have hx : x = n → x ≠ "" := fun h => h ▸ hn
      simp only [parameterName, String.isEmpty_iff, hn, if_false, false_and, false_or]
      rw [or_and_right, or_assoc, and_iff_left_of_imp hx]

/-- The positions after `k` carry the names `argN` with `N > k` only. -/
theorem argName_not_mem_after {k : Nat} {ns : List String} {i : Nat}
    (hi : ("", i) ∈ ns.zipIdx (k + 1)) : "arg" ++ toString k ≠ "arg" ++ toString i := by
  intro h
  have hle := (List.mem_zipIdx hi).1
  rw [argName_inj h] at hle
  omega

/-- What holds at every position with no name written holds at the first, when it has none,
and at those of the rest. -/
theorem forall_unnamed_cons {P : Nat → Prop} {k : Nat} {n : String} {ns : List String} :
    (∀ i, ("", i) ∈ (n :: ns).zipIdx k → P i) ↔
      (n = "" → P k) ∧ ∀ i, ("", i) ∈ ns.zipIdx (k + 1) → P i := by
  simp only [List.zipIdx_cons, List.mem_cons, Prod.mk.injEq]
  constructor
  · intro h
    exact ⟨fun hn => h k (Or.inl ⟨hn.symm, rfl⟩), fun i hi => h i (Or.inr hi)⟩
  · rintro ⟨h₀, h⟩ i (⟨hn, rfl⟩ | hi)
    · exact h₀ hn.symm
    · exact h i hi

/-- **When the names of a parameter list are pairwise distinct.** Exactly when the written names
are, and no written name is `argN` for a position `N` with no name written. -/
theorem parameterNamesFrom_nodup_iff :
    ∀ (k : Nat) (ns : List String), (parameterNamesFrom k ns).Nodup ↔
      (ns.filter (· != "")).Nodup ∧ ∀ i, ("", i) ∈ ns.zipIdx k → "arg" ++ toString i ∉ ns
  | k, [] => by simp
  | k, n :: ns => by
    rw [parameterNamesFrom_cons, List.nodup_cons, parameterNamesFrom_nodup_iff (k + 1) ns,
      mem_parameterNamesFrom, forall_unnamed_cons]
    by_cases hn : n = ""
    · -- an unnamed parameter is `argK`, a name that no later unnamed position takes
      subst hn
      have hk := argName_ne_empty k
      simp only [parameterName, String.isEmpty_iff, ↓reduceIte, List.filter_cons, bne_self_eq_false,
        Bool.false_eq_true, true_implies, List.mem_cons]
      constructor
      · rintro ⟨hnot, hf, hc⟩
        refine ⟨hf, fun hmem => ?_, fun i hi hmem => ?_⟩
        · rcases hmem with h | h
          · exact hk h
          · exact hnot (Or.inl ⟨h, hk⟩)
        · rcases hmem with h | h
          · exact argName_ne_empty i h
          · exact hc i hi h
      · rintro ⟨hf, hk', hc⟩
        refine ⟨fun hmem => ?_, hf, fun i hi h => hc i hi (Or.inr h)⟩
        rcases hmem with ⟨h, -⟩ | ⟨i, hi, h⟩
        · exact hk' (Or.inr h)
        · exact argName_not_mem_after hi h
    · -- a named parameter keeps its name, which no later position may take
      have hn' : (n != "") = true := bne_iff_ne.2 hn
      simp only [parameterName, String.isEmpty_iff, hn, if_false, List.filter_cons, hn', if_true,
        List.nodup_cons, List.mem_filter, false_implies, true_and, List.mem_cons]
      constructor
      · rintro ⟨hnot, hf, hc⟩
        refine ⟨⟨fun h => hnot (Or.inl ⟨h.1, hn⟩), hf⟩, fun i hi hmem => ?_⟩
        rcases hmem with h | h
        · exact hnot (Or.inr ⟨i, hi, h.symm⟩)
        · exact hc i hi h
      · rintro ⟨⟨hnf, hf⟩, hc⟩
        refine ⟨fun hmem => ?_, hf, fun i hi h => hc i hi (Or.inr h)⟩
        rcases hmem with ⟨h, -⟩ | ⟨i, hi, h⟩
        · exact hnf ⟨h, trivial⟩
        · exact hc i hi (Or.inl h.symm)

/-- Escaping a list of names keeps it free of repeats exactly when no two of its names are equal
or keyword twins. -/
theorem map_escape_nodup_iff (ns : List String) :
    (ns.map Managed.escape).Nodup ↔ ns.Pairwise fun a b => a ≠ b ∧ ¬ Managed.KeywordTwins a b := by
  rw [List.Nodup, List.pairwise_map]
  refine List.Pairwise.iff fun a b => ?_
  rw [Ne, Managed.escape_eq_escape_iff, not_or]

/-! ## Visiting a function -/

variable {w w' : Walker}

/-- The loop of a function's visit over its parameters and their positions only logs, and gives
one variable per parameter, named by `parameterName` and typed by the C# name of its type. -/
theorem run_forIn_parameters (u : Parsed) :
    ∀ (xs : List (Nat × Nat)) (acc ps : Array Variable) (w w' : Walker),
    (forIn xs acc fun x (r : Array Variable) => match x with
      | (p, i) => do
        let t ← nameType u.entities .plain (u.decl p).type
        pure (ForInStep.yield (r.push ⟨parameterName (u.decl p).name i, t⟩))).run w =
        .ok (ps, w') →
      (∃ ws, w' = { w with warnings := ws }) ∧
      ps.toList.map Variable.name =
        acc.toList.map Variable.name ++ xs.map (fun x => parameterName (u.decl x.1).name x.2) ∧
      ∀ v ∈ ps.toList, v ∈ acc.toList ∨
        ∃ x ∈ xs, typeText u.entities .plain (u.decl x.1).type = some v.type
  | [], acc, ps, w, w', h => by
    obtain ⟨rfl, rfl⟩ := run_pure_eq_ok.1 h
    exact ⟨⟨w.warnings, rfl⟩, by simp, fun v hv => .inl hv⟩
  | (p, i) :: xs, acc, ps, w, w', h => by
    rw [List.forIn_cons] at h
    obtain ⟨step, w₁, h₁, h⟩ := run_bind_eq_ok.1 h
    obtain ⟨t, w₂, ht, h₁⟩ := run_bind_eq_ok.1 h₁
    obtain ⟨rfl, rfl⟩ := run_pure_eq_ok.1 h₁
    have htext := typeText_of_run_nameType ht
    obtain ⟨ws₂, rfl⟩ := run_nameType_eq_ok ht
    obtain ⟨⟨ws, rfl⟩, hnames, htypes⟩ := run_forIn_parameters u xs _ ps _ w' h
    refine ⟨⟨ws, rfl⟩, by rw [hnames]; simp, fun v hv => ?_⟩
    -- a variable of the loop was there before, is the one pushed for `p`, or comes later
    rcases htypes v hv with hv | ⟨x, hx, hxt⟩
    · rw [Array.toList_push, List.mem_append, List.mem_singleton] at hv
      rcases hv with hv | rfl
      · exact .inl hv
      · exact .inr ⟨(p, i), List.mem_cons_self, htext⟩
    · exact .inr ⟨x, List.mem_cons_of_mem _ hx, hxt⟩

/-- Visiting a function appends one function, its parameters named by `parameterName` from the
names that their declarations write, and its result and parameters typed by the C# names of
types of the unit. -/
theorem visitFunction_parameters {u : Parsed} {name : String} {pos : Position} {t : Ty}
    {params : List Nat} {x : Unit} (h : (visitFunction u name pos t params).run w = .ok (x, w')) :
    ∃ f : Function,
      w'.collected.declarations.functions = w.collected.declarations.functions ++ [f] ∧
      f.name = name ∧
      f.parameters.map Variable.name = parameterNamesFrom 0 (params.map fun p => (u.decl p).name) ∧
      (∃ ty, typeText u.entities .plain ty = some f.returns) ∧
      ∀ v ∈ f.parameters, ∃ p ∈ params, typeText u.entities .plain (u.decl p).type = some v.type := by
  unfold visitFunction at h
  obtain ⟨ps, w₁, h₁, h⟩ := run_bind_eq_ok.1 h
  obtain ⟨⟨ws₁, rfl⟩, hnames, htypes⟩ := run_forIn_parameters u _ _ _ _ _ h₁
  obtain ⟨ret, w₂, h₂, h⟩ := run_bind_eq_ok.1 h
  have hret := typeText_of_run_nameType h₂
  obtain ⟨ws₂, rfl⟩ := run_nameType_eq_ok h₂
  cases h
  refine ⟨{ name, location := locationOf pos, returns := ret, parameters := ps.toList }, ?_, rfl,
    ?_, ⟨_, hret⟩, fun v hv => ?_⟩
  · exact Collector.functions_addFunction _ _
  · rw [hnames]
    simp [parameterNamesFrom, List.zipIdx_map]
  · rcases htypes v hv with hv | ⟨x, hx, hxt⟩
    · simp at hv
    · exact ⟨x.1, List.fst_mem_of_mem_zipIdx hx, hxt⟩

/-- **When the collected parameter names are pairwise distinct.** Visiting a function collects one
function. Its parameter names are pairwise distinct exactly when the written names are and no
written name is `argN` for a position `N` that has none; the C# names of its parameters are
pairwise distinct exactly when their names are, keyword twins apart. -/
theorem collected_parameter_names_distinct_iff {u : Parsed} {name : String} {pos : Position}
    {t : Ty} {params : List Nat} {x : Unit}
    (h : (visitFunction u name pos t params).run w = .ok (x, w')) :
    ∃ f : Function,
      w'.collected.declarations.functions = w.collected.declarations.functions ++ [f] ∧
      f.name = name ∧
      ((f.parameters.map Variable.name).Nodup ↔
        ((params.map fun p => (u.decl p).name).filter (· != "")).Nodup ∧
          ∀ i, ("", i) ∈ (params.map fun p => (u.decl p).name).zipIdx →
            "arg" ++ toString i ∉ params.map fun p => (u.decl p).name) ∧
      ((f.parameters.map fun p => Managed.escape p.name).Nodup ↔
        (f.parameters.map Variable.name).Pairwise fun a b => a ≠ b ∧ ¬ Managed.KeywordTwins a b) := by
  obtain ⟨f, hfs, hname, hnames, -⟩ := visitFunction_parameters h
  refine ⟨f, hfs, hname, ?_, ?_⟩
  · rw [hnames]
    exact parameterNamesFrom_nodup_iff 0 _
  · rw [← map_escape_nodup_iff, List.map_map]
    rfl

/-- The unit of `void f(int arg1, int);`: a parameter named `arg1`, then one with no name. -/
def writtenArgThenUnnamed : Parsed where
  entities := {}
  decls := #[.param "arg1" ⟨"m.h", 1, 12, 11⟩ (.builtin {} .int) {},
    .param "" ⟨"m.h", 1, 18, 17⟩ (.builtin {} .int) {}]
  top := []
  inclusions := []
  errors := []

/-- The parameter with no name, at position 1, is named `arg1`, as the one before it is. -/
theorem unnamed_parameter_repeats_written_name :
    ∃ w' : Walker,
      (visitFunction writtenArgThenUnnamed "f" ⟨"m.h", 1, 6, 5⟩
          (.function (.builtin {} .void) [.builtin {} .int, .builtin {} .int] false true)
          [0, 1]).run {} = .ok ((), w') ∧
      ∃ f ∈ w'.collected.declarations.functions, ¬ (f.parameters.map Variable.name).Nodup := by
  have hok : ((visitFunction writtenArgThenUnnamed "f" ⟨"m.h", 1, 6, 5⟩
      (.function (.builtin {} .void) [.builtin {} .int, .builtin {} .int] false true)
      [0, 1]).run {}).toBool = true := by
    cbv
  rcases hrun : (visitFunction writtenArgThenUnnamed "f" ⟨"m.h", 1, 6, 5⟩
      (.function (.builtin {} .void) [.builtin {} .int, .builtin {} .int] false true)
      [0, 1]).run {} with e | ⟨⟨⟩, w'⟩
  · rw [hrun] at hok
    cases hok
  · obtain ⟨f, hfs, -, hnames, -⟩ := collected_parameter_names_distinct_iff hrun
    refine ⟨w', rfl, f, by simp [hfs], fun hnodup => ?_⟩
    -- position 1 has no name, and `arg1` is written at position 0
    exact (hnames.1 hnodup).2 1 (by decide) (by decide)

end NativeBindings.Collection
