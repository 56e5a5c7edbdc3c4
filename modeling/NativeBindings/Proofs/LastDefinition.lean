import NativeBindings.Proofs.StructLedger

/-!
# A walk keeps the last definition of each name

A name is defined by a visit of a record definition under it, or by a typedef that names a
record without a name defined before it. `definitions` lists these in the order of the walk and
`lastDefinition` picks the last one of a name. When the marks of a walk are `Coherent` (one
record a place, one typedef a record without a name, and such records are definitions), the
ledger after them holds exactly one struct of each defined name, and that struct is its last
definition whole: name, place, kind and the fields of that record in order
(`foldl_apply_lastDefinition`). A later declaration without a body and a second visit of a
record never remove, replace or duplicate it.

The proof is an invariant of the ledger, `Ledger.Tracks`, kept by each mark, one lemma per kind
of mark. `walk_keeps_last_definition` carries it to the structs a walk collects.
-/

namespace NativeBindings.Collection

/-! ## The definitions among marks -/

namespace Mark

/-- Whether a mark is a visit of a record, with a name or without one. -/
def isRecord : Mark → Bool
  | .record _ | .unnamed _ => true
  | .naming .. => false

/-- The place that a typedef's mark names. -/
def namedPlace? : Mark → Option Location
  | .naming l _ => some l
  | .record _ | .unnamed _ => none

/-- The record without a name defined at `l`, when the mark is a visit of it. -/
def unnamedDefinitionAt (l : Location) : Mark → Option Struct
  | .unnamed s => if s.location = l ∧ s.isDefinition = true then some s else none
  | .record _ | .naming .. => none

@[simp] theorem unnamedDefinitionAt_eq_some {l : Location} {m : Mark} {s : Struct} :
    m.unnamedDefinitionAt l = some s ↔ m = .unnamed s ∧ s.location = l ∧ s.isDefinition = true := by
  cases m with
  | unnamed s' =>
    by_cases h : s'.location = l ∧ s'.isDefinition = true
    · simp only [unnamedDefinitionAt, h, and_self, if_true, Option.some.injEq, Mark.unnamed.injEq]
      constructor
      · rintro rfl
        exact ⟨rfl, h⟩
      · rintro ⟨rfl, -⟩
        rfl
    · simp only [unnamedDefinitionAt, h, if_false, reduceCtorEq, false_iff, Mark.unnamed.injEq]
      rintro ⟨rfl, h'⟩
      exact h h'
  | record => simp [unnamedDefinitionAt]
  | naming => simp [unnamedDefinitionAt]

/-- The struct that a mark defines, read after the marks `pre`: a record definition defines
itself, and a typedef naming a record without a name, defined before it, defines that record
under the typedef's name. -/
def defines (pre : List Mark) : Mark → Option Struct
  | .record s => if s.isDefinition then some s else none
  | .unnamed _ => none
  | .naming l n => (pre.findSome? (unnamedDefinitionAt l)).map fun s => { s with name := n }

end Mark

/-- The structs that marks define, in order, each read after the marks before it and `pre`. -/
def definitionsAfter (pre : List Mark) : List Mark → List Struct
  | [] => []
  | m :: ms => (m.defines pre).toList ++ definitionsAfter (pre ++ [m]) ms

/-- The structs that marks define, in order. -/
def definitions (ms : List Mark) : List Struct := definitionsAfter [] ms

/-- The last struct defined under the name `n`. -/
def lastDefinition (ms : List Mark) (n : String) : Option Struct :=
  ((definitions ms).filter (·.name == n)).getLast?

theorem definitionsAfter_append (pre xs ys : List Mark) :
    definitionsAfter pre (xs ++ ys) = definitionsAfter pre xs ++ definitionsAfter (pre ++ xs) ys := by
  induction xs generalizing pre with
  | nil => simp [definitionsAfter]
  | cons m xs ih => simp [definitionsAfter, ih]

theorem definitions_concat (ms : List Mark) (m : Mark) :
    definitions (ms ++ [m]) = definitions ms ++ (m.defines ms).toList := by
  simp [definitions, definitionsAfter_append, definitionsAfter]

theorem lastDefinition_concat (ms : List Mark) (m : Mark) (n : String) :
    lastDefinition (ms ++ [m]) n =
      match m.defines ms with
      | some g => if g.name = n then some g else lastDefinition ms n
      | none => lastDefinition ms n := by
  unfold lastDefinition
  rw [definitions_concat]
  cases m.defines ms with
  | none => simp
  | some g => by_cases hg : g.name = n <;> simp [hg, List.getLast?_append]

/-- Every struct that a mark defines is a definition. -/
theorem Mark.isDefinition_of_defines {pre : List Mark} {m : Mark} {g : Struct}
    (h : m.defines pre = some g) : g.isDefinition = true := by
  cases m with
  | record s =>
    simp only [Mark.defines] at h
    split at h
    · cases h
      assumption
    · cases h
  | unnamed => cases h
  | naming l n =>
    obtain ⟨s, hs, rfl⟩ := Option.map_eq_some_iff.1 h
    obtain ⟨m, -, hm⟩ := List.exists_of_findSome?_eq_some hs
    exact (Mark.unnamedDefinitionAt_eq_some.1 hm).2.2

theorem isDefinition_of_mem_definitionsAfter {g : Struct} :
    ∀ {pre ms : List Mark}, g ∈ definitionsAfter pre ms → g.isDefinition = true
  | _, [], h => by simp [definitionsAfter] at h
  | pre, m :: ms, h => by
    rcases List.mem_append.1 h with hg | hg
    · exact Mark.isDefinition_of_defines (Option.mem_toList.1 hg)
    · exact isDefinition_of_mem_definitionsAfter hg

theorem lastDefinition_mem {ms : List Mark} {n : String} {g : Struct}
    (h : lastDefinition ms n = some g) : g ∈ definitions ms ∧ g.name = n := by
  have := List.mem_of_getLast? h
  simpa using this

/-- What the marks of a walk must satisfy for the walk to keep the last definition of each
name: the visits at one place are of one record, fields included; no record is named by two
typedefs; and a record without a name is a definition, as C has no way to declare one without
its body. -/
structure Coherent (ms : List Mark) : Prop where
  one_record : ∀ m ∈ ms, ∀ m' ∈ ms, m.isRecord → m'.isRecord → m.place = m'.place → m = m'
  one_naming : (ms.filterMap Mark.namedPlace?).Nodup
  unnamed_defined : ∀ s, Mark.unnamed s ∈ ms → s.isDefinition = true

theorem Coherent.of_sublist {ms ms' : List Mark} (h : Coherent ms') (hs : ms.Sublist ms') :
    Coherent ms where
  one_record m hm m' hm' := h.one_record m (hs.subset hm) m' (hs.subset hm')
  one_naming := h.one_naming.sublist (hs.filterMap _)
  unnamed_defined s hm := h.unnamed_defined s (hs.subset hm)

theorem Coherent.first_naming {pre : List Mark} {l : Location} {n : String}
    (hc : Coherent (pre ++ [.naming l n])) (n' : String) : Mark.naming l n' ∉ pre := by
  intro h
  have hnd := hc.one_naming
  rw [List.filterMap_append, List.nodup_append] at hnd
  exact hnd.2.2 l (List.mem_filterMap.2 ⟨_, h, rfl⟩) l (by simp [Mark.namedPlace?]) rfl

theorem Mark.defines_naming_of_mem {pre : List Mark} {n : String} {s : Struct}
    (hc : Coherent pre) (hu : Mark.unnamed s ∈ pre) (hs : s.isDefinition = true) :
    (Mark.naming s.location n).defines pre = some { s with name := n } := by
  have hf : pre.findSome? (Mark.unnamedDefinitionAt s.location) = some s := by
    cases hf : pre.findSome? (Mark.unnamedDefinitionAt s.location) with
    | none =>
      have := List.findSome?_eq_none_iff.1 hf _ hu
      simp [Mark.unnamedDefinitionAt, hs] at this
    | some s' =>
      -- the first record without a name at the place is the one visited, as one record stands there
      obtain ⟨m, hm, hms⟩ := List.exists_of_findSome?_eq_some hf
      obtain ⟨rfl, hl, -⟩ := Mark.unnamedDefinitionAt_eq_some.1 hms
      have := hc.one_record _ hm _ hu rfl rfl hl
      simp only [Mark.unnamed.injEq] at this
      rw [this]
  show Option.map _ (pre.findSome? (Mark.unnamedDefinitionAt s.location)) = _
  rw [hf]
  rfl

theorem Mark.defines_naming_eq_none {pre : List Mark} {l : Location} {n : String}
    (h : ∀ s, Mark.unnamed s ∈ pre → s.location = l → s.isDefinition = true → False) :
    (Mark.naming l n).defines pre = none := by
  show Option.map _ (pre.findSome? (Mark.unnamedDefinitionAt l)) = none
  rw [List.findSome?_eq_none_iff.2]
  · rfl
  · intro m hm
    cases hu : m.unnamedDefinitionAt l with
    | none => rfl
    | some s =>
      obtain ⟨rfl, hl, hd⟩ := Mark.unnamedDefinitionAt_eq_some.1 hu
      exact (h s hm hl hd).elim

/-! ## The ledger tracks the last definitions -/

/-- A struct is made by one of the marks `pre`: a visit of its record, or a typedef that names a
record without a name visited at its place. -/
def Sourced (pre : List Mark) (g : Struct) : Prop :=
  Mark.record g ∈ pre ∨
    (Mark.naming g.location g.name ∈ pre ∧ ∃ s, Mark.unnamed s ∈ pre ∧ s.location = g.location)

theorem Sourced.concat {pre : List Mark} {g : Struct} (h : Sourced pre g) (m : Mark) :
    Sourced (pre ++ [m]) g :=
  h.imp (List.mem_append_left _) fun ⟨hn, s, hu, hl⟩ =>
    ⟨List.mem_append_left _ hn, s, List.mem_append_left _ hu, hl⟩

/-- What the structs of a ledger say after the marks `pre`: one struct a name, the last
definition of every defined name, a definition only under a defined name, and each struct made
by a mark. -/
structure Kept (pre : List Mark) (ss : List Struct) : Prop where
  names_nodup : (ss.map (·.name)).Nodup
  last : ∀ n g, lastDefinition pre n = some g → ss.filter (·.name == n) = [g]
  defined : ∀ g ∈ ss, g.isDefinition = true → ∃ h ∈ definitions pre, h.name = g.name
  source : ∀ g ∈ ss, Sourced pre g

/-- What the records waiting for a name say after the marks `pre`: each is a record without a
name visited before, filed under its place, and each such record that no typedef has named yet
waits. -/
structure Waits (pre : List Mark) (ps : List (Location × Struct)) : Prop where
  source : ∀ p ∈ ps, Mark.unnamed p.2 ∈ pre ∧ p.2.location = p.1
  complete : ∀ s, Mark.unnamed s ∈ pre → (∀ n, Mark.naming s.location n ∉ pre) →
    ps.any (·.1 == s.location)

/-- A ledger tracks the marks `pre` when its structs and its waiting records say what they say. -/
structure Ledger.Tracks (pre : List Mark) (L : Ledger) : Prop where
  kept : Kept pre L.structs
  waits : Waits pre L.pending

section Structs

variable {ss : List Struct} {g : Struct}

theorem filter_name_of_mem (hnd : (ss.map (·.name)).Nodup) (hg : g ∈ ss) :
    ss.filter (·.name == g.name) = [g] := by
  induction ss with
  | nil => simp at hg
  | cons a ss ih =>
    rw [List.map_cons, List.nodup_cons] at hnd
    rcases List.mem_cons.1 hg with rfl | hg
    · have : ss.filter (·.name == g.name) = [] :=
        List.filter_eq_nil_iff.2 fun b hb hbg => hnd.1 (List.mem_map.2 ⟨b, hb, by simpa using hbg⟩)
      simp [this]
    · have ha : a.name ≠ g.name := fun he => hnd.1 (he ▸ List.mem_map_of_mem hg)
      simp [ha, ih hnd.2 hg]

theorem Ledger.addStruct_of_taken (h : ss.any (·.location == g.location) = true) :
    Ledger.addStruct ss g = ss :=
  if_pos h

theorem Ledger.addStruct_of_free (h : ¬ss.any (·.location == g.location) = true) :
    Ledger.addStruct ss g = ss.filter (fun d => !(d.name == g.name)) ++ [g] :=
  if_neg h

theorem Ledger.mem_addStruct {x : Struct} (hx : x ∈ Ledger.addStruct ss g) : x ∈ ss ∨ x = g := by
  unfold Ledger.addStruct at hx
  split at hx
  · exact .inl hx
  · simp only [List.mem_append, List.mem_filter, List.mem_singleton] at hx
    exact hx.imp And.left id

theorem Ledger.names_nodup_addStruct (h : (ss.map (·.name)).Nodup) :
    ((Ledger.addStruct ss g).map (·.name)).Nodup := by
  unfold Ledger.addStruct
  split
  · exact h
  · rw [List.map_append, List.nodup_append]
    refine ⟨(h.sublist (List.filter_sublist.map _)), by simp, ?_⟩
    -- the structs kept are those of other names
    intro a ha b hb
    obtain ⟨x, hx, rfl⟩ := List.mem_map.1 ha
    rw [List.map_singleton, List.mem_singleton] at hb
    subst hb
    simpa using (List.mem_filter.1 hx).2

theorem Ledger.filter_addStruct_of_ne {n : String} (hn : g.name ≠ n) :
    (Ledger.addStruct ss g).filter (·.name == n) = ss.filter (·.name == n) := by
  unfold Ledger.addStruct
  split
  · rfl
  · rw [List.filter_append, List.filter_filter]
    simp only [List.filter_cons, List.filter_nil, beq_iff_eq, hn, ↓reduceIte, List.append_nil]
    congr 1
    funext d
    by_cases h₁ : d.name = n <;> by_cases h₂ : d.name = g.name <;> simp_all

theorem Ledger.filter_addStruct_self (h : ¬ss.any (·.location == g.location) = true) :
    (Ledger.addStruct ss g).filter (·.name == g.name) = [g] := by
  rw [Ledger.addStruct_of_free h, List.filter_append, List.filter_filter]
  simp

end Structs

section Step

variable {pre : List Mark} {m : Mark} {ss : List Struct} {ps : List (Location × Struct)}

theorem mem_definitions_concat {g : Struct} (h : g ∈ definitions pre) :
    g ∈ definitions (pre ++ [m]) := by
  rw [definitions_concat]
  exact List.mem_append_left _ h

/-- A mark that leaves the structs alone keeps them tracked, if what it defines is there. -/
theorem Kept.concat_same (hK : Kept pre ss)
    (hdef : ∀ g, m.defines pre = some g → ss.filter (·.name == g.name) = [g]) :
    Kept (pre ++ [m]) ss where
  names_nodup := hK.names_nodup
  last n g h := by
    rw [lastDefinition_concat] at h
    cases hm : m.defines pre with
    | none => simp only [hm] at h; exact hK.last n g h
    | some g' =>
      simp only [hm] at h
      split at h
      · rename_i hn
        cases h
        rw [← hn]
        exact hdef _ hm
      · exact hK.last n g h
  defined g hg hd := by
    obtain ⟨h, hh, he⟩ := hK.defined g hg hd
    exact ⟨h, mem_definitions_concat hh, he⟩
  source g hg := (hK.source g hg).concat m

/-- A mark that adds a struct at a free place keeps the structs tracked, if the struct is what
the mark defines, unless it is a declaration without a body, which no definition came before. -/
theorem Kept.concat_add {g : Struct} (hK : Kept pre ss)
    (hfree : ¬ss.any (·.location == g.location) = true)
    (hdef : m.defines pre = if g.isDefinition then some g else none) (hsrc : Sourced (pre ++ [m]) g)
    (hfwd : g.isDefinition = false → lastDefinition pre g.name = none) :
    Kept (pre ++ [m]) (Ledger.addStruct ss g) where
  names_nodup := Ledger.names_nodup_addStruct hK.names_nodup
  last n g' h := by
    rw [lastDefinition_concat, hdef] at h
    by_cases hn : g.name = n
    · subst hn
      rw [Ledger.filter_addStruct_self hfree]
      cases hd : g.isDefinition
      · simp [hd, hfwd hd] at h
      · simp only [hd, ↓reduceIte, Option.some.injEq] at h
        rw [h]
    · rw [Ledger.filter_addStruct_of_ne hn]
      apply hK.last n g'
      cases hd : g.isDefinition <;> simp_all
  defined g' hg' hd' := by
    rcases Ledger.mem_addStruct hg' with hg' | rfl
    · obtain ⟨h, hh, he⟩ := hK.defined g' hg' hd'
      exact ⟨h, mem_definitions_concat hh, he⟩
    · refine ⟨g', ?_, rfl⟩
      rw [definitions_concat, hdef, if_pos hd']
      simp
  source g' hg' := by
    rcases Ledger.mem_addStruct hg' with hg' | rfl
    · exact (hK.source g' hg').concat m
    · exact hsrc

/-- The struct at the place of a visited record is that record, as one record stands at a place. -/
theorem Kept.record_at {s : Struct} (hK : Kept pre ss) (hc : Coherent (pre ++ [.record s]))
    {g : Struct} (hg : g ∈ ss) (hl : g.location = s.location) : g = s := by
  rcases hK.source g hg with hr | ⟨-, s', hu, hl'⟩
  · have := hc.one_record (.record g) (List.mem_append_left _ hr) (.record s) (by simp) rfl rfl hl
    simpa using this
  · have := hc.one_record (.unnamed s') (List.mem_append_left _ hu) (.record s) (by simp) rfl rfl
      (hl'.trans hl)
    simp at this

/-- No struct stands at the place of a record without a name that no typedef has named yet. -/
theorem Kept.free_of_unnamed {s : Struct} (hK : Kept pre ss) (hc : Coherent (pre ++ [m]))
    (hu : Mark.unnamed s ∈ pre ++ [m]) (hfirst : ∀ n, Mark.naming s.location n ∉ pre) :
    ¬ss.any (·.location == s.location) = true := by
  simp only [List.any_eq_true, beq_iff_eq, not_exists, not_and]
  intro g hg hl
  rcases hK.source g hg with hr | ⟨hn, -⟩
  · have := hc.one_record _ (List.mem_append_left _ hr) _ hu rfl rfl hl
    simp at this
  · exact hfirst _ (hl ▸ hn)

/-- A name whose struct in the ledger is no definition has had no definition yet. -/
theorem Kept.lastDefinition_eq_none (hK : Kept pre ss) {n : String}
    (h : ¬(ss.find? (·.name == n)).any (·.isDefinition) = true) : lastDefinition pre n = none := by
  cases hlast : lastDefinition pre n with
  | none => rfl
  | some g =>
    have hfind : ss.find? (·.name == n) = some g := by
      rw [← List.head?_filter, hK.last _ g hlast]
      rfl
    have hg : g.isDefinition = true :=
      isDefinition_of_mem_definitionsAfter (lastDefinition_mem hlast).1
    simp [hfind, hg] at h

theorem Waits.concat_same (hW : Waits pre ps)
    (hm : ∀ s, m = .unnamed s → (∀ n, Mark.naming s.location n ∉ pre) → ps.any (·.1 == s.location)) :
    Waits (pre ++ [m]) ps where
  source p hp := ⟨List.mem_append_left _ (hW.source p hp).1, (hW.source p hp).2⟩
  complete s hu hn := by
    have hn' : ∀ n, Mark.naming s.location n ∉ pre := fun n h => hn n (List.mem_append_left _ h)
    rcases List.mem_append.1 hu with hu | hu
    · exact hW.complete s hu hn'
    · exact hm s (List.mem_singleton.1 hu).symm hn'

theorem Waits.concat_unnamed {s : Struct} (hW : Waits pre ps) :
    Waits (pre ++ [.unnamed s]) (ps ++ [(s.location, s)]) where
  source p hp := by
    rcases List.mem_append.1 hp with hp | hp
    · exact ⟨List.mem_append_left _ (hW.source p hp).1, (hW.source p hp).2⟩
    · simp [List.mem_singleton.1 hp]
  complete s' hu hn := by
    rcases List.mem_append.1 hu with hu | hu
    · simp only [List.any_append, hW.complete s' hu fun n h => hn n (List.mem_append_left _ h),
        Bool.true_or]
    · simp only [List.mem_singleton, Mark.unnamed.injEq] at hu
      simp [hu]

theorem Waits.concat_naming {l : Location} {n : String} (hW : Waits pre ps) :
    Waits (pre ++ [.naming l n]) (ps.filter fun p => !(p.1 == l)) where
  source p hp :=
    ⟨List.mem_append_left _ (hW.source p (List.mem_filter.1 hp).1).1,
      (hW.source p (List.mem_filter.1 hp).1).2⟩
  complete s hu hn := by
    have hu : Mark.unnamed s ∈ pre := by simpa using hu
    have hl : s.location ≠ l := by
      intro he
      exact hn n (by simp [he])
    obtain ⟨p, hp, hpl⟩ := List.any_eq_true.1
      (hW.complete s hu fun n h => hn n (List.mem_append_left _ h))
    refine List.any_eq_true.2 ⟨p, List.mem_filter.2 ⟨hp, ?_⟩, hpl⟩
    simp only [beq_iff_eq] at hpl
    simp [hpl, hl]

end Step

section Apply

variable {pre : List Mark} {L : Ledger}

theorem Ledger.Tracks.apply_record {s : Struct} (hc : Coherent (pre ++ [.record s]))
    (hT : L.Tracks pre) : (L.apply (.record s)).Tracks (pre ++ [.record s]) := by
  have hwaits : Waits (pre ++ [.record s]) L.pending := hT.waits.concat_same (by simp)
  rw [Ledger.apply]
  by_cases hkeep : (!s.isDefinition && (L.structs.find? (·.name == s.name)).any
      (·.isDefinition)) = true
  · -- a declaration without a body after a definition of its name
    rw [if_pos hkeep]
    have hd : s.isDefinition = false := by simpa using (Bool.and_eq_true_iff.1 hkeep).1
    refine ⟨hT.kept.concat_same ?_, hwaits⟩
    simp [Mark.defines, hd]
  rw [if_neg hkeep]
  by_cases htaken : L.structs.any (·.location == s.location) = true
  · -- a second visit of the record: it is there already
    obtain ⟨g, hg, hgl⟩ := List.any_eq_true.1 htaken
    have hself := hT.kept.record_at hc hg (by simpa using hgl)
    subst hself
    refine ⟨?_, hwaits⟩
    show Kept _ (Ledger.addStruct L.structs _)
    rw [Ledger.addStruct_of_taken htaken]
    refine hT.kept.concat_same fun g' hg' => ?_
    simp only [Mark.defines] at hg'
    split at hg'
    · cases hg'
      exact filter_name_of_mem hT.kept.names_nodup hg
    · cases hg'
  · -- a declaration without a body is added only where its name has no definition
    refine ⟨hT.kept.concat_add htaken rfl (.inl (by simp)) fun hd => ?_, hwaits⟩
    exact hT.kept.lastDefinition_eq_none fun h => hkeep (by simp [hd, h])

theorem Ledger.Tracks.apply_unnamed {s : Struct} (hc : Coherent (pre ++ [.unnamed s]))
    (hT : L.Tracks pre) : (L.apply (.unnamed s)).Tracks (pre ++ [.unnamed s]) := by
  have hkept : Kept (pre ++ [.unnamed s]) L.structs :=
    hT.kept.concat_same (by simp [Mark.defines])
  rw [Ledger.apply]
  split
  · rename_i hskip
    refine ⟨hkept, hT.waits.concat_same ?_⟩
    rintro s' ⟨⟩ hfirst
    -- a record without a name not yet named: what stops it waiting is that it waits already
    have hfree := hT.kept.free_of_unnamed hc (List.mem_append_right _ (List.mem_singleton_self _))
      hfirst
    simpa [hfree] using hskip
  · exact ⟨hkept, hT.waits.concat_unnamed⟩

theorem Ledger.Tracks.apply_naming {l : Location} {n : String}
    (hc : Coherent (pre ++ [.naming l n])) (hT : L.Tracks pre) :
    (L.apply (.naming l n)).Tracks (pre ++ [.naming l n]) := by
  have hfirst := hc.first_naming
  rw [Ledger.apply]
  split
  · rename_i l₀ s hp
    -- the record waiting at `l` is the one visited there, a definition
    have hl : l₀ = l := by simpa using List.find?_some hp
    subst hl
    obtain ⟨hu, hsl⟩ := hT.waits.source _ (List.mem_of_find?_eq_some hp)
    simp only at hu hsl
    subst hsl
    have hd : s.isDefinition = true := hc.unnamed_defined _ (List.mem_append_left _ hu)
    have hfree := hT.kept.free_of_unnamed hc (List.mem_append_left _ hu) hfirst
    have hdef : (Mark.naming s.location n).defines pre = some { s with name := n } :=
      Mark.defines_naming_of_mem (hc.of_sublist (List.sublist_append_left _ _)) hu hd
    refine ⟨?_, hT.waits.concat_naming⟩
    exact hT.kept.concat_add (by simpa using hfree) (by simpa [hd] using hdef)
      (.inr ⟨by simp, s, List.mem_append_left _ hu, rfl⟩) (by simp [hd])
  · rename_i hp
    -- no record without a name was visited at `l`: it would still wait
    have hnone : ∀ s, Mark.unnamed s ∈ pre → s.location = l → s.isDefinition = true → False := by
      intro s hu hl _
      subst hl
      obtain ⟨p, hp', hpl⟩ := List.any_eq_true.1 (hT.waits.complete s hu hfirst)
      exact (List.find?_eq_none.1 hp) p hp' hpl
    refine ⟨hT.kept.concat_same ?_, hT.waits.concat_same (by simp)⟩
    simp [Mark.defines_naming_eq_none hnone]

/-- One mark keeps the ledger tracking. -/
theorem Ledger.Tracks.apply {m : Mark} (hc : Coherent (pre ++ [m])) (hT : L.Tracks pre) :
    (L.apply m).Tracks (pre ++ [m]) := by
  cases m with
  | record s => exact hT.apply_record hc
  | unnamed s => exact hT.apply_unnamed hc
  | naming l n => exact hT.apply_naming hc

/-- Coherent marks keep the ledger tracking, one after another. -/
theorem Ledger.Tracks.foldl {ms : List Mark} (hc : Coherent (pre ++ ms)) (hT : L.Tracks pre) :
    (ms.foldl Ledger.apply L).Tracks (pre ++ ms) := by
  induction ms generalizing pre L with
  | nil => simpa using hT
  | cons m ms ih =>
    have hc' : Coherent (pre ++ [m] ++ ms) := by simpa using hc
    have := ih hc' (hT.apply (hc'.of_sublist (List.sublist_append_left _ _)))
    simpa using this

end Apply

theorem Ledger.Tracks.empty : Ledger.empty.Tracks [] where
  kept := ⟨List.nodup_nil, by simp [lastDefinition, definitions, definitionsAfter],
    fun _ hg => absurd hg List.not_mem_nil, fun _ hg => absurd hg List.not_mem_nil⟩
  waits := ⟨fun _ hp => absurd hp List.not_mem_nil, fun _ hu => absurd hu List.not_mem_nil⟩

/-- After coherent marks, the one struct of each defined name is its last definition. -/
theorem foldl_apply_lastDefinition {ms : List Mark} (hc : Coherent ms) {n : String} {g : Struct}
    (h : lastDefinition ms n = some g) :
    (ms.foldl Ledger.apply .empty).structs.filter (·.name == n) = [g] := by
  have hT : (ms.foldl Ledger.apply .empty).Tracks ([] ++ ms) :=
    Ledger.Tracks.foldl (by simpa using hc) Ledger.Tracks.empty
  exact hT.kept.last n g (by simpa using h)

-- A typedef names a record defined without a name; a second visit of that record and a later
-- declaration without a body under the same name leave the named definition as it was.
example :
    ([Mark.unnamed ⟨"", ⟨none, 1, 9⟩, [⟨"x", "int"⟩], false, true⟩, .naming ⟨none, 1, 9⟩ "A",
      .unnamed ⟨"", ⟨none, 1, 9⟩, [⟨"x", "int"⟩], false, true⟩,
      .record ⟨"A", ⟨none, 2, 8⟩, [], false, false⟩].foldl Ledger.apply .empty).structs =
      [⟨"A", ⟨none, 1, 9⟩, [⟨"x", "int"⟩], false, true⟩] := by
  decide

/-! ## A walk keeps the last definition of each name -/

/-- After a walk, each name that the walked declarations define names exactly one collected
struct, the name's last definition with its fields, when no walked record holds a visit of its
own place and the marks of the walked declarations are coherent. -/
theorem walk_keeps_last_definition {fe : Header.Frontend} {tree : Files.Tree} {config : Config} {sources : List String}
    {c : Collected} {ws : List String} (h : walk fe tree config sources = .ok (c, ws)) :
    ∀ V ds, ExpandsAll ⟨fe, tree, config⟩ (searchRoots tree config sources) [] (sources.map tree.resolve)
        V ds →
      (∀ d ∈ ds, Visit.AllApart d.visits) → Coherent (ds.flatMap Walked.marks) →
      ∀ n g, lastDefinition (ds.flatMap Walked.marks) n = some g →
        c.declarations.structs.filter (·.name == n) = [g] := by
  obtain ⟨w, V, ds, rfl, he, -, hl⟩ :=
    walk_carries carried_ledger (fun _ => ⟨⟨Collector.inv_empty, by simp⟩, fun _ => rfl⟩) h
  intro V' ds' he' hap hc n g hg
  obtain ⟨-, rfl⟩ := ExpandsAll.det he he'
  have hkept := foldl_apply_lastDefinition hc hg
  rw [← hl hap] at hkept
  exact hkept

/-- The marks of the sample cycle are coherent: the record without a name is visited twice with
the same fields and named once, and the declaration of `P` without a body stands elsewhere. -/
theorem Cycle.coherent : Coherent Cycle.marks where
  one_record := by decide
  one_naming := by decide
  unnamed_defined s hs := by
    simp only [Cycle.marks, List.mem_cons, Mark.unnamed.injEq, List.not_mem_nil, reduceCtorEq,
      or_false, false_or] at hs
    rcases hs with rfl | rfl <;> rfl

/-- The walk of the sample cycle keeps the last definition of each name: `P` with its field, not
the later declaration without a body, and `Q`, the record without a name that its typedef names,
once although the record is visited twice. -/
theorem cycle_keeps_last_definition :
    walk Cycle.frontend Cycle.tree {} ["a.h"] = .ok (Cycle.collected, Cycle.warnings) ∧
      ExpandsAll ⟨Cycle.frontend, Cycle.tree, {}⟩ (searchRoots Cycle.tree {} ["a.h"]) []
        (["a.h"].map Cycle.tree.resolve) [Cycle.pathA, Cycle.pathB] Cycle.walked ∧
      (∀ d ∈ Cycle.walked, Visit.AllApart d.visits) ∧
      Coherent (Cycle.walked.flatMap Walked.marks) ∧
      lastDefinition (Cycle.walked.flatMap Walked.marks) "Q" =
        some ⟨"Q", Cycle.locQ, [⟨"y", "int"⟩], false, true⟩ ∧
      ∀ n g, lastDefinition (Cycle.walked.flatMap Walked.marks) n = some g →
        Cycle.collected.declarations.structs.filter (·.name == n) = [g] := by
  have hc : Coherent (Cycle.walked.flatMap Walked.marks) := Cycle.walked_marks ▸ Cycle.coherent
  refine ⟨Cycle.walk_eq, Cycle.expands, Cycle.allApart, hc, ?_,
    walk_keeps_last_definition Cycle.walk_eq _ _ Cycle.expands Cycle.allApart hc⟩
  rw [Cycle.walked_marks]
  rfl

end NativeBindings.Collection
