import NativeBindings.Declaration.Collector
import Mathlib.Data.List.Nodup

/-!
# The location cache of the declaration collector

A collector keeps its declarations in a list and, beside it, the locations of the structs it
holds, so that `hasStructAt` needs no scan. The cache is only worth keeping if it never
disagrees with the list. `Collector.Inv` says what makes that so:

* **the cache holds exactly the locations of the collected structs**, no more and no fewer;
* **no two collected structs share a location**, which is what lets `addStruct` drop the
  locations of the structs it removes without dropping one that a kept struct still stands at;
* **no two collected structs share a name**, because a struct that is accepted removes every
  struct of its name before it is appended.

Every operation keeps `Inv`, and the empty collector has it. The rest of this file is the
lemmas that describe each operation through the views `structs` and `functions`, so that the
refinement and invariant theorems never unfold an operation again.
-/

namespace NativeBindings

namespace Declaration

@[simp] theorem struct?_struct (s : Struct) : (Declaration.struct s).struct? = some s := rfl

@[simp] theorem struct?_function (f : Function) : (Declaration.function f).struct? = none := rfl

@[simp] theorem function?_struct (s : Struct) : (Declaration.struct s).function? = none := rfl

@[simp] theorem function?_function (f : Function) :
    (Declaration.function f).function? = some f := rfl

@[simp] theorem isStructNamed_struct (n : String) (s : Struct) :
    (Declaration.struct s).isStructNamed n = (s.name == n) := rfl

@[simp] theorem isStructNamed_function (n : String) (f : Function) :
    (Declaration.function f).isStructNamed n = false := rfl

/-- Dropping the structs of a name leaves the structs of the other names, in order. -/
theorem structs_filter_not_named (n : String) (ds : List Declaration) :
    (ds.filter (fun d => !d.isStructNamed n)).filterMap struct? =
      (ds.filterMap struct?).filter (fun s => !(s.name == n)) := by
  induction ds with
  | nil => rfl
  | cons d ds ih =>
    cases d with
    | struct s => by_cases h : s.name = n <;> simp [List.filter_cons, h, ih]
    | function f => simp [List.filterMap_cons, ih]

/-- Dropping the structs of a name keeps every function where it stood. -/
theorem functions_filter_not_named (n : String) (ds : List Declaration) :
    (ds.filter (fun d => !d.isStructNamed n)).filterMap function? = ds.filterMap function? := by
  induction ds with
  | nil => rfl
  | cons d ds ih =>
    cases d with
    | struct s => by_cases h : s.name = n <;> simp [List.filter_cons, List.filterMap_cons, h, ih]
    | function f => simp [ih]

end Declaration

/-- A struct less its fields: what adding a field never changes. -/
def Struct.header (s : Struct) : String × Location × Bool × Bool :=
  (s.name, s.location, s.isUnion, s.isDefinition)

@[simp] theorem Struct.header_addField (s : Struct) (name type : String) :
    (s.addField name type).header = s.header := rfl

@[simp] theorem Struct.header_name (s : Struct) : s.header.1 = s.name := rfl

@[simp] theorem Struct.header_location (s : Struct) : s.header.2.1 = s.location := rfl

@[simp] theorem Struct.header_isDefinition (s : Struct) : s.header.2.2.2 = s.isDefinition := rfl

namespace Collector

open Declaration

/-! ## Updating the first struct that matches -/

section UpdateFirst

variable {p : Struct → Bool} {g : Struct → Struct}

/-- Changing a struct in place leaves every function where it stood. -/
theorem functions_updateFirst (ds : List Declaration) :
    (updateFirst p g ds).filterMap function? = ds.filterMap function? := by
  induction ds with
  | nil => rfl
  | cons d ds ih =>
    cases d with
    | struct s => by_cases h : p s = true <;> simp [updateFirst, List.filterMap_cons, h, ih]
    | function f => simp [updateFirst, ih]

/-- Changing a struct in place keeps whatever of each struct the change keeps. -/
theorem structs_updateFirst_map {β : Type} (k : Struct → β) (hk : ∀ s, k (g s) = k s)
    (ds : List Declaration) :
    ((updateFirst p g ds).filterMap struct?).map k = (ds.filterMap struct?).map k := by
  induction ds with
  | nil => rfl
  | cons d ds ih =>
    cases d with
    | struct s => by_cases h : p s = true <;> simp [updateFirst, h, ih, hk]
    | function f => simp [updateFirst, List.filterMap_cons, ih]

/-- When at most one struct matches, changing the first one that matches changes each one. -/
theorem structs_updateFirst (ds : List Declaration)
    (hp : ((ds.filterMap struct?).filter p).length ≤ 1) :
    (updateFirst p g ds).filterMap struct? = (ds.filterMap struct?).map fun s => if p s then g s else s := by
  induction ds with
  | nil => rfl
  | cons d ds ih =>
    cases d with
    | struct s =>
      by_cases h : p s = true
      · -- no later struct matches
        have hnone : (ds.filterMap struct?).filter p = [] := by
          simp only [List.filterMap_cons, struct?_struct, List.filter_cons, h, if_true,
            List.length_cons] at hp
          exact List.eq_nil_of_length_eq_zero (by omega)
        have hrest : ((ds.filterMap struct?).map fun s => if p s then g s else s) =
            ds.filterMap struct? := by
          conv_rhs => rw [← List.map_id (ds.filterMap struct?)]
          apply List.map_congr_left
          intro d hd
          have : p d = false := by
            simpa using List.filter_eq_nil_iff.1 hnone d hd
          simp [this]
        simp [updateFirst, h, hrest]
      · simp only [List.filterMap_cons, struct?_struct, List.filter_cons, h, Bool.false_eq_true,
          if_false] at hp
        simp [updateFirst, h, ih hp]
    | function f =>
      simp only [List.filterMap_cons, struct?_function] at hp
      simp only [updateFirst, List.filterMap_cons, struct?_function]
      exact ih hp

end UpdateFirst

@[simp] theorem name_addField (s : Struct) (name type : String) :
    (s.addField name type).name = s.name := rfl

@[simp] theorem location_addField (s : Struct) (name type : String) :
    (s.addField name type).location = s.location := rfl

/-! ## The operations through the views -/

variable {c : Collector} {s : Struct}

@[simp] theorem structs_empty : empty.structs = [] := rfl

@[simp] theorem functions_empty : empty.functions = [] := rfl

theorem addStruct_of_hasStructAt (h : c.hasStructAt s.location = true) :
    c.addStruct s = (false, c) := by
  simp [addStruct, h]

theorem addStruct_of_not_hasStructAt (h : c.hasStructAt s.location = false) :
    c.addStruct s =
      (true, ⟨c.declarations.filter (fun d => !d.isStructNamed s.name) ++ [.struct s],
        c.locations.filter (fun l => !((c.structs.filter (·.name == s.name)).any
          (·.location == l))) ++ [s.location]⟩) := by
  simp [addStruct, h]

/-- An accepted struct replaces the structs of its name and goes to the end. -/
theorem structs_addStruct (h : c.hasStructAt s.location = false) :
    (c.addStruct s).2.structs = c.structs.filter (fun d => !(d.name == s.name)) ++ [s] := by
  rw [addStruct_of_not_hasStructAt h]
  simp [structs, structs_filter_not_named]

/-- Adding a struct, accepted or not, leaves every function where it stood. -/
@[simp] theorem functions_addStruct (c : Collector) (s : Struct) :
    (c.addStruct s).2.functions = c.functions := by
  by_cases h : c.hasStructAt s.location = true
  · rw [addStruct_of_hasStructAt h]
  · rw [addStruct_of_not_hasStructAt (by simpa using h)]
    simp [functions, functions_filter_not_named]

@[simp] theorem structs_addFunction (c : Collector) (f : Function) :
    (c.addFunction f).structs = c.structs := by
  simp [addFunction, structs]

@[simp] theorem functions_addFunction (c : Collector) (f : Function) :
    (c.addFunction f).functions = c.functions ++ [f] := by
  simp [addFunction, functions]

@[simp] theorem locations_addFunction (c : Collector) (f : Function) :
    (c.addFunction f).locations = c.locations := rfl

theorem addField_eq_none_iff {n name type : String} :
    c.addField n name type = none ↔ c.getStruct? n = none := by
  unfold addField
  split <;> simp_all

theorem addField_eq_some {n name type : String} {c' : Collector}
    (h : c.addField n name type = some c') :
    c'.declarations = updateFirst (·.name == n) (·.addField name type) c.declarations ∧
      c'.locations = c.locations := by
  unfold addField at h
  split at h
  · cases h
  · cases h
    exact ⟨rfl, rfl⟩

/-- Adding a field keeps the name and the location of every struct. -/
theorem structs_map_addFieldAt {β : Type} (k : Struct → β)
    (hk : ∀ s name type, k (s.addField name type) = k s) (l : Location) (name type : String) :
    (c.addFieldAt l name type).structs.map k = c.structs.map k :=
  structs_updateFirst_map k (fun s => hk s name type) c.declarations

@[simp] theorem functions_addFieldAt (l : Location) (name type : String) :
    (c.addFieldAt l name type).functions = c.functions :=
  functions_updateFirst c.declarations

@[simp] theorem locations_addFieldAt (l : Location) (name type : String) :
    (c.addFieldAt l name type).locations = c.locations := rfl

/-! ## The invariant -/

/-- What every collector built by its operations satisfies. -/
structure Inv (c : Collector) : Prop where
  /-- The cache holds exactly the locations of the collected structs. -/
  cache : ∀ l, l ∈ c.locations ↔ l ∈ c.structs.map (·.location)
  /-- No two collected structs share a location. -/
  locations_nodup : (c.structs.map (·.location)).Nodup
  /-- No two collected structs share a name. -/
  names_nodup : (c.structs.map (·.name)).Nodup

theorem inv_empty : Inv empty := ⟨fun l => by simp [empty, structs], by simp, by simp⟩

/-- The invariant only looks at the cache and at the names and locations of the structs. -/
theorem Inv.of_views {c' : Collector} (h : Inv c) (hl : c'.locations = c.locations)
    (hloc : c'.structs.map (·.location) = c.structs.map (·.location))
    (hname : c'.structs.map (·.name) = c.structs.map (·.name)) : Inv c' where
  cache l := by rw [hl, hloc]; exact h.cache l
  locations_nodup := hloc ▸ h.locations_nodup
  names_nodup := hname ▸ h.names_nodup

theorem Inv.eq_of_location_eq (h : Inv c) {d d' : Struct} (hd : d ∈ c.structs)
    (hd' : d' ∈ c.structs) (he : d.location = d'.location) : d = d' :=
  List.inj_on_of_nodup_map h.locations_nodup hd hd' he

theorem Inv.eq_of_name_eq (h : Inv c) {d d' : Struct} (hd : d ∈ c.structs)
    (hd' : d' ∈ c.structs) (he : d.name = d'.name) : d = d' :=
  List.inj_on_of_nodup_map h.names_nodup hd hd' he

/-- Under the invariant the cache answers as a scan of the structs would. -/
theorem Inv.hasStructAt_iff (h : Inv c) (l : Location) :
    c.hasStructAt l = true ↔ ∃ d ∈ c.structs, d.location = l := by
  simp [hasStructAt, h.cache l]

/-- At most one struct of a list with distinct places stands at a place. -/
theorem length_filter_location_le {ss : List Struct} (hnd : (ss.map (·.location)).Nodup)
    (l : Location) : (ss.filter (·.location == l)).length ≤ 1 := by
  induction ss with
  | nil => simp
  | cons s ss ih =>
    rw [List.map_cons, List.nodup_cons] at hnd
    by_cases hs : s.location = l
    · have : ss.filter (·.location == l) = [] :=
        List.filter_eq_nil_iff.2 fun d hd hdl =>
          hnd.1 (List.mem_map.2 ⟨d, hd, by simpa [hs] using hdl⟩)
      simp [hs, this]
    · simpa [hs] using ih hnd.2

/-- Under the invariant a field goes to the one struct at its place. -/
theorem Inv.structs_addFieldAt (h : Inv c) (l : Location) (name type : String) :
    (c.addFieldAt l name type).structs =
      c.structs.map fun s => if s.location == l then s.addField name type else s :=
  structs_updateFirst c.declarations (length_filter_location_le h.locations_nodup l)

/-- Under the invariant the location cache answers as a search of the structs would. -/
theorem Inv.hasStructAt_eq_any (h : Inv c) (l : Location) :
    c.hasStructAt l = c.structs.any (·.location == l) := by
  apply Bool.eq_iff_iff.2
  rw [h.hasStructAt_iff]
  simp

/-- Under the invariant the first struct of a name is the only one. -/
theorem Inv.getStruct?_eq_some_iff (h : Inv c) {n : String} {d : Struct} :
    c.getStruct? n = some d ↔ d ∈ c.structs ∧ d.name = n := by
  constructor
  · intro hd
    exact ⟨List.mem_of_find?_eq_some hd, by simpa using List.find?_some hd⟩
  · rintro ⟨hd, rfl⟩
    cases hf : c.getStruct? d.name with
    | none =>
      have := List.find?_eq_none.1 hf d hd
      simp at this
    | some d' =>
      have hd' : d' ∈ c.structs := List.mem_of_find?_eq_some hf
      have hn : d'.name = d.name := by simpa using List.find?_some hf
      rw [h.eq_of_name_eq hd' hd hn]

/-- A location stays in the cache after the structs of a name are removed exactly when a struct
of another name stands there: no removed struct can share it with a kept one. -/
theorem Inv.located_kept_iff (h : Inv c) (n : String) (l : Location) :
    (l ∈ c.locations ∧ ∀ d, d ∈ c.structs → d.name = n → ¬d.location = l) ↔
      ∃ d, (d ∈ c.structs ∧ ¬d.name = n) ∧ d.location = l := by
  rw [h.cache l, List.mem_map]
  constructor
  · rintro ⟨⟨d, hd, rfl⟩, hkept⟩
    exact ⟨d, ⟨hd, fun hn => hkept d hd hn rfl⟩, rfl⟩
  · rintro ⟨d, ⟨hd, hn⟩, rfl⟩
    refine ⟨⟨d, hd, rfl⟩, fun d' hd' hn' he => hn ?_⟩
    rw [← h.eq_of_location_eq hd' hd he, hn']

/-- A struct that the collector accepts stands at a location no collected struct has. -/
theorem Inv.location_not_mem (h : Inv c) (hs : c.hasStructAt s.location = false) :
    s.location ∉ c.structs.map (·.location) := by
  intro hm
  have := (h.cache _).2 hm
  simp [hasStructAt, this] at hs

theorem Inv.addStruct (h : Inv c) (s : Struct) : Inv (c.addStruct s).2 := by
  by_cases hs : c.hasStructAt s.location = true
  · rw [addStruct_of_hasStructAt hs]; exact h
  have hs' : c.hasStructAt s.location = false := by simpa using hs
  have hnew := h.location_not_mem hs'
  -- the structs that stay are a part of the old ones, so they keep their distinct keys
  have hsub : (c.structs.filter (fun d => !(d.name == s.name))).Sublist c.structs :=
    List.filter_sublist
  refine ⟨fun l => ?_, ?_, ?_⟩
  · rw [structs_addStruct hs', addStruct_of_not_hasStructAt hs']
    simpa using or_congr_left (h.located_kept_iff s.name l)
  · rw [structs_addStruct hs', List.map_append, List.nodup_append]
    refine ⟨h.locations_nodup.sublist (hsub.map _), by simp, ?_⟩
    intro a ha b hb
    simp only [List.map_cons, List.map_nil, List.mem_singleton] at hb
    subst hb
    rintro rfl
    exact hnew ((hsub.map _).subset ha)
  · rw [structs_addStruct hs', List.map_append, List.nodup_append]
    refine ⟨h.names_nodup.sublist (hsub.map _), by simp, ?_⟩
    intro a ha b hb
    simp only [List.map_cons, List.map_nil, List.mem_singleton] at hb
    subst hb
    obtain ⟨d, hd, rfl⟩ := List.mem_map.1 ha
    simpa using (List.mem_filter.1 hd).2

theorem Inv.addFunction (h : Inv c) (f : Function) : Inv (c.addFunction f) :=
  h.of_views rfl (by simp) (by simp)

theorem Inv.addFieldAt (h : Inv c) (l : Location) (name type : String) :
    Inv (c.addFieldAt l name type) :=
  h.of_views rfl (structs_map_addFieldAt _ (fun _ _ _ => rfl) l name type)
    (structs_map_addFieldAt _ (fun _ _ _ => rfl) l name type)

theorem Inv.addField (h : Inv c) {n name type : String} {c' : Collector}
    (hc : c.addField n name type = some c') : Inv c' := by
  obtain ⟨hd, hl⟩ := addField_eq_some hc
  have hk : ∀ {β : Type} (k : Struct → β), (∀ s, k (s.addField name type) = k s) →
      c'.structs.map k = c.structs.map k := by
    intro β k hk
    simp only [structs, hd]
    exact structs_updateFirst_map k hk c.declarations
  exact h.of_views hl (hk _ (fun _ => rfl)) (hk _ (fun _ => rfl))

/-! ## Requests

What the callers of a collector do with it, one request at a time: the three operations that
change it (a field is added to the struct that `getStruct?` finds, in place) and the queries.
-/

/-- A request to a collector. -/
inductive Request where
  | addStruct (s : Struct)
  | addFunction (f : Function)
  /-- A field added to the first struct of a name. -/
  | addField (structName name type : String)
  | hasStructAt (l : Location)
  | getStruct (name : String)
  | structs
  | functions
  | size

/-- What a request answers. -/
inductive Answer where
  /-- Whether a struct was accepted, a field found its struct, or a struct stands somewhere. -/
  | flag (b : Bool)
  | done
  | struct? (s : Option Struct)
  | structs (ss : List Struct)
  | functions (fs : List Function)
  | count (n : Nat)
deriving DecidableEq

/-- Serves a request: its answer, and the collector after it. -/
def serve (c : Collector) : Request → Answer × Collector
  | .addStruct s => (.flag (c.addStruct s).1, (c.addStruct s).2)
  | .addFunction f => (.done, c.addFunction f)
  | .addField n name type =>
    match c.addField n name type with
    | some c' => (.flag true, c')
    | none => (.flag false, c)
  | .hasStructAt l => (.flag (c.hasStructAt l), c)
  | .getStruct n => (.struct? (c.getStruct? n), c)
  | .structs => (.structs c.structs, c)
  | .functions => (.functions c.functions, c)
  | .size => (.count c.size, c)

/-- Serves requests in order: their answers, and the collector after the last one. -/
def serveAll (c : Collector) : List Request → List Answer × Collector
  | [] => ([], c)
  | r :: rs => ((c.serve r).1 :: ((c.serve r).2.serveAll rs).1, ((c.serve r).2.serveAll rs).2)

theorem Inv.serve (h : Inv c) (r : Request) : Inv (c.serve r).2 := by
  cases r with
  | addStruct s => exact h.addStruct s
  | addFunction f => exact h.addFunction f
  | addField n name type =>
    simp only [Collector.serve]
    split
    · exact h.addField ‹_›
    · exact h
  | hasStructAt l => exact h
  | getStruct n => exact h
  | structs => exact h
  | functions => exact h
  | size => exact h

theorem Inv.serveAll (h : Inv c) (rs : List Request) : Inv (c.serveAll rs).2 := by
  induction rs generalizing c with
  | nil => exact h
  | cons r rs ih => exact ih (h.serve r)

/-! ## The collector without its cache

`ListModel` is the collector read as its list of declarations alone. Every query scans the
list, and a struct is refused when a struct of the list already stands at its location. -/

namespace ListModel

/-- The structs of a list of declarations, in order. -/
def structs (ds : List Declaration) : List Struct := ds.filterMap Declaration.struct?

/-- The functions of a list of declarations, in order. -/
def functions (ds : List Declaration) : List Function := ds.filterMap Declaration.function?

/-- Whether a struct of the list stands at a location. -/
def hasStructAt (ds : List Declaration) (l : Location) : Bool := (structs ds).any (·.location == l)

/-- The first struct of a name. -/
def getStruct? (ds : List Declaration) (n : String) : Option Struct :=
  (structs ds).find? (·.name == n)

/-- Refuses a struct at the location of a listed one; otherwise removes the structs of its name
and appends it. -/
def addStruct (ds : List Declaration) (s : Struct) : Bool × List Declaration :=
  if hasStructAt ds s.location then (false, ds)
  else (true, ds.filter (fun d => !d.isStructNamed s.name) ++ [.struct s])

/-- Adds a field to the struct that `getStruct?` finds, where it stands. -/
def addField (ds : List Declaration) (n name type : String) : Option (List Declaration) :=
  (getStruct? ds n).map fun _ => updateFirst (·.name == n) (·.addField name type) ds

/-- Serves a request on a list of declarations. -/
def serve (ds : List Declaration) : Request → Answer × List Declaration
  | .addStruct s => (.flag (addStruct ds s).1, (addStruct ds s).2)
  | .addFunction f => (.done, ds ++ [.function f])
  | .addField n name type =>
    match addField ds n name type with
    | some ds' => (.flag true, ds')
    | none => (.flag false, ds)
  | .hasStructAt l => (.flag (hasStructAt ds l), ds)
  | .getStruct n => (.struct? (getStruct? ds n), ds)
  | .structs => (.structs (structs ds), ds)
  | .functions => (.functions (functions ds), ds)
  | .size => (.count ds.length, ds)

/-- Serves requests in order on a list of declarations. -/
def serveAll (ds : List Declaration) : List Request → List Answer × List Declaration
  | [] => ([], ds)
  | r :: rs => ((serve ds r).1 :: (serveAll (serve ds r).2 rs).1, (serveAll (serve ds r).2 rs).2)

end ListModel

@[simp] theorem listModel_structs (c : Collector) :
    ListModel.structs c.declarations = c.structs := rfl

@[simp] theorem listModel_getStruct? (c : Collector) (n : String) :
    ListModel.getStruct? c.declarations n = c.getStruct? n := rfl

/-- Under the invariant the cache answers as the scan of the list does. -/
theorem Inv.hasStructAt_eq (h : Inv c) (l : Location) :
    c.hasStructAt l = ListModel.hasStructAt c.declarations l := by
  apply Bool.eq_iff_iff.2
  rw [h.hasStructAt_iff]
  simp [ListModel.hasStructAt]

/-- **One request.** Under the invariant a request gets the answer that the list model gives,
and leaves the list that the list model leaves. -/
theorem Inv.serve_eq (h : Inv c) (r : Request) :
    (c.serve r).1 = (ListModel.serve c.declarations r).1 ∧
      (c.serve r).2.declarations = (ListModel.serve c.declarations r).2 := by
  cases r with
  | addStruct s =>
    simp only [Collector.serve, ListModel.serve, ListModel.addStruct, ← h.hasStructAt_eq]
    cases hs : c.hasStructAt s.location with
    | true => simp [addStruct_of_hasStructAt hs]
    | false => simp [addStruct_of_not_hasStructAt hs]
  | addFunction f => exact ⟨rfl, rfl⟩
  | addField n name type =>
    simp only [Collector.serve, ListModel.serve, ListModel.addField, listModel_getStruct?]
    cases hg : c.getStruct? n with
    | none => simp [addField_eq_none_iff.2 hg]
    | some d => simp [Collector.addField, hg]
  | hasStructAt l => simp [Collector.serve, ListModel.serve, h.hasStructAt_eq]
  | getStruct n => exact ⟨rfl, rfl⟩
  | structs => exact ⟨rfl, rfl⟩
  | functions => exact ⟨rfl, rfl⟩
  | size => exact ⟨rfl, rfl⟩

/-- **Any run of requests.** From a collector with the invariant, requests get the answers that
the list model gives and leave the same list. -/
theorem Inv.serveAll_eq (h : Inv c) (rs : List Request) :
    (c.serveAll rs).1 = (ListModel.serveAll c.declarations rs).1 ∧
      (c.serveAll rs).2.declarations = (ListModel.serveAll c.declarations rs).2 := by
  induction rs generalizing c with
  | nil => exact ⟨rfl, rfl⟩
  | cons r rs ih =>
    obtain ⟨ha, hd⟩ := h.serve_eq r
    obtain ⟨has, hds⟩ := ih (h.serve r)
    simp [Collector.serveAll, ListModel.serveAll, ← ha, ← hd, has, hds]

/-- **The location cache is invisible.** Whatever requests are made of a new collector, they
get the answers that the plain list of declarations gives, with `hasStructAt` a scan of the
listed structs, and they leave the same list. -/
theorem serveAll_eq_listModel (rs : List Request) :
    (empty.serveAll rs).1 = (ListModel.serveAll [] rs).1 ∧
      (empty.serveAll rs).2.declarations = (ListModel.serveAll [] rs).2 :=
  inv_empty.serveAll_eq rs

/-! ## What every run of requests leaves -/

/-- The functions that a request appends. -/
def Request.appended : Request → List Function
  | .addFunction f => [f]
  | _ => []

/-- The struct that a request inserts, given its answer: that of an accepted `addStruct`. -/
def Request.inserted : Request → Answer → List Struct
  | .addStruct s, .flag true => [s]
  | _, _ => []

/-- The structs accepted while serving requests, in the order they were accepted. -/
def accepted (c : Collector) : List Request → List Struct
  | [] => []
  | r :: rs => r.inserted (c.serve r).1 ++ (c.serve r).2.accepted rs

/-- The collector that serving requests leaves, starting from a new one. -/
def ofRequests (rs : List Request) : Collector := (empty.serveAll rs).2

theorem functions_serve (c : Collector) (r : Request) :
    (c.serve r).2.functions = c.functions ++ r.appended := by
  cases r with
  | addStruct s => simp [Collector.serve, Request.appended]
  | addFunction f => simp [Collector.serve, Request.appended]
  | addField n name type =>
    simp only [Collector.serve, Request.appended, List.append_nil]
    split
    · rename_i c' hc
      obtain ⟨hd, -⟩ := addField_eq_some hc
      simp only [functions, hd]
      exact functions_updateFirst c.declarations
    · rfl
  | hasStructAt l => simp [Collector.serve, Request.appended]
  | getStruct n => simp [Collector.serve, Request.appended]
  | structs => simp [Collector.serve, Request.appended]
  | functions => simp [Collector.serve, Request.appended]
  | size => simp [Collector.serve, Request.appended]

/-- Serving requests appends exactly the functions of the `addFunction` requests, in order. -/
theorem functions_serveAll (c : Collector) (rs : List Request) :
    (c.serveAll rs).2.functions = c.functions ++ rs.flatMap Request.appended := by
  induction rs generalizing c with
  | nil => simp [Collector.serveAll]
  | cons r rs ih => simp [Collector.serveAll, ih, functions_serve]

/-- After a request the structs are, in order, some of those before it and then the one it
inserted. -/
theorem structs_serve_sublist (c : Collector) (r : Request) :
    ((c.serve r).2.structs.map Struct.header).Sublist
      (c.structs.map Struct.header ++ (r.inserted (c.serve r).1).map Struct.header) := by
  cases r with
  | addStruct s =>
    cases hs : c.hasStructAt s.location with
    | true => simp [Collector.serve, addStruct_of_hasStructAt hs, Request.inserted]
    | false =>
      have hins : (Request.addStruct s).inserted (c.serve (.addStruct s)).1 = [s] := by
        simp [Collector.serve, addStruct_of_not_hasStructAt hs, Request.inserted]
      rw [hins]
      simp only [Collector.serve, structs_addStruct hs, List.map_append]
      exact (List.filter_sublist.map _).append (List.Sublist.refl _)
  | addFunction f => simp [Collector.serve, Request.inserted]
  | addField n name type =>
    simp only [Collector.serve, Request.inserted, List.map_nil, List.append_nil]
    split
    · rename_i c' hc
      obtain ⟨hd, -⟩ := addField_eq_some hc
      simp only [structs, hd]
      rw [structs_updateFirst_map _ (fun s => s.header_addField name type)]
    · exact List.Sublist.refl _
  | hasStructAt l => simp [Collector.serve, Request.inserted]
  | getStruct n => simp [Collector.serve, Request.inserted]
  | structs => simp [Collector.serve, Request.inserted]
  | functions => simp [Collector.serve, Request.inserted]
  | size => simp [Collector.serve, Request.inserted]

/-- Serving requests keeps the structs in the order they were accepted. -/
theorem structs_serveAll_sublist (c : Collector) (rs : List Request) :
    ((c.serveAll rs).2.structs.map Struct.header).Sublist
      (c.structs.map Struct.header ++ (c.accepted rs).map Struct.header) := by
  induction rs generalizing c with
  | nil => simp [Collector.serveAll, accepted]
  | cons r rs ih =>
    have hrest := ih (c.serve r).2
    have hstep := structs_serve_sublist c r
    simp only [Collector.serveAll, accepted, List.map_append, ← List.append_assoc]
    exact hrest.trans (hstep.append (List.Sublist.refl _))

/-- **Every collector that requests build is well formed.** Its structs have distinct locations
and distinct names, so the struct that `getStruct?` finds is the only one of its name; its
functions are those of the `addFunction` requests, in order; and its structs stand in the order
in which they were accepted. -/
theorem ofRequests_wellFormed (rs : List Request) :
    ((ofRequests rs).structs.map (·.location)).Nodup ∧
      ((ofRequests rs).structs.map (·.name)).Nodup ∧
      (∀ n d, (ofRequests rs).getStruct? n = some d ↔
        d ∈ (ofRequests rs).structs ∧ d.name = n) ∧
      (ofRequests rs).functions = rs.flatMap Request.appended ∧
      ((ofRequests rs).structs.map Struct.header).Sublist
        ((empty.accepted rs).map Struct.header) := by
  have h := inv_empty.serveAll rs
  refine ⟨h.locations_nodup, h.names_nodup, fun n d => h.getStruct?_eq_some_iff, ?_, ?_⟩
  · simpa [ofRequests] using functions_serveAll empty rs
  · simpa [ofRequests] using structs_serveAll_sublist empty rs

end Collector

end NativeBindings
