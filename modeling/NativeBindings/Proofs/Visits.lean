import NativeBindings.Proofs.WalkStep

/-!
# The visits of a walk, and the ledger they keep

A walk touches the collected structs at five kinds of visit: a record with a name is collected
under it; a record without a name, met outside any record, waits for a typedef to name it; one
met inside a record is not supported, and its fields go nowhere; a typedef names the record
without a name that it declares; and a field is added to the record being walked. `visits`
lists these for one declaration as a tree in the order of the walk, each record holding the
visits of its members.

`Visit.marks` flattens the tree into the marks that decide something. The mark of a record
carries its struct with the fields of its own members, so that a record is decided whole where
its visit starts. A `Ledger` keeps what the marks decide (the collected structs, the records
waiting for a name, the names given), and `Ledger.apply` reads one mark as the collector reads
the visit, down to its place checks and the rule that a declaration without a body never
replaces a definition.

The walk itself adds a record's fields one by one after the record, and other records may be
decided in between. `Ledger.appendFields` adds fields to the struct filed at one place, and
`Ledger.foldl_appendFields` shows that fields added late commute with every mark about another
place: this is what lets a walk be read as the fold of its marks.
-/

namespace NativeBindings.Collection

open Header

variable {w w' : Walker}

/-! ## Visits of a walk -/

/-- The C# name of a type, as `nameType` gives it when naming succeeds. -/
def typeText (e : Entities) (mode : Managed.Mode) (t : Ty) : Option String :=
  match e.describe t with
  | .ok c =>
    match Managed.resolve mode true c with
    | .ok r => some r.text
    | .error _ => none
  | .error _ => none

theorem typeText_of_run_nameType {e : Entities} {mode : Managed.Mode} {t : Ty} {r : String}
    (h : (nameType e mode t).run w = .ok (r, w')) : typeText e mode t = some r := by
  simp only [nameType, pure_bind] at h
  split at h
  · rename_i c hc
    split at h
    · rename_i res hres
      obtain ⟨_, w₁, -, h₂⟩ := run_bind_eq_ok.1 h
      obtain ⟨rfl, -⟩ := run_pure_eq_ok.1 h₂
      simp [typeText, hc, hres]
    · obtain ⟨_, _, h, -⟩ := run_bind_eq_ok.1 h
      exact (run_throw_ne_ok h).elim
  · obtain ⟨_, _, h, -⟩ := run_bind_eq_ok.1 h
    exact (run_throw_ne_ok h).elim

/-- The field that a visit of the field `name : t` adds to the record being walked, as
`visitField` adds it: none for a field whose type is a record without a name. -/
def fieldOf (u : Parsed) (name : String) (t : Ty) : Option Variable :=
  match baseType u.entities Entities.depthLimit t with
  | .ok base =>
    match declaredRecord u.entities base with
    | some r => if unnameable u r then none else (typeText u.entities .plain t).map (⟨name, ·⟩)
    | none => (typeText u.entities .plain t).map (⟨name, ·⟩)
  | .error _ => none

/-- A visit of the walk that bears on the collected structs, with the visits of what it holds. -/
inductive Visit where
  /-- A struct or union with a name: its name, its place, whether it is a union, and whether
  it is a definition. -/
  | record (name : String) (loc : Location) (isUnion isDef : Bool) (body : List Visit)
  /-- A struct or union without a name, met outside any record. -/
  | unnamed (loc : Location) (isUnion isDef : Bool) (body : List Visit)
  /-- A record without a name inside another: not supported, so its fields go nowhere. -/
  | nested (body : List Visit)
  /-- A typedef that gives the name `name` to the record without a name at `loc`. -/
  | naming (loc : Location) (name : String)
  /-- A field added to the record being walked. -/
  | field (v : Variable)

/-- The visit of the record `t` declared at `pos`, holding `body`; `top` says that no record
encloses it. -/
def recordVisit (u : Parsed) (t : Nat) (pos : Position) (isDef top : Bool) (body : List Visit) :
    Visit :=
  let isUnion := (u.entities.tag t).kind == .union
  if unnameable u t then
    if top then .unnamed (locationOf pos) isUnion isDef body else .nested body
  else .record (tagSpelling u t) (locationOf pos) isUnion isDef body

/-- The visit of the typedef `j`: it names the record without a name that it declares. -/
def typedefVisits (u : Parsed) (j : Nat) : List Visit :=
  match declaredRecord u.entities (u.entities.typedef j).underlying.written with
  | some r =>
    if unnameable u r then
      match typeText u.entities .plain (.typedef {} j) with
      | some n => [.naming (locationOf (u.entities.tag r).pos) n]
      | none => []
    else []
  | none => []

/-- The visits of the walk of declaration `i` of the file `owner`, `depth` levels deep, in the
order of the walk; `top` says that no record encloses it. -/
def visits (u : Parsed) (owner : String) : Nat → Bool → Nat → List Visit
  | 0, _, _ => []
  | depth + 1, top, i =>
    if (u.decl i).pos.file != owner then []
    else
      match u.decl i with
      | .typedef j _ _ =>
        typedefVisits u j ++ (u.inside (u.decl i)).flatMap (visits u owner depth top)
      | .tag t pos _ isDef _ =>
        if (u.entities.tag t).kind == .enum || (u.entities.tag t).kind == .classTag then
          (u.inside (u.decl i)).flatMap (visits u owner depth top)
        else
          [recordVisit u t pos isDef top ((u.inside (u.decl i)).flatMap (visits u owner depth false))]
      | .field name _ t => if top then [] else (fieldOf u name t).toList.map .field
      | _ => (u.inside (u.decl i)).flatMap (visits u owner depth top)

/-! ## Marks -/

/-- What a visit of a record or of a typedef decides about the collected structs. -/
inductive Mark where
  /-- A record with a name, with the fields it holds. -/
  | record (s : Struct)
  /-- A record without a name, with the fields it holds; its name is empty. -/
  | unnamed (s : Struct)
  /-- A typedef that gives the name `name` to the record without a name at `loc`. -/
  | naming (loc : Location) (name : String)
deriving DecidableEq

/-- The place a mark is about. -/
def Mark.place : Mark → Location
  | .record s | .unnamed s => s.location
  | .naming l _ => l

/-- The field a visit adds, if it is a field's. -/
def Visit.field? : Visit → Option Variable
  | .field v => some v
  | .record .. | .unnamed .. | .nested _ | .naming .. => none

/-- The fields that visits add to the record holding them, in order. -/
def Visit.fieldsIn (vs : List Visit) : List Variable := vs.filterMap Visit.field?

mutual
/-- The marks of a visit, in the order of the walk: each record with the fields it holds. -/
def Visit.marks : Visit → List Mark
  | .record n l isUnion isDef body =>
    .record ⟨n, l, Visit.fieldsIn body, isUnion, isDef⟩ :: Visit.marksIn body
  | .unnamed l isUnion isDef body =>
    .unnamed ⟨"", l, Visit.fieldsIn body, isUnion, isDef⟩ :: Visit.marksIn body
  | .nested body => Visit.marksIn body
  | .naming l n => [.naming l n]
  | .field _ => []

/-- The marks of visits, one after another. -/
def Visit.marksIn : List Visit → List Mark
  | [] => []
  | v :: vs => v.marks ++ Visit.marksIn vs
end

mutual
/-- A visit is apart when no record in it holds a visit of its own place. -/
def Visit.Apart : Visit → Prop
  | .record _ l _ _ body | .unnamed l _ _ body =>
    (∀ m ∈ Visit.marksIn body, m.place ≠ l) ∧ Visit.AllApart body
  | .nested body => Visit.AllApart body
  | .naming .. | .field _ => True

/-- Visits are apart when each of them is. -/
def Visit.AllApart : List Visit → Prop
  | [] => True
  | v :: vs => v.Apart ∧ Visit.AllApart vs
end

@[simp] theorem Visit.marksIn_nil : Visit.marksIn [] = [] := by simp [Visit.marksIn]

@[simp] theorem Visit.marksIn_cons (v : Visit) (vs : List Visit) :
    Visit.marksIn (v :: vs) = v.marks ++ Visit.marksIn vs := by simp [Visit.marksIn]

@[simp] theorem Visit.marksIn_append (vs vs' : List Visit) :
    Visit.marksIn (vs ++ vs') = Visit.marksIn vs ++ Visit.marksIn vs' := by
  induction vs with
  | nil => simp
  | cons v vs ih => simp [ih]

@[simp] theorem Visit.fieldsIn_append (vs vs' : List Visit) :
    Visit.fieldsIn (vs ++ vs') = Visit.fieldsIn vs ++ Visit.fieldsIn vs' := by
  simp [Visit.fieldsIn]

@[simp] theorem Visit.allApart_nil : Visit.AllApart [] := by simp [Visit.AllApart]

@[simp] theorem Visit.allApart_cons (v : Visit) (vs : List Visit) :
    Visit.AllApart (v :: vs) ↔ v.Apart ∧ Visit.AllApart vs := by simp [Visit.AllApart]

@[simp] theorem Visit.allApart_append (vs vs' : List Visit) :
    Visit.AllApart (vs ++ vs') ↔ Visit.AllApart vs ∧ Visit.AllApart vs' := by
  induction vs with
  | nil => simp
  | cons v vs ih => simp [ih, and_assoc]

/-! ## The ledger -/

/-- What the walk keeps of the collected structs: the structs, the records without a name that
wait for a typedef, by place, and the name each typedef gave, by place. -/
structure Ledger where
  structs : List Struct
  pending : List (Location × Struct)
  named : List (Location × String)

/-- The ledger of a walker. -/
def Walker.ledger (w : Walker) : Ledger := ⟨w.collected.declarations.structs, w.unnamed, w.names⟩

namespace Ledger

/-- Adds a struct to a list of structs as `Collector.addStruct` adds it: refused when its place
is taken, otherwise replacing every struct of its name. -/
def addStruct (ss : List Struct) (s : Struct) : List Struct :=
  if ss.any (·.location == s.location) then ss else ss.filter (fun d => !(d.name == s.name)) ++ [s]

/-- Adds a struct. -/
def add (L : Ledger) (s : Struct) : Ledger := { L with structs := addStruct L.structs s }

/-- What a mark does to the ledger, as the walk does it. -/
def apply (L : Ledger) : Mark → Ledger
  | .record s =>
    -- a declaration without a body never replaces a definition
    if !s.isDefinition && (L.structs.find? (·.name == s.name)).any (·.isDefinition) then L
    else L.add s
  | .unnamed s =>
    if L.pending.any (·.1 == s.location) || L.structs.any (·.location == s.location) then L
    else { L with pending := L.pending ++ [(s.location, s)] }
  | .naming l n =>
    match L.pending.find? (·.1 == l) with
    | some (_, s) =>
      let L' : Ledger :=
        { L with
          pending := L.pending.filter fun p => !(p.1 == l)
          named := L.named.filter (fun p => !(p.1 == l)) ++ [(l, n)] }
      L'.add { s with name := n }
    | none => L

/-- A struct with the fields `F` appended when it stands at `l`. -/
def grow (l : Location) (F : List Variable) (s : Struct) : Struct :=
  if s.location == l then { s with fields := s.fields ++ F } else s

/-- A waiting record with the fields `F` appended when it is filed under `l`. -/
def growPending (l : Location) (F : List Variable) (p : Location × Struct) : Location × Struct :=
  if p.1 == l then (p.1, { p.2 with fields := p.2.fields ++ F }) else p

/-- Appends fields to the record where a target's fields go. -/
def appendFields (L : Ledger) : Target → List Variable → Ledger
  | .collected l, F => { L with structs := L.structs.map (grow l F) }
  | .pending l, F => { L with pending := L.pending.map (growPending l F) }
  | .detached, _ => L

/-- The empty ledger, of a walk not yet started. -/
def empty : Ledger := ⟨[], [], []⟩

/-- Each record waiting for a name is filed under its own place. -/
def Filed (L : Ledger) : Prop := ∀ p ∈ L.pending, p.2.location = p.1

end Ledger

/-- A mark stands away from the record where a target's fields go. -/
def Target.Clear : Target → Mark → Prop
  | .collected l, m | .pending l, m => m.place ≠ l
  | .detached, _ => True

namespace Ledger

variable {L : Ledger}

@[simp] theorem grow_nil (l : Location) : grow l [] = id :=
  funext fun s => by unfold grow; split <;> simp

@[simp] theorem growPending_nil (l : Location) : growPending l [] = id :=
  funext fun p => by unfold growPending; split <;> simp

@[simp] theorem appendFields_nil (t : Target) : L.appendFields t [] = L := by
  cases t <;> simp [appendFields]

theorem appendFields_append (t : Target) (F F' : List Variable) :
    L.appendFields t (F ++ F') = (L.appendFields t F).appendFields t F' := by
  cases t with
  | collected l =>
    simp only [appendFields, List.map_map, Ledger.mk.injEq, and_true]
    apply List.map_congr_left
    intro s _
    by_cases h : s.location = l <;> simp [grow, h]
  | pending l =>
    simp only [appendFields, List.map_map, Ledger.mk.injEq, true_and, and_true]
    apply List.map_congr_left
    intro p _
    by_cases h : p.1 = l <;> simp [growPending, h]
  | detached => rfl

theorem Filed.appendFields (hL : L.Filed) (t : Target) (F : List Variable) :
    (L.appendFields t F).Filed := by
  cases t with
  | pending l =>
    intro p hp
    simp only [Ledger.appendFields, List.mem_map] at hp
    obtain ⟨q, hq, rfl⟩ := hp
    unfold growPending
    split <;> exact hL q hq
  | _ => exact hL

theorem Filed.apply (hL : L.Filed) (m : Mark) : (L.apply m).Filed := by
  cases m with
  | record s =>
    rw [Ledger.apply]
    split <;> exact hL
  | unnamed s =>
    rw [Ledger.apply]
    split
    · exact hL
    · intro p hp
      rcases List.mem_append.1 hp with hp | hp
      · exact hL p hp
      · rw [List.mem_singleton.1 hp]
  | naming l n =>
    rw [Ledger.apply]
    split
    · intro p hp
      exact hL p (List.mem_of_mem_filter hp)
    · exact hL

section Commute

variable {l : Location} {F : List Variable}

@[simp] theorem grow_name (s : Struct) : (grow l F s).name = s.name := by
  unfold grow; split <;> rfl

@[simp] theorem grow_location (s : Struct) : (grow l F s).location = s.location := by
  unfold grow; split <;> rfl

@[simp] theorem grow_isDefinition (s : Struct) : (grow l F s).isDefinition = s.isDefinition := by
  unfold grow; split <;> rfl

theorem grow_of_ne {s : Struct} (h : s.location ≠ l) : grow l F s = s := by
  simp [grow, h]

@[simp] theorem growPending_fst (p : Location × Struct) : (growPending l F p).1 = p.1 := by
  unfold growPending; split <;> rfl

theorem growPending_of_ne {p : Location × Struct} (h : p.1 ≠ l) : growPending l F p = p := by
  simp [growPending, h]

theorem addStruct_map_grow {ss : List Struct} {s : Struct} (hs : s.location ≠ l) :
    addStruct (ss.map (grow l F)) s = (addStruct ss s).map (grow l F) := by
  unfold addStruct
  simp only [List.any_map, Function.comp_def, grow_location]
  split
  · rfl
  · simp [List.filter_map, Function.comp_def, grow_of_ne hs]

/-- Fields appended to the struct at `l` do not change what a mark elsewhere does. -/
theorem apply_appendFields_collected (hL : L.Filed) {m : Mark} (hm : m.place ≠ l) :
    (L.appendFields (.collected l) F).apply m = (L.apply m).appendFields (.collected l) F := by
  cases m with
  | record s =>
    have hfind : ((L.structs.map (grow l F)).find? (·.name == s.name)).any (·.isDefinition) =
        (L.structs.find? (·.name == s.name)).any (·.isDefinition) := by
      rw [List.find?_map]
      simp only [Function.comp_def, grow_name]
      cases L.structs.find? (·.name == s.name) <;> simp
    simp only [Ledger.apply, appendFields, hfind]
    split
    · rfl
    · simp [add, addStruct_map_grow (show s.location ≠ l from hm)]
  | unnamed s =>
    simp only [Ledger.apply, appendFields, List.any_map, Function.comp_def, grow_location]
    split <;> rfl
  | naming l' n =>
    simp only [Ledger.apply, appendFields]
    split
    · rename_i k s hfind
      have hk : k = l' := by simpa using List.find?_some hfind
      have hs : s.location = l' := hk ▸ hL _ (List.mem_of_find?_eq_some hfind)
      simp [add, addStruct_map_grow (show ({ s with name := n } : Struct).location ≠ l from hs ▸ hm)]
    · rfl

/-- Fields appended to the record waiting at `l` do not change what a mark elsewhere does. -/
theorem apply_appendFields_pending {m : Mark} (hm : m.place ≠ l) :
    (L.appendFields (.pending l) F).apply m = (L.apply m).appendFields (.pending l) F := by
  cases m with
  | record s =>
    simp only [Ledger.apply, appendFields]
    split <;> simp [*, add]
  | unnamed s =>
    have hs : s.location ≠ l := hm
    simp only [Ledger.apply, appendFields, List.any_map, Function.comp_def, growPending_fst]
    split
    · rfl
    · simp [growPending_of_ne (show (s.location, s).1 ≠ l from hs)]
  | naming l' n =>
    have hl : l' ≠ l := hm
    have hfind : (L.pending.map (growPending l F)).find? (·.1 == l') = L.pending.find? (·.1 == l') := by
      rw [List.find?_map]
      simp only [Function.comp_def, growPending_fst]
      cases hf : L.pending.find? (·.1 == l') with
      | none => rfl
      | some p =>
        have hp : p.1 = l' := by simpa using List.find?_some hf
        simp [growPending_of_ne (show p.1 ≠ l from hp ▸ hl)]
    simp only [Ledger.apply, appendFields, hfind]
    split
    · simp [add, List.filter_map, Function.comp_def]
    · rfl

/-- Appending fields to where a target's fields go commutes with a mark that stands away. -/
theorem apply_appendFields (hL : L.Filed) {t : Target} {m : Mark} (hm : t.Clear m) :
    (L.appendFields t F).apply m = (L.apply m).appendFields t F := by
  cases t with
  | collected l => exact apply_appendFields_collected hL hm
  | pending l => exact apply_appendFields_pending hm
  | detached => rfl

theorem foldl_appendFields {t : Target} {ms : List Mark} (hL : L.Filed) (hm : ∀ m ∈ ms, t.Clear m) :
    ms.foldl Ledger.apply (L.appendFields t F) = (ms.foldl Ledger.apply L).appendFields t F := by
  induction ms generalizing L with
  | nil => rfl
  | cons m ms ih =>
    simp only [List.foldl_cons]
    rw [apply_appendFields hL (hm m List.mem_cons_self)]
    exact ih (hL.apply m) fun m' h => hm m' (List.mem_cons_of_mem _ h)

end Commute

section Fresh

variable {s : Struct} {l : Location} {F : List Variable}

theorem add_of_taken (h : L.structs.any (·.location == s.location) = true) : L.add s = L := by
  simp [add, addStruct, h]

/-- The fields that go to a struct just added at a free place are as good as added with it. -/
theorem appendFields_add_free (h : ¬L.structs.any (·.location == s.location) = true) :
    (L.add s).appendFields (.collected s.location) F = L.add { s with fields := s.fields ++ F } := by
  have hne : ∀ d ∈ L.structs, d.location ≠ s.location := by simpa using h
  have hkeep : (L.structs.filter fun d => !(d.name == s.name)).map (grow s.location F) =
      L.structs.filter fun d => !(d.name == s.name) := by
    conv_rhs => rw [← List.map_id (L.structs.filter _)]
    apply List.map_congr_left
    intro d hd
    exact grow_of_ne (hne d (List.mem_of_mem_filter hd))
  simp only [add, addStruct, appendFields]
  rw [if_neg h, if_neg (by simpa using h)]
  simp [hkeep, grow]

/-- The fields that go to a record just filed at a free place are as good as filed with it. -/
theorem appendFields_push_free (h : ¬L.pending.any (·.1 == l) = true) (s : Struct) :
    ({ L with pending := L.pending ++ [(l, s)] } : Ledger).appendFields (.pending l) F =
      { L with pending := L.pending ++ [(l, { s with fields := s.fields ++ F })] } := by
  have hne : ∀ p ∈ L.pending, p.1 ≠ l := fun p hp hpl =>
    h (List.any_eq_true.2 ⟨p, hp, by simp [hpl]⟩)
  have hkeep : L.pending.map (growPending l F) = L.pending := by
    conv_rhs => rw [← List.map_id L.pending]
    apply List.map_congr_left
    intro p hp
    exact growPending_of_ne (hne p hp)
  simp [appendFields, hkeep, growPending]

end Fresh

end Ledger

/-! ## What a record's own visit marks -/

/-- The marks a visit makes itself, before those of what it holds. -/
def Visit.head : Visit → List Mark
  | .record n l isUnion isDef body => [.record ⟨n, l, Visit.fieldsIn body, isUnion, isDef⟩]
  | .unnamed l isUnion isDef body => [.unnamed ⟨"", l, Visit.fieldsIn body, isUnion, isDef⟩]
  | .nested _ | .field _ => []
  | .naming l n => [.naming l n]

/-- The visits of what a visit holds. -/
def Visit.body : Visit → List Visit
  | .record _ _ _ _ body | .unnamed _ _ _ body | .nested body => body
  | .naming .. | .field _ => []

theorem Visit.marks_eq (v : Visit) : v.marks = v.head ++ Visit.marksIn v.body := by
  cases v <;> simp [Visit.marks, Visit.head, Visit.body]

theorem Visit.Apart.body {v : Visit} (h : v.Apart) : Visit.AllApart v.body := by
  cases v with
  | record => exact h.2
  | unnamed => exact h.2
  | nested => exact h
  | naming => simp [Visit.body]
  | field => simp [Visit.body]

@[simp] theorem recordVisit_body (u : Parsed) (t : Nat) (pos : Position) (isDef top : Bool)
    (body : List Visit) : (recordVisit u t pos isDef top body).body = body := by
  unfold recordVisit
  split
  · split <;> rfl
  · rfl

@[simp] theorem recordVisit_field? (u : Parsed) (t : Nat) (pos : Position) (isDef top : Bool)
    (body : List Visit) : (recordVisit u t pos isDef top body).field? = none := by
  unfold recordVisit
  split
  · split <;> rfl
  · rfl

end NativeBindings.Collection
