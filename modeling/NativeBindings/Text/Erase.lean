/-!
# Erasing a word from a text

`eraseAll p s` deletes every occurrence of the non-empty pattern `p` from `s`, scanning from the
left: an occurrence is deleted as soon as it is found and the scan resumes after it, so
occurrences never overlap. Text that a deletion brings together is not searched again.
-/

namespace NativeBindings.Text

/-- Deletes the occurrences of the non-empty pattern `p :: ps`, left to right. -/
def eraseAll (p : Char) (ps : List Char) : List Char → List Char
  | [] => []
  | c :: cs =>
    if (p :: ps).isPrefixOf (c :: cs) then
      eraseAll p ps ((c :: cs).drop (ps.length + 1))
    else c :: eraseAll p ps cs
termination_by s => s.length

/-- Deletes the occurrences of a word from a string; the empty word deletes nothing. -/
def eraseWord (w s : String) : String :=
  match w.toList with
  | [] => s
  | p :: ps => String.ofList (eraseAll p ps s.toList)

theorem eraseAll_nil (p : Char) (ps : List Char) : eraseAll p ps [] = [] := by
  simp [eraseAll]

end NativeBindings.Text
