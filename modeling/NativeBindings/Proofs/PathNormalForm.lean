import NativeBindings.Files.Path

/-!
# The normal text of a path

`normalizeText` writes a path text in its normal form: the leading separators that count (one, or
exactly two), then the components joined by single separators, or `.` for a relative path with
no component. Two path texts name the same path when their normal texts are equal.

The normal text is its own normal form (`normalizeText_normalizeText`): the components of a text
joined by separators are the components again (`components_intercalate`), a leading separator
adds none (`components_slash`), and the joined components never start with a separator, so the
leading part is read back as it was written.
-/

namespace NativeBindings.Files

open Files.Path

/-- A piece of a list split at a separator holds no separator. -/
theorem not_mem_of_mem_splitOn {a : Char} : ∀ {l x : List Char}, x ∈ l.splitOn a → a ∉ x
  | [], x, hx => by
    rw [List.splitOn_nil, List.mem_singleton] at hx
    rw [hx]
    exact List.not_mem_nil
  | c :: l, x, hx => by
    rw [List.splitOn_cons_eq_if_modifyHead] at hx
    split at hx
    · rcases List.mem_cons.1 hx with rfl | hx
      · exact List.not_mem_nil
      · exact not_mem_of_mem_splitOn hx
    · rename_i hc
      -- the first piece gains `c`, the others are pieces of the rest
      obtain ⟨y, ys, hys⟩ := List.exists_cons_of_ne_nil (List.splitOn_ne_nil a l)
      rw [hys, List.modifyHead_cons] at hx
      rcases List.mem_cons.1 hx with rfl | hx
      · rw [List.mem_cons, not_or]
        exact ⟨fun h => hc (by rw [h]; exact beq_self_eq_true c),
          not_mem_of_mem_splitOn (hys ▸ List.mem_cons_self)⟩
      · exact not_mem_of_mem_splitOn (hys ▸ List.mem_cons_of_mem y hx)

/-- A component is not empty, not `.`, and holds no separator. -/
theorem mem_components {text x : String} (h : x ∈ components text) :
    x ≠ "" ∧ x ≠ "." ∧ '/' ∉ x.toList := by
  unfold components at h
  rw [List.mem_filter, List.mem_map] at h
  obtain ⟨⟨l, hl, rfl⟩, hkeep⟩ := h
  simp only [Bool.and_eq_true, Bool.not_eq_eq_eq_not, Bool.not_true, bne_iff_ne, ne_eq] at hkeep
  exact ⟨fun h => Bool.eq_false_iff.1 hkeep.1 (String.isEmpty_iff.2 h), hkeep.2,
    by rw [String.toList_ofList]; exact not_mem_of_mem_splitOn hl⟩

/-- A leading separator adds only an empty piece, which is dropped. -/
theorem components_slash (t : String) : components ("/" ++ t) = components t := by
  unfold components
  rw [String.toList_append, show "/".toList = [] ++ ['/'] from rfl, List.append_assoc,
    List.singleton_append, List.splitOn_append_cons_self, List.splitOn_nil]
  simp

/-- Components joined by separators are read back as themselves. -/
theorem components_intercalate {cs : List String}
    (hcs : ∀ x ∈ cs, x ≠ "" ∧ x ≠ "." ∧ '/' ∉ x.toList) :
    components ("/".intercalate cs) = cs := by
  unfold components
  obtain _ | ⟨c, cs'⟩ := cs
  · simp
  rw [String.toList_intercalate, show "/".toList = ['/'] from rfl,
    List.splitOn_intercalate '/' (by simpa using fun x hx => (hcs x hx).2.2) (by simp),
    List.map_map]
  -- each component is kept as it is
  rw [List.filter_eq_self.2]
  · simp
  · intro x hx
    simp only [List.mem_map, Function.comp_apply, String.ofList_toList] at hx
    obtain ⟨y, hy, rfl⟩ := hx
    have := hcs y hy
    simp [this.1, this.2.1]

/-- Components joined by separators start as the first component does, when it is not empty. -/
theorem intercalate_toList_head {c : String} (hc : c ≠ "") (cs : List String) :
    ("/".intercalate (c :: cs)).toList.head? = c.toList.head? := by
  rw [String.toList_intercalate, List.map_cons, show "/".toList = ['/'] from rfl]
  rcases hct : c.toList with _ | ⟨a, t⟩
  · exact absurd (String.toList_eq_nil_iff.1 hct) hc
  · cases cs <;> simp [List.intercalate_cons_cons]

/-- Components joined by separators do not start with a separator. -/
theorem intercalate_head {cs : List String}
    (hcs : ∀ x ∈ cs, x ≠ "" ∧ x ≠ "." ∧ '/' ∉ x.toList) :
    ("/".intercalate cs).toList.head? ≠ some '/' := by
  obtain _ | ⟨c, cs'⟩ := cs
  · simp
  obtain ⟨hne, -, hslash⟩ := hcs c List.mem_cons_self
  rw [intercalate_toList_head hne]
  intro h
  exact hslash (List.mem_of_mem_head? h)

/-- A text that starts with a separator has it as its first character. -/
theorem head_of_leading_slash {l : List Char} (h : ['/'] <+: l) : l.head? = some '/' := by
  obtain ⟨t, rfl⟩ := h
  rfl

/-- The path of no components is written `.`, its own normal text. -/
theorem normalizeText_dot : normalizeText "." = "." := by
  have hsplit : List.splitOn '/' ['.'] = [['.']] := by decide
  have hcomp : components "." = [] := by simp [components, hsplit]
  have h1 : ".".startsWith "/" = false := String.startsWith_string_eq_false_iff.2 (by decide)
  have h2 : ".".startsWith "//" = false := String.startsWith_string_eq_false_iff.2 (by decide)
  simp [normalizeText, hcomp, h1, h2]

/-- After any leading part, components joined by separators do not start with one more
separator. -/
theorem startsWith_extra_slash {cs : List String}
    (hcs : ∀ x ∈ cs, x ≠ "" ∧ x ≠ "." ∧ '/' ∉ x.toList) (lead : String) :
    (lead ++ "/".intercalate cs).startsWith (lead ++ "/") = false := by
  rw [String.startsWith_string_eq_false_iff, String.toList_append, String.toList_append,
    List.prefix_append_right_inj]
  exact fun hp => intercalate_head hcs (head_of_leading_slash hp)

/-- A leading part that counts, then components joined by separators, is a normal text. -/
theorem normalizeText_join {lead : String} (hlead : lead = "//" ∨ lead = "/" ∨ lead = "")
    {cs : List String} (hcs : ∀ x ∈ cs, x ≠ "" ∧ x ≠ "." ∧ '/' ∉ x.toList)
    (hne : lead = "" → cs ≠ []) :
    normalizeText (lead ++ "/".intercalate cs) = lead ++ "/".intercalate cs := by
  have hslash : components ("/" ++ "/".intercalate cs) = cs := by
    rw [components_slash, components_intercalate hcs]
  unfold normalizeText
  rcases hlead with rfl | rfl | rfl
  · -- exactly two leading separators
    have h2 : ("//" ++ "/".intercalate cs).startsWith "//" = true :=
      String.startsWith_string_iff.2 (by simp)
    have h3 : ("//" ++ "/".intercalate cs).startsWith "///" = false :=
      startsWith_extra_slash hcs "//"
    have hcomp : components ("//" ++ "/".intercalate cs) = cs := by
      rw [show "//" = "/" ++ "/" by decide, String.append_assoc, components_slash, hslash]
    simp [h2, h3, hcomp]
  · -- one leading separator
    have h1 : ("/" ++ "/".intercalate cs).startsWith "/" = true :=
      String.startsWith_string_iff.2 (by simp)
    have h2 : ("/" ++ "/".intercalate cs).startsWith "//" = false :=
      startsWith_extra_slash hcs "/"
    simp [h1, h2, hslash]
  · -- no leading separator, and at least one component
    obtain _ | ⟨c, cs'⟩ := cs
    · exact absurd rfl (hne rfl)
    have hc := (hcs c List.mem_cons_self).1
    have h1 : ("/".intercalate (c :: cs')).startsWith "/" = false := by
      have h := startsWith_extra_slash hcs ""
      rw [String.empty_append] at h
      exact h
    have h2 : ("/".intercalate (c :: cs')).startsWith "//" = false := by
      rw [String.startsWith_string_eq_false_iff]
      exact fun hp => String.startsWith_string_eq_false_iff.1 h1
        ((List.prefix_append ['/'] ['/']).trans hp)
    have hbody : ("/".intercalate (c :: cs')).isEmpty = false := by
      rw [Bool.eq_false_iff]
      intro hempty
      have := intercalate_toList_head hc cs'
      rw [String.isEmpty_iff.1 hempty] at this
      rcases hct : c.toList with _ | ⟨a, t⟩
      · exact hc (String.toList_eq_nil_iff.1 hct)
      · rw [hct] at this
        cases this
    simp only [String.empty_append, h1, h2, Bool.false_and, Bool.false_eq_true, if_false,
      components_intercalate hcs, hbody, Bool.and_false]

/-- A normal text is `.`, or a leading part that counts followed by the components joined by
separators, with at least one component when there is no leading part. -/
theorem normalizeText_cases (text : String) :
    normalizeText text = "." ∨
      ∃ lead, (lead = "//" ∨ lead = "/" ∨ lead = "") ∧ (lead = "" → components text ≠ []) ∧
        normalizeText text = lead ++ "/".intercalate (components text) := by
  unfold normalizeText
  dsimp only
  generalize hL : (if (text.startsWith "//" && !text.startsWith "///") = true then "//"
      else if text.startsWith "/" = true then "/" else "") = lead
  -- the leading part is one of three texts
  have hlead : lead = "//" ∨ lead = "/" ∨ lead = "" := by
    rw [← hL]
    split
    · exact Or.inl rfl
    · split
      · exact Or.inr (Or.inl rfl)
      · exact Or.inr (Or.inr rfl)
  split
  · exact Or.inl rfl
  · rename_i hnotdot
    refine Or.inr ⟨lead, hlead, fun hempty hnil => hnotdot ?_, rfl⟩
    rw [hempty, hnil]
    rfl

/-- **The normal text of a path is in normal form**, so a path written in its normal text names
the same path as the text it was written from. -/
theorem normalizeText_normalizeText (text : String) :
    normalizeText (normalizeText text) = normalizeText text := by
  rcases normalizeText_cases text with h | ⟨lead, hlead, hne, h⟩
  · rw [h, normalizeText_dot]
  · rw [h, normalizeText_join hlead (fun x hx => mem_components hx) hne]

end NativeBindings.Files
