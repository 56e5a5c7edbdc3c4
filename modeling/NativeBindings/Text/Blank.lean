/-!
# Blank characters and trimming

Type names are trimmed of blanks at both ends before they are used. A blank is any character
that Unicode treats as a space or a line or paragraph separator, together with the ASCII
control characters for tab, line feed, vertical tab, form feed, carriage return and the four
information separators. The table is `isBlank`; `trim` drops blanks at both ends.
-/

namespace NativeBindings.Text

/-- The blank characters: ASCII controls `\t`–`\r` and `\x1c`–`\x1f`, the space, next line,
no-break space, and the Unicode space and separator characters. -/
def isBlank (c : Char) : Bool :=
  let n := c.toNat
  (0x09 ≤ n && n ≤ 0x0d) || (0x1c ≤ n && n ≤ 0x20) || n == 0x85 || n == 0xa0 ||
  n == 0x1680 || (0x2000 ≤ n && n ≤ 0x200a) || n == 0x2028 || n == 0x2029 ||
  n == 0x202f || n == 0x205f || n == 0x3000

/-- The white space characters of Unicode: the blanks but the four information separators
`\x1c`–`\x1f`, which Unicode counts as controls only. -/
def isWhiteSpace (c : Char) : Bool :=
  isBlank c && !(0x1c ≤ c.toNat && c.toNat ≤ 0x1f)

/-- Drops the blanks at both ends of a character list. -/
def trimChars (cs : List Char) : List Char :=
  ((cs.dropWhile isBlank).reverse.dropWhile isBlank).reverse

/-- Drops the blanks at both ends of a string. -/
def trim (s : String) : String :=
  String.ofList (trimChars s.toList)

/-- The words of a character list after the word `w` read so far, kept reversed. -/
def wordsFrom : List Char → List Char → List String
  | [], w => if w.isEmpty then [] else [String.ofList w.reverse]
  | c :: cs, w =>
    if isBlank c then
      if w.isEmpty then wordsFrom cs [] else String.ofList w.reverse :: wordsFrom cs []
    else wordsFrom cs (c :: w)

/-- The words of a string: the runs of characters between blanks. -/
def words (s : String) : List String := wordsFrom s.toList []

theorem isBlank_space : isBlank ' ' = true := by decide

theorem isBlank_of_isWhitespace {c : Char} (h : c.isWhitespace = true) : isBlank c = true := by
  simp only [Char.isWhitespace, Bool.or_eq_true, decide_eq_true_eq] at h
  simp only [isBlank, Bool.or_eq_true, Bool.and_eq_true, decide_eq_true_eq, beq_iff_eq]
  rcases h with ((h | h) | h) | h <;> subst h <;> decide

end NativeBindings.Text
