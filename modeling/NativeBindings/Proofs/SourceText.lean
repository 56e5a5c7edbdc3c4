import NativeBindings.Text.Digits
import Mathlib.Data.List.Basic

/-!
# Reading text back, character by character

The pieces from which a reader of the generated C# file is built, each with the law that says
it undoes the writing: cutting a text into lines at line feeds, taking off a fixed prefix or
suffix, cutting a line at its first or last occurrence of a separator, and reading a number
back from its decimal text.

Type expressions may hold blanks and commas, so a parameter list cannot be cut at every comma,
nor an extern declaration at every parenthesis. What makes them readable is that their brackets
balance: `nestLevel` follows the bracket level through a text, and a `Bracketed` text closes
every parenthesis and angle bracket it opens and holds its commas inside brackets. A parameter
list is then cut at the commas of level zero (`splitTop`), and the parameter list of an extern
declaration starts at the last parenthesis opened at level zero (`splitLastOpen`).
-/

namespace NativeBindings.Managed.Reading

/-! ## Lines -/

/-- The lines of a text: the pieces between its line feeds. -/
def lines (cs : List Char) : List (List Char) := cs.splitOn '\n'

/-- A line without a line feed, followed by one, is the first line. -/
theorem lines_append_cons {l : List Char} (hl : '\n' ∉ l) (r : List Char) :
    lines (l ++ '\n' :: r) = l :: lines r := by
  induction l with
  | nil => simp [lines, List.splitOn, List.splitOnP_cons_eq_if_modifyHead]
  | cons c l ih =>
    have hc : c ≠ '\n' := fun h => hl (h ▸ List.mem_cons_self)
    have ih' := ih (fun h => hl (List.mem_cons_of_mem c h))
    simp only [lines, List.splitOn] at ih' ⊢
    rw [List.cons_append, List.splitOnP_cons_eq_if_modifyHead, ih']
    simp [hc]

/-- Lines written one after another, each ended by a line feed, are read back in order. -/
theorem lines_flatMap {ls : List (List Char)} (hls : ∀ l ∈ ls, '\n' ∉ l) (r : List Char) :
    lines (ls.flatMap (· ++ ['\n']) ++ r) = ls ++ lines r := by
  induction ls with
  | nil => rfl
  | cons l ls ih =>
    rw [List.flatMap_cons, List.append_assoc, List.append_assoc, List.singleton_append,
      lines_append_cons (hls l List.mem_cons_self),
      ih fun l' h => hls l' (List.mem_cons_of_mem l h)]
    rfl

/-- Lines joined by a separator, followed by more lines: each of the first ones ends with the
separator. -/
theorem intercalate_append_flatMap (sep : List Char) (xs : List (List Char))
    {ys : List (List Char)} (hys : ys ≠ []) :
    sep.intercalate (xs ++ ys) = xs.flatMap (· ++ sep) ++ sep.intercalate ys := by
  induction xs with
  | nil => rfl
  | cons x xs ih =>
    rw [List.cons_append, List.intercalate_cons_of_ne_nil (by simp [hys]), ih, List.flatMap_cons]
    simp

/-- A character in none of the pieces and not in the separator is not in their join. -/
theorem not_mem_intercalate {c : Char} {sep : List Char} (hs : c ∉ sep) :
    ∀ {xs : List (List Char)}, (∀ x ∈ xs, c ∉ x) → c ∉ sep.intercalate xs
  | [], _ => by simp
  | [x], h => by simpa using h x (by simp)
  | x :: y :: xs, h => by
    rw [List.intercalate_cons_cons]
    simp only [List.mem_append, not_or]
    exact ⟨⟨h x List.mem_cons_self, hs⟩,
      not_mem_intercalate hs fun z hz => h z (List.mem_cons_of_mem x hz)⟩

/-! ## Prefixes, suffixes and separators -/

theorem dropPrefix?_append (p r : List Char) : (p ++ r).dropPrefix? p = some r :=
  List.dropPrefix?_eq_some_iff.2 ⟨p, rfl, beq_self_eq_true p⟩

theorem dropSuffix?_append (a s : List Char) : (a ++ s).dropSuffix? s = some a :=
  List.dropSuffix?_eq_some_iff.2 ⟨s, rfl, beq_self_eq_true s⟩

/-- A line cut at the first occurrence of `c`: what stands before it and what follows it;
`none` when `c` does not occur. -/
def cut (c : Char) : List Char → Option (List Char × List Char)
  | [] => none
  | x :: l => if x = c then some ([], l) else (cut c l).map fun (w, r) => (x :: w, r)

theorem cut_append {c : Char} {w : List Char} (hw : c ∉ w) (r : List Char) :
    cut c (w ++ c :: r) = some (w, r) := by
  induction w with
  | nil => simp [cut]
  | cons x w ih =>
    have hx : x ≠ c := fun h => hw (h ▸ List.mem_cons_self)
    simp [cut, hx, ih fun h => hw (List.mem_cons_of_mem x h)]

/-- A line cut at the last occurrence of `c`. -/
def cutLast (c : Char) (l : List Char) : Option (List Char × List Char) :=
  (cut c l.reverse).map fun (w, r) => (r.reverse, w.reverse)

theorem cutLast_append {c : Char} {w : List Char} (hw : c ∉ w) (a : List Char) :
    cutLast c (a ++ c :: w) = some (a, w) := by
  have hrev : (a ++ c :: w).reverse = w.reverse ++ c :: a.reverse := by simp
  simp [cutLast, hrev, cut_append (fun h => hw (List.mem_reverse.1 h))]

/-! ## Bracket levels -/

/-- How a character moves the bracket level: parentheses and angle brackets open and close. -/
def step (d : Int) (c : Char) : Int :=
  if c = '(' ∨ c = '<' then d + 1 else if c = ')' ∨ c = '>' then d - 1 else d

/-- A character that is no bracket. -/
def IsFlat (c : Char) : Prop := c ≠ '(' ∧ c ≠ '<' ∧ c ≠ ')' ∧ c ≠ '>'

instance : DecidablePred IsFlat := fun c =>
  inferInstanceAs (Decidable (c ≠ '(' ∧ c ≠ '<' ∧ c ≠ ')' ∧ c ≠ '>'))

theorem step_of_isFlat {c : Char} (hc : IsFlat c) (d : Int) : step d c = d := by
  obtain ⟨h₁, h₂, h₃, h₄⟩ := hc
  simp [step, h₁, h₂, h₃, h₄]

theorem step_add_one (d : Int) (c : Char) : step (d + 1) c = step d c + 1 := by
  unfold step
  split
  · omega
  · split <;> omega

/-- The bracket level after a text read from the level `d`. -/
def level (d : Int) (l : List Char) : Int := l.foldl step d

theorem level_of_isFlat {l : List Char} (hl : ∀ c ∈ l, IsFlat c) (d : Int) : level d l = d := by
  induction l generalizing d with
  | nil => rfl
  | cons c l ih =>
    simp only [level, List.foldl_cons] at ih ⊢
    rw [step_of_isFlat (hl c List.mem_cons_self)]
    exact ih (fun x hx => hl x (List.mem_cons_of_mem c hx)) d

/-- The bracket level after a text read from `d`, when the level never falls below zero and
each comma stands at a positive level; `none` otherwise. -/
def nestLevel : Int → List Char → Option Int
  | d, [] => some d
  | d, c :: cs => if (c = ',' ∧ d = 0) ∨ step d c < 0 then none else nestLevel (step d c) cs

/-- A text whose parentheses and angle brackets balance, with every comma inside a pair. -/
def Bracketed (l : List Char) : Prop := nestLevel 0 l = some 0

instance : DecidablePred Bracketed := fun l => inferInstanceAs (Decidable (nestLevel 0 l = some 0))

theorem nestLevel_cons {d : Int} {c : Char} {cs : List Char} {e : Int}
    (h : nestLevel d (c :: cs) = some e) :
    ¬ (c = ',' ∧ d = 0) ∧ 0 ≤ step d c ∧ nestLevel (step d c) cs = some e := by
  simp only [nestLevel] at h
  split at h
  · cases h
  · rename_i hok
    exact ⟨fun h' => hok (Or.inl h'), by omega, h⟩

theorem nestLevel_append (d : Int) (x y : List Char) :
    nestLevel d (x ++ y) = (nestLevel d x).bind fun e => nestLevel e y := by
  induction x generalizing d with
  | nil => rfl
  | cons c x ih =>
    simp only [List.cons_append, nestLevel]
    split
    · rfl
    · exact ih _

theorem level_of_nestLevel {d e : Int} {l : List Char} (h : nestLevel d l = some e) :
    level d l = e := by
  induction l generalizing d with
  | nil => simpa [nestLevel, level] using h
  | cons c l ih => exact ih (nestLevel_cons h).2.2

/-- Flat characters other than commas keep any level. -/
theorem nestLevel_of_isFlat {l : List Char} (hl : ∀ c ∈ l, IsFlat c ∧ c ≠ ',') {d : Int}
    (hd : 0 ≤ d) : nestLevel d l = some d := by
  induction l with
  | nil => rfl
  | cons c l ih =>
    obtain ⟨hflat, hcomma⟩ := hl c List.mem_cons_self
    simp only [nestLevel, step_of_isFlat hflat, hcomma, false_and, false_or]
    rw [if_neg (by omega)]
    exact ih fun x hx => hl x (List.mem_cons_of_mem c hx)

/-! ## Cutting at commas of level zero -/

/-- Prepends a text to the first piece. -/
def prependFirst (x : List Char) : List (List Char) → List (List Char)
  | [] => [x]
  | p :: ps => (x ++ p) :: ps

/-- A text cut at its commas of level zero, the level starting at `d`. -/
def splitTop : Int → List Char → List (List Char)
  | _, [] => [[]]
  | d, c :: cs => if c = ',' ∧ d = 0 then [] :: splitTop 0 cs else prependFirst [c] (splitTop (step d c) cs)

theorem splitTop_ne_nil (d : Int) (l : List Char) : splitTop d l ≠ [] := by
  cases l with
  | nil => simp [splitTop]
  | cons c cs =>
    simp only [splitTop]
    split
    · simp
    · cases splitTop (step d c) cs <;> simp [prependFirst]

theorem prependFirst_prependFirst (x y : List Char) {ps : List (List Char)} (hps : ps ≠ []) :
    prependFirst x (prependFirst y ps) = prependFirst (x ++ y) ps := by
  cases ps with
  | nil => exact absurd rfl hps
  | cons p ps => simp [prependFirst]

/-- A text with no comma of level zero is read into the first piece. -/
theorem splitTop_append {d e : Int} {x : List Char} (hx : nestLevel d x = some e)
    (rest : List Char) : splitTop d (x ++ rest) = prependFirst x (splitTop e rest) := by
  induction x generalizing d with
  | nil =>
    simp only [nestLevel, Option.some.injEq] at hx
    subst hx
    cases h : splitTop d rest with
    | nil => exact absurd h (splitTop_ne_nil d rest)
    | cons p ps => rw [List.nil_append, h]; rfl
  | cons c x ih =>
    obtain ⟨hcomma, -, hx'⟩ := nestLevel_cons hx
    simp only [List.cons_append, splitTop, if_neg hcomma, ih hx']
    rw [prependFirst_prependFirst _ _ (splitTop_ne_nil _ _)]
    rfl

/-- Pieces of level zero joined by `", "` are cut back into the pieces, each after the first
with the blank of its separator in front. -/
theorem splitTop_intercalate {x : List Char} {xs : List (List Char)} (hx : Bracketed x)
    (hxs : ∀ y ∈ xs, Bracketed y) :
    splitTop 0 ([',', ' '].intercalate (x :: xs)) = x :: xs.map (' ' :: ·) := by
  induction xs generalizing x with
  | nil =>
    have h := splitTop_append hx []
    simp only [List.append_nil] at h
    simp [h, splitTop, prependFirst]
  | cons y ys ih =>
    rw [List.intercalate_cons_cons, List.append_assoc, splitTop_append hx]
    have hy := ih (hxs y List.mem_cons_self) fun z hz => hxs z (List.mem_cons_of_mem y hz)
    simp [splitTop, step, hy, prependFirst]

/-! ## The last parenthesis opened at level zero -/

/-- A text cut before its last `(` opened at level zero, the level starting at `d`: what stands
before it and what follows it. -/
def splitLastOpen : Int → List Char → Option (List Char × List Char)
  | _, [] => none
  | d, c :: cs =>
    match splitLastOpen (step d c) cs with
    | some (a, b) => some (c :: a, b)
    | none => if c = '(' ∧ d = 0 then some ([], cs) else none

theorem splitLastOpen_append {d : Int} (x : List Char) {s a b : List Char}
    (h : splitLastOpen (level d x) s = some (a, b)) :
    splitLastOpen d (x ++ s) = some (x ++ a, b) := by
  induction x generalizing d with
  | nil => exact h
  | cons c x ih =>
    simp only [List.cons_append, splitLastOpen]
    rw [ih h]

/-- The level never falls below zero while a text is read from `d`; commas may stand anywhere. -/
def StaysNonneg : Int → List Char → Prop
  | _, [] => True
  | d, c :: cs => 0 ≤ step d c ∧ StaysNonneg (step d c) cs

theorem staysNonneg_append {d : Int} {x y : List Char} (hx : StaysNonneg d x)
    (hy : StaysNonneg (level d x) y) : StaysNonneg d (x ++ y) := by
  induction x generalizing d with
  | nil => exact hy
  | cons c x ih => exact ⟨hx.1, ih hx.2 hy⟩

theorem staysNonneg_of_nestLevel {d e : Int} {l : List Char} (h : nestLevel d l = some e) :
    StaysNonneg d l := by
  induction l generalizing d with
  | nil => trivial
  | cons c l ih =>
    obtain ⟨-, hstep, h'⟩ := nestLevel_cons h
    exact ⟨hstep, ih h'⟩

theorem staysNonneg_of_isFlat {l : List Char} (hl : ∀ c ∈ l, IsFlat c) {d : Int} (hd : 0 ≤ d) :
    StaysNonneg d l := by
  induction l with
  | nil => trivial
  | cons c l ih =>
    rw [StaysNonneg, step_of_isFlat (hl c List.mem_cons_self)]
    exact ⟨hd, ih fun x hx => hl x (List.mem_cons_of_mem c hx)⟩

/-- Pieces that balance, joined by `", "`, never take the level below zero. -/
theorem staysNonneg_intercalate {xs : List (List Char)} (hxs : ∀ x ∈ xs, Bracketed x) :
    StaysNonneg 0 ([',', ' '].intercalate xs) := by
  induction xs with
  | nil => trivial
  | cons x xs ih =>
    have hx := hxs x List.mem_cons_self
    have ih' := ih fun y hy => hxs y (List.mem_cons_of_mem x hy)
    cases xs with
    | nil => simpa using staysNonneg_of_nestLevel hx
    | cons y ys =>
      rw [List.intercalate_cons_cons, List.append_assoc]
      refine staysNonneg_append (staysNonneg_of_nestLevel hx) ?_
      rw [level_of_nestLevel hx]
      exact ⟨by decide, by decide, ih'⟩

/-- No parenthesis is opened at level zero inside a text read from a positive level, when the
text never takes it below that. -/
theorem splitLastOpen_of_staysNonneg {d : Int} {l : List Char} (hd : 0 ≤ d)
    (hl : StaysNonneg d l) : splitLastOpen (d + 1) l = none := by
  induction l generalizing d with
  | nil => rfl
  | cons c l ih =>
    simp only [splitLastOpen, step_add_one, ih hl.1 hl.2]
    rw [if_neg (by omega)]

/-- The parameter list of an extern declaration starts at its last parenthesis opened at level
zero, when the text before it is of level zero and the list never falls below its own level. -/
theorem splitLastOpen_params {x p : List Char} (hx : level 0 x = 0) (hp : StaysNonneg 0 p) :
    splitLastOpen 0 (x ++ '(' :: p) = some (x, p) := by
  have hopen : splitLastOpen 0 ('(' :: p) = some ([], p) := by
    simp only [splitLastOpen]
    have := splitLastOpen_of_staysNonneg (Int.le_refl 0) hp
    simp only [step, Int.zero_add] at this ⊢
    simp [this]
  have := splitLastOpen_append x (hx ▸ hopen)
  simpa using this

/-! ## Numbers -/

/-- The number a decimal text stands for, with an optional minus sign. -/
def readInt : List Char → Int
  | [] => 0
  | c :: ds => if c = '-' then -(Text.digitsValue ds : Int) else (Text.digitsValue (c :: ds) : Int)

theorem digitsValue_append_digit (ds : List Char) (c : Char) :
    Text.digitsValue (ds ++ [c]) = 10 * Text.digitsValue ds + (c.toNat - '0'.toNat) := by
  simp [Text.digitsValue, List.foldl_append]

theorem toNat_digitChar {n : Nat} (hn : n < 10) : (Nat.digitChar n).toNat - '0'.toNat = n := by
  rw [Nat.toNat_digitChar_of_lt_ten hn, show '0'.toNat = 48 from rfl]
  omega

/-- The digits of a number, and the number they stand for. -/
theorem toDigits_digits (n : Nat) :
    (∀ c ∈ Nat.toDigits 10 n, c.isDigit = true) ∧ Text.digitsValue (Nat.toDigits 10 n) = n := by
  induction n using Nat.strongRecOn with
  | ind n ih =>
    by_cases hn : n < 10
    · rw [Nat.toDigits_of_lt_base hn]
      refine ⟨?_, ?_⟩
      · simp [Nat.isDigit_digitChar, hn]
      · simpa [Text.digitsValue] using toNat_digitChar hn
    · -- the last digit is written after the digits of the number of tens
      have hq : 0 < n / 10 := Nat.div_pos (by omega) (by omega)
      have hsplit := Nat.toDigits_append_toDigits (b := 10) (by omega) hq (Nat.mod_lt n (by omega))
      rw [Nat.div_add_mod, Nat.toDigits_of_lt_base (Nat.mod_lt n (by omega))] at hsplit
      obtain ⟨hdig, hval⟩ := ih (n / 10) (Nat.div_lt_self (by omega) (by omega))
      rw [← hsplit]
      refine ⟨?_, ?_⟩
      · intro c hc
        rcases List.mem_append.1 hc with hc | hc
        · exact hdig c hc
        · simp only [List.mem_singleton] at hc
          simp [hc, Nat.isDigit_digitChar, Nat.mod_lt n (by omega : 10 > 0)]
      · rw [digitsValue_append_digit, hval, toNat_digitChar (Nat.mod_lt n (by omega))]
        exact Nat.div_add_mod n 10

/-- The decimal text of an integer holds digits and a leading minus sign only. -/
theorem toString_int_chars (i : Int) : ∀ c ∈ (toString i).toList, c = '-' ∨ c.isDigit = true := by
  intro c hc
  cases i with
  | ofNat n =>
    exact Or.inr ((toDigits_digits n).1 c (by simpa [toString, Int.repr, Nat.repr] using hc))
  | negSucc n =>
    simp only [toString, Int.repr, Nat.repr, String.toList_append, List.mem_append] at hc
    rcases hc with hc | hc
    · exact Or.inl (by simpa using hc)
    · exact Or.inr ((toDigits_digits (n + 1)).1 c (by simpa using hc))

/-- **A number is read back from its decimal text.** -/
theorem readInt_toString (i : Int) : readInt (toString i).toList = i := by
  cases i with
  | ofNat n =>
    have hdig := toDigits_digits n
    have htext : (toString (Int.ofNat n)).toList = Nat.toDigits 10 n := by
      simp [toString, Int.repr, Nat.repr]
    rw [htext]
    cases h : Nat.toDigits 10 n with
    | nil => exact absurd h Nat.toDigits_ne_nil
    | cons c ds =>
      have hc : c ≠ '-' := by
        intro hc
        have := hdig.1 c (by simp [h])
        simp [hc] at this
      simp [readInt, hc, ← h, hdig.2]
  | negSucc n =>
    have htext : (toString (Int.negSucc n)).toList = '-' :: Nat.toDigits 10 (n + 1) := by
      simp [toString, Int.repr, Nat.repr]
    rw [htext]
    simp [readInt, (toDigits_digits (n + 1)).2, Int.negSucc_eq]

end NativeBindings.Managed.Reading
