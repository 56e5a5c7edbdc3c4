import NativeBindings.Text.CharacterName.Table

/-!
# Characters by name

A character may be named instead of written: `CharacterName.exact` finds the character whose name
is spelled exactly as given, and `CharacterName.loose` the one whose name fits under the loose
rule of the Unicode standard (UAX44-LM2): case does not count, nor do spaces, underscores, and
hyphens that stand between two letters or digits. The one name in which such a hyphen tells two
characters apart, `HANGUL JUNGSEONG O-E` beside `HANGUL JUNGSEONG OE`, is kept apart by hand.

Most names come from `characterNameTable`. The others are made from the code point: a prefix
and the code point in hexadecimal digits for the ideographs and the characters of a few scripts
(`generatedRanges`), and the letters of the three parts of a Hangul syllable.
-/

namespace NativeBindings.Text

/-- Where reading an entry of `characterNameTable` is. -/
inductive EntryPart where
  /-- Reading the decimal digits of a distance, with the value of those read. -/
  | distance (value : Nat)
  /-- The next character gives how much of the name before this one keeps. -/
  | shared
  /-- Reading the rest of the name. -/
  | rest
deriving Inhabited

/-- How far reading `characterNameTable` got: the code point and name of the entry being read,
where in the entry, and the first code point whose name has matched. -/
structure TableScan where
  code : Nat := 0
  name : Array Char := #[]
  part : EntryPart := .rest
  found : Option Nat := none
deriving Inhabited

namespace TableScan

/-- Ends the entry being read, keeping its code point when its name is the first to match. -/
def finish (fits : Array Char → Bool) (s : TableScan) : TableScan :=
  if s.found.isNone && !s.name.isEmpty && fits s.name then { s with found := some s.code }
  else s

/-- Reads one character of the table, `digits` being the characters of `sharedLengthDigits`. -/
def step (digits : List Char) (fits : Array Char → Bool) (s : TableScan) (c : Char) :
    TableScan :=
  match s.part with
  | .distance d =>
    if c == '!' then { s with code := s.code + d, part := .shared }
    else { s with part := .distance (d * 10 + (c.toNat - '0'.toNat)) }
  | .shared => { s with name := s.name.extract 0 (digits.idxOf c), part := .rest }
  | .rest =>
    if c == '!' then { finish fits s with part := .distance 0 }
    else if 'a' ≤ c && c ≤ 'z' then
      let s := finish fits s
      { s with code := s.code + (c.toNat - 'a'.toNat + 1), part := .shared }
    else { s with name := s.name.push c }

end TableScan

/-- The first character of `characterNameTable` whose name fits. -/
def tableCharacter (fits : Array Char → Bool) : Option Nat :=
  let digits := sharedLengthDigits.toList
  let read := characterNameTable.foldl (fun s piece => piece.foldl (TableScan.step digits fits) s) {}
  (TableScan.finish fits read).found

/-- The prefixes of the names made from a code point, with the code points that have them. -/
def generatedRanges : List (String × Nat × Nat) :=
  [("CJK UNIFIED IDEOGRAPH-", 0x3400, 0x4DBF), ("CJK UNIFIED IDEOGRAPH-", 0x4E00, 0x9FFF),
   ("CJK UNIFIED IDEOGRAPH-", 0x20000, 0x2A6DF), ("CJK UNIFIED IDEOGRAPH-", 0x2A700, 0x2B739),
   ("CJK UNIFIED IDEOGRAPH-", 0x2B740, 0x2B81D), ("CJK UNIFIED IDEOGRAPH-", 0x2B820, 0x2CEA1),
   ("CJK UNIFIED IDEOGRAPH-", 0x2CEB0, 0x2EBE0), ("CJK UNIFIED IDEOGRAPH-", 0x2EBF0, 0x2EE5D),
   ("CJK UNIFIED IDEOGRAPH-", 0x30000, 0x3134A),
   ("CJK UNIFIED IDEOGRAPH-", 0x31350, 0x323AF), ("TANGUT IDEOGRAPH-", 0x17000, 0x187F7),
   ("TANGUT IDEOGRAPH-", 0x18D00, 0x18D08), ("KHITAN SMALL SCRIPT CHARACTER-", 0x18B00, 0x18CD5),
   ("NUSHU CHARACTER-", 0x1B170, 0x1B2FB), ("CJK COMPATIBILITY IDEOGRAPH-", 0xF900, 0xFA6D),
   ("CJK COMPATIBILITY IDEOGRAPH-", 0xFA70, 0xFAD9),
   ("CJK COMPATIBILITY IDEOGRAPH-", 0x2F800, 0x2FA1D)]

/-- The value of hexadecimal digits, if there are some and nothing else; `upper` asks for the
capital letters. -/
def hexValue (upper : Bool) (ds : List Char) : Option Nat :=
  let digit (c : Char) : Option Nat :=
    if '0' ≤ c && c ≤ '9' then some (c.toNat - '0'.toNat)
    else if 'A' ≤ c && c ≤ 'F' then some (c.toNat - 'A'.toNat + 10)
    else if !upper && 'a' ≤ c && c ≤ 'f' then some (c.toNat - 'a'.toNat + 10)
    else none
  if ds.isEmpty then none
  else ds.foldl (fun acc c => acc.bind fun v => (digit c).map (v * 16 + ·)) (some 0)

/-- The code point that a name made from one stands for, `digitsAfter` giving the digits that
follow a prefix in the name, if it has the prefix. -/
def generatedCharacter (upper : Bool) (digitsAfter : List Char → Option (List Char)) :
    Option Nat :=
  generatedRanges.findSome? fun (pre, lo, hi) =>
    (digitsAfter pre.toList).bind fun rest =>
      (hexValue upper rest).bind fun v => if lo ≤ v && v ≤ hi then some v else none

/-- The letters of the first consonant of a Hangul syllable. -/
def hangulLeading : List String :=
  ["G", "GG", "N", "D", "DD", "R", "M", "B", "BB", "S", "SS", "", "J", "JJ", "C", "K", "T", "P",
   "H"]

/-- The letters of the vowel of a Hangul syllable. -/
def hangulVowel : List String :=
  ["A", "AE", "YA", "YAE", "EO", "E", "YEO", "YE", "O", "WA", "WAE", "OE", "YO", "U", "WEO", "WE",
   "WI", "YU", "EU", "YI", "I"]

/-- The letters of the last consonant of a Hangul syllable, the first standing for none. -/
def hangulTrailing : List String :=
  ["", "G", "GG", "GS", "N", "NJ", "NH", "D", "L", "LG", "LM", "LB", "LS", "LT", "LP", "LH", "M",
   "B", "BS", "S", "SS", "NG", "J", "C", "K", "T", "P", "H"]

/-- The first Hangul syllable. -/
def hangulBase : Nat := 0xAC00

/-- How many Hangul syllables there are: every first consonant with every vowel and every last
consonant or none. -/
def hangulCount : Nat := 19 * 21 * 28

/-- The name of the Hangul syllable at an index from `hangulBase`. -/
def hangulName (i : Nat) : String :=
  "HANGUL SYLLABLE " ++ hangulLeading.getD (i / 588) "" ++ hangulVowel.getD (i % 588 / 28) "" ++
    hangulTrailing.getD (i % 28) ""

/-- The Hangul syllable whose name fits. -/
def hangulCharacter (fits : String → Bool) : Option Nat :=
  ((List.range hangulCount).find? fun i => fits (hangulName i)).map (hangulBase + ·)

/-- A name as loose matching compares it: capital letters, without spaces, underscores, and
hyphens between two letters or digits; `before` is the character before the rest. -/
def looseKey (before : Char) : List Char → List Char
  | [] => []
  | c :: rest =>
    let medial := c == '-' && before.isAlphanum && (rest.head?.any Char.isAlphanum)
    if c == ' ' || c == '_' || medial then looseKey c rest else c.toUpper :: looseKey c rest

namespace CharacterName

/-- The character whose name is spelled exactly as `name`. -/
def exact (name : String) : Option Nat :=
  if name.isEmpty then none
  else
    let target := name.toList
    let digitsAfter (pre : List Char) : Option (List Char) :=
      if pre.isPrefixOf target then some (target.drop pre.length) else none
    (hangulCharacter (· == name)).orElse fun _ =>
      (generatedCharacter true digitsAfter).orElse fun _ =>
        tableCharacter (·.toList == target)

/-- The character whose name fits `name` under loose matching. -/
def loose (name : String) : Option Nat :=
  let key := looseKey ' ' name.toList
  if key.isEmpty then none
  else
    let sameKey (n : List Char) : Bool := looseKey ' ' n == key
    -- the hyphen that ends a prefix stands between a letter and the digits, so the key drops it
    let digitsAfter (pre : List Char) : Option (List Char) :=
      let preKey := looseKey ' ' pre.dropLast
      if preKey.isPrefixOf key then some (key.drop preKey.length) else none
    let found := (hangulCharacter (sameKey ·.toList)).orElse fun _ =>
      (generatedCharacter false digitsAfter).orElse fun _ => tableCharacter (sameKey ·.toList)
    let upper := name.toList.map Char.toUpper
    let hyphened := (List.range upper.length).any fun i => (upper.drop i).take 3 == ['O', '-', 'E']
    if found == some 0x116C && hyphened then some 0x1180 else found

end CharacterName

end NativeBindings.Text
