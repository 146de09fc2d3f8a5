/-
# Reading literals without patterns

A literal can be read character by character.  Its marker and its digits stand one
behind the other, in the order that the marking of the architecture says.  A size and a
label belong to it where they follow directly.  `Marking.front?` reads the literal in
front of a text in this way, and knows nothing of patterns.

A literal starts where a marker and a digit meet in their order (`Marking.Starts`).  That
is all that is needed for one to be read (`Marking.isSome_front?_iff`): the digits read
are the whole run of digits, and a marker behind them can only stand at the end of the
run, since it does not start with a digit itself.
-/

import AsmListing.Opcode
import AsmListing.Record
import AsmListing.Proofs.Record.Case
import AsmListing.Proofs.Record.Grammar

namespace AsmListing

namespace Text

/-- The front of a text that spells a word in any case, and what follows it. -/
def cutWord? (word s : Text) : Option (Text × Text) :=
  if lower (s.take word.length) = word then some (s.take word.length, s.drop word.length)
  else none

theorem cutWord?_eq_some_iff {word s t r : Text} :
    cutWord? word s = some (t, r) ↔ lower t = word ∧ s = t ++ r := by
  unfold cutWord?
  constructor
  · intro h
    split at h
    · next spelled =>
      cases h
      exact ⟨spelled, (List.take_append_drop word.length s).symm⟩
    · cases h
  · rintro ⟨rfl, rfl⟩
    rw [length_lower, List.take_left, List.drop_left, if_pos rfl]

theorem cutWord?_nil (s : Text) : cutWord? [] s = some ([], s) :=
  cutWord?_eq_some_iff.2 ⟨rfl, rfl⟩

theorem cutWord?_cons_nil (a : Char) (word : Text) : cutWord? (a :: word) [] = none :=
  if_neg (List.cons_ne_nil a word).symm

theorem cutWord?_cons_cons (a c : Char) (word s : Text) :
    cutWord? (a :: word) (c :: s) =
      if c.toLower = a then (cutWord? word s).map fun (t, r) => (c :: t, r) else none := by
  have front : lower ((c :: s).take (a :: word).length) = a :: word ↔
      c.toLower = a ∧ lower (s.take word.length) = word := by
    simp [lower]
  unfold cutWord?
  by_cases hc : c.toLower = a
  · by_cases hs : lower (s.take word.length) = word
    · rw [if_pos (front.2 ⟨hc, hs⟩), if_pos hc, if_pos hs]
      rfl
    · rw [if_neg fun h => hs (front.1 h).2, if_pos hc, if_neg hs]
      rfl
  · rw [if_neg fun h => hc (front.1 h).1, if_neg hc]

end Text

/-- The characters that markers, sizes and labels are recognized by, in lower case. -/
def signs : List Char :=
  "$0xh'.\x7b\x7d".toList

/-- How an architecture marks its literals. -/
structure Marking where
  /-- The markers in lower case. -/
  markers : List Text
  /-- A marker follows the digits. -/
  last : Bool
  nonempty : markers ≠ []
  spelled : ∀ w ∈ markers, w ≠ [] ∧ w.all (· ∈ signs) = true
  /-- Digits end where a marker starts behind them. -/
  apart : last = true → ∀ w ∈ markers, w.head?.any isHexDigit = false
  deriving DecidableEq, Repr

/-- The parts of a literal as they are written. -/
structure LiteralParts where
  marker : Text
  digits : Text
  /-- The size with its point. -/
  size : Option Text
  /-- The label without its braces. -/
  label : Option Text
  deriving DecidableEq, Repr

namespace LiteralParts

/-- The text of a literal, with its parts in the order in which they are written. -/
def raw (markerLast : Bool) (p : LiteralParts) : Text :=
  (if markerLast then p.digits ++ p.marker else p.marker ++ p.digits) ++
    p.size.getD [] ++ (p.label.map fun l => '\x7b' :: l ++ ['\x7d']).getD []

end LiteralParts

namespace Marking

/-! ### The parts one by one -/

/-- The run of digits in front of a text, and what follows it. -/
def digits? (s : Text) : Option (Text × Text) :=
  if s.takeWhile isHexDigit = [] then none
  else some (s.takeWhile isHexDigit, s.dropWhile isHexDigit)

/-- The size in front of a text. -/
def size? : Text → Option Text
  | '.' :: c :: _ => if Opcode.isSizeLetter c then some ['.', c] else none
  | _ => none

/-- The label in front of a text, which has to be in braces and may not be empty. -/
def label? : Text → Option Text
  | '\x7b' :: s => ((Text.cutAt '\x7d' s).map Prod.fst).filter fun l => !l.isEmpty
  | _ => none

/-- A literal with a given marker and digits in front of a text. -/
def followedBy (marker digits s : Text) : LiteralParts where
  marker := marker
  digits := digits
  size := size? s
  label := label? (s.drop ((size? s).getD []).length)

variable (m : Marking)

/-- The literal in front of a text, if it has a given marker. -/
def frontWith? (s word : Text) : Option LiteralParts :=
  if m.last then
    (digits? s).bind fun (digits, r) =>
      (Text.cutWord? word r).map fun (marker, r) => followedBy marker digits r
  else
    (Text.cutWord? word s).bind fun (marker, r) =>
      (digits? r).map fun (digits, r) => followedBy marker digits r

/-- The literal in front of a text. -/
def front? (s : Text) : Option LiteralParts :=
  m.markers.findSome? (m.frontWith? s)

/-- A text starts with a literal when a marker and some digits stand in front of it, one
behind the other. -/
def Starts (s : Text) : Prop :=
  ∃ marker digits r, Text.lower marker ∈ m.markers ∧
    digits ≠ [] ∧ (∀ c ∈ digits, isHexDigit c = true) ∧
      s = (if m.last then digits ++ marker else marker ++ digits) ++ r

theorem digits?_eq_some {s digits r : Text} (h : digits? s = some (digits, r)) :
    s = digits ++ r ∧ digits ≠ [] ∧ ∀ c ∈ digits, isHexDigit c = true := by
  unfold digits? at h
  split at h
  · cases h
  · next some_digit =>
    cases h
    exact ⟨List.takeWhile_append_dropWhile.symm, some_digit, fun c => List.mem_takeWhile_imp⟩

/-- Digits are read up to the first character that is none. -/
theorem digits?_append {digits r : Text} (hd : ∀ c ∈ digits, isHexDigit c = true)
    (nonempty : digits ≠ []) (hr : ∀ c ∈ r.head?, isHexDigit c = false) :
    digits? (digits ++ r) = some (digits, r) := by
  obtain ⟨htake, hdrop⟩ := Text.takeWhile_append_run hd hr
  rw [digits?, htake, hdrop, if_neg nonempty]

/-- Where there is a digit, digits are read. -/
theorem isSome_digits? {digits : Text} (hd : ∀ c ∈ digits, isHexDigit c = true)
    (nonempty : digits ≠ []) (r : Text) : (digits? (digits ++ r)).isSome = true := by
  cases digits with
  | nil => exact absurd rfl nonempty
  | cons c s =>
    have first : isHexDigit c = true := hd c (List.mem_cons_self ..)
    rw [digits?, List.cons_append, List.takeWhile_cons_of_pos first,
      if_neg (List.cons_ne_nil _ _)]
    rfl

/-- A marker behind digits does not start with a digit. -/
theorem not_isHexDigit_head? (hl : m.last = true) {marker : Text}
    (hm : Text.lower marker ∈ m.markers) (r : Text) :
    ∀ c ∈ (marker ++ r).head?, isHexDigit c = false := by
  obtain ⟨nonempty, -⟩ := m.spelled _ hm
  have apart := m.apart hl _ hm
  cases marker with
  | nil => exact absurd rfl nonempty
  | cons a s =>
    intro c hc
    cases hc
    have lowered : isHexDigit a.toLower = false := by simpa [Text.lower] using apart
    rw [← isHexDigit_toLower, lowered]

/-- A literal that is read has its marker and its digits in front of the text, and what
follows them is read as its size and label. -/
theorem frontWith?_eq_some {s word : Text} {p : LiteralParts}
    (h : m.frontWith? s word = some p) :
    ∃ r, Text.lower p.marker = word ∧ p.digits ≠ [] ∧ (∀ c ∈ p.digits, isHexDigit c = true) ∧
      s = (if m.last then p.digits ++ p.marker else p.marker ++ p.digits) ++ r ∧
        p = followedBy p.marker p.digits r := by
  unfold frontWith? at h
  by_cases hl : m.last = true
  · rw [if_pos hl] at h
    obtain ⟨⟨digits, r⟩, hd, h⟩ := Option.bind_eq_some_iff.1 h
    obtain ⟨⟨marker, r'⟩, hm, rfl⟩ := Option.map_eq_some_iff.1 h
    obtain ⟨rfl, nonempty, hex⟩ := digits?_eq_some hd
    obtain ⟨rfl, rfl⟩ := Text.cutWord?_eq_some_iff.1 hm
    exact ⟨r', rfl, nonempty, hex, by rw [if_pos hl]; exact (List.append_assoc ..).symm, rfl⟩
  · rw [if_neg hl] at h
    obtain ⟨⟨marker, r⟩, hm, h⟩ := Option.bind_eq_some_iff.1 h
    obtain ⟨⟨digits, r'⟩, hd, rfl⟩ := Option.map_eq_some_iff.1 h
    obtain ⟨rfl, rfl⟩ := Text.cutWord?_eq_some_iff.1 hm
    obtain ⟨rfl, nonempty, hex⟩ := digits?_eq_some hd
    exact ⟨r', rfl, nonempty, hex, by rw [if_neg hl]; exact (List.append_assoc ..).symm, rfl⟩

/-- A marker and digits are read as such, unless more digits follow. -/
theorem frontWith?_append {marker digits r : Text} (hw : Text.lower marker ∈ m.markers)
    (nonempty : digits ≠ []) (hex : ∀ c ∈ digits, isHexDigit c = true)
    (hr : m.last = false → ∀ c ∈ r.head?, isHexDigit c = false) :
    m.frontWith? ((if m.last then digits ++ marker else marker ++ digits) ++ r)
      (Text.lower marker) = some (followedBy marker digits r) := by
  have word : ∀ s, Text.cutWord? (Text.lower marker) (marker ++ s) = some (marker, s) :=
    fun s => Text.cutWord?_eq_some_iff.2 ⟨rfl, rfl⟩
  unfold frontWith?
  by_cases hl : m.last = true
  · rw [if_pos hl, if_pos hl, List.append_assoc,
      digits?_append hex nonempty (m.not_isHexDigit_head? hl hw r), Option.bind_some]
    dsimp only
    rw [word]
    rfl
  · rw [if_neg hl, if_neg hl, List.append_assoc, word, Option.bind_some]
    dsimp only
    rw [digits?_append hex nonempty (hr (Bool.eq_false_iff.2 hl))]
    rfl

/-- **A literal with a given marker is read where one starts.** -/
theorem isSome_frontWith?_iff {s word : Text} (hw : word ∈ m.markers) :
    (m.frontWith? s word).isSome = true ↔ ∃ marker digits r, Text.lower marker = word ∧
      digits ≠ [] ∧ (∀ c ∈ digits, isHexDigit c = true) ∧
        s = (if m.last then digits ++ marker else marker ++ digits) ++ r := by
  constructor
  · intro read
    obtain ⟨p, read⟩ := Option.isSome_iff_exists.1 read
    obtain ⟨r, spelled, nonempty, hex, split, -⟩ := m.frontWith?_eq_some read
    exact ⟨p.marker, p.digits, r, spelled, nonempty, hex, split⟩
  · rintro ⟨marker, digits, r, rfl, nonempty, hex, rfl⟩
    by_cases hl : m.last = true
    · rw [m.frontWith?_append hw nonempty hex (by simp [hl])]
      rfl
    · have hm : Text.cutWord? (Text.lower marker) (marker ++ (digits ++ r)) =
          some (marker, digits ++ r) := Text.cutWord?_eq_some_iff.2 ⟨rfl, rfl⟩
      rw [frontWith?, if_neg hl, if_neg hl, List.append_assoc, hm, Option.bind_some]
      dsimp only
      rw [Option.isSome_map]
      exact isSome_digits? hex nonempty r

/-- **A literal is read where one starts.** -/
theorem isSome_front?_iff {s : Text} : (m.front? s).isSome = true ↔ m.Starts s := by
  rw [front?, List.findSome?_isSome_iff]
  constructor
  · rintro ⟨word, hw, read⟩
    obtain ⟨marker, digits, r, rfl, starts⟩ := (m.isSome_frontWith?_iff hw).1 read
    exact ⟨marker, digits, r, hw, starts⟩
  · rintro ⟨marker, digits, r, hw, starts⟩
    exact ⟨_, hw, (m.isSome_frontWith?_iff hw).2 ⟨marker, digits, r, rfl, starts⟩⟩

theorem front?_eq_none_iff {s : Text} : m.front? s = none ↔ ¬m.Starts s := by
  rw [← isSome_front?_iff, Option.not_isSome_iff_eq_none]

instance (s : Text) : Decidable (m.Starts s) :=
  decidable_of_iff _ m.isSome_front?_iff

/-! ### The markings that are always known -/

/-- A dollar sign in front. -/
def dollar : Marking :=
  ⟨["$".toList], false, by decide, by decide, by decide⟩

/-- `0x` in front. -/
def zeroX : Marking :=
  ⟨["0x".toList], false, by decide, by decide, by decide⟩

/-- A dollar sign or `0x` in front. -/
def dollarOrZeroX : Marking :=
  ⟨["$".toList, "0x".toList], false, by decide, by decide, by decide⟩

/-- An `h` and an apostrophe in front. -/
def quoted : Marking :=
  ⟨["h'".toList], false, by decide, by decide, by decide⟩

/-- An `h` behind. -/
def trailing : Marking :=
  ⟨["h".toList], true, by decide, by decide, by decide⟩

/-- The marking of the architecture with a key, or of none. -/
def ofKey : Option Text → Marking
  | none => dollarOrZeroX
  | some key =>
    if key = "i960".toList then zeroX
    else if key = "h8".toList then quoted
    else if key = "8086".toList ∨ key = "x86".toList then trailing
    else dollar

end Marking
end AsmListing
