/-
# Literals without labels

A literal with a label goes on behind marker, digits and size.  Without the label it is
read just the same (`Marking.front?_bare`): what follows the digits has no say in where
they end, and a marker that could be read in front of the shorter text could be read in
front of the longer one as well.  So the search in the text of the literal without its
label finds all of it (`Marking.find?_bare`).
-/

import AsmListing.Proofs.Literal.Scanning

namespace AsmListing

namespace LiteralParts

/-- The literal without its label. -/
def bare (p : LiteralParts) : LiteralParts :=
  { p with label := none }

theorem raw_bare (markerLast : Bool) (p : LiteralParts) :
    p.bare.raw markerLast =
      (if markerLast then p.digits ++ p.marker else p.marker ++ p.digits) ++ p.size.getD [] :=
  List.append_nil _

/-- A label in its braces stands at the end. -/
theorem raw_of_label {p : LiteralParts} {label : Text} (h : p.label = some label)
    (markerLast : Bool) :
    p.raw markerLast = p.bare.raw markerLast ++ '\x7b' :: label ++ ['\x7d'] := by
  rw [raw_bare, raw, h]
  simp

end LiteralParts

namespace Marking

/-- There is no size, or it is a point and a letter. -/
theorem size?_cases (s : Text) : size? s = none ∨
    ∃ c r, s = '.' :: c :: r ∧ Opcode.isSizeLetter c = true ∧ size? s = some ['.', c] := by
  unfold size?
  split
  · next c r =>
    split
    · next letter => exact .inr ⟨c, r, rfl, letter, rfl⟩
    · exact .inl rfl
  · exact .inl rfl

/-- What follows marker and digits without the label is read as the same size. -/
theorem followedBy_size (marker digits s : Text) :
    followedBy marker digits ((size? s).getD []) = (followedBy marker digits s).bare := by
  unfold followedBy LiteralParts.bare
  rcases size?_cases s with h | ⟨c, r, -, letter, h⟩
  · rw [h]
    rfl
  · have same : size? ['.', c] = some ['.', c] := if_pos letter
    rw [h, Option.getD_some, same]
    rfl

variable (m : Marking)

/-- **Without its label a literal is read just the same.** -/
theorem front?_bare {s : Text} {p : LiteralParts} (h : m.front? s = some p) :
    m.front? (p.bare.raw m.last) = some p.bare := by
  obtain ⟨before, word, after, listed, here, earlier⟩ := List.findSome?_eq_some_iff.1 h
  obtain ⟨r, spelled, nonempty, hex, split, parts⟩ := m.frontWith?_eq_some here
  have size : p.size = size? r := congrArg LiteralParts.size parts
  have mem : ∀ w ∈ before ++ word :: after, w ∈ m.markers := by
    rw [listed]
    exact fun _ hw => hw
  have apart : ∀ c ∈ ((size? r).getD []).head?, isHexDigit c = false := by
    rcases size?_cases r with h | ⟨c, _, -, -, h⟩ <;> rw [h]
    · simp
    · rintro _ ⟨⟩
      decide
  have shorter : ∃ r', s = p.bare.raw m.last ++ r' := by
    rw [LiteralParts.raw_bare, size, split]
    rcases size?_cases r with h | ⟨c, r', rfl, -, h⟩
    · exact ⟨r, by rw [h]; simp⟩
    · exact ⟨r', by rw [h]; simp⟩
  refine List.findSome?_eq_some_iff.2 ⟨before, word, after, listed, ?_, fun w hw => ?_⟩
  · rw [LiteralParts.raw_bare, size, ← spelled,
      m.frontWith?_append (mem _ (by simp [spelled])) nonempty hex fun _ => apart,
      followedBy_size, ← parts]
  · by_contra read
    have known := mem w (by simp [hw])
    rw [← ne_eq, Option.ne_none_iff_isSome, m.isSome_frontWith?_iff known] at read
    obtain ⟨marker, digits, rest, rfl, some_digit, hex, starts⟩ := read
    obtain ⟨r', longer⟩ := shorter
    have read : (m.frontWith? s (Text.lower marker)).isSome = true :=
      (m.isSome_frontWith?_iff known).2 ⟨marker, digits, rest ++ r', rfl, some_digit, hex, by
        rw [longer, starts, List.append_assoc]⟩
    rw [earlier _ hw] at read
    cases read

/-- **All of the shorter text is found.** -/
theorem find?_bare {s : Text} {p : LiteralParts} (h : m.front? s = some p) :
    ∃ hit, m.literals.find? (p.bare.raw m.last) = some hit ∧ hit.before = [] ∧ hit.after = [] ∧
      hit.trail = p.bare.trail m.last := by
  have read := m.front?_bare h
  have starts : m.Starts (p.bare.raw m.last) := m.isSome_front?_iff.1 (by rw [read]; rfl)
  obtain ⟨parts, hit, same, found, before, trail⟩ :=
    m.find?_of_first (s := p.bare.raw m.last) (n := 0) starts fun k hk => absurd hk k.not_lt_zero
  rw [List.drop_zero, read] at same
  cases same
  have whole := (Pattern.leads_of_findFrom found).2
  rw [Hit.taken, trail, LiteralParts.taken_trail, before, List.take_zero, List.nil_append,
    List.append_right_eq_self] at whole
  exact ⟨hit, found, before, whole, trail⟩

end Marking
end AsmListing
