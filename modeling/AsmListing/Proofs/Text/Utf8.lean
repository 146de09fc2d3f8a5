/-
# Which bytes are a text

The bytes of one character in UTF-8 (`Encodes`) are a first byte that tells how many
follow, and that many more of the range `80` to `BF`.  Three conditions go beyond that: a
character is written by no more bytes than it needs, the numbers of surrogates are none,
and the last number is `10FFFF`.  Each of them concerns the first two bytes only.

Bytes are well-formed when they are such sequences, one behind the other.  They are then
the encoding of a text, and of no other bytes is there one (`wellFormed_iff`).
-/

import AsmListing.Text.Basic

namespace AsmListing
namespace Utf8

/-- A byte that is not the first of a character. -/
def Continues (b : UInt8) : Prop :=
  0x80 ≤ b.toNat ∧ b.toNat ≤ 0xBF

/-- The byte sequences of single characters. -/
inductive Encodes : List UInt8 → Prop where
  | one {a : UInt8} (lead : a.toNat ≤ 0x7F) : Encodes [a]
  | two {a b : UInt8} (lead : 0xC2 ≤ a.toNat ∧ a.toNat ≤ 0xDF) (second : Continues b) :
      Encodes [a, b]
  | three {a b c : UInt8} (lead : 0xE0 ≤ a.toNat ∧ a.toNat ≤ 0xEF)
      (second : Continues b) (third : Continues c)
      (shortest : a.toNat = 0xE0 → 0xA0 ≤ b.toNat)
      (noSurrogate : a.toNat = 0xED → b.toNat ≤ 0x9F) : Encodes [a, b, c]
  | four {a b c d : UInt8} (lead : 0xF0 ≤ a.toNat ∧ a.toNat ≤ 0xF4)
      (second : Continues b) (third : Continues c) (fourth : Continues d)
      (shortest : a.toNat = 0xF0 → 0x90 ≤ b.toNat)
      (inRange : a.toNat = 0xF4 → b.toNat ≤ 0x8F) : Encodes [a, b, c, d]

/-- Bytes that are characters, one behind the other. -/
inductive WellFormed : List UInt8 → Prop where
  | nil : WellFormed []
  | append {bs rest : List UInt8} (first : Encodes bs) (others : WellFormed rest) :
      WellFormed (bs ++ rest)

theorem encodes_utf8EncodeChar (c : Char) : Encodes (String.utf8EncodeChar c) := by
  have valid : c.val.toNat < 0xD800 ∨ 0xDFFF < c.val.toNat ∧ c.val.toNat < 0x110000 := c.valid
  unfold String.utf8EncodeChar
  generalize c.val.toNat = v at valid ⊢
  dsimp only
  split
  · refine .one ?_
    rw [UInt8.toNat_ofNat']
    omega
  split
  · refine .two ?_ ?_ <;> simp only [Continues, UInt8.toNat_ofNat'] <;> omega
  split
  · refine .three ?_ ?_ ?_ ?_ ?_ <;> simp only [Continues, UInt8.toNat_ofNat'] <;> omega
  · refine .four ?_ ?_ ?_ ?_ ?_ ?_ <;> simp only [Continues, UInt8.toNat_ofNat'] <;> omega

theorem exists_char_toNat {n : Nat} (valid : n.isValidChar) : ∃ c : Char, c.val.toNat = n :=
  ⟨Char.ofNatAux n valid, rfl⟩

/-- The bytes of a character give its number back, six bits for each byte that continues. -/
theorem Encodes.exists_char {bs : List UInt8} (h : Encodes bs) :
    ∃ c : Char, bs = String.utf8EncodeChar c := by
  cases h with
  | @one a lead =>
    obtain ⟨c, hc⟩ := exists_char_toNat (n := a.toNat) (by unfold Nat.isValidChar; omega)
    refine ⟨c, ?_⟩
    simp only [String.utf8EncodeChar, hc]
    rw [if_pos (by omega), UInt8.ofNat_toNat]
  | @two a b lead second =>
    unfold Continues at second
    obtain ⟨c, hc⟩ := exists_char_toNat (n := (a.toNat - 0xC0) * 64 + (b.toNat - 0x80))
      (by unfold Nat.isValidChar; omega)
    refine ⟨c, ?_⟩
    simp only [String.utf8EncodeChar, hc]
    rw [if_neg (by omega), if_pos (by omega)]
    simp only [List.cons.injEq, and_true, ← UInt8.toNat_inj, UInt8.toNat_ofNat']
    omega
  | @three a b c lead second third shortest noSurrogate =>
    unfold Continues at second third
    obtain ⟨e, he⟩ := exists_char_toNat
      (n := (a.toNat - 0xE0) * 4096 + (b.toNat - 0x80) * 64 + (c.toNat - 0x80))
      (by unfold Nat.isValidChar; omega)
    refine ⟨e, ?_⟩
    simp only [String.utf8EncodeChar, he]
    rw [if_neg (by omega), if_neg (by omega), if_pos (by omega)]
    simp only [List.cons.injEq, and_true, ← UInt8.toNat_inj, UInt8.toNat_ofNat']
    omega
  | @four a b c d lead second third fourth shortest inRange =>
    unfold Continues at second third fourth
    obtain ⟨e, he⟩ := exists_char_toNat
      (n := (a.toNat - 0xF0) * 262144 + (b.toNat - 0x80) * 4096 + (c.toNat - 0x80) * 64 +
        (d.toNat - 0x80))
      (by unfold Nat.isValidChar; omega)
    refine ⟨e, ?_⟩
    simp only [String.utf8EncodeChar, he]
    rw [if_neg (by omega), if_neg (by omega), if_neg (by omega)]
    simp only [List.cons.injEq, and_true, ← UInt8.toNat_inj, UInt8.toNat_ofNat']
    omega

/-- **The sequences of one character are its encodings.** -/
theorem encodes_iff {bs : List UInt8} : Encodes bs ↔ ∃ c : Char, bs = String.utf8EncodeChar c :=
  ⟨Encodes.exists_char, fun ⟨c, hc⟩ => hc ▸ encodes_utf8EncodeChar c⟩

/-- **Bytes are well-formed exactly if they are the encoding of a text.** -/
theorem wellFormed_iff {bs : List UInt8} :
    WellFormed bs ↔ ∃ s : Text, bs = s.flatMap String.utf8EncodeChar := by
  constructor
  · intro h
    induction h with
    | nil => exact ⟨[], rfl⟩
    | append first _ ih =>
      obtain ⟨c, rfl⟩ := encodes_iff.1 first
      obtain ⟨s, rfl⟩ := ih
      exact ⟨c :: s, rfl⟩
  · rintro ⟨s, rfl⟩
    induction s with
    | nil => exact .nil
    | cons c s ih => exact .append (encodes_utf8EncodeChar c) ih

theorem wellFormed_data_iff {b : ByteArray} :
    WellFormed b.data.toList ↔ ∃ s : Text, b = s.utf8Encode := by
  rw [wellFormed_iff]
  refine exists_congr fun s => ⟨fun h => ByteArray.ext ?_, ?_⟩
  · rw [List.utf8Encode, List.data_toByteArray, ← h]
  · rintro rfl
    exact List.toList_data_toByteArray

theorem utf8Encode_injective {s t : Text} (h : s.utf8Encode = t.utf8Encode) : s = t := by
  rw [← String.toByteArray_ofList, ← String.toByteArray_ofList, String.toByteArray_inj] at h
  exact String.ofList_injective h

end Utf8
end AsmListing
