/-
# Texts up to case

Two texts have the same letters when they differ at most in the case of ASCII
letters (`Text.SameLetters`), that is, when they are the same in lower case.

What is asked about single characters here (whether one is blank, a digit, a
letter) does not depend on case.  So lower case commutes with the ways in which a
text is cut: trimmed (`Text.trim_lower`), cut at a mark (`Text.cutAt_lower`), taken
apart into lines (`Text.lines_lower`).
-/

import AsmListing.Text.Blank
import AsmListing.Proofs.Text.Lines

namespace AsmListing

/-! ### Characters -/

/-- Outside ASCII nothing changes in lower case. -/
theorem toLower_of_wide {c : Char} (h : ¬c.toNat < 128) : c.toLower = c :=
  dif_neg fun hu => h (Nat.lt_of_le_of_lt (UInt32.le_iff_toNat_le.1 hu.2) (by decide))

/-- Nor in upper case. -/
theorem toUpper_of_wide {c : Char} (h : ¬c.toNat < 128) : c.toUpper = c :=
  dif_neg fun hu => h (Nat.lt_of_le_of_lt (UInt32.le_iff_toNat_le.1 hu.2) (by decide))

/-- What holds on ASCII and outside of it holds of all characters. -/
theorem of_ascii {P : Char → Prop} (ascii : ∀ n : Fin 128, P (Char.ofNat n))
    (wide : ∀ c : Char, ¬c.toNat < 128 → P c) (c : Char) : P c := by
  by_cases hc : c.toNat < 128
  · simpa using ascii ⟨c.toNat, hc⟩
  · exact wide c hc

/-- A question to which case does not matter on ASCII is one to which it never
matters. -/
theorem congr_toLower {α : Type} (f : Char → α)
    (h : ∀ n : Fin 128, f (Char.ofNat n).toLower = f (Char.ofNat n)) (c : Char) :
    f c.toLower = f c :=
  of_ascii (P := fun c => f c.toLower = f c) h (fun _ wide => congrArg f (toLower_of_wide wide)) c

theorem isBlank_toLower (c : Char) : isBlank c.toLower = isBlank c :=
  congr_toLower isBlank (by decide) c

theorem isAlpha_toLower (c : Char) : c.toLower.isAlpha = c.isAlpha :=
  congr_toLower Char.isAlpha (by decide) c

theorem toLower_toLower (c : Char) : c.toLower.toLower = c.toLower :=
  congr_toLower Char.toLower (by decide) c

theorem toLower_toUpper (c : Char) : c.toUpper.toLower = c.toLower :=
  of_ascii (P := fun c => c.toUpper.toLower = c.toLower) (by decide)
    (fun _ wide => congrArg Char.toLower (toUpper_of_wide wide)) c

/-- Only a letter has a lower case of its own. -/
theorem toLower_of_not_isAlpha {c : Char} : c.isAlpha = false → c.toLower = c :=
  of_ascii (P := fun c => c.isAlpha = false → c.toLower = c) (by decide)
    (fun _ wide _ => toLower_of_wide wide) c

/-- A mark that is no letter stands in lower case where it stood. -/
theorem toLower_eq_iff {c mark : Char} (h : mark.isAlpha = false) :
    c.toLower = mark ↔ c = mark := by
  constructor
  · rintro rfl
    rw [isAlpha_toLower] at h
    exact (toLower_of_not_isAlpha h).symm
  · rintro rfl
    exact toLower_of_not_isAlpha h

namespace Text

/-! ### Texts -/

/-- The ASCII letters of `s` in lower case, all else unchanged. -/
def lower (s : Text) : Text :=
  s.map Char.toLower

/-- Texts that differ at most in the case of ASCII letters. -/
def SameLetters (s t : Text) : Prop :=
  lower s = lower t

instance : DecidableRel SameLetters :=
  fun s t => inferInstanceAs (Decidable (lower s = lower t))

theorem lower_lower (s : Text) : lower (lower s) = lower s := by
  simp only [lower, List.map_map, Function.comp_def, toLower_toLower]

theorem map_lower_map_lower (s : Option Text) : (s.map lower).map lower = s.map lower := by
  rw [Option.map_map]
  exact congrArg (Option.map · s) (funext lower_lower)

theorem lower_upper (s : Text) : lower (upper s) = lower s := by
  simp only [lower, upper, List.map_map, Function.comp_def, toLower_toUpper]

theorem length_lower (s : Text) : (lower s).length = s.length :=
  List.length_map ..

theorem lower_append (s t : Text) : lower (s ++ t) = lower s ++ lower t :=
  List.map_append

theorem isEmpty_lower (s : Text) : (lower s).isEmpty = s.isEmpty :=
  List.isEmpty_map

theorem mem_lower_iff {mark : Char} (h : mark.isAlpha = false) {s : Text} :
    mark ∈ lower s ↔ mark ∈ s := by
  rw [lower, List.mem_map]
  constructor
  · rintro ⟨c, hc, e⟩
    rwa [← (toLower_eq_iff h).1 e]
  · exact fun hm => ⟨mark, hm, toLower_of_not_isAlpha h⟩

theorem rel_of_map_lower_eq {s t : Option Text} (h : s.map lower = t.map lower) :
    Option.Rel SameLetters s t := by
  cases s <;> cases t
  · exact .none
  · cases h
  · cases h
  · exact .some (Option.some.inj h)

/-! ### Cutting texts -/

section runs

variable {p : Char → Bool} (hp : ∀ c, p c.toLower = p c)
include hp

theorem takeWhile_lower (s : Text) : (lower s).takeWhile p = lower (s.takeWhile p) := by
  rw [lower, List.takeWhile_map, show p ∘ Char.toLower = p from funext hp]
  rfl

theorem dropWhile_lower (s : Text) : (lower s).dropWhile p = lower (s.dropWhile p) := by
  rw [lower, List.dropWhile_map, show p ∘ Char.toLower = p from funext hp]
  rfl

end runs

/-- The first character has the property, if there is one. -/
theorem any_head?_lower {p : Char → Bool} (hp : ∀ c, p c.toLower = p c) (s : Text) :
    (lower s).head?.any p = s.head?.any p := by
  cases s with
  | nil => rfl
  | cons c s => exact hp c

theorem trimLeft_lower (s : Text) : trimLeft (lower s) = lower (trimLeft s) :=
  dropWhile_lower isBlank_toLower s

theorem trimRight_lower (s : Text) : trimRight (lower s) = lower (trimRight s) := by
  have reversed : ∀ r : Text, (lower r).reverse = lower r.reverse := fun r => List.map_reverse.symm
  rw [trimRight, reversed, dropWhile_lower isBlank_toLower, reversed, trimRight]

/-- **Trimming does not depend on case.** -/
theorem trim_lower (s : Text) : trim (lower s) = lower (trim s) := by
  rw [trim, trimLeft_lower, trimRight_lower, trim]

/-- **A mark that is no letter cuts a text at the same place in both cases.** -/
theorem cutAt_lower {mark : Char} (h : mark.isAlpha = false) (s : Text) :
    cutAt mark (lower s) = (cutAt mark s).map (Prod.map lower lower) := by
  induction s with
  | nil => rfl
  | cons c s ih =>
    change cutAt mark (c.toLower :: lower s) = _
    by_cases hc : c = mark
    · rw [cutAt, if_pos ((toLower_eq_iff h).2 hc), cutAt, if_pos hc]
      rfl
    · rw [cutAt, if_neg (mt (toLower_eq_iff h).1 hc), cutAt, if_neg hc, ih, Option.map_map,
        Option.map_map]
      rfl

theorem onFirst_lower (c : Char) (ls : List Text) :
    onFirst c.toLower (ls.map lower) = (onFirst c ls).map lower := by
  cases ls <;> rfl

/-- **Lines end at the same places in both cases.** -/
theorem lines_lower (s : Text) : lines (lower s) = (lines s).map lower := by
  fun_induction lines s with
  | case1 => rfl
  | case2 s ih =>
    change lines ('\n' :: lower s) = _
    rw [lines_lf, ih]
    rfl
  | case3 s ih =>
    change lines ('\r' :: '\n' :: lower s) = _
    rw [lines_crlf, ih]
    rfl
  | case4 c s hn hr ih =>
    change lines (c.toLower :: lower s) = _
    rw [lines_cons, ih, onFirst_lower]
    · exact mt (toLower_eq_iff (by decide)).1 hn
    · intro t hc hs
      cases s with
      | nil => cases hs
      | cons d s =>
        obtain ⟨hd, -⟩ := List.cons.inj hs
        rw [toLower_eq_iff (by decide)] at hc hd
        exact hr s hc (by rw [hd])

end Text
end AsmListing
