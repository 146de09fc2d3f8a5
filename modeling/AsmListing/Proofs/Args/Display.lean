/-
# The display of literals

The literal of an operand text is displayed in one way, whether it has a label or not: a
hex literal is shown as its display, and a symbol stands for it (`Token.Shows`).  The display
is put together from the parts that the match of the literals holds
(`LiteralParts.display`).  It may differ from the text of the literal in its marker, in the
order of marker and digits, in the case of letters and in a leading zero, but never in the
value of its digits (`LiteralParts.hexValue_shownDigits`).

This holds for all architectures whose marker is a pattern by itself, and where no
architecture is chosen (`literals_displayed`).
-/

import AsmListing.Proofs.Args.Scanned
import AsmListing.Proofs.Literal.Matched
import AsmListing.Proofs.Text.Case

namespace AsmListing

open Architecture

/-- The number that hex digits stand for, in any case. -/
def hexValue (digits : Text) : Nat :=
  (Text.lower digits).foldl (fun n c => 16 * n + "0123456789abcdef".toList.idxOf c) 0

/-- The case of letters does not change the number. -/
theorem hexValue_upper (digits : Text) : hexValue (Text.upper digits) = hexValue digits := by
  rw [hexValue, Text.lower_upper, hexValue]

/-- Nor does a leading zero. -/
theorem hexValue_zero_cons (digits : Text) : hexValue ('0' :: digits) = hexValue digits := rfl

namespace LiteralParts

variable (o : Options) (p : LiteralParts)

/-- Whether the digits are a zero and then a letter. -/
def leadsLetter : Bool :=
  p.digits.head? = some '0' && p.digits.tail.head?.any Char.isAlpha

/-- The digits on display. -/
def shownDigits (zeroLed : Bool) : Text :=
  let digits := if zeroLed && p.leadsLetter then p.digits.tail else p.digits
  if o.upperDigits then Text.upper digits else digits

/-- The size on display. -/
def shownSize : Option Text :=
  p.size.map fun s => if o.upperSizes then Text.upper s else s

/-- A literal on display, without its label. -/
def display (markerLast zeroLed : Bool) : Text :=
  let digits := p.shownDigits o zeroLed
  let marker := o.marker.getD p.marker
  (if markerLast && !o.markerFirst then digits ++ marker else marker ++ digits) ++
    (p.shownSize o).getD []

/-- Whether the zero is missing that the digits should start with. -/
def barred (zeroLed : Bool) : Bool :=
  zeroLed && p.digits.head?.any Char.isAlpha

/-- **The digits on display stand for the same number.** -/
theorem hexValue_shownDigits (zeroLed : Bool) :
    hexValue (p.shownDigits o zeroLed) = hexValue p.digits := by
  have kept : hexValue (if zeroLed && p.leadsLetter then p.digits.tail else p.digits) =
      hexValue p.digits := by
    split
    · next h =>
      rw [leadsLetter, Bool.and_eq_true, Bool.and_eq_true, decide_eq_true_eq] at h
      obtain ⟨digits, split⟩ := List.head?_eq_some_iff.1 h.2.1
      rw [split]
      exact (hexValue_zero_cons digits).symm
    · rfl
  unfold shownDigits
  dsimp only
  split
  · rw [hexValue_upper, kept]
  · exact kept

end LiteralParts

namespace Token

/-- The label of a symbol. -/
def label? : Token → Option Text
  | symbol label _ _ _ => some label
  | _ => none

/-- The size of a hex literal or a symbol. -/
def size? : Token → Option Text
  | hex _ _ size _ _ | symbol _ _ size _ => size
  | _ => none

/-- The literal on display: the text of a hex literal, or what a symbol stands for. -/
def literal? : Token → Option Text
  | hex marker digits size markerLast raw => some (hex marker digits size markerLast raw).text
  | symbol _ resolved _ _ => some resolved
  | _ => none

/-- A token shows a literal: it is cut from the text of the literal, is a symbol where there
is a label, and has the literal on display. -/
structure Shows (markerLast zeroLed : Bool) (o : Options) (p : LiteralParts) (t : Token) :
    Prop where
  source : t.source = p.raw markerLast
  label : t.label? = p.label
  size : t.size? = p.shownSize o
  literal : t.literal? = some (p.display o markerLast zeroLed)

theorem Shows.isLiteral {markerLast zeroLed : Bool} {o : Options} {p : LiteralParts} {t : Token}
    (h : t.Shows markerLast zeroLed o p) : t.isLiteral = true := by
  have literal := h.literal
  cases t with
  | hex | symbol => rfl
  | register | sizeSuffix | comment | plain => cases literal

end Token

namespace Literal

theorem dropLeadingZero_eq (p : LiteralParts) :
    dropLeadingZero p.digits = if p.leadsLetter then p.digits.tail else p.digits := by
  unfold LiteralParts.leadsLetter
  rcases p.digits with _ | ⟨a, _ | ⟨c, s⟩⟩
  · rfl
  · simp [dropLeadingZero]
  · by_cases ha : a = '0'
    · subst ha
      simp [dropLeadingZero]
    · simp [dropLeadingZero, ha]

variable {style : LiteralStyle} {p : LiteralParts} {hit : Hit}

theorem shownDigits_eq (o : Options) :
    shownDigits style o p.digits = p.shownDigits o style.zeroLed := by
  unfold shownDigits LiteralParts.shownDigits
  rw [dropLeadingZero_eq]
  cases style.zeroLed <;> rfl

/-- **The token of a match shows the literal whose parts the match holds.** -/
theorem exists_token_shows (h : p.IsOf hit) (taken : hit.taken = p.raw style.markerLast)
    (o : Options) : ∃ t, token style o hit p.digits = .ok t ∧
      t.Shows style.markerLast style.zeroLed o p := by
  have marker : shownMarker o hit = .ok (o.marker.getD p.marker) := by
    unfold shownMarker
    cases o.marker with
    | some s => rfl
    | none => rw [required, h.marker]; rfl
  have size : shownSize o hit = p.shownSize o := by
    rw [shownSize, h.size]
    rfl
  refine ⟨_, by rw [token_eq, marker]; rfl, ?_⟩
  unfold shown
  rw [shownDigits_eq, size, h.label]
  cases hl : p.label with
  | none => exact ⟨taken, hl.symm, rfl, rfl⟩
  | some label => exact ⟨taken, hl.symm, rfl, rfl⟩

end Literal

namespace Args

/-- Whether markers follow the digits where a profile is chosen, or none. -/
def markerLast (profile : Option Profile) : Bool :=
  profile.any fun p => p.definition.markerLast

/-- Whether values are led by a zero where a profile is chosen, or none. -/
def zeroLed (profile : Option Profile) : Bool :=
  profile.any fun p => p.definition.zeroLed

theorem markerLast_literalStyle (profile : Option Profile) :
    (literalStyle profile).markerLast = markerLast profile := by
  cases profile <;> rfl

theorem zeroLed_literalStyle (profile : Option Profile) :
    (literalStyle profile).zeroLed = zeroLed profile := by
  cases profile <;> rfl

/-- A run and a comment have no literal. -/
theorem isLiteral_of_mem_plain {profile : Option Profile} {text : Text} {comment : Option Text}
    {t : Token} (h : t ∈ run profile text ++ (comment.map Token.comment).toList) :
    t.isLiteral = false := by
  rcases List.mem_append.1 h with h | h
  · exact isLiteral_of_mem_run h
  · obtain ⟨s, -, rfl⟩ := Option.map_eq_some_iff.1 (Option.mem_toList.1 h)
    rfl

/-- The only literal is the one between the runs. -/
theorem eq_of_isLiteral {profile : Option Profile} {text before after : Text} {barred : Bool}
    {comment : Option Text} {t t' : Token}
    (h : t' ∈ (if barred then run profile text else run profile before ++ t :: run profile after) ++
      (comment.map Token.comment).toList) (literal : t'.isLiteral = true) :
    barred = false ∧ t' = t := by
  have apart : ∀ s, t' ∉ run profile s ++ (comment.map Token.comment).toList := by
    intro s hs
    rw [isLiteral_of_mem_plain hs] at literal
    cases literal
  cases barred with
  | true => exact absurd h (apart text)
  | false =>
    rw [if_neg Bool.false_ne_true, List.append_assoc, List.mem_append, List.cons_append,
      List.mem_cons] at h
    rcases h with h | h | h
    · exact absurd (List.mem_append_left _ h) (apart before)
    · exact ⟨rfl, h⟩
    · exact absurd h (apart after)

/-- **A match that holds the parts of a literal is shown between two runs,** unless the
digits are barred. -/
theorem operands_of_isOf {text : Text} {profile : Option Profile} {hit : Hit} {p : LiteralParts}
    (found : (literalStyle profile).pattern.find? text = some hit) (h : p.IsOf hit)
    (taken : hit.taken = p.raw (markerLast profile)) (o : Options) :
    ∃ t : Token, t.Shows (markerLast profile) (zeroLed profile) o p ∧
      operands text profile o = .ok (if p.barred (zeroLed profile) then run profile text
        else run profile hit.before ++ t :: run profile hit.after) := by
  rw [← markerLast_literalStyle] at taken ⊢
  rw [← zeroLed_literalStyle]
  obtain ⟨t, ht, shows⟩ := Literal.exists_token_shows h taken o
  refine ⟨t, shows, ?_⟩
  rw [operands_of_some found h.digits, ht, LiteralParts.barred]
  split <;> rfl

/-- The literals of a profile, or of none, are read from a marker that is a pattern by
itself. -/
theorem exists_ofText_literals {profile : Option Profile}
    (known : ∀ p ∈ profile, ∃ ds r, Registry.ofDefinitions ds = .ok r ∧ p ∈ r.profiles ∧
      (Pattern.ofText p.definition.marker).isOk = true) :
    ∃ marker m, Pattern.ofText marker = .ok m ∧
      Pattern.ofText (literalPattern marker (markerLast profile)) =
        .ok (literalStyle profile).pattern := by
  cases profile with
  | none => exact ⟨genericMarker, _, Certain.eq_ok_value (by decide +kernel), ofText_generic⟩
  | some p =>
    obtain ⟨ds, r, hr, hp, hm⟩ := known p rfl
    obtain ⟨m, hm⟩ := Certain.isOk_iff.1 hm
    exact ⟨_, m, hm, Registry.literals_of_mem hr hp⟩

/-- **Every literal is displayed from the parts of the first match.**  The marker of the
architecture, if one is chosen, has to be a pattern by itself.  Then the args are taken apart.
There is a hex literal or symbol among their tokens exactly when the text in front of the
comment has a match whose digits are not barred, and it shows the literal whose parts the first
match holds: its digits are hex digits, and a size is a point and a letter.  The digits on
display stand for the same number. -/
theorem literals_displayed {profile : Option Profile}
    (known : ∀ p ∈ profile, ∃ ds r, Registry.ofDefinitions ds = .ok r ∧ p ∈ r.profiles ∧
      (Pattern.ofText p.definition.marker).isOk = true)
    (args : Option Text) (o : Options) :
    ∃ ts, tokens args profile o = .ok ts ∧
      ((∃ t ∈ ts, t.isLiteral = true) ↔ ∃ text hit, ∃ p : LiteralParts, args = some text ∧
        (literalStyle profile).pattern.find? (splitComment text).1 = some hit ∧ p.IsOf hit ∧
        p.barred (zeroLed profile) = false) ∧
      ∀ t ∈ ts, t.isLiteral = true → ∃ text hit, ∃ p : LiteralParts, args = some text ∧
        (literalStyle profile).pattern.find? (splitComment text).1 = some hit ∧ p.IsOf hit ∧
        p.Formed ∧ t.Shows (markerLast profile) (zeroLed profile) o p ∧
        hexValue (p.shownDigits o (zeroLed profile)) = hexValue p.digits := by
  cases args with
  | none =>
    refine ⟨[], rfl, ⟨?_, ?_⟩, fun t ht => absurd ht List.not_mem_nil⟩
    · rintro ⟨t, ht, -⟩
      cases ht
    · rintro ⟨text, -, -, h, -⟩
      cases h
  | some text =>
    rw [tokens_some]
    cases found : (literalStyle profile).pattern.find? (splitComment text).1 with
    | none =>
      rw [operands_of_none found]
      have lacks : ∀ t ∈ run profile (splitComment text).1 ++
          ((splitComment text).2.map Token.comment).toList, t.isLiteral = true → False := by
        intro t ht literal
        rw [isLiteral_of_mem_plain ht] at literal
        cases literal
      refine ⟨_, rfl, ⟨?_, ?_⟩, fun t ht literal => (lacks t ht literal).elim⟩
      · rintro ⟨t, ht, literal⟩
        exact (lacks t ht literal).elim
      · rintro ⟨_, hit, -, ⟨⟩, h, -⟩
        rw [found] at h
        cases h
    | some hit =>
      obtain ⟨marker, m, hm, hp⟩ := exists_ofText_literals known
      obtain ⟨p, formed, isOf, taken⟩ := exists_isOf hm hp found
      obtain ⟨t, shows, operands_eq⟩ := operands_of_isOf found isOf taken o
      rw [operands_eq]
      refine ⟨_, rfl, ⟨?_, ?_⟩, fun t' ht literal => ?_⟩
      · rintro ⟨t', ht, literal⟩
        exact ⟨text, hit, p, rfl, found, isOf, (eq_of_isLiteral ht literal).1⟩
      · rintro ⟨_, hit', p', ⟨⟩, found', isOf', free⟩
        cases found.symm.trans found'
        rw [isOf'.unique isOf] at free
        rw [free]
        exact ⟨t, by simp, shows.isLiteral⟩
      · rw [(eq_of_isLiteral ht literal).2]
        exact ⟨text, hit, p, rfl, found, isOf, formed, shows, p.hexValue_shownDigits o _⟩

/-- The architectures that are always known are among these. -/
theorem isOk_marker_of_builtin {profile : Option Profile}
    (hp : ∀ p ∈ profile, p ∈ builtin.profiles) :
    ∀ p ∈ profile, ∃ ds r, Registry.ofDefinitions ds = .ok r ∧ p ∈ r.profiles ∧
      (Pattern.ofText p.definition.marker).isOk = true := by
  intro p h
  refine ⟨definitions, builtin, ofDefinitions_definitions, hp p h, ?_⟩
  rw [(Marking.marker_of_mem_builtin (hp p h)).1]
  rfl

/-- The leading zero is dropped, the marker is another one in another place, and what is left
is in upper case. -/
theorem literals_displayed_table :
    ∃ p t o, builtin.lookup "x86".toList = some p ∧
      o = { marker := some "$".toList, markerFirst := true, upperDigits := true } ∧
      tokens (some "[0c8h.w\x7btable\x7d]".toList) (some p) o =
        .ok [.plain "[".toList, t, .plain "]".toList] ∧
      t = .symbol "table".toList "$C8.W".toList (some ".W".toList) "0c8h.w\x7btable\x7d".toList ∧
      ∃ hit, ∃ q : LiteralParts, p.literals.find? "[0c8h.w\x7btable\x7d]".toList = some hit ∧
        q.IsOf hit ∧ q.Formed ∧ t.Shows true true o q ∧
        hexValue (q.shownDigits o true) = hexValue q.digits := by
  obtain ⟨p, hp, shown⟩ := exists_lookup_builtin "x86".toList
    (fun p => p.definition.markerLast && p.definition.zeroLed &&
      decide ((tokens (some "[0c8h.w\x7btable\x7d]".toList) (some p)
        { marker := some "$".toList, markerFirst := true, upperDigits := true }).toOption = some
          [.plain "[".toList, .symbol "table".toList "$C8.W".toList (some ".W".toList)
            "0c8h.w\x7btable\x7d".toList, .plain "]".toList]))
    (by decide +kernel)
  rw [Bool.and_eq_true, Bool.and_eq_true, decide_eq_true_eq] at shown
  obtain ⟨⟨last, led⟩, shown⟩ := shown
  have tokens_eq := Certain.eq_ok_of_toOption shown
  obtain ⟨ts, hts, -, displayed⟩ := literals_displayed
    (isOk_marker_of_builtin (mem_builtin_of_lookup hp))
    (some "[0c8h.w\x7btable\x7d]".toList)
    { marker := some "$".toList, markerFirst := true, upperDigits := true }
  rw [tokens_eq] at hts
  cases hts
  obtain ⟨text, hit, q, same, found, isOf, formed, shows, value⟩ :=
    displayed _ (List.mem_cons_of_mem _ (List.mem_cons_self ..)) rfl
  cases same
  have split : splitComment "[0c8h.w\x7btable\x7d]".toList =
      ("[0c8h.w\x7btable\x7d]".toList, none) := by decide +kernel
  rw [split] at found
  rw [show markerLast (some p) = true from last, show zeroLed (some p) = true from led] at *
  exact ⟨p, _, _, hp, rfl, tokens_eq, rfl, hit, q, found, isOf, formed, shows, value⟩

end Args
end AsmListing
