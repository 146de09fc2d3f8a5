/-
# How a literal is shown

The token of a literal is made in two steps.  The marker to show is taken from the
options or from the match, and only the latter can fail (`shownMarker`); with it the
token is put together (`shown`).  `token_eq` says that these are the two steps, so
that a proof about literals need not go through them again.

Which match is a literal is decided before any of that, from the text and the style
alone (`pieces_cases`).
-/

import AsmListing.Literal

namespace AsmListing

open Architecture

/-- Whether the token is a hex literal or a symbol. -/
def Token.isLiteral : Token → Bool
  | hex .. | symbol .. => true
  | _ => false

namespace Literal

/-- The digits to show. -/
def shownDigits (style : LiteralStyle) (o : Options) (digits : Text) : Text :=
  let digits := if style.zeroLed then dropLeadingZero digits else digits
  if o.upperDigits then Text.upper digits else digits

/-- The size to show, if there is one. -/
def shownSize (o : Options) (m : Hit) : Option Text :=
  (m.group? GroupName.size).map fun s => if o.upperSizes then Text.upper s else s

/-- The marker to show: that of the options, or else that of the match. -/
def shownMarker (o : Options) (m : Hit) : Except MissingGroup Text :=
  match o.marker with
  | some s => .ok s
  | none => required m GroupName.marker .marker

/-- The token of a literal with the marker to show. -/
def shown (style : LiteralStyle) (o : Options) (m : Hit) (digits marker : Text) : Token :=
  let digits := shownDigits style o digits
  let markerLast := style.markerLast && !o.markerFirst
  match m.group? GroupName.label with
  | some label =>
    let literal := if markerLast then digits ++ marker else marker ++ digits
    .symbol label (literal ++ (shownSize o m).getD []) (shownSize o m) m.taken
  | none => .hex marker digits (shownSize o m) markerLast m.taken

/-- **A literal is shown with its marker,** and lacks nothing else. -/
theorem token_eq (style : LiteralStyle) (o : Options) (m : Hit) (digits : Text) :
    token style o m digits = (shownMarker o m).map (shown style o m digits) := by
  unfold token shownMarker shown
  cases ho : o.marker <;> cases hl : m.group? GroupName.label <;>
    cases hm : required m GroupName.marker .marker <;> rfl

/-- The token of a literal is a hex literal or a symbol. -/
theorem isLiteral_of_token {style : LiteralStyle} {o : Options} {m : Hit} {digits : Text}
    {t : Token} (h : token style o m digits = .ok t) : t.isLiteral = true := by
  rw [token_eq] at h
  obtain ⟨marker, -, rfl⟩ := Certain.map_eq_ok_iff.1 h
  unfold shown
  split <;> rfl

/-- Without a match nothing is found. -/
theorem pieces_of_none {style : LiteralStyle} {text : Text}
    (h : style.pattern.find? text = none) (o : Options) :
    pieces style o text = .ok [.rest text] := by
  rw [pieces, h]

/-- A match is a literal, unless its digits are barred by the zero they should start
with. -/
theorem pieces_of_some {style : LiteralStyle} {text : Text} {hit : Hit}
    (h : style.pattern.find? text = some hit) (o : Options) :
    pieces style o text = (required hit GroupName.digits .digits).bind fun digits =>
      if (style.zeroLed && digits.head?.any Char.isAlpha) = true then .ok [.rest text]
      else (token style o hit digits).map fun t =>
        [.rest hit.before, .token t, .rest hit.after] := by
  rw [pieces, h]
  dsimp only [bind]
  cases required hit GroupName.digits .digits with
  | error e => rfl
  | ok digits =>
    dsimp only [Except.bind]
    split
    · rfl
    · cases token style o hit digits <;> rfl

/-- **The options do not decide what a literal is.**  Under all options the first
match is one, or none is found, or the same group is missing. -/
theorem pieces_cases (style : LiteralStyle) (text : Text) :
    (∀ o, pieces style o text = .ok [.rest text]) ∨
      (∃ hit digits, style.pattern.find? text = some hit ∧
        ∀ o, pieces style o text = (token style o hit digits).map
          fun t => [.rest hit.before, .token t, .rest hit.after]) ∨
      ∃ e, ∀ o, pieces style o text = .error e := by
  cases hf : style.pattern.find? text with
  | none => exact .inl (pieces_of_none hf)
  | some hit =>
    have found := pieces_of_some hf
    cases hd : required hit GroupName.digits .digits with
    | error e => exact .inr (.inr ⟨e, fun o => by rw [found, hd]; rfl⟩)
    | ok digits =>
      by_cases hz : (style.zeroLed && digits.head?.any Char.isAlpha) = true
      · exact .inl fun o => by rw [found, hd, Except.bind, if_pos hz]
      · exact .inr (.inl ⟨hit, digits, rfl, fun o => by rw [found, hd, Except.bind, if_neg hz]⟩)

end Literal
end AsmListing
