/-
# Literals do not see case

The pieces of a text in lower case are the pieces of the text, up to case
(`Literal.pieces_lower`): there is a literal or none, with the same groups bound, and
as long a text on each of its sides.

Options may put digits and sizes into upper case.  In lower case that is forgotten
again (`Literal.lower_shownDigits`, `Literal.lower_shownSize`), so what is shown under
any options is known up to case from the match alone.
-/

import AsmListing.Proofs.Literal.Shown
import AsmListing.Proofs.Pattern.Case

namespace AsmListing

open Architecture

/-- The token with all its texts in lower case. -/
def Token.lower : Token → Token
  | hex marker digits size markerLast raw =>
    hex (Text.lower marker) (Text.lower digits) (size.map Text.lower) markerLast (Text.lower raw)
  | symbol label resolved size raw =>
    symbol (Text.lower label) (Text.lower resolved) (size.map Text.lower) (Text.lower raw)
  | register s => register (Text.lower s)
  | sizeSuffix s => sizeSuffix (Text.lower s)
  | comment s => comment (Text.lower s)
  | plain s => plain (Text.lower s)

namespace Token

theorem lower_lower (t : Token) : t.lower.lower = t.lower := by
  cases t <;> simp only [lower, Text.lower_lower, Text.map_lower_map_lower]

theorem kind_lower (t : Token) : t.lower.kind = t.kind := by
  cases t <;> rfl

theorem source_lower (t : Token) : t.lower.source = Text.lower t.source := by
  cases t <;> rfl

theorem text_lower (t : Token) : t.lower.text = Text.lower t.text := by
  cases t with
  | hex marker digits size markerLast raw =>
    cases markerLast <;> cases size <;> simp [lower, text, Text.lower_append]
  | _ => rfl

theorem hover_lower (t : Token) : t.lower.hover = t.hover.map Text.lower := by
  cases t <;> rfl

end Token

namespace Piece

/-- The piece with all its texts in lower case. -/
def lower : Piece → Piece
  | rest s => rest (Text.lower s)
  | token t => token t.lower

theorem token?_lower (p : Piece) : p.lower.token? = p.token?.map Token.lower := by
  cases p with
  | token t => rfl
  | rest s => cases s <;> rfl

end Piece

namespace Literal

/-- The digits shown are the digits without a leading zero, up to case. -/
theorem lower_shownDigits (style : LiteralStyle) (o : Options) (digits : Text) :
    Text.lower (shownDigits style o digits) =
      Text.lower (if style.zeroLed then dropLeadingZero digits else digits) := by
  unfold shownDigits
  dsimp only
  by_cases hu : o.upperDigits = true
  · rw [if_pos hu, Text.lower_upper]
  · rw [if_neg hu]

/-- The size shown is the size, up to case. -/
theorem lower_shownSize (o : Options) (m : Hit) :
    (shownSize o m).map Text.lower = (m.group? GroupName.size).map Text.lower := by
  unfold shownSize
  rw [Option.map_map]
  congr 1
  funext s
  by_cases hu : o.upperSizes = true
  · rw [Function.comp_apply, if_pos hu, Text.lower_upper]
  · rw [Function.comp_apply, if_neg hu]

theorem dropLeadingZero_of_ne {c : Char} (hc : c ≠ '0') (s : Text) :
    dropLeadingZero (c :: s) = c :: s := by
  rw [dropLeadingZero]
  intro d t h
  exact absurd (List.cons.inj h).1 hc

theorem dropLeadingZero_lower (s : Text) :
    dropLeadingZero (Text.lower s) = Text.lower (dropLeadingZero s) := by
  rcases s with _ | ⟨c, s⟩
  · rfl
  · by_cases hc : c = '0'
    · subst hc
      cases s with
      | nil => rfl
      | cons d s =>
        change (if d.toLower.isAlpha then _ else _) = Text.lower (if d.isAlpha then _ else _)
        rw [isAlpha_toLower]
        split <;> rfl
    · rw [dropLeadingZero_of_ne hc]
      exact dropLeadingZero_of_ne (mt (toLower_eq_iff (by decide)).1 hc) _

theorem required_lower (m : Hit) (name : Text) (missing : MissingGroup) :
    required m.lower name missing = (required m name missing).map Text.lower := by
  rw [required, required, Hit.group?_lower]
  cases m.group? name <;> rfl

/-- Digits in lower case are shown as the digits are, up to case. -/
theorem shownDigits_lower (style : LiteralStyle) (o : Options) (digits : Text) :
    Text.lower (shownDigits style o (Text.lower digits)) =
      Text.lower (shownDigits style o digits) := by
  rw [lower_shownDigits, lower_shownDigits]
  cases style.zeroLed
  · exact Text.lower_lower digits
  · change Text.lower (dropLeadingZero (Text.lower digits)) = Text.lower (dropLeadingZero digits)
    rw [dropLeadingZero_lower, Text.lower_lower]

theorem shownSize_lower (o : Options) (m : Hit) :
    (shownSize o m.lower).map Text.lower = (shownSize o m).map Text.lower := by
  rw [lower_shownSize, lower_shownSize, Hit.group?_lower, Text.map_lower_map_lower]

theorem shownMarker_lower (o : Options) (m : Hit) :
    (shownMarker o m.lower).map Text.lower = (shownMarker o m).map Text.lower := by
  unfold shownMarker
  cases o.marker with
  | some s => rfl
  | none =>
    dsimp only
    rw [required_lower, Certain.map_map]
    congr 1
    funext s
    exact Text.lower_lower s

/-- A match in lower case is shown as the match is, up to case, when their markers are. -/
theorem shown_lower (style : LiteralStyle) (o : Options) (m : Hit) (digits : Text)
    {marker marker' : Text} (h : Text.lower marker' = Text.lower marker) :
    (shown style o m.lower (Text.lower digits) marker').lower =
      (shown style o m digits marker).lower := by
  have hd := shownDigits_lower style o digits
  have hs := shownSize_lower o m
  have hr : Text.lower ((shownSize o m.lower).getD []) = Text.lower ((shownSize o m).getD []) :=
    calc Text.lower ((shownSize o m.lower).getD [])
        = ((shownSize o m.lower).map Text.lower).getD [] := (Option.getD_map Text.lower [] _).symm
      _ = ((shownSize o m).map Text.lower).getD [] := by rw [hs]
      _ = Text.lower ((shownSize o m).getD []) := Option.getD_map Text.lower [] _
  have ht : Text.lower m.lower.taken = Text.lower m.taken := by
    rw [Hit.taken_lower, Text.lower_lower]
  unfold shown
  rw [Hit.group?_lower]
  cases m.group? GroupName.label with
  | none => simp only [Option.map_none, Token.lower, h, hd, hs, ht]
  | some label =>
    cases style.markerLast && !o.markerFirst <;>
      simp [Token.lower, Text.lower_append, Text.lower_lower, h, hd, hs, hr, ht]

/-- **The token of a match in lower case is the token of the match, up to case.** -/
theorem token_lower (style : LiteralStyle) (o : Options) (m : Hit) (digits : Text) :
    (token style o m.lower (Text.lower digits)).map Token.lower =
      (token style o m digits).map Token.lower := by
  have hm := shownMarker_lower o m
  rw [token_eq, token_eq]
  generalize shownMarker o m.lower = marker' at hm ⊢
  generalize shownMarker o m = marker at hm ⊢
  cases marker' with
  | ok s' =>
    obtain ⟨s, rfl, hs⟩ := Certain.map_eq_ok_iff.1 hm.symm
    exact congrArg Except.ok (shown_lower style o m digits hs.symm)
  | error e =>
    cases marker with
    | ok s => cases hm
    | error e' =>
      cases hm
      rfl

/-- **The pieces of a text in lower case are the pieces of the text, up to case.** -/
theorem pieces_lower (style : LiteralStyle) (o : Options) (s : Text) :
    (pieces style o (Text.lower s)).map (List.map Piece.lower) =
      (pieces style o s).map (List.map Piece.lower) := by
  have whole : [Piece.lower (.rest (Text.lower s))] = [Piece.lower (.rest s)] := by
    rw [Piece.lower, Text.lower_lower, Piece.lower]
  have around : ∀ l r : Text, (List.map Piece.lower ∘ fun t => [.rest l, .token t, .rest r]) =
      (fun t => [.rest (Text.lower l), .token t, .rest (Text.lower r)]) ∘ Token.lower :=
    fun _ _ => rfl
  have found := Pattern.find?_lower style.pattern s
  cases hf : style.pattern.find? s with
  | none =>
    rw [hf] at found
    rw [pieces_of_none found, pieces_of_none hf]
    exact congrArg Except.ok whole
  | some hit =>
    rw [hf] at found
    rw [pieces_of_some found, pieces_of_some hf, required_lower]
    cases required hit GroupName.digits .digits with
    | error e => rfl
    | ok digits =>
      change Except.map _ (if (style.zeroLed && (Text.lower digits).head?.any Char.isAlpha) = true
        then _ else _) = Except.map _ (if _ then _ else _)
      rw [Text.any_head?_lower isAlpha_toLower]
      split
      · exact congrArg Except.ok whole
      · rw [Certain.map_map, Certain.map_map, around, around, ← Certain.map_map,
          ← Certain.map_map, token_lower, Hit.lower, Text.lower_lower, Text.lower_lower]

end Literal

end AsmListing
