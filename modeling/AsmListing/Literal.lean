/-
# Hex literals

A match of a literal pattern binds the marker, the digits, perhaps a size and
perhaps a label.  `Literal.token` shows these parts under some options:

* where values are led by a zero, a zero before a letter is dropped;
* digits and size may be put into upper case;
* another marker may be shown, and markers that follow may be put in front.

A literal with a label becomes a symbol that stands for the literal as it would
be shown.
-/

import AsmListing.Token
import AsmListing.Options
import AsmListing.Architecture.Profile

namespace AsmListing

/-- A group that a literal cannot do without. -/
inductive MissingGroup where
  | marker
  | digits
  deriving DecidableEq, Repr

/-- A piece of an argument text: text in which more may still be found, or a
token. -/
inductive Piece where
  | rest (text : Text)
  | token (t : Token)
  deriving DecidableEq, Repr

namespace Piece

/-- The text that a piece was cut from. -/
def source : Piece → Text
  | rest s => s
  | token t => t.source

/-- The token of a piece in which nothing more is to be found; empty text makes
none. -/
def token? : Piece → Option Token
  | rest [] => none
  | rest s => some (.plain s)
  | token t => some t

end Piece

namespace Literal

open Architecture

/-- The text of a group that has to be bound. -/
def required (m : Hit) (name : Text) (missing : MissingGroup) : Except MissingGroup Text :=
  match m.group? name with
  | some s => .ok s
  | none => .error missing

/-- The digits without the zero that only leads a letter. -/
def dropLeadingZero : Text → Text
  | '0' :: c :: s => if c.isAlpha then c :: s else '0' :: c :: s
  | s => s

/-- The token of a literal that has been matched with the given digits. -/
def token (style : LiteralStyle) (o : Options) (m : Hit) (digits : Text) :
    Except MissingGroup Token := do
  let digits := if style.zeroLed then dropLeadingZero digits else digits
  let digits := if o.upperDigits then Text.upper digits else digits
  let size := (m.group? GroupName.size).map fun s => if o.upperSizes then Text.upper s else s
  let marker ←
    match o.marker with
    | some s => pure s
    | none => required m GroupName.marker .marker
  let markerLast := style.markerLast && !o.markerFirst
  match m.group? GroupName.label with
  | some label =>
    let literal := if markerLast then digits ++ marker else marker ++ digits
    return .symbol label (literal ++ size.getD []) size m.taken
  | none => return .hex marker digits size markerLast m.taken

/-- The pieces of a text around its first literal.  Where values are led by a
zero, digits that start with a letter are no literal, and no later one is looked
for. -/
def pieces (style : LiteralStyle) (o : Options) (text : Text) :
    Except MissingGroup (List Piece) :=
  match style.pattern.find? text with
  | none => .ok [.rest text]
  | some hit => do
    let digits ← required hit GroupName.digits .digits
    if style.zeroLed && digits.head?.any Char.isAlpha then
      return [.rest text]
    let t ← token style o hit digits
    return [.rest hit.before, .token t, .rest hit.after]

theorem required_isOk {m : Hit} {name : Text} (h : (m.group? name).isSome = true)
    (missing : MissingGroup) : ∃ s, required m name missing = .ok s := by
  obtain ⟨s, hs⟩ := Option.isSome_iff_exists.1 h
  exact ⟨s, by rw [required, hs]⟩

theorem token_isOk (style : LiteralStyle) {m : Hit}
    (h : (m.group? GroupName.marker).isSome = true) (o : Options) (digits : Text) :
    ∃ t, token style o m digits = .ok t := by
  obtain ⟨marker, hm⟩ := required_isOk h .marker
  unfold token
  cases ho : o.marker <;> cases hl : m.group? GroupName.label <;>
    simp [bind, Except.bind, pure, Except.pure, hm]

/-- Where every literal has its marker and digits, finding one does not fail. -/
theorem pieces_isOk {style : LiteralStyle} (h : style.complete = true) (o : Options)
    (text : Text) : ∃ ps, pieces style o text = .ok ps := by
  rw [LiteralStyle.complete, Bool.and_eq_true] at h
  unfold pieces
  cases hf : style.pattern.find? text with
  | none => exact ⟨_, rfl⟩
  | some hit =>
    obtain ⟨digits, hd⟩ := required_isOk (Pattern.group?_isSome h.2 hf) .digits
    obtain ⟨t, ht⟩ := token_isOk style (Pattern.group?_isSome h.1 hf) o digits
    simp only [bind, Except.bind, pure, Except.pure, hd, ht]
    split <;> exact ⟨_, rfl⟩

end Literal
end AsmListing
