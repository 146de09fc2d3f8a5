/-
# Options change how literals are shown, and nothing else

Two documents made from one text under one profile are restylings of each other,
whatever the options (`Document.restyled_of_options`): line by line they have the
same address, the same opcode and the same args but for the texts that stand for a
literal, and those differ in its marker and in the case of its letters only.

The options enter a document at one place, the token of a literal.  That a literal
is there at all, and what stands around it, was decided before
(`Args.operands_cases`).
-/

import AsmListing.Proofs.Args.Runs
import AsmListing.Proofs.Document.Lines
import AsmListing.Proofs.Literal.Case

namespace AsmListing

open Architecture

/-- Tokens that are one token but for how a literal is shown: they are cut from the
same text, and where they are literals their digits and sizes have the same letters
and their labels are the same.  The marker, its side and the literal that a symbol
stands for may differ. -/
inductive Token.Restyled : Token → Token → Prop where
  | hex {digits digits' : Text} {size size' : Option Text} (hd : Text.SameLetters digits digits')
      (hs : Option.Rel Text.SameLetters size size') (marker marker' : Text)
      (markerLast markerLast' : Bool) (raw : Text) :
    Restyled (.hex marker digits size markerLast raw) (.hex marker' digits' size' markerLast' raw)
  | symbol {size size' : Option Text} (hs : Option.Rel Text.SameLetters size size') (label : Text)
      (resolved resolved' : Text) (raw : Text) :
    Restyled (.symbol label resolved size raw) (.symbol label resolved' size' raw)
  | same {t : Token} (h : t.isLiteral = false) : Restyled t t

/-- Lines that are one line but for how literals are shown. -/
inductive Line.Restyled : Line → Line → Prop where
  | instruction (address : Text) (opcode : List Token) {args args' : List Token}
      (h : List.Forall₂ Token.Restyled args args') :
    Restyled (.instruction address opcode args) (.instruction address opcode args')
  | unformatted (t : Token) : Restyled (.unformatted t) (.unformatted t)

theorem Token.Restyled.kind_eq {t u : Token} (h : Restyled t u) : t.kind = u.kind := by
  cases h <;> rfl

theorem Token.Restyled.source_eq {t u : Token} (h : Restyled t u) : t.source = u.source := by
  cases h <;> rfl

/-- The kinds of the tokens on a line and the texts that they were cut from. -/
def Line.cuts (l : Line) : List (TokenKind × Text) :=
  l.tokens.map fun t => (t.kind, t.source)

/-- Restyling a line cuts it in the same places. -/
theorem Line.Restyled.cuts_eq {l l' : Line} (h : Restyled l l') : l.cuts = l'.cuts := by
  cases h with
  | unformatted t => rfl
  | instruction address opcode h =>
    rw [cuts, cuts, tokens, tokens, List.map_append, List.map_append]
    congr 1
    exact map_eq_map_iff_forall₂.2 (h.imp fun _ _ ht => Prod.ext ht.kind_eq ht.source_eq)

namespace Literal

theorem sameLetters_shownDigits (style : LiteralStyle) (o o' : Options) (digits : Text) :
    Text.SameLetters (shownDigits style o digits) (shownDigits style o' digits) := by
  rw [Text.SameLetters, lower_shownDigits, lower_shownDigits]

theorem rel_shownSize (o o' : Options) (m : Hit) :
    Option.Rel Text.SameLetters (shownSize o m) (shownSize o' m) := by
  apply Text.rel_of_map_lower_eq
  rw [lower_shownSize, lower_shownSize]

/-- **The tokens of a match under two options are restylings of each other.** -/
theorem restyled_of_token {style : LiteralStyle} {o o' : Options} {m : Hit} {digits : Text}
    {t t' : Token} (h : token style o m digits = .ok t) (h' : token style o' m digits = .ok t') :
    Token.Restyled t t' := by
  rw [token_eq] at h h'
  obtain ⟨marker, -, rfl⟩ := Certain.map_eq_ok_iff.1 h
  obtain ⟨marker', -, rfl⟩ := Certain.map_eq_ok_iff.1 h'
  unfold shown
  cases m.group? GroupName.label with
  | none => exact .hex (sameLetters_shownDigits style o o' digits) (rel_shownSize o o' m) ..
  | some label => exact .symbol (rel_shownSize o o' m) ..

end Literal

namespace Args

theorem restyled_run (profile : Option Profile) (text : Text) :
    List.Forall₂ Token.Restyled (run profile text) (run profile text) :=
  List.forall₂_same.2 fun _ ht => .same (isLiteral_of_mem_run ht)

variable {profile : Option Profile} {o o' : Options}

theorem restyled_of_operands {text : Text} {ts ts' : List Token}
    (h : operands text profile o = .ok ts) (h' : operands text profile o' = .ok ts') :
    List.Forall₂ Token.Restyled ts ts' := by
  rcases operands_cases text profile with hr | ⟨hit, digits, -, hr⟩ | ⟨e, hr⟩ <;>
    rw [hr] at h h'
  · cases h
    cases h'
    exact restyled_run profile text
  · obtain ⟨t, ht, rfl⟩ := Certain.map_eq_ok_iff.1 h
    obtain ⟨t', ht', rfl⟩ := Certain.map_eq_ok_iff.1 h'
    exact List.rel_append (restyled_run profile hit.before)
      (.cons (Literal.restyled_of_token ht ht') (restyled_run profile hit.after))
  · cases h

/-- **The tokens of args under two options are restylings of each other.** -/
theorem restyled_of_tokens {args : Option Text} {ts ts' : List Token}
    (h : tokens args profile o = .ok ts) (h' : tokens args profile o' = .ok ts') :
    List.Forall₂ Token.Restyled ts ts' := by
  cases args with
  | none =>
    cases h
    cases h'
    exact .nil
  | some text =>
    rw [tokens_some] at h h'
    obtain ⟨us, hu, rfl⟩ := Certain.map_eq_ok_iff.1 h
    obtain ⟨us', hu', rfl⟩ := Certain.map_eq_ok_iff.1 h'
    refine List.rel_append (restyled_of_operands hu hu') ?_
    cases (splitComment text).2 with
    | none => exact .nil
    | some c => exact .cons (.same rfl) .nil

end Args

namespace Line

variable {profile : Option Profile} {o o' : Options}

theorem restyled_of_ofRecord {record : Record} {l l' : Line}
    (h : ofRecord record profile o = .ok l) (h' : ofRecord record profile o' = .ok l') :
    Restyled l l' := by
  cases record with
  | unformatted text =>
    cases h
    cases h'
    exact .unformatted _
  | instruction address opcode args =>
    obtain ⟨ts, ht, rfl⟩ := Certain.map_eq_ok_iff.1 h
    obtain ⟨ts', ht', rfl⟩ := Certain.map_eq_ok_iff.1 h'
    exact .instruction address _ (Args.restyled_of_tokens ht ht')

theorem restyled_of_ofRecords {records : List Record} {ls ls' : List Line}
    (h : ofRecords records profile o = .ok ls) (h' : ofRecords records profile o' = .ok ls') :
    List.Forall₂ Restyled ls ls' := by
  rw [ofRecords_eq_ok_iff] at h h'
  induction h generalizing ls' with
  | nil =>
    cases h'
    exact .nil
  | cons hr _ ih =>
    obtain ⟨l', ls', hr', hrs', rfl⟩ := List.forall₂_cons_left_iff.1 h'
    exact .cons (restyled_of_ofRecord hr hr') (ih hrs')

end Line

namespace Document

/-- **Options change how literals are shown, and nothing else.**  Two documents of
one text under one profile are for the same architecture, and line by line they are
restylings of each other, which are cut in the same places. -/
theorem restyled_of_options {text : Text} {profile : Option Profile} {o o' : Options}
    {d d' : Document} (h : ofText text profile o = .ok d) (h' : ofText text profile o' = .ok d') :
    d.archKey = d'.archKey ∧ List.Forall₂ Line.Restyled d.lines d'.lines ∧
      d.lines.map Line.cuts = d'.lines.map Line.cuts := by
  obtain ⟨ls, hls, rfl⟩ := Certain.map_eq_ok_iff.1 h
  obtain ⟨ls', hls', rfl⟩ := Certain.map_eq_ok_iff.1 h'
  have restyled : List.Forall₂ Line.Restyled ls ls' := Line.restyled_of_ofRecords hls hls'
  exact ⟨rfl, restyled, map_eq_map_iff_forall₂.2 (restyled.imp fun _ _ h => h.cuts_eq)⟩

/-- A literal with a size, a label and a line without form, shown as they stand and
with another marker, upper digits and sizes unchanged. -/
theorem restyled_of_options_mov :
    ∃ d d' : Document,
      ofText "0: mov $af.w ; C\n1: jmp 0xff\x7bLoop\x7d\n-- $f0".toList none {} = .ok d ∧
      ofText "0: mov $af.w ; C\n1: jmp 0xff\x7bLoop\x7d\n-- $f0".toList none
        { marker := some "#".toList, upperDigits := true, upperSizes := false } = .ok d' ∧
      (d.lines.map fun l => l.tokens.map Token.text) =
        [["mov".toList, "$af.W".toList, "C".toList], ["jmp".toList, "Loop".toList],
          ["-- $f0".toList]] ∧
      (d'.lines.map fun l => l.tokens.map Token.text) =
        [["mov".toList, "#AF.w".toList, "C".toList], ["jmp".toList, "Loop".toList],
          ["-- $f0".toList]] ∧
      d.archKey = d'.archKey ∧ List.Forall₂ Line.Restyled d.lines d'.lines ∧
      d.lines.map Line.cuts = d'.lines.map Line.cuts := by
  have h := ofText_eq_ok_annotate
    "0: mov $af.w ; C\n1: jmp 0xff\x7bLoop\x7d\n-- $f0".toList none
  exact ⟨_, _, h _, h _, by decide +kernel, by decide +kernel, restyled_of_options (h _) (h _)⟩

end Document
end AsmListing
