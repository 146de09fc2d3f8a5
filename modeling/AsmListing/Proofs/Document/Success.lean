/-
# When annotating succeeds

Annotating looks up the digits and the marker of a literal, and fails where the
match has none.  `Literal.serves` says what a match needs under some options:
digits, and a marker unless the match is thrown away or another marker is shown.
Each stage then succeeds exactly when the match in its text, if there is one, has
what it needs; for a document this comes down to the operands of its lines
(`Document.forall_ofText_isOk_iff`).
-/

import AsmListing.Proofs.Architecture.LiteralPattern
import AsmListing.Proofs.Document.Lines
import AsmListing.Proofs.Record.Grammar
import AsmListing.Proofs.Text.Lines

namespace AsmListing

open Architecture

namespace Literal

/-- Whether a match has the parts that are looked up in it. -/
def serves (style : LiteralStyle) (o : Options) (hit : Hit) : Bool :=
  match hit.group? GroupName.digits with
  | none => false
  | some digits =>
    (style.zeroLed && digits.head?.any Char.isAlpha) || o.marker.isSome ||
      (hit.group? GroupName.marker).isSome

/-- A match that serves while no other marker is shown serves always. -/
theorem serves_of_default {style : LiteralStyle} {hit : Hit} (h : serves style {} hit = true)
    (o : Options) : serves style o hit = true := by
  unfold serves at h ⊢
  split at h
  · cases h
  · next digits hd =>
    simp only [Option.isSome_none, Bool.or_false, Bool.or_eq_true] at h ⊢
    exact h.imp .inl id

/-- Whether the match in a text, if there is one, serves under all options. -/
def Served (style : LiteralStyle) (text : Text) : Prop :=
  ∀ hit, style.pattern.find? text = some hit → serves style {} hit = true

theorem token_isOk_iff {style : LiteralStyle} {o : Options} {m : Hit} {digits : Text} :
    (token style o m digits).isOk = true ↔
      o.marker.isSome = true ∨ (m.group? GroupName.marker).isSome = true := by
  rw [token_eq, Certain.isOk_map, shownMarker, required]
  cases o.marker <;> cases m.group? GroupName.marker <;> simp [Except.isOk, Except.toBool]

/-- **The literal in a text is found without failure exactly when its match has what
it needs.** -/
theorem pieces_isOk_iff {style : LiteralStyle} {o : Options} {text : Text} :
    (pieces style o text).isOk = true ↔
      ∀ hit, style.pattern.find? text = some hit → serves style o hit = true := by
  cases hf : style.pattern.find? text with
  | none => simp [pieces_of_none hf, Except.isOk, Except.toBool]
  | some hit =>
    rw [pieces_of_some hf]
    simp only [Option.some.injEq, forall_eq', serves, required]
    cases hit.group? GroupName.digits with
    | none => simp [Except.bind, Except.isOk, Except.toBool]
    | some digits =>
      dsimp only [Except.bind]
      by_cases hz : (style.zeroLed && digits.head?.any Char.isAlpha) = true
      · rw [if_pos hz, hz]
        simp [Except.isOk, Except.toBool]
      · rw [if_neg hz, Certain.isOk_map, token_isOk_iff]
        simp [hz]

end Literal

namespace Args

/-- The text before the comment may hold a literal that lacks a part; nothing else
can fail. -/
theorem tokens_isOk_iff {args : Option Text} {profile : Option Profile} {o : Options} :
    (tokens args profile o).isOk = true ↔ ∀ text ∈ args, ∀ hit,
      (literalStyle profile).pattern.find? (splitComment text).1 = some hit →
        Literal.serves (literalStyle profile) o hit = true := by
  cases args with
  | none => simp [tokens, Except.isOk, Except.toBool]
  | some text =>
    simp only [Option.mem_some_iff, forall_eq']
    rw [tokens_some, Certain.isOk_map, operands, Certain.isOk_map, Literal.pieces_isOk_iff]

/-- **Taking args apart never fails exactly when every operand text is served.** -/
theorem forall_tokens_isOk_iff {profile : Option Profile} :
    (∀ args o, (tokens args profile o).isOk = true) ↔
      ∀ s, IsOperands s → Literal.Served (literalStyle profile) s := by
  constructor
  · intro h s hs hit hf
    refine tokens_isOk_iff.1 (h (some s) {}) s rfl hit ?_
    rwa [hs.splitComment_eq]
  · intro h args o
    refine tokens_isOk_iff.2 fun text _ hit hf => ?_
    exact Literal.serves_of_default (h _ (isOperands_splitComment text) hit hf) o

end Args

namespace Line

theorem ofRecord_isOk_iff {record : Record} {profile : Option Profile} {o : Options} :
    (ofRecord record profile o).isOk = true ↔ ∀ address opcode args,
      record = .instruction address opcode args → (Args.tokens args profile o).isOk = true := by
  cases record with
  | unformatted text => simp [ofRecord, Except.isOk, Except.toBool]
  | instruction address opcode args =>
    rw [ofRecord, Certain.isOk_map]
    simp

theorem forall_ofRecord_isOk_iff {profile : Option Profile} :
    (∀ record o, (ofRecord record profile o).isOk = true) ↔
      ∀ args o, (Args.tokens args profile o).isOk = true := by
  constructor
  · intro h args o
    exact ofRecord_isOk_iff.1 (h (.instruction [] [] args) o) _ _ _ rfl
  · intro h record o
    exact ofRecord_isOk_iff.2 fun _ _ args _ => h args o

theorem ofRecords_isOk_iff {records : List Record} {profile : Option Profile} {o : Options} :
    (ofRecords records profile o).isOk = true ↔
      ∀ r ∈ records, (ofRecord r profile o).isOk = true := by
  induction records with
  | nil => simp [ofRecords, Except.isOk, Except.toBool]
  | cons r rs ih =>
    rw [List.forall_mem_cons, ← ih]
    cases hr : ofRecord r profile o <;> cases hrs : ofRecords rs profile o <;>
      simp [ofRecords, hr, hrs, bind, Except.bind, pure, Except.pure, Except.isOk, Except.toBool]

end Line

namespace Document

theorem ofText_isOk_iff {text : Text} {profile : Option Profile} {o : Options} :
    (ofText text profile o).isOk = true ↔
      ∀ s ∈ Text.lines text, (Line.ofRecord (Record.ofLine s) profile o).isOk = true := by
  rw [ofText, Certain.isOk_map, Line.ofRecords_isOk_iff, Record.ofText, List.forall_mem_map]

/-- **Annotating never fails exactly when every operand text in one line is
served.** -/
theorem forall_ofText_isOk_iff {profile : Option Profile} :
    (∀ text o, (ofText text profile o).isOk = true) ↔
      ∀ s, Args.IsOperands s → '\n' ∉ s → Literal.Served (literalStyle profile) s := by
  constructor
  · intro h s hs hline hit hf
    -- a listing whose only line has the operands `s`
    have base : Record.Reads "0: a".toList ['0'] ['a'] none :=
      Record.ofLine_eq_instruction_iff.1 (by decide)
    have read := base.respell (Record.readsArgs_cons (c := ' ') (by decide) hline)
    have oneLine : '\n' ∉ ['0'] ++ ": ".toList ++ ['a'] ++ ' ' :: s := by simpa using hline
    have made := ofText_isOk_iff.1
      (h (['0'] ++ ": ".toList ++ ['a'] ++ ' ' :: s ++ ['\r', '\n']) {}) _
      (by rw [Text.lines_append_crlf oneLine]; exact List.mem_cons_self ..)
    have taken := Line.ofRecord_isOk_iff.1 made _ _ _ (Record.ofLine_eq_instruction_iff.2 read)
    refine Args.tokens_isOk_iff.1 taken _ rfl hit ?_
    rwa [Args.splitComment_trimLeft, hs.splitComment_eq]
  · intro h text o
    refine ofText_isOk_iff.2 fun s hs => Line.ofRecord_isOk_iff.2 fun address opcode args hr => ?_
    refine Args.tokens_isOk_iff.2 fun t ht hit hf => Literal.serves_of_default ?_ o
    have hline : '\n' ∉ t := (Record.ofLine_eq_instruction_iff.1 hr).oneLine.2.2 t ht
    exact h _ (Args.isOperands_splitComment t)
      (fun hc => hline (Args.mem_of_mem_splitComment (.inl hc))) hit hf

/-- **Under a profile of a registry, nothing fails exactly when the match in every
operand text has its parts,** for args, for records and for texts.  That is so when
the marker of the profile is a pattern by itself: then every match in any text has a
marker and digits. -/
theorem forall_isOk_iff_served {ds : List Definition} {r : Registry} {p : Profile}
    (hr : Registry.ofDefinitions ds = .ok r) (hp : p ∈ r.profiles) :
    ((∀ args o, (Args.tokens args (some p) o).isOk = true) ↔
      ∀ s, Args.IsOperands s → Literal.Served p.literalStyle s) ∧
    ((∀ record o, (Line.ofRecord record (some p) o).isOk = true) ↔
      ∀ s, Args.IsOperands s → Literal.Served p.literalStyle s) ∧
    ((∀ text o, (ofText text (some p) o).isOk = true) ↔
      ∀ s, Args.IsOperands s → '\n' ∉ s → Literal.Served p.literalStyle s) ∧
    ((Pattern.ofText p.definition.marker).isOk = true → ∀ s hit,
      p.literals.find? s = some hit → (hit.group? GroupName.marker).isSome = true ∧
        (hit.group? GroupName.digits).isSome = true) := by
  refine ⟨Args.forall_tokens_isOk_iff, ?_, forall_ofText_isOk_iff, fun hm s hit hf => ?_⟩
  · rw [Line.forall_ofRecord_isOk_iff]
    exact Args.forall_tokens_isOk_iff
  · have complete := Registry.complete_of_marker hr hp hm
    rw [LiteralStyle.complete, Bool.and_eq_true] at complete
    exact ⟨Pattern.group?_isSome complete.1 hf, Pattern.group?_isSome complete.2 hf⟩

/-- A definition with a given marker, and one register. -/
def marked (marker : Text) : Definition where
  key := "k".toList
  name := "Test".toList
  marker := marker
  markerLast := false
  zeroLed := false
  sizedOpcodes := false
  registers := "pc".toList

/-- With two alternatives as its marker, a literal has a marker and digits. -/
theorem forall_isOk_iff_served_alternatives :
    ∃ r p hit, Registry.ofDefinitions [marked "x|y".toList] = .ok r ∧ p ∈ r.profiles ∧
      (Pattern.ofText p.definition.marker).isOk = true ∧
      p.literals.find? "a, x1f".toList = some hit ∧
      (hit.group? GroupName.marker).isSome = true ∧
      (hit.group? GroupName.digits).isSome = true := by
  obtain ⟨r, hr, found⟩ : ∃ r, Registry.ofDefinitions [marked "x|y".toList] = .ok r ∧
      (r.profiles.any fun p => (Pattern.ofText p.definition.marker).isOk &&
        (p.literals.find? "a, x1f".toList).isSome) = true :=
    Certain.exists_of_any_toOption (by decide +kernel)
  obtain ⟨p, hp, found⟩ := List.any_eq_true.1 found
  obtain ⟨hm, hf⟩ := Bool.and_eq_true_iff.1 found
  obtain ⟨hit, hf⟩ := Option.isSome_iff_exists.1 hf
  exact ⟨r, p, hit, hr, hp, hm, hf, (forall_isOk_iff_served hr hp).2.2.2 hm _ hit hf⟩

/-- **A marker may close the group that it is pasted into.**  Such a definition is
accepted, and then a text matches without any digits and cannot be annotated. -/
theorem not_isOk_unbalanced :
    ∃ r p hit, Registry.ofDefinitions [marked "x)|(?:y".toList] = .ok r ∧ p ∈ r.profiles ∧
      p.literals.find? "x".toList = some hit ∧
      hit.group? GroupName.marker = some "x".toList ∧ hit.group? GroupName.digits = none ∧
      (Args.tokens (some "x".toList) (some p) {}).isOk = false ∧
      (ofText "0: a x".toList (some p) {}).isOk = false := by
  obtain ⟨r, hr, found⟩ : ∃ r, Registry.ofDefinitions [marked "x)|(?:y".toList] = .ok r ∧
      (r.profiles.any fun p => ((p.literals.find? "x".toList).any fun hit =>
          hit.group? GroupName.marker = some "x".toList && hit.group? GroupName.digits = none) &&
        !(Args.tokens (some "x".toList) (some p) {}).isOk &&
        !(ofText "0: a x".toList (some p) {}).isOk) = true :=
    Certain.exists_of_any_toOption (by decide +kernel)
  obtain ⟨p, hp, found⟩ := List.any_eq_true.1 found
  simp only [Bool.and_eq_true, Option.any_eq_true, Bool.not_eq_true', decide_eq_true_eq] at found
  obtain ⟨⟨⟨hit, hf, hmarker, hdigits⟩, hargs⟩, htext⟩ := found
  exact ⟨r, p, hit, hr, hp, hf, hmarker, hdigits, hargs, htext⟩

end Document
end AsmListing
