/-
# The literal among the operands

For the architectures that are always known, and for none, the literal of an operand text
is found by scanning the text from the left (`Args.literal_scanned`).  The text of the
literal is the one that `Marking.front?` reads at the first place where a literal starts.
No later place is looked at, also where the digits at the first one are barred by the
zero they should start with.
-/

import AsmListing.Proofs.Args.Lossless
import AsmListing.Proofs.Args.Runs
import AsmListing.Proofs.Literal.Scanning

namespace AsmListing
namespace Args

open Architecture

/-- How the literals are marked for a profile, or for none. -/
def marking (profile : Option Profile) : Marking :=
  Marking.ofKey (profile.map Profile.key)

/-- No token is a literal. -/
def LacksLiteral (ts : List Token) : Prop :=
  ∀ t ∈ ts, t.isLiteral = false

/-- One token is a literal, cut from a given text behind another one. -/
def HasLiteral (before raw : Text) (ts : List Token) : Prop :=
  ∃ us t vs, ts = us ++ t :: vs ∧ t.isLiteral = true ∧ LacksLiteral us ∧ LacksLiteral vs ∧
    us.flatMap Token.source = before ∧ t.source = raw

/-- A run makes up its text. -/
theorem flatMap_source_run (profile : Option Profile) (text : Text) :
    (run profile text).flatMap Token.source = text := by
  rw [run, Piece.flatMap_source_token?, flatMap_source_findRegisters]
  exact List.append_nil text

/-- Without a match the operands are one run. -/
theorem operands_of_none {text : Text} {profile : Option Profile}
    (h : (literalStyle profile).pattern.find? text = none) (o : Options) :
    operands text profile o = .ok (run profile text) := by
  rw [operands, Literal.pieces_of_none h]
  rfl

/-- A match is a literal between two runs, unless its digits are barred. -/
theorem operands_of_some {text : Text} {profile : Option Profile} {hit : Hit} {digits : Text}
    (h : (literalStyle profile).pattern.find? text = some hit)
    (hd : hit.group? GroupName.digits = some digits) (o : Options) :
    operands text profile o =
      if ((literalStyle profile).zeroLed && digits.head?.any Char.isAlpha) = true then
        .ok (run profile text)
      else (Literal.token (literalStyle profile) o hit digits).map fun t =>
        run profile hit.before ++ t :: run profile hit.after := by
  have required : Literal.required hit GroupName.digits .digits = .ok digits := by
    rw [Literal.required, hd]
  rw [operands, Literal.pieces_of_some h, required]
  dsimp only [Except.bind]
  split
  · rfl
  · cases Literal.token (literalStyle profile) o hit digits with
    | error e => rfl
    | ok t => exact congrArg _ (filterMap_findRegisters_around profile hit.before hit.after t)

/-- **The literal of an operand text is found by scanning from the left.**  Where no
literal starts there is none.  Else the first place where one starts is the only one
looked at.  There the digits are barred, and there is no literal; or there is one, which
is cut from the text that is read there. -/
theorem literal_scanned {profile : Option Profile} (hp : ∀ p ∈ profile, p ∈ builtin.profiles)
    {left : Text} (hl : IsOperands left) (o : Options) :
    ∃ ts, tokens (some left) profile o = .ok ts ∧
      ((∀ n, ¬(marking profile).Starts (left.drop n)) → LacksLiteral ts) ∧
      ∀ n, (marking profile).Starts (left.drop n) →
        (∀ k < n, ¬(marking profile).Starts (left.drop k)) →
        ∃ parts, (marking profile).front? (left.drop n) = some parts ∧
          if ((literalStyle profile).zeroLed && parts.digits.head?.any Char.isAlpha) = true then
            LacksLiteral ts
          else HasLiteral (left.take n) (parts.raw (marking profile).last) ts := by
  have scans : (literalStyle profile).pattern = (marking profile).literals :=
    Marking.literalStyle_pattern hp
  have complete : (literalStyle profile).complete = true := by
    cases profile with
    | none => exact LiteralStyle.complete_generic
    | some p => exact complete_of_mem_builtin (hp p rfl)
  obtain ⟨ts, hts⟩ := tokens_isOk complete (some left) o
  refine ⟨ts, hts, ?_, ?_⟩ <;> rw [tokens_of_isOperands hl] at hts
  · intro none_starts
    have unfound := (marking profile).find?_eq_none none_starts
    rw [← scans] at unfound
    rw [operands_of_none unfound] at hts
    cases hts
    exact fun t => isLiteral_of_mem_run
  · intro n starts first
    obtain ⟨parts, hit, read, found, before, trail⟩ :=
      (marking profile).find?_of_first starts first
    have digits : hit.group? GroupName.digits = some parts.digits := by
      rw [Hit.group?, trail, LiteralParts.group?_trail_digits]
    have taken : hit.taken = parts.raw (marking profile).last := by
      rw [Hit.taken, trail, LiteralParts.taken_trail]
    rw [← scans] at found
    rw [operands_of_some found digits] at hts
    refine ⟨parts, read, ?_⟩
    split at hts
    · next barred =>
      cases hts
      rw [if_pos barred]
      exact fun t => isLiteral_of_mem_run
    · next free =>
      obtain ⟨t, ht, rfl⟩ := Certain.map_eq_ok_iff.1 hts
      rw [if_neg free]
      exact ⟨_, t, _, rfl, Literal.isLiteral_of_token ht, fun _ => isLiteral_of_mem_run,
        fun _ => isLiteral_of_mem_run, (flatMap_source_run profile hit.before).trans before,
        (Literal.source_of_token ht).1.trans taken⟩

/-- Hex digits that no marker follows, then a literal whose size and label follow it, and
then one more literal, which is not looked for. -/
theorem literal_scanned_label :
    ∃ p ts, builtin.lookup "x86".toList = some p ∧
      IsOperands "call 0F00h.q\x7b\x7ba\x7d, 5h".toList ∧
      tokens (some "call 0F00h.q\x7b\x7ba\x7d, 5h".toList) (some p) {} = .ok ts ∧
      HasLiteral "call ".toList "0F00h.q\x7b\x7ba\x7d".toList ts := by
  obtain ⟨p, hp⟩ : ∃ p, builtin.lookup "x86".toList = some p :=
    Option.isSome_iff_exists.1 (Certain.of_any_toOption ofDefinitions_definitions
      (f := fun r => (r.lookup "x86".toList).isSome) (by decide +kernel))
  obtain ⟨member, key⟩ := Registry.mem_profiles_of_lookup hp
  have known : ∀ q ∈ some p, q ∈ builtin.profiles := by
    rintro q ⟨⟩
    exact member
  have operands : IsOperands "call 0F00h.q\x7b\x7ba\x7d, 5h".toList :=
    ⟨by decide +kernel, by decide +kernel⟩
  have marked : marking (some p) = Marking.trailing := by
    rw [marking, Option.map_some, key]
    rfl
  obtain ⟨ts, hts, -, scanned⟩ := literal_scanned known operands {}
  rw [marked] at scanned
  obtain ⟨parts, read, found⟩ := scanned 5 (by decide +kernel) (by decide +kernel)
  have parts_eq : parts = ⟨"h".toList, "0F00".toList, some ".q".toList, some "\x7ba".toList⟩ :=
    Option.some.inj (read.symm.trans (by decide +kernel))
  subst parts_eq
  rw [if_neg (by simp)] at found
  exact ⟨p, ts, hp, operands, hts, found⟩

end Args
end AsmListing
