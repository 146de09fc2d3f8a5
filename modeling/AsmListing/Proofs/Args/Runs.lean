/-
# Runs

A run is a text in which no literal is looked for any more, only a register.  The
text in front of a comment is one run, or a literal stands between two of them
(`operands_cases`); which of the two, and what the runs are, depends on the text and
the profile and never on the options.

The tokens of a run are a plain text, or a register between two plain texts, of
which those that are empty make no token (`run_cases`).
-/

import AsmListing.Args
import AsmListing.Proofs.Literal.Shown

namespace AsmListing
namespace Args

open Architecture (Profile literalStyle)

/-- The tokens of a text in which no literal is looked for. -/
def run (profile : Option Profile) (text : Text) : List Token :=
  (findRegisters profile [.rest text]).filterMap Piece.token?

theorem findRegisters_append (profile : Option Profile) (ps qs : List Piece) :
    findRegisters profile (ps ++ qs) = findRegisters profile ps ++ findRegisters profile qs := by
  cases profile with
  | none => rfl
  | some p => exact List.flatMap_append ..

theorem findRegisters_token (profile : Option Profile) (t : Token) :
    findRegisters profile [.token t] = [.token t] := by
  cases profile <;> rfl

/-- A literal leaves a run on each side. -/
theorem filterMap_findRegisters_around (profile : Option Profile) (l r : Text) (t : Token) :
    (findRegisters profile [.rest l, .token t, .rest r]).filterMap Piece.token? =
      run profile l ++ t :: run profile r := by
  rw [show [.rest l, .token t, .rest r] = [Piece.rest l] ++ ([.token t] ++ [.rest r]) from rfl,
    findRegisters_append, findRegisters_append, findRegisters_token, List.filterMap_append]
  rfl

/-- **The operands are one run, or a literal between two runs,** unless the literal
lacks a part.  The options have a say in the token of the literal only. -/
theorem operands_cases (text : Text) (profile : Option Profile) :
    (∀ o, operands text profile o = .ok (run profile text)) ∨
      (∃ hit digits, (literalStyle profile).pattern.find? text = some hit ∧
        ∀ o, operands text profile o = (Literal.token (literalStyle profile) o hit digits).map
          fun t => run profile hit.before ++ t :: run profile hit.after) ∨
      ∃ e, ∀ o, operands text profile o = .error e := by
  rcases Literal.pieces_cases (literalStyle profile) text with h | ⟨hit, digits, hf, h⟩ | ⟨e, h⟩
  · exact .inl fun o => by rw [operands, h]; rfl
  · refine .inr (.inl ⟨hit, digits, hf, fun o => ?_⟩)
    rw [operands, h]
    cases Literal.token (literalStyle profile) o hit digits with
    | error e => rfl
    | ok t => exact congrArg _ (filterMap_findRegisters_around profile hit.before hit.after t)
  · exact .inr (.inr ⟨e, fun o => by rw [operands, h]; rfl⟩)

/-- The operands under some options, where they are found. -/
theorem operands_eq_ok {text : Text} {profile : Option Profile} {o : Options} {ts : List Token}
    (h : operands text profile o = .ok ts) :
    ts = run profile text ∨ ∃ hit digits t,
      Literal.token (literalStyle profile) o hit digits = .ok t ∧
        ts = run profile hit.before ++ t :: run profile hit.after := by
  rcases operands_cases text profile with hr | ⟨hit, digits, -, hr⟩ | ⟨e, hr⟩ <;> rw [hr] at h
  · cases h
    exact .inl rfl
  · obtain ⟨t, ht, rfl⟩ := Certain.map_eq_ok_iff.1 h
    exact .inr ⟨hit, digits, t, ht, rfl⟩
  · cases h

/-- The token of a plain text, or none when it is empty. -/
def plains : Text → List Token
  | [] => []
  | s => [.plain s]

theorem filterMap_rest (s : Text) : [Piece.rest s].filterMap Piece.token? = plains s := by
  cases s <;> rfl

theorem findRegisters_rest (p : Profile) (text : Text) :
    findRegisters (some p) [.rest text] = registerPieces p.registers text :=
  List.flatMap_singleton ..

/-- Without a match a run is plain. -/
theorem run_of_none {p : Profile} {text : Text} (h : p.registers.find? text = none) :
    run (some p) text = plains text := by
  rw [run, findRegisters_rest, registerPieces, h]
  exact filterMap_rest text

/-- A match is a register between two plain texts. -/
theorem run_of_some {p : Profile} {text : Text} {hit : Hit}
    (h : p.registers.find? text = some hit) :
    run (some p) text = plains hit.before ++ .register hit.taken :: plains hit.after := by
  rw [run, findRegisters_rest, registerPieces, h]
  dsimp only
  rw [show [.rest hit.before, .token (.register hit.taken), .rest hit.after] =
    [Piece.rest hit.before] ++ ([.token (.register hit.taken)] ++ [.rest hit.after]) from rfl,
    List.filterMap_append, List.filterMap_append, filterMap_rest, filterMap_rest]
  rfl

/-- **A run is a plain text, or a register between two plain texts.** -/
theorem run_cases (profile : Option Profile) (text : Text) :
    run profile text = plains text ∨ ∃ p hit, profile = some p ∧
      p.registers.find? text = some hit ∧
        run profile text = plains hit.before ++ .register hit.taken :: plains hit.after := by
  cases profile with
  | none => exact .inl (filterMap_rest text)
  | some p =>
    cases hf : p.registers.find? text with
    | none => exact .inl (run_of_none hf)
    | some hit => exact .inr ⟨p, hit, rfl, hf, run_of_some hf⟩

theorem eq_plain_of_mem_plains {s : Text} {t : Token} (h : t ∈ plains s) : t = .plain s := by
  cases s with
  | nil => cases h
  | cons c s => exact List.mem_singleton.1 h

/-- A token of a run is a plain text, or the register that is found in the run. -/
theorem cases_of_mem_run {profile : Option Profile} {text : Text} {t : Token}
    (h : t ∈ run profile text) :
    (∃ s, t = .plain s) ∨ ∃ p hit, profile = some p ∧ p.registers.find? text = some hit ∧
      t = .register hit.taken := by
  rcases run_cases profile text with hr | ⟨p, hit, hp, hf, hr⟩ <;> rw [hr] at h
  · exact .inl ⟨text, eq_plain_of_mem_plains h⟩
  · rw [List.mem_append, List.mem_cons] at h
    rcases h with h | h | h
    · exact .inl ⟨_, eq_plain_of_mem_plains h⟩
    · exact .inr ⟨p, hit, hp, hf, h⟩
    · exact .inl ⟨_, eq_plain_of_mem_plains h⟩

/-- A run has no literal. -/
theorem isLiteral_of_mem_run {profile : Option Profile} {text : Text} {t : Token}
    (h : t ∈ run profile text) : t.isLiteral = false := by
  obtain ⟨s, rfl⟩ | ⟨p, hit, -, -, rfl⟩ := cases_of_mem_run h
  · rfl
  · rfl

end Args
end AsmListing
