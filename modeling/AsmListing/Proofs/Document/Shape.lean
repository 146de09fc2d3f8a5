/-
# The shape of an argument row

The tokens of args come in a fixed shape:

    run (literal run)? comment?

where a run is one of

    nothing, plain, register, plain register, register plain, plain register plain

and has no register where there is no profile.  `Args.IsRun`, `Args.IsOperandRow` and
`Args.HasShape` say this.  `Args.HasShape.isTidy` reads off what a view relies on:
which tokens there may be at most once, that plain texts are neither empty nor next
to each other, and that a comment comes last.

No operand is a comment, so a line can be taken apart at the end of its args: its
operands and its comment make up its args (`Line.operands_append_comment`).
-/

import Mathlib.Data.List.Chain
import AsmListing.Proofs.Args.Runs
import AsmListing.Proofs.Document.Lines

namespace AsmListing

open Architecture (Profile Definition)

/-- A hex literal or a symbol is of no other kind. -/
theorem Token.kind_ne_of_isLiteral {t : Token} (h : t.isLiteral = true) :
    t.kind ≠ .plain ∧ t.kind ≠ .register ∧ t.kind ≠ .sizeSuffix ∧ t.isComment = false := by
  cases t <;> simp_all [isLiteral, kind, isComment]

namespace Args

/-- The tokens of a run: plain texts that are not empty, with at most one register
among them, and with none unless `registers` says so. -/
inductive IsRun (registers : Bool) : List Token → Prop where
  | plain (s : Text) : IsRun registers (plains s)
  | around (h : registers = true) (l name r : Text) :
    IsRun registers (plains l ++ .register name :: plains r)

/-- The tokens before a comment: a run, perhaps a literal and a second run. -/
inductive IsOperandRow (registers : Bool) : List Token → Prop where
  | run {ts : List Token} (h : IsRun registers ts) : IsOperandRow registers ts
  | literal {ls rs : List Token} {t : Token} (hl : IsRun registers ls) (ht : t.isLiteral = true)
      (hr : IsRun registers rs) : IsOperandRow registers (ls ++ t :: rs)

/-- The tokens of args: operands, perhaps a comment behind them. -/
inductive HasShape (registers : Bool) : List Token → Prop where
  | intro {ts : List Token} (h : IsOperandRow registers ts) (comment : Option Text) :
    HasShape registers (ts ++ (comment.map Token.comment).toList)

/-- **A text in which no literal is looked for makes a run.** -/
theorem isRun_run (profile : Option Profile) (text : Text) :
    IsRun profile.isSome (run profile text) := by
  rcases run_cases profile text with h | ⟨p, hit, rfl, -, h⟩ <;> rw [h]
  · exact .plain text
  · exact .around rfl hit.before hit.taken hit.after

/-- **The text before a comment makes a row of operands.** -/
theorem isOperandRow_operands {text : Text} {profile : Option Profile} {o : Options}
    {ts : List Token} (h : operands text profile o = .ok ts) :
    IsOperandRow profile.isSome ts := by
  obtain rfl | ⟨hit, digits, t, ht, rfl⟩ := operands_eq_ok h
  · exact .run (isRun_run profile text)
  · exact .literal (isRun_run profile _) (Literal.isLiteral_of_token ht) (isRun_run profile _)

/-- **The tokens of args have their shape.** -/
theorem hasShape_tokens {args : Option Text} {profile : Option Profile} {o : Options}
    {ts : List Token} (h : tokens args profile o = .ok ts) : HasShape profile.isSome ts := by
  cases args with
  | none =>
    cases h
    exact .intro (.run (.plain [])) none
  | some text =>
    rw [tokens_some] at h
    obtain ⟨us, ho, rfl⟩ := Certain.map_eq_ok_iff.1 h
    exact .intro (isOperandRow_operands ho) _

/-- What a view relies on in a row of tokens. -/
structure IsTidy (ts : List Token) : Prop where
  literals : ts.countP Token.isLiteral ≤ 1
  /-- One register, and a second one only beside a literal. -/
  registers : ts.countP (·.kind = .register) ≤ ts.countP Token.isLiteral + 1
  nonempty : .plain [] ∉ ts
  separated : ts.IsChain fun t u => t.kind ≠ .plain ∨ u.kind ≠ .plain
  unsized : ∀ t ∈ ts, t.kind ≠ .sizeSuffix
  /-- So there is at most one comment, and it comes last. -/
  uncommented : ∀ t ∈ ts.dropLast, t.isComment = false

/-- What holds of a run besides: it has plain texts and at most one register. -/
structure IsTidyRun (ts : List Token) : Prop where
  unlit : ts.countP Token.isLiteral = 0
  registers : ts.countP (·.kind = .register) ≤ 1
  nonempty : .plain [] ∉ ts
  separated : ts.IsChain fun t u => t.kind ≠ .plain ∨ u.kind ≠ .plain
  kinds : ∀ t ∈ ts, t.kind ≠ .sizeSuffix ∧ t.isComment = false

variable {registers : Bool} {ts : List Token}

theorem IsRun.isTidyRun (h : IsRun registers ts) : IsTidyRun ts := by
  cases h with
  | plain s =>
    cases s <;> constructor <;> simp [plains, Token.isLiteral, Token.kind, Token.isComment]
  | around _ l name r =>
    cases l <;> cases r <;> constructor <;>
      simp [plains, Token.isLiteral, Token.kind, Token.isComment]

/-- Operands are neither size suffixes nor comments. -/
theorem IsOperandRow.kinds (h : IsOperandRow registers ts) :
    ∀ t ∈ ts, t.kind ≠ .sizeSuffix ∧ t.isComment = false := by
  cases h with
  | run h => exact h.isTidyRun.kinds
  | literal hl ht hr =>
    intro u hu
    rw [List.mem_append, List.mem_cons] at hu
    rcases hu with hu | rfl | hu
    · exact hl.isTidyRun.kinds u hu
    · exact (Token.kind_ne_of_isLiteral ht).2.2
    · exact hr.isTidyRun.kinds u hu

theorem IsOperandRow.isTidy (h : IsOperandRow registers ts) : IsTidy ts := by
  have uncommented : ∀ t ∈ ts.dropLast, t.isComment = false :=
    fun t ht => (h.kinds t ((List.dropLast_sublist ts).subset ht)).2
  have unsized : ∀ t ∈ ts, t.kind ≠ .sizeSuffix := fun t ht => (h.kinds t ht).1
  cases h with
  | run h =>
    obtain ⟨unlit, registers, nonempty, separated, -⟩ := h.isTidyRun
    exact ⟨by omega, by omega, nonempty, separated, unsized, uncommented⟩
  | @literal ls rs t hl ht hr =>
    have left := hl.isTidyRun
    have right := hr.isTidyRun
    obtain ⟨hplain, hregister, -⟩ := Token.kind_ne_of_isLiteral ht
    have literals : (ls ++ t :: rs).countP Token.isLiteral = 1 := by
      rw [List.countP_append, List.countP_cons_of_pos ht, left.unlit, right.unlit]
    refine ⟨literals.le, ?_, ?_, ?_, unsized, uncommented⟩
    · rw [literals, List.countP_append, List.countP_cons_of_neg (by simpa using hregister)]
      exact Nat.add_le_add left.registers right.registers
    · have named : Token.plain [] ≠ t := by
        rintro rfl
        exact hplain rfl
      simp [left.nonempty, right.nonempty, named]
    · -- the literal stands between the two runs, and it is no plain text
      rw [List.isChain_append, List.isChain_cons]
      refine ⟨left.separated, ⟨fun _ _ => .inl hplain, right.separated⟩, fun _ _ u hu => ?_⟩
      cases hu
      exact .inr hplain

/-- **A row of that shape is tidy.** -/
theorem HasShape.isTidy (h : HasShape registers ts) : IsTidy ts := by
  obtain ⟨h, comment⟩ := h
  cases comment with
  | none => simpa using h.isTidy
  | some c =>
    obtain ⟨literals, registers, nonempty, separated, unsized, -⟩ := h.isTidy
    constructor
    · simpa [Token.isLiteral] using literals
    · simpa [Token.isLiteral, Token.kind] using registers
    · simpa using nonempty
    · rw [List.isChain_append]
      refine ⟨separated, List.isChain_singleton _, fun _ _ u hu => ?_⟩
      cases hu
      exact .inr (fun hc => nomatch hc)
    · simpa [or_imp, forall_and, Token.kind] using unsized
    · simpa using fun t ht => (h.kinds t ht).2

end Args

namespace Line

/-- The tokens of the args, the comment among them. -/
def args : Line → List Token
  | instruction _ _ args => args
  | unformatted _ => []

/-- **The operands of a line and its comment make up its args,** and the comment is
the only one. -/
theorem operands_append_comment {record : Record} {profile : Option Profile} {o : Options}
    {l : Line} (h : ofRecord record profile o = .ok l) :
    (∀ t ∈ l.operands, t.isComment = false) ∧
      (l.comment.isSome = true ↔ ∃ t ∈ l.args, t.isComment = true) ∧
      l.operands ++ l.comment.toList = l.args := by
  cases record with
  | unformatted text =>
    cases h
    simp [operands, comment, args]
  | instruction address opcode as =>
    obtain ⟨ts, ht, rfl⟩ := Certain.map_eq_ok_iff.1 h
    obtain @⟨us, row, c⟩ := Args.hasShape_tokens ht
    have plain : ∀ t ∈ us, t.isComment = false := fun t ht => (row.kinds t ht).2
    rw [operands_append plain, comment_append plain, args]
    refine ⟨plain, ?_, rfl⟩
    cases c with
    | none => simpa using plain
    | some c => simp [Token.isComment]

/-- **Every row of argument tokens has its shape, and is tidy.**  So the operands of
a line and its comment make up its args, whatever the line is made from. -/
theorem shape_of_tokens (profile : Option Profile) (o : Options) :
    (∀ args ts, Args.tokens args profile o = .ok ts →
      Args.HasShape profile.isSome ts ∧ Args.IsTidy ts) ∧
    ∀ record l, ofRecord record profile o = .ok l →
      (∀ t ∈ l.operands, t.isComment = false) ∧
      (l.comment.isSome = true ↔ ∃ t ∈ l.args, t.isComment = true) ∧
      l.operands ++ l.comment.toList = l.args :=
  ⟨fun _ _ h => ⟨Args.hasShape_tokens h, (Args.hasShape_tokens h).isTidy⟩,
    fun _ _ h => operands_append_comment h⟩

/-- A register on each side of a literal, a comment, and no plain text at the ends. -/
theorem shape_of_tokens_mov :
    ∃ (p : Profile) (ts : List Token),
      Args.tokens (some "ax, 0F0h, bx ; a;b".toList) (some p) {} = .ok ts ∧
      ts.map Token.kind = [.register, .plain, .hex, .plain, .register, .comment] ∧
      Args.HasShape true ts ∧ Args.IsTidy ts ∧
      ∃ l, ofRecord (.instruction "0".toList "mov".toList (some "ax, 0F0h, bx ; a;b".toList))
          (some p) {} = .ok l ∧ l.args = ts ∧ l.operands ++ l.comment.toList = l.args := by
  obtain ⟨p, -, run⟩ := Certain.exists_of_any_toOption (show Option.any (fun p =>
      (Args.tokens (some "ax, 0F0h, bx ; a;b".toList) (some p) {}).toOption.any fun ts =>
        ts.map Token.kind = [.register, .plain, .hex, .plain, .register, .comment])
    (Definition.compile ⟨"86".toList, "86".toList, "h".toList, true, true, false,
      "[abcd]x".toList⟩).toOption = true by decide +kernel)
  obtain ⟨ts, h, kinds⟩ := Certain.exists_of_any_toOption run
  have hl : ofRecord (.instruction "0".toList "mov".toList (some "ax, 0F0h, bx ; a;b".toList))
      (some p) {} = .ok (.instruction "0".toList (Opcode.tokens "mov".toList (some p)) ts) :=
    Certain.map_eq_ok_iff.2 ⟨ts, h, rfl⟩
  obtain ⟨shaped, taken⟩ := shape_of_tokens (some p) {}
  exact ⟨p, ts, h, of_decide_eq_true kinds, (shaped _ _ h).1, (shaped _ _ h).2, _, hl, rfl,
    (taken _ _ hl).2.2⟩

end Line
end AsmListing
