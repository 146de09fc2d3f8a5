/-
# Taking args apart loses nothing

Each step cuts a text at the ends of a match, and a match with the text on its
two sides makes up the whole text (`find?_append`).  So the sources of the pieces
make up the text before and after each step, whatever the patterns match, and
only empty pieces are dropped at the end (`flatMap_source_of_operands`).

The comment is split off first, and the text in front of it is its own left half.
So that text and the whole have the same tokens but for the comment
(`tokens_lossless`).
-/

import AsmListing.Architecture.Registry
import AsmListing.Proofs.Args.Operands
import AsmListing.Proofs.Literal.Shown

namespace AsmListing

/-- A match and the text on its two sides make up the text. -/
theorem Pattern.find?_append {p : Pattern} {s : Text} {hit : Hit} (h : p.find? s = some hit) :
    hit.before ++ hit.taken ++ hit.after = s :=
  (leads_of_findFrom h).2

namespace Piece

/-- Dropping the empty pieces keeps the text. -/
theorem flatMap_source_token? (ps : List Piece) :
    (ps.filterMap token?).flatMap Token.source = ps.flatMap source := by
  induction ps with
  | nil => rfl
  | cons p ps ih =>
    rw [List.flatMap_cons, ← ih]
    match p with
    | rest [] => rfl
    | rest (_ :: _) => rfl
    | token _ => rfl

/-- Whether a piece is a comment that has been found. -/
def isComment : Piece → Bool
  | rest _ => false
  | token t => t.isComment

theorem isComment_of_token? {p : Piece} {t : Token} (h : p.token? = some t) :
    t.isComment = p.isComment := by
  match p, h with
  | rest (_ :: _), rfl => rfl
  | token _, rfl => rfl

end Piece

namespace Literal

open Architecture

/-- The token of a literal is cut from the match, and is no comment. -/
theorem source_of_token {style : LiteralStyle} {o : Options} {m : Hit} {digits : Text} {t : Token}
    (h : token style o m digits = .ok t) : t.source = m.taken ∧ t.isComment = false := by
  rw [token_eq] at h
  obtain ⟨marker, -, rfl⟩ := Certain.map_eq_ok_iff.1 h
  unfold shown
  cases m.group? GroupName.label with
  | none => exact ⟨rfl, rfl⟩
  | some label => exact ⟨rfl, rfl⟩

/-- **What stands around a literal is either all of the text or the two sides of
the first match and a literal between them.** -/
theorem pieces_eq_ok {style : LiteralStyle} {o : Options} {text : Text} {ps : List Piece}
    (h : pieces style o text = .ok ps) :
    ps = [.rest text] ∨ ∃ hit digits t, style.pattern.find? text = some hit ∧
      token style o hit digits = .ok t ∧ ps = [.rest hit.before, .token t, .rest hit.after] := by
  rcases pieces_cases style text with hr | ⟨hit, digits, hf, hr⟩ | ⟨e, hr⟩ <;> rw [hr] at h
  · cases h
    exact .inl rfl
  · obtain ⟨t, ht, rfl⟩ := Certain.map_eq_ok_iff.1 h
    exact .inr ⟨hit, digits, t, hf, ht, rfl⟩
  · cases h

/-- Finding the literal keeps the text, and finds no comment. -/
theorem flatMap_source_of_pieces {style : LiteralStyle} {o : Options} {text : Text}
    {ps : List Piece} (h : pieces style o text = .ok ps) :
    ps.flatMap Piece.source = text ∧ ∀ p ∈ ps, p.isComment = false := by
  rcases pieces_eq_ok h with rfl | ⟨hit, digits, t, hf, ht, rfl⟩
  · simp [Piece.source, Piece.isComment]
  · obtain ⟨hs, hc⟩ := source_of_token ht
    have happ := Pattern.find?_append hf
    rw [List.append_assoc] at happ
    simpa [Piece.source, Piece.isComment, hs, hc] using happ

end Literal

namespace Args

open Architecture (Profile literalStyle)

/-- Finding a register keeps the text, and finds no comment. -/
theorem flatMap_source_registerPieces (registers : Pattern) (text : Text) :
    (registerPieces registers text).flatMap Piece.source = text ∧
      ∀ p ∈ registerPieces registers text, p.isComment = false := by
  unfold registerPieces
  split
  · next hit hf =>
    have happ := Pattern.find?_append hf
    rw [List.append_assoc] at happ
    simpa [Piece.source, Piece.isComment, Token.source, Token.isComment] using happ
  · simp [Piece.source, Piece.isComment]

/-- Finding the registers keeps the text. -/
theorem flatMap_source_findRegisters (profile : Option Profile) (ps : List Piece) :
    (findRegisters profile ps).flatMap Piece.source = ps.flatMap Piece.source := by
  cases profile with
  | none => rfl
  | some p =>
    rw [findRegisters, List.flatMap_assoc]
    congr 1
    funext piece
    cases piece with
    | rest s => exact (flatMap_source_registerPieces p.registers s).1
    | token t => exact List.flatMap_singleton ..

/-- Finding the registers finds no comment. -/
theorem isComment_of_mem_findRegisters {profile : Option Profile} {ps : List Piece}
    (h : ∀ p ∈ ps, p.isComment = false) : ∀ p ∈ findRegisters profile ps, p.isComment = false := by
  cases profile with
  | none => exact h
  | some p =>
    intro q hq
    obtain ⟨piece, hp, hq⟩ := List.mem_flatMap.1 hq
    cases piece with
    | rest s => exact (flatMap_source_registerPieces p.registers s).2 q hq
    | token t => exact List.mem_singleton.1 hq ▸ h _ hp

/-- **The sources of the operands make up their text.** -/
theorem flatMap_source_of_operands {text : Text} {profile : Option Profile} {o : Options}
    {ts : List Token} (h : operands text profile o = .ok ts) : ts.flatMap Token.source = text := by
  obtain ⟨ps, hp, rfl⟩ := Certain.map_eq_ok_iff.1 h
  rw [Piece.flatMap_source_token?, flatMap_source_findRegisters]
  exact (Literal.flatMap_source_of_pieces hp).1

/-- No operand is a comment. -/
theorem isComment_of_mem_operands {text : Text} {profile : Option Profile} {o : Options}
    {ts : List Token} (h : operands text profile o = .ok ts) : ∀ t ∈ ts, t.isComment = false := by
  obtain ⟨ps, hp, rfl⟩ := Certain.map_eq_ok_iff.1 h
  intro t ht
  obtain ⟨p, hp', ht⟩ := List.mem_filterMap.1 ht
  rw [Piece.isComment_of_token? ht]
  exact isComment_of_mem_findRegisters (Literal.flatMap_source_of_pieces hp).2 p hp'

/-- The tokens of a text are the operands before its comment, and the comment. -/
theorem tokens_some (text : Text) (profile : Option Profile) (o : Options) :
    tokens (some text) profile o = (operands (splitComment text).1 profile o).map
      fun ts => ts ++ ((splitComment text).2.map Token.comment).toList := rfl

/-- An operand text has operands only. -/
theorem tokens_of_isOperands {s : Text} (h : IsOperands s) (profile : Option Profile)
    (o : Options) : tokens (some s) profile o = operands s profile o := by
  rw [tokens_some, h.splitComment_eq]
  cases operands s profile o with
  | error e => rfl
  | ok ts => exact congrArg Except.ok (List.append_nil ts)

/-- **Args are taken apart without loss.**  The tokens are those of the text in
front of the comment, and then the comment, if there is one; so the comment has
no influence on any other token.  The sources of all tokens but the comment,
put together in order, are the text in front of the comment.  This holds for
every profile, whatever its patterns match. -/
theorem tokens_lossless (text : Text) (profile : Option Profile) (o : Options) :
    (tokens (some text) profile o = (tokens (some (splitComment text).1) profile o).map
        fun ts => ts ++ ((splitComment text).2.map Token.comment).toList) ∧
      ∀ ts, tokens (some text) profile o = .ok ts →
        (ts.filter fun t => !t.isComment).flatMap Token.source = (splitComment text).1 := by
  refine ⟨by rw [tokens_of_isOperands (isOperands_splitComment text), tokens_some],
    fun ts h => ?_⟩
  rw [tokens_some] at h
  obtain ⟨us, ho, rfl⟩ := Certain.map_eq_ok_iff.1 h
  have kept : us.filter (fun t => !t.isComment) = us :=
    List.filter_eq_self.2 fun t ht => by rw [isComment_of_mem_operands ho t ht]; rfl
  have dropped : ((splitComment text).2.map Token.comment).toList.filter
      (fun t => !t.isComment) = [] := by
    cases (splitComment text).2 <;> rfl
  rw [List.filter_append, kept, dropped, List.append_nil]
  exact flatMap_source_of_operands ho

/-- A register, a literal that drops a zero, and a comment with a semicolon in it. -/
theorem tokens_lossless_mov :
    ∃ ts : List Token,
      tokens (some "mov ax, 0F0h  ; a;b ".toList) (Architecture.builtin.lookup "x86".toList) {} =
        .ok ts ∧ ts.getLast? = some (.comment "a;b".toList) ∧
      (ts.filter fun t => !t.isComment).flatMap Token.source =
        (splitComment "mov ax, 0F0h  ; a;b ".toList).1 := by
  have h : tokens (some "mov ax, 0F0h  ; a;b ".toList)
      (Architecture.builtin.lookup "x86".toList) {} =
        .ok [.plain "mov ".toList, .register "ax".toList, .plain ", ".toList,
          .hex "h".toList "F0".toList none true "0F0h".toList, .comment "a;b".toList] :=
    Certain.eq_ok_of_toOption (by decide +kernel)
  exact ⟨_, h, rfl, (tokens_lossless _ _ _).2 _ h⟩

end Args
end AsmListing
