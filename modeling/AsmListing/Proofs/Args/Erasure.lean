/-
# Registers only refine plain text

`Token.erase` forgets the registers of a row of tokens: they become plain text again,
which joins the plain text next to it.  What is left is what the steps before the search
for registers have made, a literal and the comment between plain texts
(`Args.map_erase_operands`), and those steps look at the literal style of a profile only.
So profiles that write literals in the same way find the same literals and comments,
whatever their registers are (`Args.map_erase_tokens_eq`).
-/

import AsmListing.Proofs.Architecture.LiteralPattern
import AsmListing.Proofs.Args.Lossless
import AsmListing.Proofs.Args.Runs

namespace AsmListing

open Architecture

namespace Token

/-- A register as plain text; other tokens stay. -/
def unregister : Token → Token
  | register s => plain s
  | t => t

/-- A token in front of others.  A plain text joins a plain text, and is dropped when it
is empty. -/
def joinFront : Token → List Token → List Token
  | plain s, plain s' :: ts => plain (s ++ s') :: ts
  | plain [], ts => ts
  | t, ts => t :: ts

/-- The row with neighbouring plain texts joined and empty ones dropped. -/
def joinPlain (ts : List Token) : List Token :=
  ts.foldr joinFront []

/-- The row without its registers. -/
def erase (ts : List Token) : List Token :=
  joinPlain (ts.map unregister)

/-- Plain text never joins across a token of another kind. -/
theorem joinFront_append {t : Token} (ht : t.kind ≠ .plain) (u : Token) (ts us : List Token) :
    joinFront u (ts ++ t :: us) = joinFront u ts ++ t :: us := by
  cases ts with
  | nil =>
    cases u with
    | plain s => cases s <;> cases t <;> simp_all [joinFront, kind]
    | _ => rfl
  | cons v ts =>
    cases u with
    | plain s => cases s <;> cases v <;> rfl
    | _ => rfl

theorem joinPlain_append {t : Token} (ht : t.kind ≠ .plain) (ts us : List Token) :
    joinPlain (ts ++ t :: us) = joinPlain ts ++ t :: joinPlain us := by
  induction ts with
  | nil => cases t <;> first | rfl | exact absurd rfl ht
  | cons u ts ih =>
    change joinFront u (joinPlain (ts ++ t :: us)) = joinFront u (joinPlain ts) ++ t :: joinPlain us
    rw [ih, joinFront_append ht]

/-- A literal and a comment stay where they are. -/
theorem erase_append {t : Token} (hp : t.kind ≠ .plain) (hr : t.kind ≠ .register)
    (ts us : List Token) : erase (ts ++ t :: us) = erase ts ++ t :: erase us := by
  have stays : t.unregister = t := by
    cases t with
    | register s => exact absurd rfl hr
    | _ => rfl
  rw [erase, List.map_append, List.map_cons, stays, joinPlain_append hp]
  rfl

end Token

namespace Args

open Token

theorem joinFront_plains (s r : Text) : joinFront (.plain s) (plains r) = plains (s ++ r) := by
  cases s <;> cases r <;> simp [plains, joinFront]

/-- Plain texts and registers become one plain text. -/
theorem erase_eq_plains {ts : List Token} (h : ∀ t ∈ ts, t.kind = .plain ∨ t.kind = .register) :
    erase ts = plains (ts.flatMap source) := by
  induction ts with
  | nil => rfl
  | cons t ts ih =>
    have rest : erase ts = plains (ts.flatMap source) :=
      ih fun u hu => h u (List.mem_cons_of_mem _ hu)
    have front : t.unregister = .plain t.source := by
      have ht := h t (List.mem_cons_self ..)
      cases t <;> simp_all [kind, unregister, source]
    calc erase (t :: ts) = joinFront t.unregister (erase ts) := rfl
      _ = plains (t.source ++ ts.flatMap source) := by rw [front, rest, joinFront_plains]
      _ = plains ((t :: ts).flatMap source) := by rw [List.flatMap_cons]

/-- **A run without its registers is its text.** -/
theorem erase_run (profile : Option Profile) (text : Text) :
    erase (run profile text) = plains text := by
  have kinds : ∀ t ∈ run profile text, t.kind = .plain ∨ t.kind = .register := by
    intro t ht
    rcases cases_of_mem_run ht with ⟨s, rfl⟩ | ⟨p, hit, -, -, rfl⟩
    · exact .inl rfl
    · exact .inr rfl
  have sources : (run profile text).flatMap source = text := by
    rw [run, Piece.flatMap_source_token?, flatMap_source_findRegisters]
    exact List.flatMap_singleton ..
  rw [erase_eq_plains kinds, sources]

/-- **Without registers, the operands are the pieces that the search for a literal has
left.** -/
theorem map_erase_operands (text : Text) (profile : Option Profile) (o : Options) :
    (operands text profile o).map erase =
      (Literal.pieces (literalStyle profile) o text).map (List.filterMap Piece.token?) := by
  cases hp : Literal.pieces (literalStyle profile) o text with
  | error e => rw [operands, hp]; rfl
  | ok ps =>
    rw [operands, hp]
    refine congrArg Except.ok ?_
    change erase ((findRegisters profile ps).filterMap Piece.token?) = ps.filterMap Piece.token?
    rcases Literal.pieces_eq_ok hp with rfl | ⟨hit, digits, t, -, ht, rfl⟩
    · exact (erase_run profile text).trans (filterMap_rest text).symm
    · have literal : t.kind ≠ .plain ∧ t.kind ≠ .register := by
        have hl := Literal.isLiteral_of_token ht
        cases t <;> simp_all [isLiteral, kind]
      calc erase ((findRegisters profile [.rest hit.before, .token t, .rest hit.after]).filterMap
              Piece.token?)
          = erase (run profile hit.before ++ t :: run profile hit.after) := by
            rw [filterMap_findRegisters_around]
        _ = plains hit.before ++ t :: plains hit.after := by
            rw [erase_append literal.1 literal.2, erase_run, erase_run]
        _ = _ := by
            rw [← filterMap_rest, ← filterMap_rest]
            exact (filterMap_findRegisters_around none hit.before hit.after t).symm

/-- The tokens without registers are the pieces and the comment. -/
theorem map_erase_tokens_some (text : Text) (profile : Option Profile) (o : Options) :
    (tokens (some text) profile o).map erase =
      (Literal.pieces (literalStyle profile) o (splitComment text).1).map fun ps =>
        ps.filterMap Piece.token? ++ ((splitComment text).2.map Token.comment).toList := by
  have commented : ∀ c : Option Text, (erase ∘ fun ts => ts ++ (c.map Token.comment).toList) =
      (fun ts => ts ++ (c.map Token.comment).toList) ∘ erase := by
    intro c
    funext ts
    cases c with
    | none => simp
    | some c => exact erase_append (by simp [kind]) (by simp [kind]) ts []
  rw [tokens_some, Certain.map_map, commented, ← Certain.map_map, map_erase_operands,
    Certain.map_map]
  rfl

/-- Profiles of one literal style have the same tokens but for registers. -/
theorem map_erase_tokens_eq {profile profile' : Option Profile}
    (h : literalStyle profile = literalStyle profile') (args : Option Text) (o : Options) :
    (tokens args profile o).map erase = (tokens args profile' o).map erase := by
  cases args with
  | none => rfl
  | some text => rw [map_erase_tokens_some, map_erase_tokens_some, h]

/-- Where no architecture is known there are no registers to forget. -/
theorem map_erase_tokens_none (args : Option Text) (o : Options) :
    (tokens args none o).map erase = tokens args none o := by
  cases args with
  | none => rfl
  | some text =>
    rw [map_erase_tokens_some, tokens_some, operands, Certain.map_map]
    rfl

/-- **Registers only refine plain text.**  Take any two profiles of registries that write
literals in the same way.  Without the registers, the tokens under the one are those
under the other, and where the one fails the other fails.  And if they write literals as
where no architecture is known, they are the tokens found there. -/
theorem registers_refine {ds ds' : List Definition} {r r' : Registry} {p q : Profile}
    (hr : Registry.ofDefinitions ds = .ok r) (hp : p ∈ r.profiles)
    (hr' : Registry.ofDefinitions ds' = .ok r') (hq : q ∈ r'.profiles) :
    (p.definition.marker = q.definition.marker →
      p.definition.markerLast = q.definition.markerLast →
      p.definition.zeroLed = q.definition.zeroLed → ∀ args o,
        (tokens args (some p) o).map erase = (tokens args (some q) o).map erase) ∧
    (p.definition.marker = genericMarker → p.definition.markerLast = false →
      p.definition.zeroLed = false → ∀ args o,
        (tokens args (some p) o).map erase = tokens args none o) := by
  have read := Registry.literals_of_mem hr hp
  have read' := Registry.literals_of_mem hr' hq
  constructor
  · intro hm hl hz args o
    have same : p.literals = q.literals := by
      rw [hm, hl, read'] at read
      exact (Except.ok.inj read).symm
    refine map_erase_tokens_eq ?_ args o
    change p.literalStyle = q.literalStyle
    rw [Profile.literalStyle, Profile.literalStyle, same, hl, hz]
  · intro hm hl hz args o
    have same : p.literals = LiteralStyle.generic.pattern := by
      rw [hm, hl, ofText_generic] at read
      exact (Except.ok.inj read).symm
    have style : literalStyle (some p) = literalStyle none := by
      change p.literalStyle = LiteralStyle.generic
      rw [Profile.literalStyle, same, hl, hz]
      rfl
    rw [map_erase_tokens_eq style, map_erase_tokens_none]

/-- A profile of the generic style, a register in whose pattern could be taken for a
digit or for a marker, and one that knows no such register. -/
theorem registers_refine_digits :
    ∃ r r' p q ts,
      Registry.ofDefinitions [⟨"k".toList, "K".toList, "\\$|0x".toList, false, false, true,
        "0x|[0-9a-f]|mov|;".toList⟩] = .ok r ∧ p ∈ r.profiles ∧
      Registry.ofDefinitions [⟨"l".toList, "L".toList, "\\$|0x".toList, false, false, false,
        "pc".toList⟩] = .ok r' ∧ q ∈ r'.profiles ∧
      tokens (some "mov $a, 0xb ; c".toList) (some p) {} = .ok ts ∧
      ts.map Token.kind = [.register, .plain, .hex, .plain, .register, .plain, .comment] ∧
      (tokens (some "mov $a, 0xb ; c".toList) (some p) {}).map erase =
        (tokens (some "mov $a, 0xb ; c".toList) (some q) {}).map erase ∧
      (tokens (some "mov $a, 0xb ; c".toList) (some p) {}).map erase =
        tokens (some "mov $a, 0xb ; c".toList) none {} := by
  obtain ⟨r, hr, found⟩ : ∃ r, Registry.ofDefinitions [⟨"k".toList, "K".toList, "\\$|0x".toList,
        false, false, true, "0x|[0-9a-f]|mov|;".toList⟩] = .ok r ∧
      (r.profiles.any fun p => (p.definition.marker = genericMarker &&
          p.definition.markerLast = false && p.definition.zeroLed = false) &&
        (tokens (some "mov $a, 0xb ; c".toList) (some p) {}).toOption.any fun ts =>
          ts.map Token.kind =
            [.register, .plain, .hex, .plain, .register, .plain, .comment]) = true :=
    Certain.exists_of_any_toOption (by decide +kernel)
  obtain ⟨r', hr', found'⟩ : ∃ r', Registry.ofDefinitions [⟨"l".toList, "L".toList,
        "\\$|0x".toList, false, false, false, "pc".toList⟩] = .ok r' ∧
      (r'.profiles.any fun q => q.definition.marker = genericMarker &&
        q.definition.markerLast = false && q.definition.zeroLed = false) = true :=
    Certain.exists_of_any_toOption (by decide +kernel)
  obtain ⟨p, hp, found⟩ := List.any_eq_true.1 found
  obtain ⟨q, hq, found'⟩ := List.any_eq_true.1 found'
  obtain ⟨style, found⟩ := Bool.and_eq_true_iff.1 found
  simp only [Bool.and_eq_true, decide_eq_true_eq] at style found'
  obtain ⟨⟨hm, hl⟩, hz⟩ := style
  obtain ⟨⟨hm', hl'⟩, hz'⟩ := found'
  obtain ⟨ts, hts, kinds⟩ := Certain.exists_of_any_toOption found
  obtain ⟨same, generic⟩ := registers_refine hr hp hr' hq
  exact ⟨r, r', p, q, ts, hr, hp, hr', hq, hts, of_decide_eq_true kinds,
    same (hm.trans hm'.symm) (hl.trans hl'.symm) (hz.trans hz'.symm) _ _, generic hm hl hz _ _⟩

end Args
end AsmListing
