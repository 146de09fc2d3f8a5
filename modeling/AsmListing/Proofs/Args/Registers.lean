/-
# Registers are never empty

A register token is cut from a match of the register pattern in some run
(`exists_hit_of_register`).  When a registry is put together its register patterns
are tried on the empty text only.  That is enough: a pattern that can match nothing
anywhere matches the empty text (`Pattern.matchesEmpty_iff`), so in no text is there
an empty register (`registers_nonempty`).  And no pattern is refused on that ground
that could not match nothing.
-/

import AsmListing.Proofs.Architecture.LiteralPattern
import AsmListing.Proofs.Architecture.Places
import AsmListing.Proofs.Args.Lossless
import AsmListing.Proofs.Args.Runs
import AsmListing.Proofs.Pattern.Ways

namespace AsmListing
namespace Args

open Architecture

/-- A register in a run is the match in the text of the run. -/
theorem exists_hit_of_mem_run {p : Profile} {text name : Text}
    (h : .register name ∈ run (some p) text) :
    ∃ hit, p.registers.find? text = some hit ∧ hit.taken = name := by
  obtain ⟨s, hs⟩ | ⟨q, hit, hq, hf, hn⟩ := cases_of_mem_run h
  · cases hs
  · cases hq
    exact ⟨hit, hf, (Token.register.inj hn).symm⟩

/-- **Every register is a match of the register pattern,** in some run of the
args. -/
theorem exists_hit_of_register {args : Option Text} {p : Profile} {o : Options} {ts : List Token}
    (h : tokens args (some p) o = .ok ts) {name : Text} (hn : .register name ∈ ts) :
    ∃ s hit, p.registers.find? s = some hit ∧ hit.taken = name := by
  cases args with
  | none =>
    cases h
    cases hn
  | some text =>
    rw [tokens_some] at h
    obtain ⟨us, ho, rfl⟩ := Certain.map_eq_ok_iff.1 h
    have notComment : .register name ∉ ((splitComment text).2.map Token.comment).toList := by
      cases (splitComment text).2 <;> simp
    have hn := (List.mem_append.1 hn).resolve_right notComment
    obtain rfl | ⟨hit, digits, t, ht, rfl⟩ := operands_eq_ok ho
    · exact ⟨_, exists_hit_of_mem_run hn⟩
    · rw [List.mem_append, List.mem_cons] at hn
      rcases hn with hn | rfl | hn
      · exact ⟨_, exists_hit_of_mem_run hn⟩
      · cases Literal.isLiteral_of_token ht
      · exact ⟨_, exists_hit_of_mem_run hn⟩

/-- **No register is empty.**  In a registry no register pattern leads anywhere
without taking something, and no register token is cut from nothing; and a list of
definitions is refused for an empty match only if one of its register patterns has
such a match. -/
theorem registers_nonempty (ds : List Definition) :
    (∀ r, Registry.ofDefinitions ds = .ok r → ∀ p ∈ r.profiles,
      (∀ b s t b' s', Pattern.Leads p.registers b s t b' s' → t.taken ≠ []) ∧
      ∀ args o ts, tokens args (some p) o = .ok ts →
        ∀ t ∈ ts, t.kind = .register → t.source ≠ []) ∧
    ∀ key field, Registry.ofDefinitions ds = .error (.emptyMatch key field) →
      field = .registers ∧ ∃ d ∈ ds, d.key = key ∧
        ∃ q, Pattern.ofText (registerPattern d.registers) = .ok q ∧
          ∃ s hit, q.find? s = some hit ∧ hit.taken = [] := by
  constructor
  · intro r hr p hp
    have checked := Registry.matchesEmpty_of_mem hr hp
    constructor
    · intro b s t b' s' hl ht
      rw [Pattern.matchesEmpty_iff.2 ⟨b, s, t, b', s', hl, ht⟩] at checked
      cases checked
    · intro args o ts h t ht hk
      cases t with
      | register name =>
        obtain ⟨s, hit, hf, rfl⟩ := exists_hit_of_register h ht
        exact Pattern.taken_ne_nil_of_find? checked hf
      | hex | symbol | sizeSuffix | comment | plain => cases hk
  · intro key field h
    obtain ⟨d, hd, hrep | hc⟩ := Registry.exists_of_build_error h
    · cases hrep
    · obtain ⟨rfl, rfl, q, hq, he⟩ := Definition.exists_of_compileBy_emptyMatch hc
      rw [d.engine_compile_registers] at hq
      obtain ⟨hit, hf⟩ := Option.isSome_iff_exists.1 he
      refine ⟨rfl, d, hd, rfl, q, hq, [], hit, hf, ?_⟩
      have all := (Pattern.leads_of_findFrom hf).2
      rw [List.append_assoc, List.append_eq_nil_iff, List.append_eq_nil_iff] at all
      exact all.2.1

/-- A definition with given register names. -/
def registered (registers : Text) : Definition where
  key := "k".toList
  name := "Test".toList
  marker := "\\$".toList
  markerLast := false
  zeroLed := false
  sizedOpcodes := false
  registers := registers

/-- Anchors, lazy loops and counts with enough to take, and an alternative with
nothing in it. -/
theorem registers_nonempty_anchored :
    (∃ r p ts,
      Registry.ofDefinitions [registered "^r[0-9]\x7b1,2\x7d|(?:x*?y)+?$".toList] = .ok r ∧
      p ∈ r.profiles ∧ tokens (some "r15, $1, xy".toList) (some p) {} = .ok ts ∧
      .register "r15".toList ∈ ts ∧ .register "xy".toList ∈ ts ∧
      ∀ t ∈ ts, t.kind = .register → t.source ≠ []) ∧
    Registry.ofDefinitions [registered "pc|(?:^x?)\x7b2\x7d$".toList] =
      .error (.emptyMatch "k".toList .registers) ∧
    ∃ q, Pattern.ofText (registerPattern "pc|(?:^x?)\x7b2\x7d$".toList) = .ok q ∧
      ∃ s hit, q.find? s = some hit ∧ hit.taken = [] := by
  obtain ⟨r, hr, found⟩ :
      ∃ r, Registry.ofDefinitions [registered "^r[0-9]\x7b1,2\x7d|(?:x*?y)+?$".toList] = .ok r ∧
        (r.profiles.any fun p => (tokens (some "r15, $1, xy".toList) (some p) {}).toOption.any
          fun ts => .register "r15".toList ∈ ts && .register "xy".toList ∈ ts) = true :=
    Certain.exists_of_any_toOption (by decide +kernel)
  obtain ⟨p, hp, found⟩ := List.any_eq_true.1 found
  obtain ⟨ts, hts, found⟩ := Certain.exists_of_any_toOption found
  obtain ⟨first, second⟩ := Bool.and_eq_true_iff.1 found
  have refused : Registry.ofDefinitions [registered "pc|(?:^x?)\x7b2\x7d$".toList] =
      .error (.emptyMatch "k".toList .registers) := by rfl
  obtain ⟨-, d, hd, -, q, hq, empty⟩ := (registers_nonempty _).2 _ _ refused
  rw [List.mem_singleton.1 hd] at hq
  exact ⟨⟨r, p, ts, hr, hp, hts, of_decide_eq_true first, of_decide_eq_true second,
    ((registers_nonempty _).1 r hr p hp).2 _ _ ts hts⟩, refused, q, hq, empty⟩

end Args
end AsmListing
