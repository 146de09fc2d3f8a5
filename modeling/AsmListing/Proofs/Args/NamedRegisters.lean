/-
# The registers of the known architectures

The register of a run is found by its name.  For the architectures that are always known,
a run has a register exactly when a name of the architecture stands in it, in any case;
the register is the first such name from the left (`registers_named`).

At one place the names are tried in the order in which they are listed.  The register is
the longest name that stands at its place, but for two names that are listed behind a
shorter one (`register_longest_iff`).
-/

import AsmListing.Proofs.Architecture.RegisterNames
import AsmListing.Proofs.Args.Scanned

namespace AsmListing
namespace Args

open Architecture

/-- The operands of a text are one run, or two with a literal between them, and `P` holds
of each run and its tokens. -/
inductive InRuns (P : Text → List Token → Prop) : Text → List Token → Prop where
  | single {run ts} (lacks : LacksLiteral ts) (h : P run ts) : InRuns P run ts
  | around {before after us vs} {t : Token} (literal : t.isLiteral = true)
    (left_lacks : LacksLiteral us) (right_lacks : LacksLiteral vs) (left : P before us)
    (right : P after vs) : InRuns P (before ++ t.source ++ after) (us ++ t :: vs)

/-- What holds of each text and its run holds in the runs of the operands. -/
theorem inRuns_of_operands {P : Text → List Token → Prop} {profile : Option Profile}
    (hP : ∀ s, P s (run profile s)) {text : Text} {o : Options} {ts : List Token}
    (h : operands text profile o = .ok ts) : InRuns P text ts := by
  rcases operands_cases text profile with hr | ⟨hit, digits, hf, hr⟩ | ⟨e, hr⟩ <;> rw [hr] at h
  · cases h
    exact .single (fun t => isLiteral_of_mem_run) (hP text)
  · obtain ⟨t, ht, rfl⟩ := Certain.map_eq_ok_iff.1 h
    rw [← Pattern.find?_append hf, ← (Literal.source_of_token ht).1]
    exact .around (Literal.isLiteral_of_token ht) (fun t => isLiteral_of_mem_run)
      (fun t => isLiteral_of_mem_run) (hP hit.before) (hP hit.after)
  · cases h

/-- The args are the runs of the text in front of the comment, and the comment. -/
theorem exists_inRuns_of_tokens {P : Text → List Token → Prop} {p : Profile}
    (hp : p ∈ builtin.profiles) (hP : ∀ s, P s (run (some p) s)) (text : Text) (o : Options) :
    ∃ us, tokens (some text) (some p) o =
        .ok (us ++ ((splitComment text).2.map Token.comment).toList) ∧
      InRuns P (splitComment text).1 us := by
  have complete : (literalStyle (some p)).complete = true := complete_of_mem_builtin hp
  obtain ⟨ts, hts⟩ := tokens_isOk complete (some text) o
  rw [tokens_some] at hts ⊢
  obtain ⟨us, hus, rfl⟩ := Certain.map_eq_ok_iff.1 hts
  exact ⟨us, hts, inRuns_of_operands hP hus⟩

/-- The tokens of a run in which the first of some names is the register. -/
structure MarksFirst (names : List Text) (run : Text) (ts : List Token) : Prop where
  /-- There is a register where there is a name. -/
  register_iff : (∃ name, .register name ∈ ts) ↔ ∃ t, t <:+: run ∧ Text.folded t ∈ names
  /-- Without a register the run is plain. -/
  plain : (∀ name, .register name ∉ ts) → ts = plains run
  /-- A register is a name, it stands between plain texts, and no name starts before it. -/
  first : ∀ name, .register name ∈ ts → Text.folded name ∈ names ∧ ∃ before after,
    run = before ++ name ++ after ∧ ts = plains before ++ .register name :: plains after ∧
      ∀ l t r, run = l ++ t ++ r → Text.folded t ∈ names → before.length ≤ l.length

/-- A plain text has no register. -/
theorem register_not_mem_plains (name s : Text) : .register name ∉ plains s := by
  intro h
  cases eq_plain_of_mem_plains h

/-- The only register between plain texts. -/
theorem register_mem_iff {name taken before after : Text} :
    .register name ∈ plains before ++ .register taken :: plains after ↔ name = taken := by
  rw [List.mem_append, List.mem_cons, or_iff_right (register_not_mem_plains name before),
    or_iff_left (register_not_mem_plains name after)]
  exact ⟨Token.register.inj, congrArg Token.register⟩

/-- **A run of a known architecture has its first name as its register.** -/
theorem marksFirst_run {p : Profile} (hp : p ∈ builtin.profiles) (text : Text) :
    MarksFirst (registerNames p.key) text (run (some p) text) := by
  -- a name in the text is read at the place where it starts
  have reads : ∀ l t r, text = l ++ t ++ r → Text.folded t ∈ registerNames p.key →
      Pattern.nameAt? (registerNames p.key) (text.drop l.length) ≠ none := by
    intro l t r split named unread
    rw [split, List.append_assoc, List.drop_left] at unread
    exact Pattern.nameAt?_eq_none_iff.1 unread t (List.prefix_append ..) named
  rcases Pattern.find?_names_cases (names?_registers hp) text with
    ⟨unfound, nowhere⟩ | ⟨hit, found, here, earlier⟩
  · rw [run_of_none unfound]
    refine ⟨⟨?_, ?_⟩, fun _ => rfl, fun name h => absurd h (register_not_mem_plains _ _)⟩
    · rintro ⟨name, h⟩
      exact absurd h (register_not_mem_plains _ _)
    · rintro ⟨t, ⟨l, r, rfl⟩, named⟩
      exact absurd (nowhere l.length) (reads l t r rfl named)
  · rw [run_of_some found]
    have named := (Pattern.nameAt?_eq_some here).1
    have split := Pattern.find?_append found
    refine ⟨⟨fun _ => ⟨hit.taken, ⟨hit.before, hit.after, split⟩, named⟩,
      fun _ => ⟨hit.taken, register_mem_iff.2 rfl⟩⟩,
      fun h => absurd (register_mem_iff.2 rfl) (h hit.taken), fun name h => ?_⟩
    cases register_mem_iff.1 h
    refine ⟨named, hit.before, hit.after, split.symm, rfl, fun l t r hs ht => ?_⟩
    by_contra before
    exact reads l t r hs ht (earlier l.length (by omega))

/-- **The register of a run is its first name.**  For an architecture that is always known
the args are taken apart, and each run of the text in front of the comment has a register
exactly where it has a name.  The first place at which a name starts is where the register
starts, and what stands around it in the run is plain. -/
theorem registers_named {p : Profile} (hp : p ∈ builtin.profiles) (text : Text) (o : Options) :
    ∃ us, tokens (some text) (some p) o =
        .ok (us ++ ((splitComment text).2.map Token.comment).toList) ∧
      InRuns (MarksFirst (registerNames p.key)) (splitComment text).1 us :=
  exists_inRuns_of_tokens hp (marksFirst_run hp) text o

/-- A long s counts as an `s`, the run before the literal has a name as well, and no name
behind the first one in a run is marked. -/
theorem registers_named_long :
    ∃ p us, builtin.lookup "m68k".toList = some p ∧
      tokens (some "(a0) $10, uſp, d1; x".toList) (some p) {} =
        .ok (us ++ [.comment "x".toList]) ∧
      us = [.plain "(".toList, .register "a0".toList, .plain ") ".toList,
        .hex "$".toList "10".toList none false "$10".toList, .plain ", ".toList,
        .register "uſp".toList, .plain ", d1".toList] ∧
      InRuns (MarksFirst (registerNames p.key)) "(a0) $10, uſp, d1".toList us := by
  obtain ⟨p, hp, shown⟩ := exists_lookup_builtin "m68k".toList
    (fun p => (tokens (some "(a0) $10, uſp, d1; x".toList) (some p) {}).toOption = some
      [.plain "(".toList, .register "a0".toList, .plain ") ".toList,
        .hex "$".toList "10".toList none false "$10".toList, .plain ", ".toList,
        .register "uſp".toList, .plain ", d1".toList, .comment "x".toList])
    (by decide +kernel)
  have known := (Registry.mem_profiles_of_lookup hp).1
  obtain ⟨us, hus, named⟩ := registers_named known "(a0) $10, uſp, d1; x".toList {}
  have split : splitComment "(a0) $10, uſp, d1; x".toList =
      ("(a0) $10, uſp, d1".toList, some "x".toList) := by decide +kernel
  rw [split] at hus named
  rw [hus, decide_eq_true_eq] at shown
  exact ⟨p, us, hp, hus, List.append_cancel_right (Option.some.inj shown), named⟩

/-- The registers of a run are the longest names that stand at their places, unless one of
the hidden names does. -/
structure MarksLongest (key : Text) (run : Text) (ts : List Token) : Prop where
  /-- The tokens are cut from the run, so that what is in front of one tells its place. -/
  source : ts.flatMap Token.source = run
  /-- A name that is longer than the register at its place is there just where a hidden name
  is. -/
  longer_iff : ∀ us name vs, ts = us ++ .register name :: vs →
    ∀ s, run = us.flatMap Token.source ++ s →
      ((∃ t, t <+: s ∧ Text.folded t ∈ registerNames key ∧ name.length < t.length) ↔
        key = "z80".toList ∧ ∃ t, t <+: s ∧ Text.folded t ∈ hiddenNames)

theorem flatMap_source_plains (s : Text) : (plains s).flatMap Token.source = s := by
  cases s with
  | nil => rfl
  | cons c s => exact List.append_nil _

theorem marksLongest_run {p : Profile} (hp : p ∈ builtin.profiles) (text : Text) :
    MarksLongest p.key text (run (some p) text) := by
  refine ⟨flatMap_source_run (some p) text, fun us name vs hts s hs => ?_⟩
  rcases Pattern.find?_names_cases (names?_registers hp) text with
    ⟨unfound, -⟩ | ⟨hit, found, here, -⟩
  · rw [run_of_none unfound] at hts
    refine absurd ?_ (register_not_mem_plains name text)
    simp [hts]
  · rw [run_of_some found] at hts
    obtain ⟨rfl, same, -⟩ := (List.append_cons_inj_of_notMem (register_not_mem_plains _ _)
      (register_not_mem_plains _ _)).1 hts
    cases same
    have split := Pattern.find?_append found
    rw [flatMap_source_plains, ← split, List.append_assoc, List.append_cancel_left_eq] at hs
    rw [hs] at here
    have longest := longer_stands_iff hp here
    rwa [Text.length_folded] at longest

/-- **A register is the longest name at its place, unless `eix` or `eiy` stands there.**
Only for one architecture are these names, and then the register is shorter than they
are. -/
theorem register_longest_iff {p : Profile} (hp : p ∈ builtin.profiles) (text : Text)
    (o : Options) : ∃ us, tokens (some text) (some p) o =
        .ok (us ++ ((splitComment text).2.map Token.comment).toList) ∧
      InRuns (MarksLongest p.key) (splitComment text).1 us :=
  exists_inRuns_of_tokens hp (marksLongest_run hp) text o

/-- A name behind one that it starts with, where the longer one is listed first. -/
theorem register_longest_iff_esp :
    ∃ p us, builtin.lookup "x86".toList = some p ∧
      tokens (some "[esp+4]".toList) (some p) {} = .ok us ∧
      us = [.plain "[".toList, .register "esp".toList, .plain "+4]".toList] ∧
      "es".toList ∈ registerNames p.key ∧ InRuns (MarksLongest p.key) "[esp+4]".toList us := by
  obtain ⟨p, hp, shown⟩ := exists_lookup_builtin "x86".toList
    (fun p => (tokens (some "[esp+4]".toList) (some p) {}).toOption = some
      [.plain "[".toList, .register "esp".toList, .plain "+4]".toList])
    (by decide +kernel)
  obtain ⟨known, key⟩ := Registry.mem_profiles_of_lookup hp
  obtain ⟨us, hus, longest⟩ := register_longest_iff known "[esp+4]".toList {}
  have split : splitComment "[esp+4]".toList = ("[esp+4]".toList, none) := by decide +kernel
  rw [split] at hus longest
  have plain : us ++ (none.map Token.comment).toList = us := List.append_nil us
  rw [plain] at hus
  rw [hus, decide_eq_true_eq] at shown
  exact ⟨p, us, hp, hus, Option.some.inj shown, by rw [key]; decide +kernel, longest⟩

/-- **One register is shorter than a name that stands at its place:** `eix` is a name, but
only its first letter is marked. -/
theorem not_longest_eix :
    ∃ p, builtin.lookup "z80".toList = some p ∧
      tokens (some "eix".toList) (some p) {} =
        .ok [.register "e".toList, .plain "ix".toList] ∧
      ∃ n ∈ registerNames p.key, n <+: Text.folded "eix".toList ∧ "e".toList.length < n.length := by
  obtain ⟨p, hp, shown⟩ := exists_lookup_builtin "z80".toList
    (fun p => (tokens (some "eix".toList) (some p) {}).toOption = some
      [.register "e".toList, .plain "ix".toList])
    (by decide +kernel)
  rw [decide_eq_true_eq] at shown
  refine ⟨p, hp, Certain.eq_ok_of_toOption shown, "eix".toList, ?_, by decide +kernel,
    by decide⟩
  rw [(Registry.mem_profiles_of_lookup hp).2]
  decide +kernel

end Args
end AsmListing
