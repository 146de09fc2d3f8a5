/-
# When a list of definitions makes a registry

A definition is refused behind the definitions before it for the first of four
reasons, in the order in which they are looked for: its key is taken, its marker or
its registers are no pattern, or its registers match the empty text
(`Definition.Wrong`).  To be refused at all it is enough that any of the four holds
(`Definition.exists_wrong_iff`).

What one definition adds to a registry is refused for exactly that reason
(`Registry.add_eq_error_iff`), where the keys of the registry stand for the
definitions before it.  Along a list it follows that the fault of a list is that of the
first definition that is wrong (`Registry.build_eq_error_iff`), and that a registry is
made exactly when no definition offends (`Registry.exists_build_iff`).

Nothing is asked of the engine that reads the patterns, so what is a pattern, and what
matches the empty text, is as the engine has it.
-/

import AsmListing.Proofs.Architecture.Places

namespace AsmListing
namespace Architecture

variable {Compiled Cause : Type} {engine : Engine Compiled Cause}

namespace Definition

/-- There is a reason to refuse a definition behind others with the keys `earlier`. -/
def Offends (engine : Engine Compiled Cause) (earlier : List Text) (d : Definition) : Prop :=
  d.key ∈ earlier ∨
    (∃ cause, engine.compile (d.written .marker) = .error cause) ∨
    (∃ cause, engine.compile (d.written .registers) = .error cause) ∨
    ∃ q, engine.compile (d.written .registers) = .ok q ∧ engine.isMatch q [] = true

/-- The fault of a definition behind others with the keys `earlier`: the first of the
reasons to refuse it. -/
inductive Wrong (engine : Engine Compiled Cause) (earlier : List Text) (d : Definition) :
    Fault Cause → Prop where
  | repeatedKey (taken : d.key ∈ earlier) : Wrong engine earlier d (.repeatedKey d.key)
  | marker {cause : Cause} (free : d.key ∉ earlier)
      (unread : engine.compile (d.written .marker) = .error cause) :
      Wrong engine earlier d (.invalidPattern d.key .marker cause)
  | registers {l : Compiled} {cause : Cause} (free : d.key ∉ earlier)
      (markerRead : engine.compile (d.written .marker) = .ok l)
      (unread : engine.compile (d.written .registers) = .error cause) :
      Wrong engine earlier d (.invalidPattern d.key .registers cause)
  | emptyMatch {l q : Compiled} (free : d.key ∉ earlier)
      (markerRead : engine.compile (d.written .marker) = .ok l)
      (registersRead : engine.compile (d.written .registers) = .ok q)
      (empty : engine.isMatch q [] = true) :
      Wrong engine earlier d (.emptyMatch d.key .registers)

variable {earlier : List Text} {d : Definition}

/-- **A definition under a free key is wrong as it fails to compile.** -/
theorem wrong_iff_compileBy (free : d.key ∉ earlier) {fault : Fault Cause} :
    d.Wrong engine earlier fault ↔ d.compileBy engine = .error fault := by
  rcases d.compileBy_cases engine with
    ⟨cause, hl, hc⟩ | ⟨l, hl, ⟨cause, hr, hc⟩ | ⟨q, hr, ⟨he, hc⟩ | ⟨he, hc⟩⟩⟩ <;> rw [hc]
  · refine ⟨fun h => ?_, by rintro ⟨⟩; exact .marker free hl⟩
    cases h with
    | repeatedKey taken => exact absurd taken free
    | marker _ unread => rw [Except.error.inj (hl.symm.trans unread)]
    | registers _ markerRead | emptyMatch _ markerRead => cases hl.symm.trans markerRead
  · refine ⟨fun h => ?_, by rintro ⟨⟩; exact .registers free hl hr⟩
    cases h with
    | repeatedKey taken => exact absurd taken free
    | marker _ unread => cases hl.symm.trans unread
    | registers _ _ unread => rw [Except.error.inj (hr.symm.trans unread)]
    | emptyMatch _ _ registersRead => cases hr.symm.trans registersRead
  · refine ⟨fun h => ?_, by rintro ⟨⟩; exact .emptyMatch free hl hr he⟩
    cases h with
    | repeatedKey taken => exact absurd taken free
    | marker _ unread => cases hl.symm.trans unread
    | registers _ _ unread => cases hr.symm.trans unread
    | emptyMatch => rfl
  · refine ⟨fun h => ?_, nofun⟩
    cases h with
    | repeatedKey taken => exact absurd taken free
    | marker _ unread => cases hl.symm.trans unread
    | registers _ _ unread => cases hr.symm.trans unread
    | emptyMatch _ _ registersRead empty =>
      rw [Except.ok.inj (hr.symm.trans registersRead), empty] at he
      cases he

/-- **Every definition that offends has a fault.** -/
theorem exists_wrong_iff :
    (∃ fault, d.Wrong engine earlier fault) ↔ d.Offends engine earlier := by
  constructor
  · rintro ⟨_, _ | _ | _ | _⟩
    case repeatedKey taken => exact .inl taken
    case marker cause _ unread => exact .inr (.inl ⟨cause, unread⟩)
    case registers cause _ _ unread => exact .inr (.inr (.inl ⟨cause, unread⟩))
    case emptyMatch q _ _ registersRead empty =>
      exact .inr (.inr (.inr ⟨q, registersRead, empty⟩))
  · intro offends
    by_cases taken : d.key ∈ earlier
    · exact ⟨_, .repeatedKey taken⟩
    simp only [wrong_iff_compileBy taken]
    rcases d.compileBy_cases engine with
      ⟨_, _, hc⟩ | ⟨l, hl, ⟨_, _, hc⟩ | ⟨q, hr, ⟨_, hc⟩ | ⟨he, _⟩⟩⟩
    · exact ⟨_, hc⟩
    · exact ⟨_, hc⟩
    · exact ⟨_, hc⟩
    · rcases offends with h | ⟨_, h⟩ | ⟨_, h⟩ | ⟨q', h, empty⟩
      · exact absurd h taken
      · cases hl.symm.trans h
      · cases hr.symm.trans h
      · rw [Except.ok.inj (hr.symm.trans h), empty] at he
        cases he

end Definition

namespace Registry

/-- **A definition is refused for its fault behind the keys that are there.** -/
theorem add_eq_error_iff {r : Registry Compiled} {d : Definition} {fault : Fault Cause} :
    r.add engine d = .error fault ↔ d.Wrong engine r.keys fault := by
  by_cases taken : d.key ∈ r.keys
  · rw [add_of_mem taken]
    constructor
    · rintro ⟨⟩
      exact .repeatedKey taken
    · rintro (_ | free | free | free)
      · rfl
      all_goals exact absurd taken free
  · rw [add_of_not_mem taken, Definition.wrong_iff_compileBy taken]
    cases d.compileBy engine <;> simp [Except.map]

/-- No definition offends behind those before it. -/
def Faultless (engine : Engine Compiled Cause) (ds : List Definition) : Prop :=
  ∀ before d after, ds = before ++ d :: after → ¬ d.Offends engine (before.map Definition.key)

variable {ds : List Definition}

/-- A list is refused at a definition that is wrong where those before it are not. -/
theorem build_eq_error_iff {fault : Fault Cause} :
    build engine ds = .error fault ↔ ∃ before d after r, ds = before ++ d :: after ∧
      build engine before = .ok r ∧ d.Wrong engine (before.map Definition.key) fault := by
  rw [build, foldlM_eq_error_iff]
  constructor
  · rintro ⟨before, d, after, r, rfl, hr, hadd⟩
    refine ⟨before, d, after, r, rfl, hr, ?_⟩
    rw [← (keys_of_build hr).1]
    exact add_eq_error_iff.1 hadd
  · rintro ⟨before, d, after, r, rfl, hr, wrong⟩
    refine ⟨before, d, after, r, rfl, hr, add_eq_error_iff.2 ?_⟩
    rw [(keys_of_build hr).1]
    exact wrong

/-- **A registry is made exactly of definitions of which none offends.** -/
theorem exists_build_iff : (∃ r, build engine ds = .ok r) ↔ Faultless engine ds := by
  constructor
  · rintro ⟨r, hr⟩ before d after rfl offends
    rw [build, List.foldlM_append] at hr
    obtain ⟨r', hr', hr⟩ := Certain.bind_eq_ok_iff.1 hr
    obtain ⟨fault, wrong⟩ := Definition.exists_wrong_iff.2 offends
    rw [← (keys_of_build hr').1] at wrong
    rw [List.foldlM_cons, add_eq_error_iff.2 wrong] at hr
    cases hr
  · intro faultless
    cases hr : build engine ds with
    | ok r => exact ⟨r, rfl⟩
    | error fault =>
      obtain ⟨before, d, after, _, rfl, -, wrong⟩ := build_eq_error_iff.1 hr
      exact absurd (Definition.exists_wrong_iff.1 ⟨fault, wrong⟩) (faultless before d after rfl)

/-- **A list of definitions is refused for its first offence, and else made into a
registry of all of them.**  Whatever engine reads the patterns, a list is refused exactly
when a definition repeats a key, has a marker or registers around which no pattern can be
read, or registers that match the empty text.  The fault is that of the first such
definition, under its key, and of its reasons the first in this order.  A registry has a
profile for each definition, in order and under a key of its own; it finds each under its
key, and nothing under any other text. -/
theorem built_or_refused (engine : Engine Compiled Cause) (ds : List Definition) :
    ((∃ fault, build engine ds = .error fault) ↔ ∃ before d after,
      ds = before ++ d :: after ∧ d.Offends engine (before.map Definition.key)) ∧
    (∀ fault, build engine ds = .error fault ↔ ∃ before d after,
      ds = before ++ d :: after ∧ Faultless engine before ∧
        d.Wrong engine (before.map Definition.key) fault) ∧
    ∀ r, build engine ds = .ok r →
      r.size = ds.length ∧ r.keys = ds.map Definition.key ∧ r.keys.Nodup ∧
        List.Forall₂ (fun d p => d.compileBy engine = .ok p) ds r.profiles ∧
        (∀ d ∈ ds, ∃ p, d.compileBy engine = .ok p ∧ r.lookup d.key = some p) ∧
        ∀ key, key ∉ ds.map Definition.key → r.lookup key = none := by
  refine ⟨⟨?_, ?_⟩, fun fault => ?_, fun r hr => ?_⟩
  · rintro ⟨fault, h⟩
    obtain ⟨before, d, after, _, split, -, wrong⟩ := build_eq_error_iff.1 h
    exact ⟨before, d, after, split, Definition.exists_wrong_iff.1 ⟨fault, wrong⟩⟩
  · rintro ⟨before, d, after, split, offends⟩
    cases hr : build engine ds with
    | error fault => exact ⟨fault, rfl⟩
    | ok r => exact absurd offends (exists_build_iff.1 ⟨r, hr⟩ before d after split)
  · rw [build_eq_error_iff]
    constructor
    · rintro ⟨before, d, after, r, split, hr, wrong⟩
      exact ⟨before, d, after, split, exists_build_iff.1 ⟨r, hr⟩, wrong⟩
    · rintro ⟨before, d, after, split, faultless, wrong⟩
      obtain ⟨r, hr⟩ := exists_build_iff.2 faultless
      exact ⟨before, d, after, r, split, hr, wrong⟩
  · obtain ⟨keys_eq, distinct⟩ := keys_of_build hr
    have compiled := profiles_of_build hr
    exact ⟨compiled.length_eq.symm, keys_eq, distinct, compiled,
      fun d hd => exists_lookup_of_mem hr hd,
      fun key absent => lookup_eq_none_iff.2 (keys_eq ▸ absent)⟩

/-- A definition with a given key, marker and registers. -/
def sketched (key marker registers : Text) : Definition where
  key := key
  name := "Test".toList
  marker := marker
  markerLast := false
  zeroLed := false
  sizedOpcodes := false
  registers := registers

/-- Two definitions that make a registry; one whose key is taken and whose patterns are
no better; and one that is first and whose registers match the empty text. -/
theorem built_or_refused_sketched :
    (∃ r, build Pattern.engine [sketched ['a'] ['x'] ['r'], sketched ['b'] ['y'] ['s']] = .ok r ∧
      r.size = 2 ∧ r.keys = [['a'], ['b']] ∧
      (∃ p, (sketched ['b'] ['y'] ['s']).compileBy Pattern.engine = .ok p ∧
        r.lookup ['b'] = some p) ∧
      r.lookup ['c'] = none) ∧
    build Pattern.engine [sketched ['a'] ['x'] ['r'], sketched ['a'] ['('] ['(']] =
      .error (.repeatedKey ['a']) ∧
    build Pattern.engine [sketched ['a'] ['x'] ['r', '|'], sketched ['a'] ['('] ['(']] =
      .error (.emptyMatch ['a'] .registers) := by
  refine ⟨?_, ?_, ?_⟩
  · obtain ⟨r, hr⟩ : ∃ r, build Pattern.engine [sketched ['a'] ['x'] ['r'],
        sketched ['b'] ['y'] ['s']] = .ok r := Certain.isOk_iff.1 (by decide +kernel)
    obtain ⟨size_eq, keys_eq, -, -, found, absent⟩ := (built_or_refused Pattern.engine _).2.2 r hr
    exact ⟨r, hr, size_eq, keys_eq, found _ (List.mem_cons_of_mem _ (List.mem_cons_self ..)),
      absent ['c'] (by decide)⟩
  · have first : Faultless Pattern.engine [sketched ['a'] ['x'] ['r']] :=
      exists_build_iff.1 (Certain.isOk_iff.1 (by decide +kernel))
    exact ((built_or_refused Pattern.engine _).2.1 _).2 ⟨[_], _, [], rfl, first,
      .repeatedKey (List.mem_cons_self ..)⟩
  · obtain ⟨l, hl⟩ : ∃ l, Pattern.engine.compile
        ((sketched ['a'] ['x'] ['r', '|']).written .marker) = .ok l :=
      Certain.isOk_iff.1 (by decide +kernel)
    obtain ⟨q, hq, empty⟩ : ∃ q, Pattern.engine.compile
        ((sketched ['a'] ['x'] ['r', '|']).written .registers) = .ok q ∧
          Pattern.engine.isMatch q [] = true := Certain.exists_of_any_toOption (by decide +kernel)
    have first : Faultless Pattern.engine [] := exists_build_iff.1 ⟨Registry.empty, rfl⟩
    exact ((built_or_refused Pattern.engine _).2.1 _).2 ⟨[], _, [_], rfl, first,
      .emptyMatch List.not_mem_nil hl hq empty⟩

end Registry
end Architecture
end AsmListing
