/-
# Which definitions compile

Compiling a definition reads its two patterns, the marker's first, and then looks
whether the registers match the empty text.  `Definition.compileBy_cases` is the whole
of it: each way in which it fails, and what it makes otherwise.  A registry has a profile
for each definition, compiled from it (`Registry.profiles_of_foldlM`).

All of this is said for any engine that reads the patterns.
-/

import Mathlib.Data.List.Forall2
import AsmListing.Architecture.Registry

namespace AsmListing
namespace Architecture

variable {Compiled Cause : Type} {engine : Engine Compiled Cause}

namespace Definition

/-- **A definition fails to compile for the first of three reasons, or it
compiles.** -/
theorem compileBy_cases (engine : Engine Compiled Cause) (d : Definition) :
    (∃ cause, engine.compile (d.written .marker) = .error cause ∧
      d.compileBy engine = .error (.invalidPattern d.key .marker cause)) ∨
    ∃ l, engine.compile (d.written .marker) = .ok l ∧
      ((∃ cause, engine.compile (d.written .registers) = .error cause ∧
        d.compileBy engine = .error (.invalidPattern d.key .registers cause)) ∨
      ∃ r, engine.compile (d.written .registers) = .ok r ∧
        ((engine.isMatch r [] = true ∧
            d.compileBy engine = .error (.emptyMatch d.key .registers)) ∨
          (engine.isMatch r [] = false ∧ d.compileBy engine = .ok ⟨d, l, r⟩))) := by
  unfold compileBy readField
  cases hl : engine.compile (d.written .marker) with
  | error cause => exact .inl ⟨cause, rfl, rfl⟩
  | ok l =>
    refine .inr ⟨l, rfl, ?_⟩
    cases hr : engine.compile (d.written .registers) with
    | error cause => exact .inl ⟨cause, rfl, rfl⟩
    | ok r =>
      refine .inr ⟨r, rfl, ?_⟩
      cases he : engine.isMatch r [] with
      | true => exact .inl ⟨rfl, by simp [Except.mapError, bind, Except.bind, he]; rfl⟩
      | false => exact .inr ⟨rfl, by simp [Except.mapError, bind, Except.bind, he]; rfl⟩

/-- **The profile of a definition keeps it and has its two patterns,** and its registers do
not match the empty text. -/
theorem eq_of_compileBy {d : Definition} {p : Profile Compiled}
    (h : d.compileBy engine = .ok p) :
    p.definition = d ∧ engine.compile (d.written .marker) = .ok p.literals ∧
      engine.compile (d.written .registers) = .ok p.registers ∧
      engine.isMatch p.registers [] = false := by
  rcases d.compileBy_cases engine with
    ⟨_, -, hc⟩ | ⟨l, hl, ⟨_, -, hc⟩ | ⟨r, hr, ⟨-, hc⟩ | ⟨he, hc⟩⟩⟩ <;>
    rw [hc] at h <;> cases h
  exact ⟨rfl, hl, hr, he⟩

/-- A definition whose registers are refused for matching the empty text has
registers that can be read and match it. -/
theorem exists_of_compileBy_emptyMatch {d : Definition} {key : Text} {field : Field}
    (h : d.compileBy engine = .error (.emptyMatch key field)) :
    key = d.key ∧ field = .registers ∧
      ∃ r, engine.compile (d.written .registers) = .ok r ∧ engine.isMatch r [] = true := by
  rcases d.compileBy_cases engine with
    ⟨_, -, hc⟩ | ⟨_, -, ⟨_, -, hc⟩ | ⟨r, hr, ⟨he, hc⟩ | ⟨-, hc⟩⟩⟩ <;>
    rw [hc] at h <;> cases h
  exact ⟨rfl, rfl, r, hr, he⟩

end Definition

namespace Registry

/-- **A row of steps fails at its first step that does.** -/
theorem foldlM_eq_error_iff {ε α β : Type} {f : β → α → Except ε β} {xs : List α} {b : β} {e : ε} :
    xs.foldlM f b = .error e ↔ ∃ before x after b', xs = before ++ x :: after ∧
      before.foldlM f b = .ok b' ∧ f b' x = .error e := by
  constructor
  · intro h
    induction xs generalizing b with
    | nil => cases h
    | cons x xs ih =>
      rw [List.foldlM_cons] at h
      cases hx : f b x with
      | error e' =>
        rw [hx] at h
        cases h
        exact ⟨[], x, xs, b, rfl, rfl, hx⟩
      | ok b' =>
        rw [hx] at h
        obtain ⟨before, y, after, b'', rfl, hb, hy⟩ := ih h
        refine ⟨x :: before, y, after, b'', rfl, ?_, hy⟩
        rw [List.foldlM_cons, hx]
        exact hb
  · rintro ⟨before, x, after, b', rfl, hb, hx⟩
    rw [List.foldlM_append, hb]
    change (x :: after).foldlM f b' = _
    rw [List.foldlM_cons, hx]
    rfl

variable {ds : List Definition} {r r' : Registry Compiled} {p : Profile Compiled}

/-- A definition adds its profile at the end. -/
theorem add_eq_ok {d : Definition} (h : r.add engine d = .ok r') :
    ∃ p, d.compileBy engine = .ok p ∧ r'.profiles = r.profiles ++ [p] := by
  unfold add at h
  split at h
  · cases h
  · obtain ⟨p, hp, rfl⟩ := Certain.map_eq_ok_iff.1 h
    exact ⟨p, hp, rfl⟩

/-- **Definitions add their profiles one by one.** -/
theorem profiles_of_foldlM (h : ds.foldlM (add engine) r = .ok r') :
    ∃ ps, r'.profiles = r.profiles ++ ps ∧
      List.Forall₂ (fun d p => d.compileBy engine = .ok p) ds ps := by
  induction ds generalizing r with
  | nil =>
    cases h
    exact ⟨[], (List.append_nil _).symm, .nil⟩
  | cons d ds ih =>
    rw [List.foldlM_cons] at h
    obtain ⟨r₁, hadd, hfold⟩ := Certain.bind_eq_ok_iff.1 h
    obtain ⟨p, hp, hprofiles⟩ := add_eq_ok hadd
    obtain ⟨ps, hps, all⟩ := ih hfold
    exact ⟨p :: ps, by rw [hps, hprofiles, List.append_assoc]; rfl, .cons hp all⟩

theorem profiles_of_build (h : build engine ds = .ok r) :
    List.Forall₂ (fun d p => d.compileBy engine = .ok p) ds r.profiles := by
  obtain ⟨ps, hps, all⟩ := profiles_of_foldlM h
  obtain rfl : r.profiles = ps := hps
  exact all

/-- A profile of a registry comes from one of the definitions. -/
theorem exists_compile_of_mem (h : build engine ds = .ok r) (hp : p ∈ r.profiles) :
    ∃ d ∈ ds, d.compileBy engine = .ok p := by
  obtain ⟨same, compiled⟩ := List.forall₂_iff_get.1 (profiles_of_build h)
  obtain ⟨i, hi, rfl⟩ := List.getElem_of_mem hp
  exact ⟨ds[i], List.getElem_mem _, compiled i (same ▸ hi) hi⟩

end Registry
end Architecture
end AsmListing
