/-
# How the panes name the architecture

The source pane looks the name up by the key in the state.  The title and the heading of the
listing are the caption of the document, which was looked up when it was made, and only if
the options asked for one.  A document that belongs to the rest of its state was made with
that key and these options, so that its caption is the name in the source pane or nothing
(`Window.caption_eq`).  In the window every document belongs to its state, whichever way the
session went (`InSync.run`).

What stands for no architecture in the source pane is the name of none
(`Window.name_ne_generic`), and a heading is told from the rows of a listing by its ink
(`Painting.ink_of_mem_rows`).
-/

import AsmListing.Viewer.Window
import AsmListing.Proofs.Architecture.Places
import AsmListing.Proofs.Viewer.Sync

namespace AsmListing

open Architecture (Profile builtin)

/-- An annotated listing has its lines from the text, and all else from the profile and the
options. -/
theorem Document.exists_annotate_eq (text : Text) (key : Option Text) (o : Options) :
    ∃ lines, annotate text key o = ofLines lines (key.bind builtin.lookup) o := by
  obtain ⟨lines, -, h⟩ := Certain.map_eq_ok_iff.1 (ofText_eq_ok_annotate text key o)
  exact ⟨lines, h.symm⟩

namespace Painting

theorem ink_of_mem_opcodeStrokes {p : Palette} {opcode : List Token} {k : Stroke}
    (h : k ∈ opcodeStrokes p opcode) : k.ink ≠ .control := by
  obtain ⟨t, -, hk⟩ := List.mem_flatMap.1 h
  obtain ⟨span, -, rfl⟩ := List.mem_map.1 hk
  exact nofun

theorem ink_of_mem_argStrokes {p : Palette} {glyph : Text} {t : Token} {k : Stroke}
    (h : k ∈ argStrokes p glyph t) : k.ink ≠ .control := by
  cases t with
  | symbol | comment =>
    obtain rfl := List.mem_singleton.1 h
    exact nofun
  | hex | register | sizeSuffix | plain =>
    obtain ⟨span, -, rfl⟩ := List.mem_map.1 h
    exact nofun

theorem ink_of_mem_lineStrokes {p : Palette} {glyph : Text} {addresses opcodes : Nat} {l : Line}
    {k : Stroke} (h : k ∈ lineStrokes p glyph addresses opcodes l) : k.ink ≠ .control := by
  cases l with
  | unformatted t =>
    obtain rfl := List.mem_singleton.1 h
    exact nofun
  | instruction address opcode args =>
    rcases List.mem_append.1 h with h | h
    · rcases List.mem_append.1 h with h | h
      · rcases List.mem_cons.1 h with rfl | h
        · exact nofun
        · exact ink_of_mem_opcodeStrokes h
      · obtain rfl := List.mem_singleton.1 h
        exact nofun
    · obtain ⟨t, -, hk⟩ := List.mem_flatMap.1 h
      exact ink_of_mem_argStrokes hk

/-- A row of a listing has no ink of the controls. -/
theorem ink_of_mem_rows {p : Palette} {d : Document} {k : Stroke}
    (h : k ∈ (rows p d).flatten) : k.ink ≠ .control := by
  obtain ⟨row, hrow, hk⟩ := List.mem_flatten.1 h
  obtain ⟨l, -, rfl⟩ := List.mem_map.1 hrow
  exact ink_of_mem_lineStrokes hk

end Painting

namespace Viewer
namespace Window

variable {s : State}

theorem name_ne_generic {p : Profile} (h : p ∈ builtin.profiles) : p.name ≠ "Generic".toList := by
  have named : ∀ d ∈ Architecture.definitions, d.name ≠ "Generic".toList := by decide
  exact named _ (Architecture.compile_of_mem_builtin h).1

/-- The key of a document is that of the profile which the source pane names. -/
theorem archKey_eq (h : s.Fresh) :
    s.document.archKey = (s.archKey.bind builtin.lookup).map Profile.key := by
  obtain ⟨lines, made⟩ := Document.exists_annotate_eq s.source s.archKey s.options
  rw [h, made]
  rfl

/-- **The caption is what the source pane shows,** if there is an architecture and the options
ask for a caption. -/
theorem caption_eq (h : s.Fresh) : s.document.caption =
    if s.document.archKey.isSome ∧ s.options.caption = true then some (archShown s) else none := by
  obtain ⟨lines, made⟩ := Document.exists_annotate_eq s.source s.archKey s.options
  rw [archKey_eq h, h, made, archShown]
  cases s.archKey.bind builtin.lookup <;> cases asked : s.options.caption <;>
    simp [Document.ofLines, asked]

theorem archShown_eq_generic_iff (h : s.Fresh) :
    archShown s = "Generic".toList ↔ s.document.archKey = none := by
  rw [archKey_eq h, archShown]
  cases found : s.archKey.bind builtin.lookup with
  | none => exact ⟨fun _ => rfl, fun _ => rfl⟩
  | some p =>
    obtain ⟨key, -, hp⟩ := Option.bind_eq_some_iff.1 found
    have member := (Architecture.Registry.mem_profiles_of_lookup hp).1
    exact ⟨fun generic => absurd generic (name_ne_generic member), nofun⟩

theorem exists_profile_of_archKey (h : s.Fresh) {key : Text} (hkey : s.document.archKey = some key) :
    ∃ p ∈ builtin.profiles, p.key = key ∧ p.name = archShown s := by
  rw [archKey_eq h] at hkey
  obtain ⟨p, found, rfl⟩ := Option.map_eq_some_iff.1 hkey
  obtain ⟨k, -, hp⟩ := Option.bind_eq_some_iff.1 found
  refine ⟨p, (Architecture.Registry.mem_profiles_of_lookup hp).1, rfl, ?_⟩
  rw [archShown, found]
  rfl

/-! ### The title and the heading -/

/-- The title of a listing without a caption is shorter than any with one. -/
theorem bare_title_ne (name : Text) :
    "Listing".toList ≠ "Listing (".toList ++ name ++ ")".toList := by
  intro same
  have longer : "Listing (".toList.length ≤ "Listing".toList.length := by
    rw [same, List.append_assoc, List.length_append]
    exact Nat.le_add_right _ _
  exact absurd longer (by decide)

theorem title_listing (s : State) : title s .listing = match s.document.caption with
    | some caption => "Listing (".toList ++ caption ++ ")".toList
    | none => "Listing".toList :=
  rfl

theorem title_listing_eq_iff (name : Text) :
    title s .listing = "Listing (".toList ++ name ++ ")".toList ↔ s.document.caption = some name := by
  rw [title_listing]
  cases s.document.caption with
  | none => exact ⟨fun same => absurd same (bare_title_ne name), nofun⟩
  | some caption => rw [List.append_left_inj, List.append_right_inj, Option.some.injEq]

theorem ink_of_mem_listing (h : s.document.caption = none) {k : Stroke} (hk : k ∈ listing s) :
    k.ink ≠ .control := by
  rw [listing, Painting.document, h] at hk
  exact Painting.ink_of_mem_rows hk

/-- A listing starts with its caption, and no row of it looks like one. -/
theorem listing_starts_iff (name : Text) :
    (∃ rest, listing s = ⟨name, .control⟩ :: rest ∧ ∀ k ∈ rest, k.ink ≠ .control) ↔
      s.document.caption = some name := by
  constructor
  · rintro ⟨rest, painted, -⟩
    cases h : s.document.caption with
    | none =>
      have first : ⟨name, .control⟩ ∈ listing s := painted ▸ List.mem_cons_self ..
      exact absurd rfl (ink_of_mem_listing h first)
    | some caption =>
      rw [listing, Painting.document, h] at painted
      obtain ⟨rfl⟩ := List.head_eq_of_cons_eq painted
      rfl
  · intro h
    have painted : listing s =
        ⟨name, .control⟩ :: (Painting.rows (Palette.ofTheme s.theme) s.document).flatten := by
      rw [listing, Painting.document, h]
      rfl
    exact ⟨_, painted, fun k => Painting.ink_of_mem_rows⟩

/-- **A listing is captioned with the name in the source pane** where there is an
architecture and the options ask for it, and only there. -/
theorem caption_eq_some_iff (h : s.Fresh) : s.document.caption = some (archShown s) ↔
    s.document.archKey.isSome ∧ s.options.caption = true := by
  rw [caption_eq h]
  split
  · next named => exact ⟨fun _ => named, fun _ => rfl⟩
  · next unnamed => exact ⟨nofun, fun named => absurd named unnamed⟩

/-- **The panes agree on the architecture.**  However a session goes on from its opening by
steps in the window: the source pane shows that there is none exactly if the document has
none, and else it shows the name of the profile with the key of the document.  The title of
the listing has that name in brackets, and the listing starts with it as its heading, exactly
if the document has an architecture and the options ask for captions; otherwise there is no
name in the title and no heading at all. -/
theorem panes_agree (source : Text) (path archKey : Option Text) (steps : List Step)
    (hs : ∀ a ∈ steps, a.bypasses = false) :
    let s := ((Session.opening source path archKey).run steps).state
    let captioned := s.document.archKey.isSome ∧ s.options.caption = true
    (archShown s = "Generic".toList ↔ s.document.archKey = none) ∧
    (∀ key, s.document.archKey = some key →
      ∃ p ∈ builtin.profiles, p.key = key ∧ p.name = archShown s) ∧
    (title s .listing = "Listing (".toList ++ archShown s ++ ")".toList ↔ captioned) ∧
    ((∃ rest, listing s = ⟨archShown s, .control⟩ :: rest ∧ ∀ k ∈ rest, k.ink ≠ .control) ↔
      captioned) ∧
    (¬ captioned → title s .listing = "Listing".toList ∧ ∀ k ∈ listing s, k.ink ≠ .control) := by
  intro s captioned
  have fresh : s.Fresh := ((Session.inSync_opening source path archKey).run hs).fresh
  refine ⟨archShown_eq_generic_iff fresh, fun key => exists_profile_of_archKey fresh,
    (title_listing_eq_iff _).trans (caption_eq_some_iff fresh),
    (listing_starts_iff _).trans (caption_eq_some_iff fresh), fun bare => ?_⟩
  have uncaptioned : s.document.caption = none := (caption_eq fresh).trans (if_neg bare)
  exact ⟨by rw [title_listing, uncaptioned], fun k => ink_of_mem_listing uncaptioned⟩

/-- An architecture is chosen in place of an unknown key while no caption is asked for; when
one is, the name in the source pane is in the title and the heading too. -/
theorem panes_agree_toggled :
    let opening := Session.opening "0: a $1".toList none (some "none".toList)
    let steps : List Step := [.toggle .caption, .chooseArch (some "z80".toList)]
    let s := (opening.run steps).state
    let s' := (opening.run (steps ++ [.toggle .caption])).state
    (∀ a ∈ steps ++ [.toggle .caption], a.bypasses = false) ∧
      archShown s = "Zilog Z80".toList ∧ title s .listing = "Listing".toList ∧
      archShown s' = "Zilog Z80".toList ∧
      title s' .listing = "Listing (".toList ++ "Zilog Z80".toList ++ ")".toList ∧
      ∃ rest, listing s' = ⟨"Zilog Z80".toList, .control⟩ :: rest := by
  intro opening steps s s'
  have allowed : ∀ a ∈ steps ++ [.toggle .caption], a.bypasses = false := by decide
  obtain ⟨p, hp, named⟩ := Architecture.exists_lookup_builtin "z80".toList
    (fun p => p.name = "Zilog Z80".toList) (by decide +kernel)
  have shown : ∀ t : State, t.archKey = some "z80".toList → archShown t = "Zilog Z80".toList := by
    intro t h
    rw [archShown, h, Option.bind_some, hp]
    exact of_decide_eq_true named
  obtain ⟨-, -, -, -, bare⟩ := panes_agree "0: a $1".toList none (some "none".toList) steps
    fun a ha => allowed a (List.mem_append_left _ ha)
  obtain ⟨generic, -, titled, headed, -⟩ := panes_agree "0: a $1".toList none
    (some "none".toList) (steps ++ [.toggle .caption]) allowed
  have shown' : archShown s' = "Zilog Z80".toList := shown s' rfl
  have known : s'.document.archKey.isSome :=
    Option.isSome_iff_ne_none.2 fun none => by
      have unnamed := generic.2 none
      rw [shown'] at unnamed
      exact absurd unnamed (by decide)
  refine ⟨allowed, shown s rfl, (bare fun captioned => nomatch captioned.2).1, shown', ?_, ?_⟩
  · rw [← shown']
    exact titled.2 ⟨known, rfl⟩
  · obtain ⟨rest, painted, -⟩ := headed.2 ⟨known, rfl⟩
    rw [← shown']
    exact ⟨rest, painted⟩

end Window
end Viewer
end AsmListing
