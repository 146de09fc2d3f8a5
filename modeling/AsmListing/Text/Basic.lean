/-
# Text

A text is the list of its characters, so that it can be cut, joined and
compared by the operations on lists.  Lengths and columns count characters;
the one place where bytes matter, the position of a match, goes through
`Text.byteSize`.
-/

namespace AsmListing

/-- A text, character by character. -/
abbrev Text := List Char

namespace Text

/-- The number of bytes of `s` in UTF-8. -/
def byteSize (s : Text) : Nat :=
  s.foldr (fun c n => c.utf8Size + n) 0

/-- `s` cut at the first `mark`, which belongs to neither half; `none` when
`s` holds no `mark`. -/
def cutAt (mark : Char) : Text → Option (Text × Text)
  | [] => none
  | c :: s => if c = mark then some ([], s) else (cutAt mark s).map fun (l, r) => (c :: l, r)

/-- `c` put in front of the first of some pieces, or as a piece of its own when
there is none. -/
def onFirst (c : Char) : List Text → List Text
  | [] => [[c]]
  | p :: ps => (c :: p) :: ps

/-- What follows `lead` in a text that starts with it. -/
def after? : (lead s : Text) → Option Text
  | [], s => some s
  | _ :: _, [] => none
  | a :: lead, c :: s => if c = a then after? lead s else none

theorem after?_eq_some_iff {lead s r : Text} : after? lead s = some r ↔ s = lead ++ r := by
  induction lead generalizing s with
  | nil => simp [after?]
  | cons a lead ih => cases s <;> simp [after?, ih]

theorem isSome_after?_iff {lead s : Text} : (after? lead s).isSome = true ↔ lead <+: s := by
  rw [Option.isSome_iff_exists]
  exact exists_congr fun r => after?_eq_some_iff.trans eq_comm

/-- Whether `needle` stands anywhere in the text. -/
def holds (needle : Text) : Text → Bool
  | [] => needle.isEmpty
  | c :: s => (after? needle (c :: s)).isSome || holds needle s

theorem holds_eq_true_iff {needle s : Text} : holds needle s = true ↔ needle <:+: s := by
  induction s with
  | nil => simp [holds]
  | cons c s ih => rw [holds, Bool.or_eq_true, isSome_after?_iff, ih, List.infix_cons_iff]

/-- The ASCII letters of `s` in upper case, all else unchanged. -/
def upper (s : Text) : Text :=
  s.map Char.toUpper

/-- `s` with blanks behind it up to `width` characters. -/
def padTo (width : Nat) (s : Text) : Text :=
  s ++ List.replicate (width - s.length) ' '

/-- The decimal digits of a number. -/
def ofNat (n : Nat) : Text :=
  Nat.toDigits 10 n

end Text
end AsmListing
