/-
# Annotated listings

A document is a listing with every line taken apart: an instruction into its
address, the tokens of its opcode and those of its args, any other line kept as
one plain token.  The document also carries what a view of it needs: the caption,
the key of the architecture and the sign for comments.

`Document.ofText` annotates under a given profile and fails only where a literal
lacks a part; `Document.annotate` looks the architecture up among the known ones
and never fails.
-/

import AsmListing.Args
import AsmListing.Opcode
import AsmListing.Record
import AsmListing.Architecture.Registry

namespace AsmListing

open Architecture (Profile literalStyle builtin)

/-- A line of an annotated listing. -/
inductive Line where
  | instruction (address : Text) (opcode args : List Token)
  | unformatted (token : Token)
  deriving DecidableEq, Repr

namespace Line

/-- The annotated line of a record. -/
def ofRecord (record : Record) (profile : Option Profile) (o : Options) :
    Except MissingGroup Line :=
  match record with
  | .unformatted text => .ok (unformatted (.plain text))
  | .instruction address opcode args =>
    (Args.tokens args profile o).map (instruction address (Opcode.tokens opcode profile))

/-- Whether the line is an instruction. -/
def isInstruction : Line → Bool
  | instruction .. => true
  | unformatted _ => false

/-- The comment that ends the line. -/
def comment : Line → Option Token
  | instruction _ _ args => args.getLast?.filter Token.isComment
  | unformatted _ => none

/-- The tokens of the args without the comment. -/
def operands : Line → List Token
  | instruction _ _ args => if args.getLast?.any Token.isComment then args.dropLast else args
  | unformatted _ => []

/-- All tokens, in order. -/
def tokens : Line → List Token
  | instruction _ opcode args => opcode ++ args
  | unformatted t => [t]

theorem ofRecord_isOk {profile : Option Profile} (h : (literalStyle profile).complete = true)
    (record : Record) (o : Options) : ∃ l, ofRecord record profile o = .ok l := by
  cases record with
  | unformatted text => exact ⟨_, rfl⟩
  | instruction address opcode args =>
    obtain ⟨ts, hts⟩ := Args.tokens_isOk h args o
    simp only [ofRecord, hts, Except.map]
    exact ⟨_, rfl⟩

/-- The annotated lines of some records, up to the first that fails. -/
def ofRecords (records : List Record) (profile : Option Profile) (o : Options) :
    Except MissingGroup (List Line) :=
  match records with
  | [] => .ok []
  | r :: rs => do
    let l ← ofRecord r profile o
    let ls ← ofRecords rs profile o
    return l :: ls

theorem ofRecords_isOk {profile : Option Profile} (h : (literalStyle profile).complete = true)
    (records : List Record) (o : Options) : ∃ ls, ofRecords records profile o = .ok ls := by
  induction records with
  | nil => exact ⟨_, rfl⟩
  | cons r rs ih =>
    obtain ⟨l, hl⟩ := ofRecord_isOk h r o
    obtain ⟨ls, hls⟩ := ih
    exact ⟨l :: ls, by simp [ofRecords, hl, hls, bind, Except.bind, pure, Except.pure]⟩

end Line

/-- An annotated listing. -/
structure Document where
  /-- The name of the architecture, where one is known and captions are shown. -/
  caption : Option Text
  archKey : Option Text
  commentGlyph : Text
  lines : List Line
  deriving DecidableEq, Repr

namespace Document

/-- The number of instructions. -/
def instructionCount (d : Document) : Nat :=
  d.lines.countP Line.isInstruction

/-- The document of annotated lines. -/
def ofLines (lines : List Line) (profile : Option Profile) (o : Options) : Document where
  caption := if o.caption then profile.map Profile.name else none
  archKey := profile.map Profile.key
  commentGlyph := o.commentGlyph
  lines := lines

/-- A listing annotated under a profile, or under none. -/
def ofText (text : Text) (profile : Option Profile) (o : Options) :
    Except MissingGroup Document :=
  (Line.ofRecords (Record.ofText text) profile o).map fun ls => ofLines ls profile o

theorem ofText_isOk {profile : Option Profile} (h : (literalStyle profile).complete = true)
    (text : Text) (o : Options) : (ofText text profile o).isOk = true := by
  obtain ⟨ls, hls⟩ := Line.ofRecords_isOk h (Record.ofText text) o
  simp only [ofText, hls]
  rfl

/-- A listing annotated for one of the known architectures.  An unknown key
annotates as no key does. -/
def annotate (text : Text) (key : Option Text) (o : Options) : Document :=
  Certain.value (ofText text (key.bind builtin.lookup) o)
    (ofText_isOk (Architecture.complete_lookup_builtin key) text o)

theorem ofText_eq_ok_annotate (text : Text) (key : Option Text) (o : Options) :
    ofText text (key.bind builtin.lookup) o = .ok (annotate text key o) :=
  Certain.eq_ok_value _

/-- The entries about the making of a document: one for each line that is no
instruction, and the counts. -/
def journal (d : Document) : List Entry :=
  (d.lines.filterMap fun
    | .unformatted t => some (Record.unformattedEntry t.source)
    | .instruction .. => none) ++
  [⟨.debug, "Annotated ".toList ++ Text.ofNat d.lines.length ++ " lines (".toList ++
    Text.ofNat d.instructionCount ++ " instructions) as ".toList ++
    d.archKey.getD "generic".toList⟩]

/-- The entries about `annotate`: a warning when the key is unknown, and those
about the document. -/
def annotateJournal (text : Text) (key : Option Text) (o : Options) : List Entry :=
  ((key.filter fun k => (builtin.lookup k).isNone).map fun k =>
    (⟨.warn, "Unknown architecture `".toList ++ k ++
      "`, annotating without registers".toList⟩ : Entry)).toList ++
  (annotate text key o).journal

end Document
end AsmListing
