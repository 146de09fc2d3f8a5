/-
# Written patterns: lexemes

A written pattern is a row of lexemes:

| written | lexeme |
| --- | --- |
| `(`, `(?:`, `(?P<name>`, `(?<name>` | a group opens |
| `)` | a group closes |
| `\|` | the next alternative starts |
| `?`, `*`, `+`, `{n}`, `{n,}`, `{n,m}`, each also with `?` behind it | the item before repeats |
| `[…]`, `[^…]` | a character of a class |
| `.` | any character but a line feed |
| `^`, `$` | the start, the end of the text |
| `\s`, `\S` | a blank, any character but a blank |
| `\a`, `\f`, `\n`, `\r`, `\t`, `\v` | the control character of that name |
| `\` and punctuation, any other character | that character |

A class holds characters, ranges `a-z` and classes; `]` is a member when it
comes first, and `-` when it comes first or last.

Every other form is refused: escapes of further classes and of places (`\d`, `\w`, `\p`, `\b`,
`\A`, `\z`) and of numbered characters (`\x41`), `\s` and `\S` as members of a class, named
classes (`[[:digit:]]`), operations on classes other than union (`&&`, `--`, `~~`), flags
(`(?i:…)`), and group names beyond ASCII.
-/

import AsmListing.Text.Blank
import AsmListing.Pattern.Basic
import AsmListing.Pattern.Fault

namespace AsmListing
namespace Pattern

/-- The smallest parts of a written pattern. -/
inductive Lexeme where
  | item (p : Pattern)
  | opening (name : Option Text)
  | closing
  | bar
  | repeated (r : Repetition)
  deriving DecidableEq, Repr

namespace Lexeme

/-- The character that a backslash and the text behind it stand for. -/
def escaped : Text → Except Fault Char
  | [] => .error .unfinishedEscape
  | 'a' :: _ => .ok '\x07'
  | 'f' :: _ => .ok '\x0c'
  | 'n' :: _ => .ok '\n'
  | 'r' :: _ => .ok '\r'
  | 't' :: _ => .ok '\t'
  | 'v' :: _ => .ok '\x0b'
  | c :: _ =>
    if c.toNat < 128 && !c.isAlphanum && c != '<' && c != '>' then .ok c
    else .error (.unknownEscape c)

/-- A member of a class that starts with `c`, and how many characters of the
text behind `c` belong to it. -/
def member (c : Char) (s : Text) : Except Fault (Char × Nat) :=
  if c = '\\' then (escaped s).map fun d => (d, 1) else .ok (c, 0)

/-- A member or range of a class that starts with `c`, and how many characters
of the text behind `c` belong to it. -/
def span (c : Char) (s : Text) : Except Fault (CharSet × Nat) := do
  let (first, n) ← member c s
  match s.drop n with
  | '-' :: d :: rest =>
    if d = ']' || d = '-' then return (CharSet.single first, n)
    let (last, k) ← member d rest
    if first ≤ last then return (CharSet.range first last, n + 2 + k)
    throw (.fallingRange first last)
  | _ => return (CharSet.single first, n)

/-- A class of which only a part is read. -/
structure OpenClass where
  negated : Bool
  members : CharSet

namespace OpenClass

/-- The class with some more members. -/
def add (k : OpenClass) (set : CharSet) : OpenClass :=
  { k with members := .union k.members set }

/-- The set that the class stands for once it is closed. -/
def close (k : OpenClass) : CharSet :=
  if k.negated then .compl k.members else k.members

/-- The start of a class whose opening bracket stands before `s`, and how many
characters of `s` belong to it: the sign of a complement, and the dashes or the
bracket that are members for coming first. -/
def start (s : Text) : OpenClass × Nat :=
  let negated := s.head? = some '^'
  let body := if negated then s.tail else s
  let dashes := (body.takeWhile (· = '-')).length
  let signs := if negated then 1 else 0
  if dashes ≠ 0 then (⟨negated, .single '-'⟩, signs + dashes)
  else if body.head? = some ']' then (⟨negated, .single ']'⟩, signs + 1)
  else (⟨negated, .none⟩, signs)

end OpenClass

/-- Whether a class operation other than union starts with `c`. -/
def isClassOperation (c : Char) (s : Text) : Bool :=
  (c = '&' || c = '-' || c = '~') && s.head? = some c

/-- The set of a class of which `current` is read, inside the classes `outer`,
after `skip` more characters, and the number of characters up to its end. -/
def classFrom (current : OpenClass) (outer : List OpenClass) (count : Nat) :
    (skip : Nat) → Text → Except Fault (CharSet × Nat)
  | _, [] => .error .unclosedClass
  | skip + 1, _ :: s => classFrom current outer (count + 1) skip s
  | 0, c :: s =>
    if c = ']' then
      match outer with
      | [] => .ok (current.close, count + 1)
      | k :: outer => classFrom (k.add current.close) outer (count + 1) 0 s
    else if c = '[' then
      if s.head? = some ':' then .error .unknownClass
      else
        let (inner, skip) := OpenClass.start s
        classFrom inner (current :: outer) (count + 1) skip s
    else if isClassOperation c s then .error .unknownClass
    else
      match span c s with
      | .error e => .error e
      | .ok (set, skip) => classFrom (current.add set) outer (count + 1) skip s

/-- Whether `name` can name a group. -/
def isName (name : Text) : Bool :=
  match name with
  | [] => false
  | c :: s =>
    (c = '_' || c.isAlpha) &&
      s.all fun d => d = '_' || d = '.' || d = '[' || d = ']' || d.isAlphanum

/-- The name in front of `s`, closed by an angle bracket, and its length with
the bracket. -/
def groupName (s : Text) : Except Fault (Text × Nat) :=
  let name := s.takeWhile (· ≠ '>')
  if isName name && name.length < s.length then .ok (name, name.length + 1)
  else .error .badName

/-- The opening of a group whose parenthesis stands before `s`. -/
def groupOpening (s : Text) : Except Fault (Lexeme × Nat) :=
  match s with
  | '?' :: ':' :: _ => .ok (opening none, 2)
  | '?' :: 'P' :: '<' :: r => (groupName r).map fun (name, n) => (opening name, n + 3)
  | '?' :: '<' :: r => (groupName r).map fun (name, n) => (opening name, n + 2)
  | '?' :: _ => .error .unknownGroup
  | _ => .ok (opening none, 0)

/-- The number in front of `s`, between blanks, and what follows it.  It has to fit
into 32 bits. -/
def number (s : Text) : Except Fault (Nat × Text) :=
  let s := Text.trimLeft s
  let digits := s.takeWhile Char.isDigit
  let n := digits.foldl (fun n d => 10 * n + (d.toNat - '0'.toNat)) 0
  if digits.isEmpty then .error .missingCount
  else if n < 4294967296 then .ok (n, Text.trimLeft (s.drop digits.length))
  else .error .hugeCount

/-- A repetition, lazy if a question mark stands in front of `s`. -/
def repetition (least : Nat) (most : Option Nat) (s : Text) : Lexeme × Nat :=
  if s.head? = some '?' then (repeated ⟨least, most, false⟩, 1)
  else (repeated ⟨least, most, true⟩, 0)

/-- The counted repetition whose opening brace stands before `s`. -/
def countedRepetition (s : Text) : Except Fault (Lexeme × Nat) := do
  let (least, r) ← number s
  let (most, r) ←
    match r with
    | ',' :: '\x7d' :: r => pure (none, '\x7d' :: r)
    | ',' :: r => (number r).map fun (most, r) => (some most, r)
    | r => pure (some least, r)
  match most with
  | some m => if m < least then throw (.fallingCounts least m)
  | none => pure ()
  match r with
  | '\x7d' :: r =>
    let (l, n) := repetition least most r
    return (l, n + (s.length - r.length))
  | _ => throw .unclosedCount

/-- The set that a backslash in front of `s` stands for outside of a class. -/
def escapedSet (s : Text) : Except Fault CharSet :=
  if s.head? = some 's' then .ok .blank
  else if s.head? = some 'S' then .ok (.compl .blank)
  else (escaped s).map CharSet.single

/-- The lexeme that starts with `c`, and how many characters of the text behind
`c` belong to it. -/
def first (c : Char) (s : Text) : Except Fault (Lexeme × Nat) :=
  match c with
  | '(' => groupOpening s
  | ')' => .ok (closing, 0)
  | '|' => .ok (bar, 0)
  | '?' => .ok (repetition 0 (some 1) s)
  | '*' => .ok (repetition 0 none s)
  | '+' => .ok (repetition 1 none s)
  | '\x7b' => countedRepetition s
  | '[' =>
    let (k, skip) := OpenClass.start s
    (classFrom k [] 0 skip s).map fun (set, n) => (item (one set), n)
  | '.' => .ok (item (one .dot), 0)
  | '^' => .ok (item atStart, 0)
  | '$' => .ok (item atEnd, 0)
  | '\\' => (escapedSet s).map fun set => (item (one set), 1)
  | c => .ok (item (one (.single c)), 0)

/-- The lexemes of a written pattern, behind `skip` characters. -/
def ofText : (skip : Nat) → Text → Except Fault (List Lexeme)
  | _, [] => .ok []
  | skip + 1, _ :: s => ofText skip s
  | 0, c :: s =>
    match first c s with
    | .error e => .error e
    | .ok (l, n) => (ofText n s).map (l :: ·)

end Lexeme
end Pattern
end AsmListing
