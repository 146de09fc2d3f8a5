/-
# The command line

    [-a ARCH | --arch ARCH] [-h | --help] [-V | --version] [--] [FILE]

Words are read from left to right, and the first thing that is wrong decides.

* The value of an option is the next word, or stands behind an equals sign; that
  of `-a` may also follow at once.  The next word is no value if it starts with
  a dash and is more than a dash.
* Short options may share a dash.
* Behind the word `--` every word is a file.
* That a value is missing, or that an option is given twice, is only found when
  something else is read that can be placed, or at the end.
* That the name of the file is empty is found after everything else.
-/

import AsmListing.Text.Basic

namespace AsmListing
namespace CommandLine

/-- What the command line asks for. -/
structure Arguments where
  file : Option Text
  arch : Option Text
  deriving DecidableEq, Repr

/-- Why the command line asks for nothing to be shown. -/
inductive Refusal where
  | displayHelp
  | displayVersion
  | unknownArgument
  | invalidValue
  | argumentConflict
  | tooManyValues
  deriving DecidableEq, Repr

/-- The last option that takes a value, as long as it is not settled. -/
inductive Pending where
  | nothing
  /-- The value has not been read. -/
  | awaited
  | value (v : Text)
  deriving DecidableEq, Repr

/-- What has been read of a command line. -/
structure Progress where
  file : Option Text
  arch : Option Text
  pending : Pending
  deriving DecidableEq, Repr

namespace Progress

/-- Nothing has been read. -/
def start : Progress :=
  ⟨none, none, .nothing⟩

/-- The architecture is given, which may be done once. -/
def giveArch (p : Progress) (v : Text) : Except Refusal Progress :=
  if p.arch.isSome then .error .argumentConflict
  else .ok { p with arch := some v, pending := .nothing }

/-- What is pending is settled. -/
def settle (p : Progress) : Except Refusal Progress :=
  match p.pending with
  | .nothing => .ok p
  | .awaited => .error .invalidValue
  | .value v => p.giveArch v

/-- The architecture is given together with its option. -/
def giveAttached (p : Progress) (v : Text) : Except Refusal Progress := do
  let p ← p.settle
  p.giveArch v

/-- The option for the architecture is read, and its value is still to come. -/
def awaitArch (p : Progress) : Except Refusal Progress := do
  let p ← p.settle
  return { p with pending := .awaited }

/-- A request that ends the reading. -/
def request (p : Progress) (r : Refusal) : Except Refusal Progress := do
  let _ ← p.settle
  throw r

/-- A word that names a file. -/
def file? (p : Progress) (word : Text) : Except Refusal Progress :=
  match p.file with
  | some _ => .error .unknownArgument
  | none => do
    let p ← p.settle
    return { p with file := some word }

/-- A long option, without its two dashes. -/
def long (p : Progress) (body : Text) : Except Refusal Progress :=
  let (name, value) :=
    match Text.cutAt '=' body with
    | some (name, value) => (name, some value)
    | none => (body, none)
  if name = "arch".toList then
    match value with
    | some v => p.giveAttached v
    | none => p.awaitArch
  else if name = "help".toList then
    if value.isSome then .error .tooManyValues else p.request .displayHelp
  else if name = "version".toList then
    if value.isSome then .error .tooManyValues else p.request .displayVersion
  else .error .unknownArgument

/-- Short options that share a dash.  Each but `a` ends the reading, so only the
first counts. -/
def short (p : Progress) (body : Text) : Except Refusal Progress :=
  match body with
  | 'h' :: _ => p.request .displayHelp
  | 'V' :: _ => p.request .displayVersion
  | ['a'] => p.awaitArch
  | 'a' :: '=' :: v => p.giveAttached v
  | 'a' :: v => p.giveAttached v
  | _ => .error .unknownArgument

/-- A word that is no option. -/
def plain (p : Progress) (word : Text) : Except Refusal Progress :=
  match p.pending with
  | .awaited => .ok { p with pending := .value word }
  | _ => p.file? word

/-- The arguments when all words have been read. -/
def finish (p : Progress) : Except Refusal Arguments := do
  let p ← p.settle
  if p.file = some [] then throw .invalidValue
  return ⟨p.file, p.arch⟩

end Progress

/-- The progress made by reading some words. -/
def read (p : Progress) : List Text → Except Refusal Progress
  | [] => .ok p
  | ['-', '-'] :: words => words.foldlM Progress.file? p
  | ('-' :: '-' :: body) :: words => do
    let p ← p.long body
    read p words
  | ('-' :: c :: body) :: words => do
    let p ← p.short (c :: body)
    read p words
  | word :: words => do
    let p ← p.plain word
    read p words

/-- The arguments on a command line. -/
def arguments (words : List Text) : Except Refusal Arguments := do
  let p ← read Progress.start words
  p.finish

end CommandLine
end AsmListing
