/-
# Tokens

An annotated line is a row of tokens.  Every token knows the exact text it was
cut from (`source`), the text it is shown as (`text`), and the same text split
into parts of one style each (`spans`).

| token | cut from | shown as |
| --- | --- | --- |
| hex literal | the literal | its marker, digits and size, which options may have changed |
| symbol | a literal with a label | the label; the literal it stands for is what one may ask about |
| register, size suffix, comment, plain text | the text | the text |
-/

import AsmListing.Text.Basic

namespace AsmListing

/-- A piece of an annotated line. -/
inductive Token where
  /-- A hex literal.  `marker`, `digits` and `size` are texts to show and may
  differ from `raw`; `markerLast` says that the marker is shown behind the
  digits. -/
  | hex (marker digits : Text) (size : Option Text) (markerLast : Bool) (raw : Text)
  /-- A label that stands for a hex literal, and the literal as it would be
  shown. -/
  | symbol (label resolved : Text) (size : Option Text) (raw : Text)
  | register (text : Text)
  | sizeSuffix (text : Text)
  | comment (text : Text)
  | plain (text : Text)
  deriving DecidableEq, Repr

/-- The kinds of tokens. -/
inductive TokenKind where
  | hex
  | symbol
  | register
  | sizeSuffix
  | comment
  | plain
  deriving DecidableEq, Repr

/-- The styles in which parts of tokens are shown. -/
inductive StyleClass where
  | hexMarker
  | hexDigits
  | size
  | symbol
  | register
  | comment
  | plain
  deriving DecidableEq, Repr

namespace StyleClass

/-- All styles. -/
def all : List StyleClass :=
  [hexMarker, hexDigits, size, symbol, register, comment, plain]

/-- The name by which a style sheet knows a style. -/
def name : StyleClass → Text
  | hexMarker => "pdasm-hex-notation".toList
  | hexDigits => "pdasm-hex-value".toList
  | size => "pdasm-size".toList
  | symbol => "pdasm-symbol".toList
  | register => "pdasm-reg".toList
  | comment => "pdasm-comment".toList
  | plain => "pdasm-plain".toList

/-- The style of a name. -/
def ofName? (name : Text) : Option StyleClass :=
  all.find? fun k => k.name = name

theorem ofName?_name (k : StyleClass) : ofName? k.name = some k := by
  cases k <;> decide

end StyleClass

namespace TokenKind

/-- The style of a kind as a whole.  A hex literal is split further by
`Token.spans`. -/
def styleClass : TokenKind → StyleClass
  | hex => .hexDigits
  | symbol => .symbol
  | register => .register
  | sizeSuffix => .size
  | comment => .comment
  | plain => .plain

end TokenKind

namespace Token

/-- The kind of a token. -/
def kind : Token → TokenKind
  | hex .. => .hex
  | symbol .. => .symbol
  | register _ => .register
  | sizeSuffix _ => .sizeSuffix
  | comment _ => .comment
  | plain _ => .plain

/-- The text that a token was cut from. -/
def source : Token → Text
  | hex _ _ _ _ raw => raw
  | symbol _ _ _ raw => raw
  | register s | sizeSuffix s | comment s | plain s => s

/-- The text that a token is shown as. -/
def text : Token → Text
  | hex marker digits size markerLast _ =>
    (if markerLast then digits ++ marker else marker ++ digits) ++ size.getD []
  | symbol label _ _ _ => label
  | register s | sizeSuffix s | comment s | plain s => s

/-- The text of `text` in parts of one style each, in the order shown. -/
def spans : Token → List (Text × StyleClass)
  | hex marker digits size markerLast _ =>
    (if markerLast then [(digits, .hexDigits), (marker, .hexMarker)]
      else [(marker, .hexMarker), (digits, .hexDigits)]) ++
      (size.map fun s => (s, StyleClass.size)).toList
  | symbol label _ _ _ => [(label, .symbol)]
  | register s => [(s, .register)]
  | sizeSuffix s => [(s, .size)]
  | comment s => [(s, .comment)]
  | plain s => [(s, .plain)]

/-- What a token says when it is asked about. -/
def hover : Token → Option Text
  | symbol _ resolved _ _ => some resolved
  | comment s => some s
  | _ => none

/-- Whether the token is a comment. -/
def isComment : Token → Bool
  | comment _ => true
  | _ => false

end Token
end AsmListing
