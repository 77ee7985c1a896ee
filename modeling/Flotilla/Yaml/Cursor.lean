/-! # Places in a YAML text

A cursor is the rest of a text with the place where it starts. Lines and columns
decide what belongs together, so every character is passed one by one. -/
namespace Flotilla.Yaml

/-- A place in a text: the bytes in front of it, and its line and column. -/
structure Mark where
  index : Nat := 0
  line : Nat := 0
  column : Nat := 0
deriving DecidableEq, Repr

/-- The rest of a text from a place on. -/
structure Cursor where
  rest : List Char
  mark : Mark := {}
deriving DecidableEq

def isBreak (c : Char) : Bool :=
  c = '\n' || c = '\r' || c = '\u0085' || c = '\u2028' || c = '\u2029'

def isBlank (c : Char) : Bool :=
  c = ' ' || c = '\t'

/-- A character of a name: an ASCII letter or digit, a line or an underscore. -/
def isWord (c : Char) : Bool :=
  c.isAlphanum || c = '_' || c = '-'

/-- Whether a word ends where a text starts. -/
def wordEnds : List Char → Bool
  | [] => true
  | c :: _ => isBlank c || isBreak c

/-- Whether a line ends where a text starts. -/
def lineEnds : List Char → Bool
  | [] => true
  | c :: _ => isBreak c

namespace Cursor

def before (c : Cursor) (ch : Char) : Bool := c.rest.head? == some ch

/-- The place behind a number of bytes. -/
def addBytes (index : Nat) (text : List Char) : Nat :=
  text.foldl (fun i ch => i + ch.utf8Size) index

def skip (c : Cursor) (n : Nat) : Cursor :=
  ⟨c.rest.drop n,
    { c.mark with index := addBytes c.mark.index (c.rest.take n), column := c.mark.column + n }⟩

/-- Passes the characters of one line that have a property; gives them, too. -/
def takeWhile (c : Cursor) (p : Char → Bool) : List Char × Cursor :=
  let taken := c.rest.takeWhile p
  (taken, c.skip taken.length)

/-- Passes the characters of one line that have a property. -/
def dropWhile (c : Cursor) (p : Char → Bool) : Cursor := (c.takeWhile p).2

/-- Passes a line end; gives the text that it stands for. -/
def takeBreak (c : Cursor) : List Char × Cursor :=
  let next (n : Nat) : Mark := ⟨c.mark.index + n, c.mark.line + 1, 0⟩
  match c.rest with
  | '\r' :: '\n' :: rest => (['\n'], ⟨rest, next 2⟩)
  | ch :: rest =>
    if isBreak ch then
      ([if ch = '\u2028' || ch = '\u2029' then ch else '\n'], ⟨rest, next ch.utf8Size⟩)
    else ([], c)
  | [] => ([], c)

/-- Passes the rest of a line up to its end. -/
def skipLine (c : Cursor) : Cursor := c.dropWhile fun ch => !isBreak ch

/-- Whether a cursor stands before a line of three characters that bounds a document. -/
def beforeRule (c : Cursor) (ch : Char) : Bool :=
  c.mark.column == 0 && c.rest.take 3 == [ch, ch, ch] && wordEnds (c.rest.drop 3)

/-- Whether a cursor stands before the start or the end of a document. -/
def beforeBound (c : Cursor) : Bool := c.beforeRule '-' || c.beforeRule '.'

end Cursor

end Flotilla.Yaml
