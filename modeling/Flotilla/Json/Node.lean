import Flotilla.Json.Number
import Flotilla.Json.Quote

/-! # A JSON text as a tree

A text is read into a tree up to its first fault; the fault itself is a leaf, or
the way in which an unfinished list or object ends. So a reader of records that
walks the tree in text order meets whatever comes first in the text: a value of
the wrong type, or the fault.

Two leaves keep a fault that concerns only a reader of the value: a number out of
range and a string with unpaired surrogates can both be skipped. -/
namespace Flotilla.Json

/-- How the elements of a list end. -/
inductive ListEnd where
  /-- A closing bracket in a text. -/
  | closed
  /-- The end of a list that is held as a value, its length known. -/
  | held
  /-- A closing bracket behind a comma. -/
  | trailingComma
  /-- Neither a comma nor a bracket. -/
  | noSeparator
  /-- The end of the text. -/
  | cutOff
  /-- The end of the text behind a comma. -/
  | cutOffAfterComma
deriving DecidableEq, Repr

/-- How the members of an object end. -/
inductive ObjectEnd where
  /-- A closing brace. -/
  | closed
  /-- A closing brace behind a comma. -/
  | trailingComma
  /-- Neither a comma nor a brace. -/
  | noSeparator
  /-- The end of the text. -/
  | cutOff
  /-- The end of the text behind a comma. -/
  | cutOffAfterComma
  /-- Something other than a string in place of a key. -/
  | noKey
  /-- A key with a fault in it. -/
  | badKey (reading skipping : Fault)
deriving DecidableEq, Repr

/-- A JSON text up to its first fault. -/
inductive Node where
  | null
  | bool (b : Bool)
  | number (value : Except Fault Number)
  | string (value : Content)
  | list (elements : List Node) (last : ListEnd)
  | object (members : List (Content × Node)) (last : ObjectEnd)
  | fault (reading skipping : Fault)

/-- The fault of reading up to the end of a list. -/
def ListEnd.fault? : ListEnd → Option Fault
  | .closed | .held => none
  | .trailingComma => some .trailingComma
  | .noSeparator => some .expectedListSeparator
  | .cutOff => some .endInList
  | .cutOffAfterComma => some .endInValue

/-- The fault of skipping up to the end of a list. -/
def ListEnd.skipFault? : ListEnd → Option Fault
  | .closed | .held => none
  | .trailingComma => some .expectedValue
  | .noSeparator => some .expectedListSeparator
  | .cutOff => some .endInList
  | .cutOffAfterComma => some .endInValue

/-- The fault of requiring a list to end where all wanted elements have been taken. -/
def ListEnd.closeFault? : ListEnd → Option Fault
  | .closed | .held => none
  | .trailingComma => some .trailingComma
  | .noSeparator => some .trailingCharacters
  | .cutOff => some .endInList
  | .cutOffAfterComma => some .trailingCharacters

/-- The fault of reading up to the end of an object. -/
def ObjectEnd.fault? : ObjectEnd → Option Fault
  | .closed => none
  | .trailingComma => some .trailingComma
  | .noSeparator => some .expectedObjectSeparator
  | .cutOff => some .endInObject
  | .cutOffAfterComma => some .endInValue
  | .noKey => some .keyNotString
  | .badKey f _ => some f

/-- The fault of skipping up to the end of an object. -/
def ObjectEnd.skipFault? : ObjectEnd → Option Fault
  | .closed => none
  | .trailingComma => some .keyNotString
  | .noSeparator => some .expectedObjectSeparator
  | .cutOff => some .endInObject
  | .cutOffAfterComma => some .endInObject
  | .noKey => some .keyNotString
  | .badKey _ g => some g

def isGap (c : Char) : Bool :=
  c = ' ' || c = '\n' || c = '\t' || c = '\r'

/-- Drops the characters that may stand between two tokens. -/
def skipGap (cs : List Char) : List Char :=
  cs.dropWhile isGap

/-- Scans the letters of a word behind its first one. -/
def scanWord (value : Node) : List Char → List Char → Node × List Char
  | [], rest => (value, rest)
  | _ :: _, [] => (.fault .endInValue .endInValue, [])
  | w :: ws, c :: rest =>
    if c = w then scanWord value ws rest else (.fault .expectedWord .expectedWord, [])

def numberNode : Scan Numeral → Node × List Char
  | .done n rest => (.number n.value, rest)
  | .broken f g => (.fault f g, [])

def stringNode : Scan Content → Node × List Char
  | .done s rest => (.string s, rest)
  | .broken f g => (.fault f g, [])

mutual

/-- Reads one value, within the fuel. -/
def scanNode : Nat → List Char → Node × List Char
  | 0, _ => (.fault .tooDeep .tooDeep, [])
  | fuel + 1, cs =>
    match skipGap cs with
    | [] => (.fault .endInValue .endInValue, [])
    | 'n' :: rest => scanWord .null ['u', 'l', 'l'] rest
    | 't' :: rest => scanWord (.bool true) ['r', 'u', 'e'] rest
    | 'f' :: rest => scanWord (.bool false) ['a', 'l', 's', 'e'] rest
    | '\x22' :: rest => stringNode (scanString rest)
    | '-' :: rest => numberNode (scanNumeral true rest)
    | '[' :: rest =>
      let (elements, last, rest) := scanElements fuel true rest
      (.list elements last, rest)
    | '\x7b' :: rest =>
      let (members, last, rest) := scanMembers fuel true rest
      (.object members last, rest)
    | c :: rest =>
      if c.isDigit then numberNode (scanNumeral false (c :: rest))
      else (.fault .expectedValue .expectedValue, [])

/-- Reads the elements of a list from its first place or from behind an element. -/
def scanElements : Nat → Bool → List Char → List Node × ListEnd × List Char
  | 0, _, _ => ([], .cutOff, [])
  | fuel + 1, first, cs =>
    match skipGap cs with
    | [] => ([], .cutOff, [])
    | ']' :: rest => ([], .closed, rest)
    | c :: rest =>
      if first then
        let (element, rest) := scanNode fuel (c :: rest)
        let (elements, last, rest) := scanElements fuel false rest
        (element :: elements, last, rest)
      else if c = ',' then
        match skipGap rest with
        | [] => ([], .cutOffAfterComma, [])
        | ']' :: _ => ([], .trailingComma, [])
        | rest =>
          let (element, rest) := scanNode fuel rest
          let (elements, last, rest) := scanElements fuel false rest
          (element :: elements, last, rest)
      else ([], .noSeparator, [])

/-- Reads the members of an object from its first place or from behind a member. -/
def scanMembers : Nat → Bool → List Char → List (Content × Node) × ObjectEnd × List Char
  | 0, _, _ => ([], .cutOff, [])
  | fuel + 1, first, cs =>
    match skipGap cs with
    | [] => ([], .cutOff, [])
    | '\x7d' :: rest => ([], .closed, rest)
    | c :: rest =>
      if first then
        if c = '\x22' then scanMember fuel rest else ([], .noKey, [])
      else if c = ',' then
        match skipGap rest with
        | [] => ([], .cutOffAfterComma, [])
        | '\x22' :: rest => scanMember fuel rest
        | '\x7d' :: _ => ([], .trailingComma, [])
        | _ => ([], .noKey, [])
      else ([], .noSeparator, [])

/-- Reads a member behind the opening quote of its key, and the members after it. -/
def scanMember : Nat → List Char → List (Content × Node) × ObjectEnd × List Char
  | 0, _ => ([], .cutOff, [])
  | fuel + 1, cs =>
    match scanString cs with
    | .broken f g => ([], .badKey f g, [])
    | .done key rest =>
      match skipGap rest with
      | [] => ([(key, .fault .endInObject .endInObject)], .cutOff, [])
      | ':' :: rest =>
        let (value, rest) := scanNode fuel rest
        let (members, last, rest) := scanMembers fuel false rest
        ((key, value) :: members, last, rest)
      | _ => ([(key, .fault .expectedColon .expectedColon)], .cutOff, [])

end

/-- A whole text: its value, and whether more than a gap follows it. -/
structure Document where
  root : Node
  more : Bool

/-- Reads a text. A value takes at most three steps for each of its characters, so
the fuel is never used up. -/
def Document.read (cs : List Char) : Document :=
  let (root, rest) := scanNode (3 * cs.length + 1) cs
  ⟨root, !(skipGap rest).isEmpty⟩

mutual

/-- The fault that skipping a value meets, if any. -/
def Node.skip : Node → Option Fault
  | .null | .bool _ | .number _ | .string _ => none
  | .list elements last => (skipElements elements).or last.skipFault?
  | .object members last => (skipMembers members).or last.skipFault?
  | .fault _ g => some g

/-- The fault that skipping elements meets, if any. -/
def skipElements : List Node → Option Fault
  | [] => none
  | n :: ns => n.skip.or (skipElements ns)

/-- The fault that skipping members meets, if any. -/
def skipMembers : List (Content × Node) → Option Fault
  | [] => none
  | (_, n) :: ns => n.skip.or (skipMembers ns)

end

end Flotilla.Json
