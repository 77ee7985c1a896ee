import Flotilla.Json.Value
import Flotilla.Text.Basic
import Flotilla.Decimal.Shortest

/-! # Writing JSON

The indented form of a value: one element or member a line, two blanks deeper for
each level, an empty list or object on one line. A string shows the quote, the
backslash and the controls by escapes and all else as it is. -/
namespace Flotilla.Json

/-- How doubles are written: a power of ten below `0.00001` and from `10 ^ 16`. -/
def realStyle : Decimal.Style := ⟨-5, 15⟩

def hexChar (n : Nat) : Char :=
  Nat.digitChar n

def escape (c : Char) : List Char :=
  if c = '\x22' then ['\\', '\x22']
  else if c = '\\' then ['\\', '\\']
  else if c = '\x08' then ['\\', 'b']
  else if c = '\x0c' then ['\\', 'f']
  else if c = '\n' then ['\\', 'n']
  else if c = '\r' then ['\\', 'r']
  else if c = '\t' then ['\\', 't']
  else if c.toNat < 0x20 then
    ['\\', 'u', '0', '0', hexChar (c.toNat / 16), hexChar (c.toNat % 16)]
  else [c]

def writeString (s : String) : List Char :=
  '\x22' :: s.toList.flatMap escape ++ ['\x22']

def Number.write : Number → List Char
  | .integer z => (Text.ofInt z).toList
  | .real x => (realStyle.float x).toList

def newline (level : Nat) : List Char :=
  '\n' :: List.replicate (2 * level) ' '

mutual

/-- A value in indented form, its first line at a level of nesting. -/
def write (level : Nat) : Json → List Char
  | .null => ['n', 'u', 'l', 'l']
  | .bool true => ['t', 'r', 'u', 'e']
  | .bool false => ['f', 'a', 'l', 's', 'e']
  | .number n => n.write
  | .string s => writeString s
  | .list [] => ['[', ']']
  | .list (v :: vs) =>
    '[' :: newline (level + 1) ++ write (level + 1) v ++ writeElements (level + 1) vs
      ++ newline level ++ [']']
  | .object [] => ['\x7b', '\x7d']
  | .object ((key, v) :: vs) =>
    '\x7b' :: newline (level + 1) ++ writeString key ++ [':', ' '] ++ write (level + 1) v
      ++ writeMembers (level + 1) vs ++ newline level ++ ['\x7d']

def writeElements (level : Nat) : List Json → List Char
  | [] => []
  | v :: vs => ',' :: newline level ++ write level v ++ writeElements level vs

def writeMembers (level : Nat) : List (String × Json) → List Char
  | [] => []
  | (key, v) :: vs =>
    ',' :: newline level ++ writeString key ++ [':', ' '] ++ write level v
      ++ writeMembers level vs

end

def pretty (v : Json) : String :=
  String.ofList (v.write 0)

end Flotilla.Json
