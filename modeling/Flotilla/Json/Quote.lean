import Flotilla.Json.Fault
import Flotilla.Text.Basic

/-! # Strings of a JSON text

Scanning the characters of a string behind its opening quote. Skipping a string
checks the form of its escapes only; reading it also requires that the escapes of
surrogates come in pairs, so a string can be skipped and yet have no value. -/
namespace Flotilla.Json

/-- What a string holds, or why it cannot be read. -/
abbrev Content := Except Fault (List Char)

/-- Puts a character in front of a scanned string. -/
def Scan.push (c : Char) : Scan Content → Scan Content
  | .done (.ok cs) rest => .done (.ok (c :: cs)) rest
  | s => s

/-- Marks a scanned string as unreadable at a place before all of it. -/
def Scan.refuse (f : Fault) : Scan Content → Scan Content
  | .done _ rest => .done (.error f) rest
  | .broken _ g => .broken f g

def hex4? (a b c d : Char) : Option Nat := do
  let a ← Text.hexDigit? a
  let b ← Text.hexDigit? b
  let c ← Text.hexDigit? c
  let d ← Text.hexDigit? d
  return ((a * 16 + b) * 16 + c) * 16 + d

/-- The fault of an escape by code that is not four hexadecimal digits: the text ends
in it when fewer than four bytes follow. -/
def badHex (rest : List Char) : Scan Content :=
  if (String.ofList rest).utf8ByteSize < 4 then .broken .endInString .endInString
  else .broken .invalidEscape .invalidEscape

def escaped? : Char → Option Char
  | '\x22' => some '\x22'
  | '\\' => some '\\'
  | '/' => some '/'
  | 'b' => some '\x08'
  | 'f' => some '\x0c'
  | 'n' => some '\n'
  | 'r' => some '\r'
  | 't' => some '\t'
  | _ => none

/-- The code points that only a pair of escapes gives: the first half of a pair. -/
def leading (n : Nat) : Bool := 0xd800 ≤ n && n ≤ 0xdbff

def trailing (n : Nat) : Bool := 0xdc00 ≤ n && n ≤ 0xdfff

def paired (high low : Nat) : Char :=
  Char.ofNat (0x10000 + (high - 0xd800) * 0x400 + (low - 0xdc00))

def scanString : List Char → Scan Content
  | [] => .broken .endInString .endInString
  | '\x22' :: rest => .done (.ok []) rest
  | '\\' :: 'u' :: a :: b :: c :: d :: rest =>
    match hex4? a b c d with
    | none => .broken .invalidEscape .invalidEscape
    | some n =>
      if trailing n then (scanString rest).refuse .loneSurrogate
      else if leading n then
        match rest with
        | '\\' :: 'u' :: a' :: b' :: c' :: d' :: rest' =>
          match hex4? a' b' c' d' with
          | none => .broken .invalidEscape .invalidEscape
          | some m =>
            if trailing m then (scanString rest').push (paired n m)
            else (scanString rest').refuse .loneSurrogate
        | '\\' :: 'u' :: rest' => badHex rest'
        | [] => .broken .endInString .endInString
        | ['\\'] => .broken .endInString .endInString
        | other => (scanString other).refuse .endOfEscape
      else (scanString rest).push (Char.ofNat n)
  | '\\' :: 'u' :: rest => badHex rest
  | '\\' :: c :: rest =>
    match escaped? c with
    | some e => (scanString rest).push e
    | none => .broken .invalidEscape .invalidEscape
  | ['\\'] => .broken .endInString .endInString
  | c :: rest =>
    if c.toNat < 0x20 then .broken .controlCharacter .controlCharacter
    else (scanString rest).push c

end Flotilla.Json
