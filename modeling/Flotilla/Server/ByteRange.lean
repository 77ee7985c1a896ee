import Flotilla.Text.Basic

/-! # Ranges of bytes

A request can ask for parts of a file: from one offset to another, from an offset to
the end, or a number of bytes at the end. A list of parts counts only as a whole. It
has to be well formed, and of the bytes that the file has no part may be empty and no
two may share one. -/
namespace Flotilla.Server

/-- A part of a file as a request asks for it. -/
inductive Part where
  | span (first : Nat) (last : Option Nat)
  | ending (size : Nat)
deriving DecidableEq, Repr

/-- Consecutive bytes of a file, both ends included. -/
structure ByteRange where
  first : Nat
  last : Nat
deriving DecidableEq, Repr

namespace Part

/-- A number of 64 bits without needless zeros in front. -/
def number? (cs : List Char) : Option Nat :=
  if cs.head? = some '0' && cs != ['0'] then none
  else (Text.digits? cs).filter (· < UInt64.size)

def ofText? (cs : List Char) : Option Part :=
  match cs.span (· != '-') with
  | (_, []) => none
  | ([], _ :: size) => ((number? size).filter (0 < ·)).map .ending
  | (first, [_]) => (number? first).map fun n => .span n none
  | (first, _ :: last) => (number? first).bind fun n => (number? last).map fun m => .span n (some m)

/-- Drops the blank that may stand in front of a part; there is no place for others. -/
def unpadded? (cs : List Char) : Option (List Char) :=
  if (cs.getLast?.map Text.isBlank).getD false || 1 < cs.countP Text.isBlank then none
  else some (Text.trim cs)

/-- The unit in front of a list of parts. -/
def unit : List Char := "bytes=".toList

def listOf? (cs : List Char) : Option (List Part) :=
  (unit.isPrefixOf? cs).bind fun parts =>
    if (parts.head?.map Text.isBlank).getD false then none
    else (parts.splitOn ',').mapM fun p => (unpadded? p).bind ofText?

/-- The bytes that a part stands for in a file of a given size. An end behind the last byte
means the last byte. -/
def within? (size : Nat) : Part → Option ByteRange
  | .span first last =>
    let last := min (last.getD (size - 1)) (size - 1)
    if first ≤ last then some ⟨first, last⟩ else none
  | .ending n => if n ≤ size then some ⟨size - n, size - 1⟩ else none

end Part

namespace ByteRange

def apart (a b : ByteRange) : Bool :=
  a.last < b.first || b.last < a.first

/-- Ranges of which no two have a common byte. -/
def allApart : List ByteRange → Bool
  | [] => true
  | r :: rs => rs.all r.apart && allApart rs

/-- The ranges that a header asks for in a file of a given size. -/
def ofHeader? (header : String) (size : Nat) : Option (List ByteRange) :=
  ((Part.listOf? header.toList).bind fun parts => parts.mapM (Part.within? size)).filter allApart

end ByteRange

end Flotilla.Server
