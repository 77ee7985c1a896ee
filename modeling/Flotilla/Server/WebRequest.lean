import Flotilla.Server.Reply
import Flotilla.Time.HttpDate

/-! # Requests with headers

Requests as they come in. The target names a place on the server that is asked, by a
path and a query, or it starts with a scheme and the server, or it names a server only.
A mark of a fragment ends it. A path can give any byte by a percent sign and two
hexadecimal digits; a percent sign without two such digits behind it stands for itself. -/
namespace Flotilla

namespace Text

/-- The byte that a percent sign stands for when it opens no escape. -/
def percentByte : UInt8 := '%'.toUInt8

/-- The bytes that a text with escapes stands for. -/
def unescapedBytes : List Char → List UInt8
  | [] => []
  | '%' :: a :: b :: rest =>
    match hexDigit? a, hexDigit? b with
    | some x, some y => (x * 16 + y).toUInt8 :: unescapedBytes rest
    | _, _ => percentByte :: unescapedBytes (a :: b :: rest)
  | c :: rest => String.utf8EncodeChar c ++ unescapedBytes rest

/-- The text that a text with escapes stands for, if its bytes are one. -/
def unescaped? (cs : List Char) : Option String :=
  String.fromUTF8? ⟨(unescapedBytes cs).toArray⟩

end Text

namespace Server

structure WebRequest where
  method : String
  target : String
  headers : List (String × String) := []
  body : String := ""

namespace WebRequest

/-- The target up to the mark of a fragment. -/
def bare (r : WebRequest) : List Char := (Text.splitFirst '#' r.target.toList).1

def inScheme (c : Char) : Bool := c.isAlphanum || ['+', '-', '.'].contains c

/-- What stands behind the scheme of a target, if it starts with one. -/
def behindScheme? (target : List Char) : Option (List Char) :=
  "://".toList.isPrefixOf? (target.dropWhile inScheme)

/-- The path and the query in a target, unless it names a server only. -/
def place? (target : List Char) : Option (List Char) :=
  if target.head? = some '/' || target == ['*'] then some target
  else (behindScheme? target).map fun server =>
    server.dropWhile fun c => c != '/' && c != '?'

/-- The path and the query; a place without any is the root. -/
def pathAndQuery (r : WebRequest) : List Char :=
  match place? r.bare with
  | none => []
  | some [] => ['/']
  | some place => place

/-- The path; a place that has a query only is the root. -/
def path (r : WebRequest) : List Char :=
  match r.pathAndQuery with
  | '?' :: _ => ['/']
  | place => (Text.splitFirst '?' place).1

/-- Whether a character may stand in a header that is read as text. -/
def isPlain (c : Char) : Bool := c = '\t' || (' ' ≤ c && c ≤ '~')

/-- The first value of a header, unless it holds more than plain text. -/
def header? (r : WebRequest) (name : String) : Option String :=
  ((r.headers.find? fun h => h.1.toLower == name).map (·.2)).filter (·.all isPlain)

/-- The date in a header. What is no date counts as absent. -/
def date? (r : WebRequest) (name : String) : Option Instant :=
  ((r.header? name).bind HttpDate.ofText?).map HttpDate.instant

def request (r : WebRequest) : Request :=
  { method := r.method
    target := String.ofList r.pathAndQuery
    body := r.body
    token := r.header? Refusal.tokenHeader }

def interfacePath : List Char := "/api".toList

def toInterface (r : WebRequest) : Bool :=
  match interfacePath.isPrefixOf? r.path with
  | some [] | some ('/' :: _ :: _) => true
  | _ => false

end WebRequest

end Server

end Flotilla
