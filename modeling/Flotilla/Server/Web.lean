import Flotilla.Server.Basic
import Flotilla.Server.ByteRange
import Flotilla.Server.MediaType
import Flotilla.Server.WebRequest

/-! # The web side of a server

Requests below the path of the interface go to the server, the others to the site if
there is one and to the server if not. A site is a directory of files: a path of a
request names a file below the directory, and the path of a directory ends in a slash
and names its index. No path leads out of the directory. A request can ask for a file
only if it has changed since a time, or only if it has not, and it can ask for a part
of it. -/
namespace Flotilla.Server

structure Page where
  status : Status
  mediaType : Option String := none
  content : Content := .text ""

/-- A directory of files, put in place at a time. -/
structure Site where
  directory : String
  modified : Instant

namespace Site

/-- The names that a path leads along below the directory of a site. A path that goes up,
or that starts at the root behind an escaped slash, has none. -/
def names? (path : List Char) : Option (List String) :=
  match Text.unescaped? (path.dropWhile (· == '/')) with
  | none => none
  | some text =>
    let names := (text.toList.splitOn '/').map String.ofList
    if text.toList.head? = some '/' || names.contains ".." then none
    else some (names.filter fun n => n != "" && n != ".")

def pathBelow (directory : String) (names : List String) : String :=
  "/".intercalate (if directory.isEmpty then names else directory :: names)

/-- The name of the file that stands for its directory. -/
def indexName : String := "index.html"

def emptyPage (status : Status) : Page := ⟨status, none, .text ""⟩

/-- The page of a file that cannot be read. -/
def missing : FileError → Page
  | .absent | .notDirectory => emptyPage .notFound
  | _ => emptyPage .internalError

def isDirectory (files : Files) (path : String) : Bool :=
  match files.find path with
  | .ok (_, .directory) => true
  | _ => false

/-- What a client reads of an entry: a directory in the place of an index is empty. -/
def contentOf : Entry → Content
  | .directory => .text ""
  | .file content => content

def filePage (files : Files) (path : String) (names : List String) : Page :=
  match files.find path with
  | .error e => missing e
  | .ok (_, entry) =>
    ⟨.ok, some (mediaTypeOf (fileEnding? (names.getLast?.getD ""))), contentOf entry⟩

def page (site : Site) (files : Files) (path : List Char) : Page :=
  match names? path with
  | none => emptyPage .notFound
  | some names =>
    let place := pathBelow site.directory names
    if isDirectory files place then
      if path.getLast? = some '/' then
        let names := names ++ [indexName]
        filePage files (pathBelow site.directory names) names
      else emptyPage .temporaryRedirect
    else filePage files place names

/-- Whether the files of a site changed after a date. -/
def changedAfter (site : Site) (date : Instant) : Bool :=
  date.seconds < site.modified.seconds

/-- The page in place of one whose file is too new or too old for a request. -/
def unmet? (site : Site) (r : WebRequest) : Option Page :=
  if (r.date? "if-unmodified-since").any site.changedAfter then
    some (emptyPage .preconditionFailed)
  else if (r.date? "if-modified-since").any (!site.changedAfter ·) then
    some (emptyPage .notModified)
  else none

/-- The text for a request that asks for several parts of a file. -/
def severalParts : String := "Cannot serve multipart range requests"

def part (content : Content) (range : ByteRange) : Content :=
  .ofBytes ⟨((content.bytes.drop range.first).take (range.last - range.first + 1)).toArray⟩

/-- The page for a list of parts of a file. -/
def parted (p : Page) (header : String) : Page :=
  match ByteRange.ofHeader? header p.content.bytes.length with
  | none => { p with status := .rangeNotSatisfiable, content := .text "" }
  | some [range] => { p with status := .partialContent, content := part p.content range }
  | some _ => { p with status := .rangeNotSatisfiable, content := .text severalParts }

def withoutFile (p : Page) : Page :=
  match p.status with
  | .ok | .partialContent => { p with content := .text "" }
  | _ => p

def read (site : Site) (files : Files) (r : WebRequest) : Page :=
  let p := site.page files r.path
  if p.status ≠ .ok then p
  else
    (site.unmet? r).getD
      (match r.header? "range" with
      | none => p
      | some header => parted p header)

/-- Answers a request for a page; only the methods that read are allowed. -/
def respond (site : Site) (files : Files) (r : WebRequest) : Page :=
  match r.method with
  | "GET" => site.read files r
  | "HEAD" => withoutFile (site.read files r)
  | _ => emptyPage .methodNotAllowed

end Site

/-! ## Interface and site -/

def Reply.page (r : Reply) : Page := ⟨r.status, some Reply.contentType, .text r.body⟩

def longestBody : Nat := 2097152

/-- The page for a body that is too long. -/
def tooLongPage : Page :=
  ⟨.tooLarge, some "text/plain; charset=utf-8",
    .text "Failed to buffer the request body: length limit exceeded"⟩

def respondToWeb (s : Server) (now : Instant) (r : WebRequest) : Server × Page :=
  if longestBody < r.body.utf8ByteSize then (s, tooLongPage)
  else
    let (s, reply) := s.respond now r.request
    (s, reply.page)

/-- Answers a request, given the site. -/
def serveWeb (s : Server) (site : Option Site) (now : Instant) (r : WebRequest) :
    Server × Page :=
  match site with
  | some site => if r.toInterface then s.respondToWeb now r else (s, site.respond s.files r)
  | none => s.respondToWeb now r

end Flotilla.Server
