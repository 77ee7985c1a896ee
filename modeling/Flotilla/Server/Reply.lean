import Flotilla.Battle.Feed
import Flotilla.Json.Printer
import Flotilla.Server.Route

/-! # Replies

Every reply is a JSON text. A refusal gives its cause as a message, and its status
follows from the cause. -/
namespace Flotilla.Server

inductive Status where
  | ok
  | partialContent
  | notModified
  | temporaryRedirect
  | badRequest
  | unauthorized
  | notFound
  | methodNotAllowed
  | preconditionFailed
  | tooLarge
  | rangeNotSatisfiable
  | internalError
deriving DecidableEq, Repr

def Status.code : Status → Nat
  | .ok => 200
  | .partialContent => 206
  | .notModified => 304
  | .temporaryRedirect => 307
  | .badRequest => 400
  | .unauthorized => 401
  | .notFound => 404
  | .methodNotAllowed => 405
  | .preconditionFailed => 412
  | .tooLarge => 413
  | .rangeNotSatisfiable => 416
  | .internalError => 500

def Status.name : Status → String
  | .ok => "OK"
  | .partialContent => "Partial Content"
  | .notModified => "Not Modified"
  | .temporaryRedirect => "Temporary Redirect"
  | .badRequest => "Bad Request"
  | .unauthorized => "Unauthorized"
  | .notFound => "Not Found"
  | .methodNotAllowed => "Method Not Allowed"
  | .preconditionFailed => "Precondition Failed"
  | .tooLarge => "Payload Too Large"
  | .rangeNotSatisfiable => "Range Not Satisfiable"
  | .internalError => "Internal Server Error"

structure Reply where
  status : Status
  body : String
deriving DecidableEq

def Reply.contentType : String := "application/json"

def Reply.of (v : Json) : Reply := ⟨.ok, v.pretty⟩

/-- A reply with a value whose objects are maps. -/
def Reply.ofMap (members : Json.Members) : Reply := .of (Json.object members).settled

inductive Refusal where
  | noRoute
  | noBattle (id : String)
  | badRequest (cause : BadRequest)
  | badBattle (cause : Battle.FeedError)
  | notAList (cause : Record.ReadError)
  | badToken
deriving DecidableEq

namespace Refusal

def tokenHeader : String := "x-sync-token"

def message : Refusal → String
  | .noRoute => "Route not found"
  | .noBattle id => "Battle not found: " ++ id
  | .badRequest cause => "Invalid request: " ++ cause.message
  | .badBattle cause => "Invalid battle record: " ++ cause.message
  | .notAList cause => "Request body must be a JSON array: " ++ cause.message
  | .badToken => "Invalid or missing " ++ tokenHeader

def status : Refusal → Status
  | .noRoute | .noBattle _ => .notFound
  | .badRequest _ | .badBattle _ | .notAList _ => .badRequest
  | .badToken => .unauthorized

def reply (r : Refusal) : Reply :=
  ⟨r.status, (Json.object [("message", .string r.message), ("status", .string "error")]).pretty⟩

end Refusal

end Flotilla.Server
