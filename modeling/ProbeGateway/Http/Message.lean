import ProbeGateway.Failure.Basic
import ProbeGateway.Http.Headers
import ProbeGateway.Http.Status
import ProbeGateway.Json.Fault

/-!
# Requests and responses

What a handler gets and gives. A response may carry the failure it reports as a value beside its
octets: the layers around a handler look at that value and not at the body.
-/

namespace ProbeGateway

/-- A request method, by its name. -/
structure Method where
  name : String
deriving DecidableEq, Repr

namespace Method

/-- Fetches a resource. -/
def get : Method := ⟨"GET"⟩

/-- Fetches the headers of a resource. -/
def head : Method := ⟨"HEAD"⟩

/-- Asks what may be asked. -/
def options : Method := ⟨"OPTIONS"⟩

end Method

/-- A request, with its target already split. -/
structure Request where
  method : Method
  /-- The path as it stands in the target, still percent-encoded. -/
  path : String
  /-- The query of the target, without its question mark. -/
  query : Option String
  headers : Headers
  /-- The address of the peer, where it is known. -/
  remote : Option String
deriving DecidableEq, Repr

/-- A response. -/
structure Response where
  status : Nat
  headers : Headers
  body : Bytes
  /-- The failure that the response reports, for the layers further out. -/
  failure : Option Failure
deriving DecidableEq, Repr

/-- The media type of JSON texts. -/
def jsonType : String := "application/json"

/-- The name of the header with the media type of a body. -/
def contentType : String := "content-type"

/-- The name of the header with the number of octets of a body. -/
def contentLength : String := "content-length"

namespace Response

/-- A response without a body. -/
def empty (status : Nat) : Response := ⟨status, [], [], none⟩

/-- A response with a body of a media type. -/
def ofBody (status : Nat) (mediaType : String) (body : Bytes) : Response :=
  ⟨status, [(contentType, mediaType)], body, none⟩

/-- A value as JSON, with success. -/
def ofJson (v : Json) : Response := .ofBody 200 jsonType v.body

end Response

/-! ## Replies -/

/-- What a handler wants to send: a status, and the octets and media type of the body unless they
cannot be made. -/
structure Reply where
  status : Nat
  content : Except Failure (Bytes × String)

/-- A failure as something to send: its kind's status, and its code and message as JSON. -/
def Failure.reply (e : Failure) : Reply := ⟨e.kind.httpStatus, .ok (e.json.body, jsonType)⟩

/-- A failure as a response that carries it. -/
def Failure.response (e : Failure) : Response :=
  { Response.ofBody e.kind.httpStatus jsonType e.json.body with failure := some e }

/-- A reply as a response; nothing to send is a response without content. -/
def respond : Option Reply → Response
  | none => .empty 204
  | some reply =>
    match reply.content with
    | .ok (body, mediaType) => .ofBody reply.status mediaType body
    | .error e => e.response

/-- A value as something to send. -/
def Json.reply (v : Json) : Reply := ⟨200, .ok (v.body, jsonType)⟩

/-- A value that has no JSON text, with the words of the writer that refused it. -/
def Reply.unwritable (reason : String) : Reply :=
  ⟨200, .error (.internal ("marshal json: " ++ Json.settlePlace reason))⟩

/-- The response of a handler that may fail. -/
def Response.ofResult : Except Failure Json → Response
  | .ok v => .ofJson v
  | .error e => e.response

theorem respond_json (v : Json) : respond (some v.reply) = .ofJson v := rfl

theorem failure_respond_reply (e : Failure) : (respond (some e.reply)).failure = none := rfl

end ProbeGateway
