import BrainfuckWasm.Artifact.Store
import BrainfuckWasm.Assembler
import BrainfuckWasm.Body.Line
import BrainfuckWasm.Json.Printer
import BrainfuckWasm.Service.Target
import BrainfuckWasm.Service.Validation

/-!
# Responses of the service

A response has a status, a type and a content. Most contents are JSON: the payload that describes
an artifact, or an object with the reason of a refusal. Neither can be sent if it holds a number
that is not finite, text that has no encoding or too many values inside each other: then there is no
response but an error that nothing handles.
-/

namespace BrainfuckWasm.Service

open Artifact (Record)
open Text (SurrogateRun Wide)

/-- The content of a response. -/
inductive Content where
  | json (value : Json)
  | text (value : String)
  | bytes (value : List UInt8)
  deriving Repr

/-- What is left of a content in the answer to a request for everything but the content. -/
def Content.emptied : Content → Content
  | .bytes _ => .bytes []
  | .json _ | .text _ => .text ""

/-- A response. -/
structure Response where
  status : Nat
  contentType : Option String
  content : Content
  deriving Repr

/-- Why a request has no response. -/
inductive Escape where
  | target (cause : TargetError)
  | assembler (cause : Assembler.TextError)
  | margin (cause : Body.MarginError)
  /-- The body of the request, or the issues with it, cannot be sent. -/
  | unsendable (cause : Json.EncodeError)
  /-- The payload holds surrogates. -/
  | payloadText (surrogates : SurrogateRun)
  /-- The reference to the path with the other ending is too long. -/
  | badLocation
  deriving DecidableEq, Repr

/-- The diagnostic of an error that nothing handles; about a binary that was not made there is
none. -/
def Escape.message? : Escape → Option String
  | .target cause => some cause.message
  | .assembler (.assembler cause) => some cause.message
  | .assembler .noBinary => none
  | .margin cause => some cause.message
  | .unsendable cause => some cause.message
  | .payloadText surrogates =>
    some ("Error serializing to JSON: UnicodeEncodeError: " ++ surrogates.message)
  | .badLocation => some ("Invalid URL in location header: " ++ TargetError.tooLong.message ++ ".")

/-- A JSON response. -/
def jsonResponse (status : Nat) (value : Json) : Response :=
  ⟨status, some "application/json", .json value⟩

/-- A response that gives a reason. -/
def detail (status : Nat) (reason : String) : Response :=
  jsonResponse status (.ofMembers [("detail", .ofText reason)])

/-- The response for an id that no artifact has. -/
def unknownArtifact (id : String) : Response :=
  detail 404 (Text.quoted (Artifact.unknownText id))

/-- Whether the member of a name is kept back when a value is shown to the sender. -/
def isKeptBack (name : Wide) : Bool :=
  (Text.widen "_sa").isPrefixOf name

mutual

/-- A value without the members that are kept back. -/
def shareable : Json → Json
  | .array items => .array (shareableItems items)
  | .object members => .object (shareableMembers members)
  | plain => plain

/-- Values without the members that are kept back. -/
def shareableItems : List Json → List Json
  | [] => []
  | item :: rest => shareable item :: shareableItems rest

/-- The members that are not kept back, without such members in their values. -/
def shareableMembers : List (Wide × Json) → List (Wide × Json)
  | [] => []
  | (name, value) :: rest =>
    if isKeptBack name then shareableMembers rest
    else (name, shareable value) :: shareableMembers rest

end

/-- An issue as JSON. -/
def issueJson (issue : Issue) : Json :=
  .ofMembers ([("type", .ofText issue.kind), ("loc", .array (issue.location.map .ofText)),
    ("msg", .ofText issue.message), ("input", shareable issue.found)] ++
    if issue.isChecked then [("ctx", .ofMembers [("error", .object [])])] else [])

/-- The response about issues. -/
def issuesResponse (limits : Limits) (issues : List Issue) : Except Escape Response :=
  let content := Json.ofMembers [("detail", .array (issues.map issueJson))]
  match content.encode limits.issues with
  | .ok _ => .ok (jsonResponse 422 content)
  | .error cause => .error (.unsendable cause)

/-- The payload that describes an artifact. -/
def payload (record : Record) : Json :=
  .ofMembers [("artifact_id", .ofText record.id), ("addressing", .ofText record.addressing.word),
    ("code", .string record.code), ("body", .ofText record.body),
    ("module", .ofText record.module), ("label_count", .ofInt record.labelCount),
    ("loop_count", .ofInt record.loopCount)]

/-- The response that describes an artifact. -/
def payloadResponse (status : Nat) (record : Record) : Except Escape Response :=
  match Text.surrogates? record.code with
  | some surrogates => .error (.payloadText surrogates)
  | none => .ok (jsonResponse status (payload record))

end BrainfuckWasm.Service
