import BrainfuckWasm.Module
import BrainfuckWasm.Service.MediaType
import BrainfuckWasm.Service.Pages
import BrainfuckWasm.Service.Response
import BrainfuckWasm.Service.Route

/-!
# The compile service

The service compiles sources, keeps the results under ids, and hands them out as JSON, as module
text and as a binary made by the assembler. A request is matched to a route by its path, then
answered by its method. Only a compilation that succeeds and a deletion change the store.
-/

namespace BrainfuckWasm.Service

open Artifact (Store)

/-- The body of a request. -/
inductive RequestBody where
  | bytes (content : List UInt8)
  | json (value : Json)
  deriving Repr

/-- The bytes of a body; there are none for the value that stands for nothing. -/
def RequestBody.encode (limits : Limits) : RequestBody → Except Json.EncodeError (List UInt8)
  | .bytes content => .ok content
  | .json .null => .ok []
  | .json value => value.encode limits.sent

/-- A request; without a body it has no bytes. -/
structure Request where
  method : String
  target : String
  body : RequestBody := .bytes []
  deriving Repr

/-- What the service is set up with. -/
structure Setup where
  assembler : Assembler.Program := Assembler.defaultProgram
  /-- The pages to hand out, if there are any. -/
  pages : Option Pages := some ownPages
  /-- The directory for the assembler's files. -/
  scratch : String
  /-- The ids of the artifacts, by serial number. -/
  issue : Nat → String := Artifact.idOf
  /-- How deep JSON may nest on its way in and out. -/
  limits : Limits := {}

/-- What a request leads to: the store afterwards, the commands that were started, and a response
unless an error ends the request without one. -/
structure Reply where
  store : Store
  calls : List Assembler.Call := []
  outcome : Except Escape Response

/-- Compile the source of a request and store the result. -/
def compileRequest (limits : Limits) (issue : Nat → String) (store : Store) (body : List UInt8) :
    Store × Except Escape Response :=
  match readRequest limits body with
  | .error .unreadable => (store, .ok (detail 400 "There was an error parsing the body"))
  | .error (.faulty issues) => (store, issuesResponse limits issues)
  | .ok request =>
    match Body.compile { addressing := request.addressing } (Text.narrow request.code) with
    | .error (.unbalanced fault) => (store, .ok (detail 400 fault.message))
    | .error (.margin cause) => (store, .error (.margin cause))
    | .ok compiled =>
      let draft : Artifact.Draft :=
        { code := request.code
          addressing := request.addressing
          body := compiled.text
          module := Module.render compiled.text request.addressing
          labelCount := compiled.labelCount }
      let (grown, record) := store.add draft issue
      (grown, payloadResponse 201 record)

/-- Hand out the binary of an artifact. -/
def moduleBinary (setup : Setup) (tool : Assembler.Tool) (store : Store) (id : String) : Reply :=
  match store.get? id with
  | none => { store := store, outcome := .ok (unknownArtifact id) }
  | some record =>
    let (calls, outcome) :=
      Assembler.assembleText tool setup.assembler setup.scratch record.module
    let answer := match outcome with
      | .ok bytes => .ok ⟨200, some "application/wasm", .bytes bytes⟩
      | .error (.assembler (.notFound executable)) =>
        .ok (detail 503 (Assembler.Error.notFound executable).message)
      | .error (.assembler (.failed executable status diagnostics)) =>
        .ok (detail 502 (Assembler.Error.failed executable status diagnostics).message)
      | .error error => .error (.assembler error)
    { store := store, calls := calls, outcome := answer }

/-- The content of a page of some type; JSON that cannot be read is text. -/
def pageContent (type : String) (bytes : List UInt8) : Content :=
  if type = "application/wasm" then .bytes bytes
  else if type = "application/json" then
    match Json.parseDocument bytes.length bytes with
    | .ok value => .json value
    | .error _ => .text (Text.textOfBytes bytes)
  else .text (Text.textOfBytes bytes)

/-- The page that segments lead to, with its name. -/
def Setup.page? (setup : Setup) (segments : List String) : Option (String × List UInt8) :=
  setup.pages.bind (·.find? segments)

/-- Hand out a page. -/
def pageResponse (setup : Setup) (segments : List String) : Response :=
  match setup.page? segments with
  | some (name, bytes) =>
    let type := mediaType name
    ⟨200, some (announcedType type), pageContent type bytes⟩
  | none => detail 404 "Not Found"

/-- Hand out the start page. -/
def indexResponse (setup : Setup) : Response :=
  match setup.page? ["index.html"] with
  | some (_, bytes) => ⟨200, some "text/html; charset=utf-8", .text (Text.textOfBytes bytes)⟩
  | none => detail 404 "index.html not found"

/-- Delete an artifact. -/
def deleteArtifact (store : Store) (id : String) : Store × Response :=
  match store.remove id with
  | (left, true) => (left, ⟨204, none, .text ""⟩)
  | (left, false) => (left, detail 404 (Artifact.unknownText id))

/-- The reply that gives a response and leaves the store alone. -/
def reply (store : Store) (response : Response) : Reply :=
  { store := store, outcome := .ok response }

/-- The reply to a method that a route does not have. -/
def refuseMethod (store : Store) : Reply :=
  reply store (detail 405 "Method Not Allowed")

/-- Answer a request whose path has a route. -/
def answer (setup : Setup) (tool : Assembler.Tool) (store : Store) (method : String)
    (body : List UInt8) : Route → Reply
  | .index =>
    if method = "GET" then reply store (indexResponse setup) else refuseMethod store
  | .page segments =>
    if method = "GET" || method = "HEAD" then reply store (pageResponse setup segments)
    else refuseMethod store
  | .compile =>
    if method = "POST" then
      let (next, outcome) := compileRequest setup.limits setup.issue store body
      { store := next, outcome := outcome }
    else refuseMethod store
  | .artifact id =>
    if method = "GET" then
      match store.get? id with
      | some record => { store := store, outcome := payloadResponse 200 record }
      | none => reply store (unknownArtifact id)
    else if method = "DELETE" then
      let (next, response) := deleteArtifact store id
      reply next response
    else refuseMethod store
  | .moduleText id =>
    if method = "GET" then
      match store.get? id with
      | some record =>
        reply store ⟨200, some "text/plain; charset=utf-8", .text record.module⟩
      | none => reply store (unknownArtifact id)
    else refuseMethod store
  | .moduleBinary id =>
    if method = "GET" then moduleBinary setup tool store id else refuseMethod store

/-- A reply without its content. -/
def Reply.emptied (reply : Reply) : Reply :=
  { reply with
    outcome := reply.outcome.map fun response =>
      { response with content := response.content.emptied } }

/-- The response that points at the path with the other ending. -/
def movedResponse (destination : Destination) : Except Escape Response :=
  if maxTargetLength < destination.otherEnding.length then .error .badLocation
  else .ok ⟨307, none, .text ""⟩

/-- Handle a request by what its target leads to. The method may be in either case. -/
def handleAt (setup : Setup) (tool : Assembler.Tool) (store : Store) (method : String)
    (body : List UInt8) (destination : Destination) : Reply :=
  let method := Text.uppercase method
  let complete := match courseOf? setup.pages.isSome (segmentsOf destination.path) with
    | none => reply store (detail 404 "Not Found")
    | some .moved => { store := store, outcome := movedResponse destination }
    | some (.leads route) => answer setup tool store method body route
  if method = "HEAD" then complete.emptied else complete

/-- Handle a request. A target that cannot be read is found first, then a body that cannot be sent,
and then a target that is not served. -/
def handle (setup : Setup) (tool : Assembler.Tool) (store : Store) (request : Request) : Reply :=
  let escaped (cause : Escape) : Reply := { store := store, outcome := .error cause }
  match destinationOf request.target with
  | .error cause => escaped (.target cause)
  | .ok destination =>
    match request.body.encode setup.limits, destination.obstacle? with
    | .error cause, _ => escaped (.unsendable cause)
    | .ok _, some cause => escaped (.target cause)
    | .ok body, none => handleAt setup tool store request.method body destination

end BrainfuckWasm.Service
