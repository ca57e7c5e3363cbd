import BrainfuckWasm.Proofs.Service.History

/-!
# The service is consistent

What the service answers about an id is settled by its earlier answers alone. An id is posted once a
compile request was answered with a payload that names it, until it is deleted. Payload, module text
and binary of a posted id are those of that answer, and of an id that is not posted there are none.

The one exception are codes with surrogates: they can be received and stored but not sent, so a
compile request for such a code has no answer, and its artifact is stranded under an id that nobody
was told. It can be deleted like a posted one.
-/

namespace BrainfuckWasm.Service

open Artifact (Record)
open Assembler (scratchCommand scratchTree)

/-- The member of a name in an object. -/
def field? (name : String) : Json → Option Json
  | .object members => Json.member? members name
  | _ => none

/-- The payload of an artifact names it. -/
theorem field?_artifactId_payload (record : Record) :
    field? "artifact_id" (payload record) = some (.ofText record.id) := rfl

/-- The payload of an artifact holds its module. -/
theorem field?_module_payload (record : Record) :
    field? "module" (payload record) = some (.ofText record.module) := rfl

/-- An id is posted with a content: a compile request was answered with that content, which names
the id, and the id was not deleted since. -/
def Posted (setup : Setup) (id : String) (content : Json) (past : List Visit) : Prop :=
  Since (fun before visit => (∃ body, visit.ask setup = .compile body) ∧
      (replyTo setup before visit).outcome = .ok (jsonResponse 201 content) ∧
      field? "artifact_id" content = some (.ofText id))
    (fun visit => visit.ask setup = .delete id) past

/-- An id is stranded: it was the next one at a compile request whose payload could not be sent, and
it was not deleted since. -/
def Stranded (setup : Setup) (id : String) (past : List Visit) : Prop :=
  Since (fun before visit => (∃ body, visit.ask setup = .compile body) ∧
      (∃ surrogates, (replyTo setup before visit).outcome = .error (.payloadText surrogates)) ∧
      id = setup.issue ((storeAfter setup before).issued + 1))
    (fun visit => visit.ask setup = .delete id) past

/-- An id that is posted or stranded. -/
def Held (setup : Setup) (id : String) (past : List Visit) : Prop :=
  (∃ content, Posted setup id content past) ∨ Stranded setup id past

/-- Texts are told apart in JSON. -/
theorem ofText_injective : Function.Injective Json.ofText := by
  intro left right h
  rw [Json.ofText, Json.ofText, Json.string.injEq] at h
  rw [← Text.narrow_widen left, h, Text.narrow_widen]

/-- A payload is sent if the code has no surrogates. -/
theorem payloadResponse_eq_ok_iff {status : Nat} {record : Record} {content : Json} :
    payloadResponse status record = .ok (jsonResponse status content) ↔
      Text.surrogates? record.code = none ∧ content = payload record := by
  rw [payloadResponse]
  cases Text.surrogates? record.code with
  | none => simp [jsonResponse, eq_comm]
  | some surrogates => simp

/-- A payload is sent with its status. -/
theorem status_of_payloadResponse {status : Nat} {record : Record} {response : Response}
    (h : payloadResponse status record = .ok response) : response.status = status := by
  rw [payloadResponse] at h
  split at h
  · cases h
  · cases h
    rfl

/-- A payload is not sent because of the surrogates in the code. -/
theorem payloadResponse_eq_error_iff {status : Nat} {record : Record}
    {surrogates : Text.SurrogateRun} :
    payloadResponse status record = .error (.payloadText surrogates) ↔
      Text.surrogates? record.code = some surrogates := by
  rw [payloadResponse]
  cases Text.surrogates? record.code with
  | none => simp
  | some found => simp

section Held

variable {setup : Setup} (hissue : Function.Injective setup.issue) {past : List Visit}
  {id : String}
include hissue

/-- The posted ids are those under which an artifact is found that can be sent. -/
theorem posted_iff {content : Json} :
    Posted setup id content past ↔
      ∃ record, (storeAfter setup past).get? id = some record ∧
        Text.surrogates? record.code = none ∧ content = payload record := by
  constructor
  · rintro ⟨before, visit, after, rfl, ⟨⟨body, hask⟩, hanswer, hid⟩, hafter⟩
    rcases refusal_or_adds hask with ⟨hrefusal, -⟩ | ⟨draft, hadds, -⟩
    · -- No refusal has status 201.
      rw [hanswer] at hrefusal
      rcases hrefusal with ⟨hstatus⟩
      simp [jsonResponse] at hstatus
    · rw [hadds.outcome_eq] at hanswer
      obtain ⟨hplain, rfl⟩ := payloadResponse_eq_ok_iff.mp hanswer
      rw [field?_artifactId_payload, Option.some.injEq] at hid
      refine ⟨_, (get?_storeAfter_iff hissue _ _ _).mpr ?_, hplain, rfl⟩
      exact ⟨before, visit, after, rfl, ⟨hadds, ofText_injective hid⟩, hafter⟩
  · rintro ⟨record, hfound, hplain, rfl⟩
    obtain ⟨before, visit, after, rfl, ⟨hadds, rfl⟩, hafter⟩ :=
      (get?_storeAfter_iff hissue _ _ _).mp hfound
    refine ⟨before, visit, after, rfl, ⟨hadds.asked, ?_, field?_artifactId_payload record⟩, hafter⟩
    rw [hadds.outcome_eq]
    exact payloadResponse_eq_ok_iff.mpr ⟨hplain, rfl⟩

/-- The stranded ids are those under which an artifact is found that cannot be sent. -/
theorem stranded_iff :
    Stranded setup id past ↔
      ∃ record surrogates, (storeAfter setup past).get? id = some record ∧
        Text.surrogates? record.code = some surrogates := by
  constructor
  · rintro ⟨before, visit, after, rfl, ⟨⟨body, hask⟩, ⟨surrogates, hescape⟩, rfl⟩, hafter⟩
    rcases refusal_or_adds hask with ⟨hrefusal, -⟩ | ⟨draft, hadds, -⟩
    · rw [hescape] at hrefusal
      cases hrefusal
    · rw [hadds.outcome_eq] at hescape
      refine ⟨_, surrogates, (get?_storeAfter_iff hissue _ _ _).mpr ?_,
        payloadResponse_eq_error_iff.mp hescape⟩
      exact ⟨before, visit, after, rfl, ⟨hadds, hadds.id_eq⟩, hafter⟩
  · rintro ⟨record, surrogates, hfound, hwide⟩
    obtain ⟨before, visit, after, rfl, ⟨hadds, rfl⟩, hafter⟩ :=
      (get?_storeAfter_iff hissue _ _ _).mp hfound
    refine ⟨before, visit, after, rfl, ⟨hadds.asked, ⟨surrogates, ?_⟩, hadds.id_eq⟩, hafter⟩
    rw [hadds.outcome_eq]
    exact payloadResponse_eq_error_iff.mpr hwide

/-- The posted and stranded ids are those under which an artifact is found. -/
theorem held_iff :
    Held setup id past ↔ ∃ record, (storeAfter setup past).get? id = some record := by
  rw [Held, stranded_iff hissue]
  simp only [posted_iff hissue]
  constructor
  · rintro (⟨content, record, hfound, -⟩ | ⟨record, surrogates, hfound, -⟩)
    · exact ⟨record, hfound⟩
    · exact ⟨record, hfound⟩
  · rintro ⟨record, hfound⟩
    cases hwide : Text.surrogates? record.code with
    | none => exact Or.inl ⟨payload record, record, hfound, hwide, rfl⟩
    | some surrogates => exact Or.inr ⟨record, surrogates, hfound, hwide⟩

/-- No artifact is found under any other id. -/
theorem get?_eq_none_iff : (storeAfter setup past).get? id = none ↔ ¬ Held setup id past := by
  rw [held_iff hissue, Option.eq_none_iff_forall_ne_some, not_exists]

end Held

/-- What a visit is answered after others, and what it does to the store. -/
structure Consistent (setup : Setup) (past : List Visit) (visit : Visit) : Prop where
  /-- A compile request that is refused changes nothing. -/
  refused : ∀ body response, visit.ask setup = .compile body →
    (replyTo setup past visit).outcome = .ok response →
    response.status = 400 ∨ response.status = 422 →
    (replyTo setup past visit).store = storeAfter setup past
  /-- Getting something changes nothing, whatever the assembler does. -/
  get : Text.uppercase visit.request.method = "GET" →
    (replyTo setup past visit).store = storeAfter setup past
  /-- Deleting an id changes nothing about the others. -/
  deletesOnly : ∀ id other, visit.ask setup = .delete id → other ≠ id →
    (replyTo setup past visit).store.get? other = (storeAfter setup past).get? other
  /-- The payload of a posted id is the one that it was posted with. -/
  payload : ∀ id, visit.ask setup = .payload id →
    (∀ content, (replyTo setup past visit).outcome = .ok (jsonResponse 200 content) ↔
      Posted setup id content past) ∧
    ((∃ surrogates, (replyTo setup past visit).outcome = .error (.payloadText surrogates)) ↔
      Stranded setup id past) ∧
    ((replyTo setup past visit).outcome = .ok (unknownArtifact id) ↔ ¬ Held setup id past)
  /-- What is held can be deleted, and nothing else. -/
  delete : ∀ id, visit.ask setup = .delete id →
    ((replyTo setup past visit).outcome = .ok ⟨204, none, .text ""⟩ ↔ Held setup id past) ∧
    ((replyTo setup past visit).outcome = .ok (detail 404 (Artifact.unknownText id)) ↔
      ¬ Held setup id past)
  /-- The module text of a posted id is the module that it was posted with. -/
  moduleText : ∀ id, visit.ask setup = .moduleText id →
    (∀ content, Posted setup id content past → ∃ text,
      field? "module" content = some (.ofText text) ∧
      (replyTo setup past visit).outcome =
        .ok ⟨200, some "text/plain; charset=utf-8", .text text⟩) ∧
    ((replyTo setup past visit).outcome = .ok (unknownArtifact id) ↔ ¬ Held setup id past)
  /-- The binary of a posted id is made by one command, which finds the module that the id was
  posted with in the file that it is told to assemble. -/
  moduleBinary : ∀ id, visit.ask setup = .moduleBinary id →
    (∀ content executable, Posted setup id content past →
      setup.assembler = .named executable → ∃ text,
      field? "module" content = some (.ofText text) ∧
      (replyTo setup past visit).calls = [⟨scratchCommand executable setup.scratch, text⟩] ∧
      (replyTo setup past visit).outcome =
        binaryResponse (scratchCommand executable setup.scratch)
          (visit.tool (scratchCommand executable setup.scratch)
            (scratchTree setup.scratch text)) ∧
      ∀ place, (scratchTree setup.scratch text).locate
          (.ofText (scratchCommand executable setup.scratch).wat) = .ok place →
        (scratchTree setup.scratch text).read
          (.ofText (scratchCommand executable setup.scratch).wat) =
            .ok (Text.bytesOfText text)) ∧
    ((replyTo setup past visit).outcome = .ok (unknownArtifact id) ↔ ¬ Held setup id past)

section Answers

variable {setup : Setup} {past : List Visit} {visit : Visit} {id : String}

/-- A compile request that is answered with status 400 or 422 changes nothing. -/
theorem store_of_refused {body : List UInt8} {response : Response}
    (hask : visit.ask setup = .compile body)
    (houtcome : (replyTo setup past visit).outcome = .ok response)
    (hstatus : response.status = 400 ∨ response.status = 422) :
    (replyTo setup past visit).store = storeAfter setup past := by
  rcases refusal_or_adds hask with ⟨-, hstore⟩ | ⟨draft, hadds, -⟩
  · exact hstore
  · rw [hadds.outcome_eq] at houtcome
    have hcreated := status_of_payloadResponse houtcome
    omega

/-- The answer about an unknown artifact has status 404. -/
theorem ne_unknownArtifact {outcome : Except Escape Response}
    (h : ∀ response, outcome = .ok response → response.status ≠ 404) (id : String) :
    outcome ≠ .ok (unknownArtifact id) :=
  fun heq => h _ heq rfl

/-- A binary is not answered for with status 404. -/
theorem status_of_binaryResponse {command : Assembler.Command} {ran : FileTree × Assembler.Exit}
    {response : Response} (h : binaryResponse command ran = .ok response) :
    response.status ≠ 404 := by
  obtain ⟨left, exit⟩ := ran
  cases exit with
  | unstartable =>
    cases h
    exact (by decide : 503 ≠ 404)
  | rejected reason => cases h
  | undecodable reason => cases h
  | exited status diagnostics =>
    rw [binaryResponse] at h
    split at h
    · split at h
      · cases h
        exact (by decide : 200 ≠ 404)
      · cases h
    · cases h
      exact (by decide : 502 ≠ 404)

variable (hissue : Function.Injective setup.issue)
include hissue

/-- What is answered for a payload. -/
theorem payload_answers (hask : visit.ask setup = .payload id) :
    (∀ content, (replyTo setup past visit).outcome = .ok (jsonResponse 200 content) ↔
      Posted setup id content past) ∧
    ((∃ surrogates, (replyTo setup past visit).outcome = .error (.payloadText surrogates)) ↔
      Stranded setup id past) ∧
    ((replyTo setup past visit).outcome = .ok (unknownArtifact id) ↔ ¬ Held setup id past) := by
  have hserves := replyTo_serves setup past visit
  rw [hask] at hserves
  simp only [posted_iff hissue, stranded_iff hissue, ← get?_eq_none_iff hissue]
  generalize replyTo setup past visit = reply at hserves ⊢
  cases hserves with
  | unknown hread hnone =>
    cases hread
    simp [hnone, unknownArtifact, detail, jsonResponse]
  | @payload _ record hfound =>
    have hknown : payloadResponse 200 record ≠ .ok (unknownArtifact id) :=
      ne_unknownArtifact (fun response hresponse => by
        rw [status_of_payloadResponse hresponse]
        decide) id
    simp only [payloadResponse_eq_ok_iff, payloadResponse_eq_error_iff, hfound, hknown]
    simp

/-- What is answered to a deletion. -/
theorem delete_answers (hask : visit.ask setup = .delete id) :
    ((replyTo setup past visit).outcome = .ok ⟨204, none, .text ""⟩ ↔ Held setup id past) ∧
    ((replyTo setup past visit).outcome = .ok (detail 404 (Artifact.unknownText id)) ↔
      ¬ Held setup id past) := by
  have hserves := replyTo_serves setup past visit
  rw [hask] at hserves
  rw [← get?_eq_none_iff hissue, held_iff hissue]
  generalize replyTo setup past visit = reply at hserves ⊢
  cases hserves with
  | unknown hread hnone => cases hread
  | deleted hfound => simp [hfound, detail, jsonResponse]
  | undeleted hnone => simp [hnone, detail, jsonResponse]

/-- What is answered for a module text. -/
theorem moduleText_answers (hask : visit.ask setup = .moduleText id) :
    (∀ content, Posted setup id content past → ∃ text,
      field? "module" content = some (.ofText text) ∧
      (replyTo setup past visit).outcome =
        .ok ⟨200, some "text/plain; charset=utf-8", .text text⟩) ∧
    ((replyTo setup past visit).outcome = .ok (unknownArtifact id) ↔ ¬ Held setup id past) := by
  have hserves := replyTo_serves setup past visit
  rw [hask] at hserves
  simp only [posted_iff hissue, ← get?_eq_none_iff hissue]
  generalize replyTo setup past visit = reply at hserves ⊢
  cases hserves with
  | unknown hread hnone =>
    cases hread
    simp [hnone]
  | @moduleText _ record hfound =>
    refine ⟨?_, ?_⟩
    · rintro content ⟨posted, hposted, -, rfl⟩
      rw [hfound, Option.some.injEq] at hposted
      subst posted
      exact ⟨record.module, field?_module_payload record, rfl⟩
    · simp [hfound, unknownArtifact, detail, jsonResponse]

/-- What is answered for a binary. -/
theorem moduleBinary_answers (hask : visit.ask setup = .moduleBinary id) :
    (∀ content executable, Posted setup id content past →
      setup.assembler = .named executable → ∃ text,
      field? "module" content = some (.ofText text) ∧
      (replyTo setup past visit).calls = [⟨scratchCommand executable setup.scratch, text⟩] ∧
      (replyTo setup past visit).outcome =
        binaryResponse (scratchCommand executable setup.scratch)
          (visit.tool (scratchCommand executable setup.scratch)
            (scratchTree setup.scratch text))) ∧
    ((replyTo setup past visit).outcome = .ok (unknownArtifact id) ↔ ¬ Held setup id past) := by
  have hserves := replyTo_serves setup past visit
  rw [hask] at hserves
  simp only [posted_iff hissue, ← get?_eq_none_iff hissue]
  generalize replyTo setup past visit = reply at hserves ⊢
  cases hserves with
  | unknown hread hnone =>
    cases hread
    simp [hnone]
  | @moduleBinary _ executable record hfound hprogram =>
    refine ⟨?_, ?_⟩
    · rintro content found ⟨posted, hposted, -, rfl⟩ hfoundProgram
      rw [hfound, Option.some.injEq] at hposted
      subst posted
      rw [hprogram, Assembler.Program.named.injEq] at hfoundProgram
      subst found
      exact ⟨record.module, field?_module_payload record, rfl, rfl⟩
    · simp only [ne_unknownArtifact (fun _ => status_of_binaryResponse) id, hfound, reduceCtorEq]
  | nameless hfound hprogram => simp [hfound, hprogram]

end Answers

/-- Whatever visits there were, all stored artifacts are sound, and the next visit is answered by
what was answered before. -/
theorem service_consistent {setup : Setup} (hissue : Function.Injective setup.issue)
    (past : List Visit) :
    (∀ record ∈ (storeAfter setup past).records, record.Sound) ∧
      ∀ visit, Consistent setup past visit := by
  refine ⟨(orderly_storeAfter setup past).sound, fun visit => ?_⟩
  exact {
    refused := fun _ _ => store_of_refused
    get := fun hget =>
      store_replyTo_of_ne (Request.ask_of_get hget).1 (Request.ask_of_get hget).2
    deletesOnly := fun id other hask hother => by
      rw [store_replyTo_of_delete hask, Artifact.Store.get?_remove_of_ne _ hother]
    payload := fun _ => payload_answers hissue
    delete := fun _ => delete_answers hissue
    moduleText := fun _ => moduleText_answers hissue
    moduleBinary := fun id hask => by
      obtain ⟨hposted, hunknown⟩ := moduleBinary_answers hissue hask
      refine ⟨fun content executable hcontent hprogram => ?_, hunknown⟩
      obtain ⟨text, htext, hcalls, houtcome⟩ := hposted content executable hcontent hprogram
      exact ⟨text, htext, hcalls, houtcome, fun place => Assembler.read_scratchTree⟩ }

/-- A visit with the text of a body, at a time when no assembler can be started. -/
def plainVisit (method target body : String) : Visit :=
  ⟨Assembler.Script.unstartable.tool, ⟨method, target, .bytes (Text.bytesOfText body)⟩⟩

/-- A loop is compiled and its payload asked for, and there is one. -/
theorem service_consistent_posted :
    let setup : Setup := { scratch := "/scratch" }
    let past := [plainVisit "POST" "/api/compile" "\x7b\"code\":\"+[-]\"\x7d"]
    let visit := plainVisit "GET" "/api/compile/00000000000000000000000000000001" ""
    Function.Injective setup.issue ∧ visit.ask setup = .payload (Artifact.idOf 1) ∧
      (∀ record ∈ (storeAfter setup past).records, record.Sound) ∧
      (∃ content, Posted setup (Artifact.idOf 1) content past ∧
        (replyTo setup past visit).outcome = .ok (jsonResponse 200 content)) := by
  intro setup past visit
  have hissue : Function.Injective setup.issue := Artifact.idOf_injective
  have hask : visit.ask setup = .payload (Artifact.idOf 1) := by decide +kernel
  have hfound : (((storeAfter setup past).get? (Artifact.idOf 1)).map fun record =>
      Text.surrogates? record.code) = some none := by decide +kernel
  obtain ⟨record, hrecord, hplain⟩ := Option.map_eq_some_iff.mp hfound
  have hposted : Posted setup (Artifact.idOf 1) (payload record) past :=
    (posted_iff hissue).mpr ⟨record, hrecord, hplain, rfl⟩
  obtain ⟨hsound, hconsistent⟩ := service_consistent hissue past
  exact ⟨hissue, hask, hsound, payload record, hposted,
    (((hconsistent visit).payload _ hask).1 _).mpr hposted⟩

/-- A code with a surrogate is stored although it is not answered for: the id was never posted, and
yet it can be deleted. -/
theorem deletes_without_post :
    let setup : Setup := { scratch := "/scratch" }
    let post := plainVisit "POST" "/api/compile" "\x7b\"code\":\"\\ud800\"\x7d"
    let visit := plainVisit "DELETE" "/api/compile/00000000000000000000000000000001" ""
    Function.Injective setup.issue ∧ visit.ask setup = .delete (Artifact.idOf 1) ∧
      (replyTo setup [post] visit).outcome.toOption.map Response.status = some 204 ∧
      ¬ ∃ content, Posted setup (Artifact.idOf 1) content [post] := by
  intro setup post visit
  refine ⟨Artifact.idOf_injective, by decide +kernel, by decide +kernel, ?_⟩
  have hescaped : (replyTo setup [] post).outcome.toOption.map Response.status = none := by
    decide +kernel
  rintro ⟨content, hposted⟩
  rcases since_concat_iff.mp (List.nil_append [post] ▸ hposted) with ⟨-, hanswer, -⟩ | ⟨-, hnever⟩
  · rw [hanswer] at hescaped
    cases hescaped
  · exact not_since_nil hnever

end BrainfuckWasm.Service
