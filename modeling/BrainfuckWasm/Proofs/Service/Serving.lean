import BrainfuckWasm.Proofs.Build.Outputs
import BrainfuckWasm.Proofs.Service.Records

/-!
# What the service does with a request

A request asks for one of five things that have to do with artifacts, by its method and by the route
of its target, or for something else that does not touch the store. The cases of `Serves` list what
can come of each: the store afterwards, the commands that were started and the outcome. All that is
said about the service in the course of time is read off this list.
-/

namespace BrainfuckWasm

namespace Path

/-- A text is split at a separator in its middle as its two parts are. -/
theorem splitOn_append_separator (separator : Char) (front back : List Char) :
    splitOn separator (front ++ separator :: back) =
      splitOn separator front ++ splitOn separator back := by
  induction front with
  | nil => simp [splitOn]
  | cons c rest ih =>
    rw [List.cons_append, splitOn, splitOn, ih]
    split
    · rfl
    · cases hrest : splitOn separator rest with
      | nil =>
        rw [splitOn_eq] at hrest
        exact absurd hrest (List.splitOn_ne_nil separator rest)
      | cons piece pieces => rfl

end Path

namespace FileTree

/-- Where names lead to at all, they lead to where directories are made for them. -/
theorem makeWay_of_follow {tree : FileTree} (other : FileTree) {location target : Location}
    {names : List String} (hdot : "." ∉ names) (h : tree.follow location names = .ok target) :
    (other.makeWay location names).2 = target := by
  induction names generalizing location other with
  | nil => exact Except.ok.inj h
  | cons name rest ih =>
    rw [List.mem_cons, not_or] at hdot
    rw [← List.singleton_append, follow_append_eq_ok_iff] at h
    obtain ⟨next, hnext, hrest⟩ := h
    rw [follow_singleton, enter_eq_ok_iff, if_neg (Ne.symm hdot.1)] at hnext
    by_cases hup : name = ".."
    · subst hup
      rw [if_pos rfl] at hnext
      rw [makeWay, ← hnext.2]
      exact ih other hdot.2 hrest
    · rw [if_neg hup] at hnext
      rw [makeWay, ← hnext.2.2]
      · exact ih _ hdot.2 hrest
      · exact fun heq => hup heq

/-- Making directories leaves the working directory and what is refused as they are. -/
theorem makeWay_keeps (tree : FileTree) (location : Location) (names : List String) :
    (tree.makeWay location names).1.workingDirectory = tree.workingDirectory ∧
      (tree.makeWay location names).1.refusals = tree.refusals := by
  fun_induction makeWay tree location names with
  | case1 => exact ⟨rfl, rfl⟩
  | case2 tree location rest ih => exact ih
  | case3 tree location name rest hup next ih =>
    rw [ih.1, ih.2]
    split <;> exact ⟨rfl, rfl⟩

/-- A file is added below the directories that are made for it. -/
theorem add_file_eq (tree : FileTree) (root : Path.Root) (directory : List String) (name : String)
    (content : List UInt8) :
    let way := tree.makeWay (tree.origin ⟨root, directory ++ [name]⟩) directory
    tree.add ⟨root, directory ++ [name]⟩ (.file content) =
      way.1.set (way.2 ++ [name]) (.file content) := by
  cases root <;> simp [add, origin]

/-- Adding to a tree leaves what is refused as it is. -/
theorem refusals_add (tree : FileTree) (path : Path) (node : Node) :
    (tree.add path node).refusals = tree.refusals := by
  cases node with
  | directory => exact (makeWay_keeps tree _ _).2
  | file content =>
    simp only [add]
    cases path.names.getLast? with
    | none => exact (makeWay_keeps tree _ _).2
    | some name => exact (makeWay_keeps tree _ _).2

/-- A file that was added is read at its path, if that leads anywhere and may be read. -/
theorem read_add_file {tree : FileTree} {root : Path.Root} {directory : List String}
    {name : String} {content : List UInt8} {place : Location} (hdot : "." ∉ directory)
    (hname : name ≠ ".." ∧ name ≠ ".")
    (h : (tree.add ⟨root, directory ++ [name]⟩ (.file content)).locate
      ⟨root, directory ++ [name]⟩ = .ok place)
    (hallowed : (tree.refusals place).read = none) :
    (tree.add ⟨root, directory ++ [name]⟩ (.file content)).read ⟨root, directory ++ [name]⟩ =
      .ok content := by
  refine read_eq_ok_iff.mpr ⟨place, h, by rwa [refusals_add], ?_⟩
  obtain ⟨-, -, hfollow⟩ := locate_eq_ok_iff.mp h
  rw [add_file_eq] at hfollow ⊢
  have horigin : (((tree.makeWay (tree.origin ⟨root, directory ++ [name]⟩) directory).1.set
      ((tree.makeWay (tree.origin ⟨root, directory ++ [name]⟩) directory).2 ++ [name])
      (.file content)).origin ⟨root, directory ++ [name]⟩) =
        tree.origin ⟨root, directory ++ [name]⟩ := by
    cases root with
    | relative => exact (makeWay_keeps tree _ directory).1
    | slash => rfl
    | doubleSlash => rfl
  rw [horigin] at hfollow
  obtain ⟨middle, hmiddle, hlast⟩ := follow_append_eq_ok_iff.mp hfollow
  rw [eq_append_of_follow_singleton hname.1 hname.2 hlast, ← makeWay_of_follow tree hdot hmiddle]
  exact node?_set_self _ _ (by simp)

end FileTree

namespace Assembler

/-- The command that assembles a text in a scratch directory. -/
def scratchCommand (executable scratch : String) : Command :=
  ⟨executable, scratch ++ "/module.wat", scratch ++ "/module.wasm"⟩

/-- The files that this command finds. -/
def scratchTree (scratch text : String) : FileTree :=
  ((FileTree.empty []).add (.ofText scratch) .directory).add (.ofText (scratch ++ "/module.wat"))
    (.file (Text.bytesOfText text))

/-- A text is assembled by one command, on the files of a scratch directory. -/
theorem assembleText_named (tool : Tool) (executable scratch text : String) :
    let assembled := assemble tool (scratchCommand executable scratch) (scratchTree scratch text)
    assembleText tool (.named executable) scratch text =
      ([⟨scratchCommand executable scratch, text⟩],
        match assembled.2 with
        | .error error => .error (.assembler error)
        | .ok binary =>
          match assembled.1.read binary with
          | .ok bytes => .ok bytes
          | .error _ => .error .noBinary) := rfl

/-- The path of the text in a scratch directory. -/
theorem ofText_scratch (scratch : String) :
    Path.ofText (scratch ++ "/module.wat") =
      ⟨Path.rootOf (scratch ++ "/module.wat").toList,
        (Path.ofText scratch).names ++ ["module.wat"]⟩ := by
  have hsplit : Path.splitOn '/' (scratch ++ "/module.wat").toList =
      Path.splitOn '/' scratch.toList ++ ["module.wat".toList] := by
    rw [String.toList_append]
    exact Path.splitOn_append_separator '/' scratch.toList "module.wat".toList
  simp only [Path.ofText, hsplit, List.filter_append, List.map_append]
  rfl

/-- The command finds the text where it is told to look for it, if its path leads anywhere. -/
theorem read_scratchTree {scratch text : String} {place : Location}
    (h : (scratchTree scratch text).locate (.ofText (scratch ++ "/module.wat")) = .ok place) :
    (scratchTree scratch text).read (.ofText (scratch ++ "/module.wat")) =
      .ok (Text.bytesOfText text) := by
  have hallowed : (FileTree.add (FileTree.empty []) (.ofText scratch) .directory).refusals =
      fun _ => {} := by
    rw [FileTree.refusals_add]
    rfl
  rw [scratchTree, ofText_scratch] at h ⊢
  exact FileTree.read_add_file (Path.dot_not_mem_ofText scratch) (by decide) h (by rw [hallowed])

end Assembler

namespace Service

open Artifact (Draft Record Store)
open Assembler (Command Exit Tool)

/-- What a request asks for, as far as artifacts go. -/
inductive Ask where
  | compile (body : List UInt8)
  | payload (id : String)
  | moduleText (id : String)
  | moduleBinary (id : String)
  | delete (id : String)
  | other
  deriving DecidableEq, Repr

/-- What a method asks for on a route. -/
def Route.ask (method : String) (body : List UInt8) : Route → Ask
  | .compile => if method = "POST" then .compile body else .other
  | .artifact id =>
    if method = "GET" then .payload id else if method = "DELETE" then .delete id else .other
  | .moduleText id => if method = "GET" then .moduleText id else .other
  | .moduleBinary id => if method = "GET" then .moduleBinary id else .other
  | .index | .page _ => .other

/-- What a request asks for. One that does not reach a route asks for nothing of an artifact. -/
def Request.ask (setup : Setup) (request : Request) : Ask :=
  match destinationOf request.target with
  | .error _ => .other
  | .ok destination =>
    match request.body.encode setup.limits, destination.obstacle? with
    | .ok body, none =>
      match courseOf? setup.pages.isSome (segmentsOf destination.path) with
      | some (.leads route) => route.ask (Text.uppercase request.method) body
      | _ => .other
    | _, _ => .other

example :
    let asks (method target : String) := Request.ask { scratch := "/" } ⟨method, target, .bytes []⟩
    asks "POST" "/api/compile" = .compile [] ∧
      asks "GET" "/api/compile/7f" = .payload "7f" ∧
      asks "GET" "/api/compile/7f/module.wat" = .moduleText "7f" ∧
      asks "GET" "/api/compile/7f/module.wasm" = .moduleBinary "7f" ∧
      asks "DELETE" "/api/compile/7f" = .delete "7f" := by
  decide +kernel

/-- The id of the artifact that is asked for, whole or in part. -/
def Ask.reads? : Ask → Option String
  | .payload id | .moduleText id | .moduleBinary id => some id
  | _ => none

/-- Getting something is asking for an artifact or for something else. -/
theorem Request.ask_of_get {setup : Setup} {request : Request}
    (h : Text.uppercase request.method = "GET") :
    (∀ body, request.ask setup ≠ .compile body) ∧ ∀ id, request.ask setup ≠ .delete id := by
  rw [ask, h]
  split
  · exact ⟨nofun, nofun⟩
  · split
    · split
      · next route _ => cases route <;> exact ⟨nofun, nofun⟩
      · exact ⟨nofun, nofun⟩
    · exact ⟨nofun, nofun⟩

/-- The response with the binary that a command has left, by how the command ended. -/
def binaryResponse (command : Command) : FileTree × Exit → Except Escape Response
  | (_, .unstartable) => .ok (detail 503 (Assembler.Error.notFound command.executable).message)
  | (_, .rejected reason) => .error (.assembler (.assembler (.rejected reason)))
  | (_, .undecodable reason) => .error (.assembler (.assembler (.rejected reason)))
  | (left, .exited status diagnostics) =>
    if status = 0 then
      match left.read (.ofText command.wasm) with
      | .ok bytes => .ok ⟨200, some "application/wasm", .bytes bytes⟩
      | .error _ => .error (.assembler .noBinary)
    else .ok (detail 502 (Assembler.Error.failed command.executable status diagnostics).message)

/-- What can come of what is asked for. -/
inductive Serves (setup : Setup) (tool : Tool) (store : Store) : Ask → Reply → Prop where
  | refused {body : List UInt8} {outcome : Except Escape Response} (hrefusal : Refusal outcome) :
      Serves setup tool store (.compile body) ⟨store, [], outcome⟩
  | stored {body : List UInt8} {draft : Draft} (hsound : (store.add draft setup.issue).2.Sound) :
      Serves setup tool store (.compile body) ⟨(store.add draft setup.issue).1, [],
        payloadResponse 201 (store.add draft setup.issue).2⟩
  | unknown {ask : Ask} {id : String} (hask : ask.reads? = some id)
      (hnone : store.get? id = none) :
      Serves setup tool store ask ⟨store, [], .ok (unknownArtifact id)⟩
  | payload {id : String} {record : Record} (hfound : store.get? id = some record) :
      Serves setup tool store (.payload id) ⟨store, [], payloadResponse 200 record⟩
  | moduleText {id : String} {record : Record} (hfound : store.get? id = some record) :
      Serves setup tool store (.moduleText id)
        ⟨store, [], .ok ⟨200, some "text/plain; charset=utf-8", .text record.module⟩⟩
  | moduleBinary {id executable : String} {record : Record}
      (hfound : store.get? id = some record) (hprogram : setup.assembler = .named executable) :
      Serves setup tool store (.moduleBinary id)
        ⟨store, [⟨Assembler.scratchCommand executable setup.scratch, record.module⟩],
          binaryResponse (Assembler.scratchCommand executable setup.scratch)
            (tool (Assembler.scratchCommand executable setup.scratch)
              (Assembler.scratchTree setup.scratch record.module))⟩
  | nameless {id kind : String} {record : Record} (hfound : store.get? id = some record)
      (hprogram : setup.assembler = .other kind) :
      Serves setup tool store (.moduleBinary id)
        ⟨store, [], .error (.assembler (.assembler (.notNamed kind)))⟩
  | deleted {id : String} {record : Record} (hfound : store.get? id = some record) :
      Serves setup tool store (.delete id) ⟨(store.remove id).1, [], .ok ⟨204, none, .text ""⟩⟩
  | undeleted {id : String} (hnone : store.get? id = none) :
      Serves setup tool store (.delete id)
        ⟨store, [], .ok (detail 404 (Artifact.unknownText id))⟩
  | other {reply : Reply} (hstore : reply.store = store) : Serves setup tool store .other reply

/-- A request for something else leaves the store alone. -/
theorem Serves.store_of_other {setup : Setup} {tool : Tool} {store : Store} {reply : Reply}
    (h : Serves setup tool store .other reply) : reply.store = store := by
  cases h with
  | unknown hask hnone => cases hask
  | other hstore => exact hstore

/-- The binary of an artifact is made from its module, or there is no such artifact. -/
theorem moduleBinary_serves (setup : Setup) (tool : Tool) (store : Store) (id : String) :
    Serves setup tool store (.moduleBinary id) (moduleBinary setup tool store id) := by
  rw [moduleBinary]
  cases hfound : store.get? id with
  | none => exact .unknown rfl hfound
  | some record =>
    cases hprogram : setup.assembler with
    | other kind => exact .nameless hfound hprogram
    | named executable =>
      simp only [Assembler.assembleText_named, Assembler.assemble]
      have hserves := @Serves.moduleBinary setup tool store id executable record hfound hprogram
      generalize tool (Assembler.scratchCommand executable setup.scratch)
        (Assembler.scratchTree setup.scratch record.module) = ran at hserves ⊢
      obtain ⟨left, exit⟩ := ran
      cases exit with
      | unstartable => exact hserves
      | rejected reason => exact hserves
      | undecodable reason => exact hserves
      | exited status diagnostics =>
        rw [binaryResponse] at hserves
        by_cases hstatus : status = 0
        · simp only [hstatus, if_true] at hserves ⊢
          cases hread : left.read (.ofText
              (Assembler.scratchCommand executable setup.scratch).wasm) with
          | ok bytes => simpa only [hread] using hserves
          | error cause => simpa only [hread] using hserves
        · simpa only [hstatus, if_false] using hserves

/-- A route is answered as its method asks. -/
theorem answer_serves (setup : Setup) (tool : Tool) (store : Store) (method : String)
    (body : List UInt8) (route : Route) :
    Serves setup tool store (route.ask method body)
      (answer setup tool store method body route) := by
  cases route with
  | index =>
    refine .other ?_
    rw [answer]
    split <;> rfl
  | page segments =>
    refine .other ?_
    rw [answer]
    split <;> rfl
  | compile =>
    rw [answer, Route.ask]
    split
    · rcases compileRequest_cases setup.limits setup.issue store body with
        ⟨outcome, hrefusal, hrequest⟩ | ⟨draft, hsound, hrequest⟩
      · rw [hrequest]
        exact .refused hrefusal
      · rw [hrequest]
        exact .stored hsound
    · exact .other rfl
  | artifact id =>
    rw [answer, Route.ask]
    split
    · cases hfound : store.get? id with
      | none => exact .unknown rfl hfound
      | some record => exact .payload hfound
    · split
      · rw [deleteArtifact]
        cases hfound : store.get? id with
        | none =>
          have hremove : store.remove id = (store, false) := by
            refine Prod.ext (Artifact.Store.remove_of_get?_eq_none hfound) ?_
            rw [Artifact.Store.remove, hfound]
            rfl
          rw [hremove]
          exact .undeleted hfound
        | some record =>
          have hremove : store.remove id = ((store.remove id).1, true) := by
            rw [Artifact.Store.remove, hfound]
            rfl
          rw [hremove]
          exact .deleted hfound
      · exact .other rfl
  | moduleText id =>
    rw [answer, Route.ask]
    split
    · cases hfound : store.get? id with
      | none => exact .unknown rfl hfound
      | some record => exact .moduleText hfound
    · exact .other rfl
  | moduleBinary id =>
    rw [answer, Route.ask]
    split
    · exact moduleBinary_serves setup tool store id
    · exact .other rfl

/-- A method whose answers have no content asks for nothing of an artifact. -/
theorem Route.ask_head (body : List UInt8) (route : Route) : route.ask "HEAD" body = .other := by
  cases route <;> rfl

/-- A request is answered as it asks. -/
theorem handle_serves (setup : Setup) (tool : Tool) (store : Store) (request : Request) :
    Serves setup tool store (request.ask setup) (handle setup tool store request) := by
  rw [Request.ask, handle]
  cases destinationOf request.target with
  | error cause => exact .other rfl
  | ok destination =>
    simp only
    cases request.body.encode setup.limits with
    | error cause => exact .other rfl
    | ok body =>
      cases destination.obstacle? with
      | some cause => exact .other rfl
      | none =>
        simp only [handleAt]
        generalize Text.uppercase request.method = method
        cases courseOf? setup.pages.isSome (segmentsOf destination.path) with
        | none =>
          refine .other ?_
          split <;> rfl
        | some course =>
          cases course with
          | moved =>
            refine .other ?_
            split <;> rfl
          | leads route =>
            have hserves := answer_serves setup tool store method body route
            -- Taking the content away does not touch the store.
            by_cases hhead : method = "HEAD"
            · subst hhead
              rw [Route.ask_head] at hserves
              simp only [Route.ask_head, if_true]
              exact .other hserves.store_of_other
            · simpa only [hhead, if_false] using hserves

end Service

end BrainfuckWasm
