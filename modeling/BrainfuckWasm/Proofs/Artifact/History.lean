import Mathlib.Data.List.DropRight
import Mathlib.Data.List.Induction
import Mathlib.Data.List.Nodup
import BrainfuckWasm.Proofs.Artifact.Ids

/-!
# A store and its history

A store that starts empty has a history: the requests that it was given, each with its answer. As
long as no id is issued twice, the history alone tells what the store answers next. An artifact is
found from the request that has added it until its id is removed or everything is cleared, and the
number of artifacts is that of the additions less the removals since the last clearing.
-/

namespace BrainfuckWasm.Artifact

/-- A request with the answer to it. -/
structure Exchange where
  request : Request
  answer : Answer
  deriving DecidableEq, Repr

namespace Exchange

/-- The artifact that an exchange has added. -/
def added? : Exchange → Option Record
  | ⟨.add _ _, .record record⟩ => some record
  | _ => none

/-- Whether an exchange has added an artifact. -/
def adds (exchange : Exchange) : Bool :=
  exchange.added?.isSome

/-- Whether an exchange has removed an artifact. -/
def removes (exchange : Exchange) : Bool :=
  exchange.answer = .removed true

end Exchange

/-- A request after which an id stands for nothing. -/
def Request.Ends (id : String) (request : Request) : Prop :=
  request = .remove id ∨ request = .clear

instance (id : String) (request : Request) : Decidable (request.Ends id) :=
  inferInstanceAs (Decidable (request = .remove id ∨ request = .clear))

namespace Store

/-- The store after requests one after another. -/
def after (store : Store) (requests : List Request) (issue : Nat → String := idOf) : Store :=
  requests.foldl (fun current request => (current.handle request issue).1) store

/-- Requests one after another, each with the answer to it. -/
def exchanges (store : Store) (requests : List Request) (issue : Nat → String := idOf) :
    List Exchange :=
  List.zipWith (fun request told => ⟨request, told.1⟩) requests (store.handleAll requests issue)

end Store

/-- The history of a store that starts empty. -/
def history (issue : Nat → String) (past : List Request) : List Exchange :=
  ({} : Store).exchanges past issue

/-- A store that starts empty, after requests. -/
def storeAfter (issue : Nat → String) (past : List Request) : Store :=
  ({} : Store).after past issue

/-- What such a store answers next. -/
def answerTo (issue : Nat → String) (past : List Request) (request : Request) : Answer :=
  ((storeAfter issue past).handle request issue).2

/-- The exchanges since everything was cleared last, or since the start. -/
def sinceClear (exchanges : List Exchange) : List Exchange :=
  exchanges.rtakeWhile (·.request ≠ .clear)

variable {issue : Nat → String}

/-! ## Runs -/

namespace Store

/-- A run starts with its first request. -/
theorem after_cons (store : Store) (request : Request) (requests : List Request) :
    store.after (request :: requests) issue =
      (store.handle request issue).1.after requests issue := rfl

/-- The exchanges of a run start with the first answer. -/
theorem exchanges_cons (store : Store) (request : Request) (requests : List Request) :
    store.exchanges (request :: requests) issue =
      ⟨request, (store.handle request issue).2⟩ ::
        (store.handle request issue).1.exchanges requests issue := rfl

/-- The exchanges of a run go on from the store that was reached. -/
theorem exchanges_append (store : Store) (front back : List Request) :
    store.exchanges (front ++ back) issue =
      store.exchanges front issue ++ (store.after front issue).exchanges back issue := by
  induction front generalizing store with
  | nil => rfl
  | cons request front ih =>
    rw [List.cons_append, exchanges_cons, exchanges_cons, ih, after_cons, List.cons_append]

/-- The requests of the exchanges are those that were given. -/
theorem map_request_exchanges (store : Store) (requests : List Request) :
    (store.exchanges requests issue).map Exchange.request = requests := by
  induction requests generalizing store with
  | nil => rfl
  | cons request requests ih => rw [exchanges_cons, List.map_cons, ih]

/-- Where exchanges are divided, the requests are, and the answer was given by the store that was
reached. -/
theorem eq_append_of_exchanges {store : Store} {requests : List Request}
    {before since : List Exchange} {exchange : Exchange}
    (h : store.exchanges requests issue = before ++ exchange :: since) :
    requests = before.map Exchange.request ++ exchange.request :: since.map Exchange.request ∧
      exchange.answer =
        ((store.after (before.map Exchange.request) issue).handle exchange.request issue).2 := by
  have hrequests :=
    calc requests = (store.exchanges requests issue).map Exchange.request :=
          (map_request_exchanges store requests).symm
      _ = before.map Exchange.request ++ exchange.request :: since.map Exchange.request := by
          rw [h, List.map_append, List.map_cons]
  refine ⟨hrequests, ?_⟩
  have hlength : (store.exchanges (before.map Exchange.request) issue).length = before.length := by
    rw [← List.length_map (f := Exchange.request), map_request_exchanges, List.length_map]
  rw [hrequests, exchanges_append, exchanges_cons] at h
  exact congrArg Exchange.answer (List.head_eq_of_cons_eq (List.append_inj h hlength).2).symm

end Store

/-- The history after one more request. -/
theorem history_concat (past : List Request) (request : Request) :
    history issue (past ++ [request]) =
      history issue past ++ [⟨request, answerTo issue past request⟩] :=
  Store.exchanges_append {} past [request]

/-- The store after one more request. -/
theorem storeAfter_concat (past : List Request) (request : Request) :
    storeAfter issue (past ++ [request]) = ((storeAfter issue past).handle request issue).1 := by
  rw [storeAfter, Store.after, List.foldl_append]
  rfl

/-! ## What one request does -/

/-- A look-up changes nothing, and is answered with what is found. -/
theorem Store.handle_get (store : Store) (id : String) :
    store.handle (.get id) issue = (store, (store.get? id).elim (.unknown id) .record) := by
  simp only [handle]
  cases store.get? id <;> rfl

/-- All that can come of a request. -/
inductive Handles (issue : Nat → String) (store : Store) : Request → Store × Answer → Prop where
  | added {draft : Draft} {offer : Addressing.Offer} {mode : Addressing}
      (hmode : offer.mode? = some mode) : Handles issue store (.add draft offer)
        ((store.add { draft with addressing := mode } issue).1,
          .record (store.add { draft with addressing := mode } issue).2)
  | refused {draft : Draft} {offer : Addressing.Offer} (hmode : offer.mode? = none) :
      Handles issue store (.add draft offer) (store, .unknownAddressing offer)
  | found {id : String} {record : Record} (hfound : store.get? id = some record) :
      Handles issue store (.get id) (store, .record record)
  | unknown {id : String} (hnone : store.get? id = none) :
      Handles issue store (.get id) (store, .unknown id)
  | removed (id : String) :
      Handles issue store (.remove id) ((store.remove id).1, .removed (store.get? id).isSome)
  | cleared : Handles issue store .clear (store.clear, .cleared)

/-- A request is handled in one of these ways. -/
theorem handle_handles (store : Store) (request : Request) :
    Handles issue store request (store.handle request issue) := by
  cases request with
  | add draft offer =>
    rw [Store.handle]
    cases hmode : offer.mode? with
    | none => exact .refused hmode
    | some mode => exact .added hmode
  | get id =>
    rw [Store.handle_get]
    cases hfound : store.get? id with
    | none => exact .unknown hfound
    | some record => exact .found hfound
  | remove id => exact .removed id
  | clear => exact .cleared

namespace Handles

variable {store : Store} {request : Request} {outcome : Store × Answer}

/-- Ids that were issued stay so. -/
theorem issued (h : Handles issue store request outcome) {id : String}
    (hid : Issued issue store id) : Issued issue outcome.1 id := by
  obtain ⟨serial, hserial, rfl⟩ := hid
  refine ⟨serial, ?_, rfl⟩
  cases h with
  | added hmode => exact Nat.le_succ_of_le hserial
  | refused hmode => exact hserial
  | found hfound => exact hserial
  | unknown hnone => exact hserial
  | removed id => exact hserial
  | cleared => exact hserial

/-- An artifact is added with the next id. -/
theorem id_of_added (h : Handles issue store request outcome) {record : Record}
    (hadded : Exchange.added? ⟨request, outcome.2⟩ = some record) :
    record.id = issue (store.issued + 1) ∧ outcome.1.issued = store.issued + 1 ∧
      outcome.1.records = store.records ++ [record] := by
  cases h with
  | added hmode =>
    obtain rfl := Option.some.inj hadded
    exact ⟨rfl, rfl, rfl⟩
  | refused hmode => cases hadded
  | found hfound => cases hadded
  | unknown hnone => cases hadded
  | removed id => cases hadded
  | cleared => cases hadded

/-- What is found under an id that is not added goes or stays. -/
theorem get?_of_unadded (h : Handles issue store request outcome) {id : String}
    (hid : ∀ record ∈ Exchange.added? ⟨request, outcome.2⟩, record.id ≠ id) :
    outcome.1.get? id = if request.Ends id then none else store.get? id := by
  cases h with
  | added hmode =>
    rw [if_neg (by simp [Request.Ends])]
    exact store.get?_add_of_ne _ issue (hid _ rfl).symm
  | refused hmode => rw [if_neg (by simp [Request.Ends])]
  | found hfound => rw [if_neg (by simp [Request.Ends])]
  | unknown hnone => rw [if_neg (by simp [Request.Ends])]
  | removed other =>
    by_cases hother : other = id
    · subst hother
      rw [if_pos (.inl rfl), store.get?_remove_self]
    · rw [if_neg (by simp [Request.Ends, hother]), store.get?_remove_of_ne (Ne.symm hother)]
  | cleared => rw [if_pos (.inr rfl), store.get?_clear]

end Handles

/-- Every artifact has an id of its own that was issued. -/
structure Orderly (issue : Nat → String) (store : Store) : Prop where
  issued : ∀ record ∈ store.records, Issued issue store record.id
  distinct : (store.records.map Record.id).Nodup

namespace Orderly

variable {store : Store} {request : Request} {outcome : Store × Answer}

/-- An empty store is orderly. -/
theorem empty : Orderly issue {} :=
  ⟨by simp, by simp⟩

/-- Fewer artifacts are orderly if they were. -/
theorem sublist (h : Orderly issue store) {records : List Record}
    (hrecords : records.Sublist store.records) : Orderly issue { store with records := records } :=
  ⟨fun record hrecord => h.issued record (hrecords.subset hrecord),
    (hrecords.map Record.id).nodup h.distinct⟩

/-- Whatever is asked for, an orderly store stays so. -/
theorem handles (hissue : Function.Injective issue) (h : Orderly issue store)
    (hhandles : Handles issue store request outcome) : Orderly issue outcome.1 := by
  have hissued {id : String} (hid : Issued issue store id) := hhandles.issued hid
  cases hhandles with
  | @added draft offer mode hmode =>
    refine ⟨fun record hrecord => ?_, ?_⟩
    · rcases List.mem_append.mp hrecord with hold | hnew
      · exact hissued (h.issued record hold)
      · rw [List.mem_singleton.mp hnew]
        exact ⟨store.issued + 1, Nat.le_refl _, rfl⟩
    · have hnext (record : Record) (hrecord : record ∈ store.records) :
          record.id ≠ issue (store.issued + 1) := (h.issued record hrecord).ne_next hissue
      simpa [Store.add, List.nodup_append] using ⟨h.distinct, hnext⟩
  | refused hmode => exact h
  | found hfound => exact h
  | unknown hnone => exact h
  | removed id => exact h.sublist List.filter_sublist
  | cleared => exact h.sublist (List.nil_sublist _)

/-- To remove an id takes one artifact away if it is found, and none otherwise. -/
theorem size_remove (h : Orderly issue store) (id : String) :
    (store.remove id).1.size + (if (store.get? id).isSome then 1 else 0) = store.size := by
  have hcount : store.records.countP (·.id = id) = if (store.get? id).isSome then 1 else 0 := by
    have hmem : (store.get? id).isSome ↔ id ∈ store.records.map Record.id := by
      simp [Store.get?, List.find?_isSome]
    rw [if_congr hmem rfl rfl, ← h.distinct.count, List.count, List.countP_map]
    rfl
  have hrest : (store.remove id).1.size = store.records.countP (¬ ·.id = id) := by
    simp [Store.size, Store.remove, List.countP_eq_length_filter]
  have hall := store.records.length_eq_countP_add_countP (·.id = id)
  simp only [decide_eq_true_eq] at hall
  rw [hrest, Store.size, hall, hcount, Nat.add_comm]

/-- Unless all is cleared, the number of artifacts goes with what is added and removed. -/
theorem size_handles (h : Orderly issue store) (hhandles : Handles issue store request outcome)
    (hclear : request ≠ .clear) :
    outcome.1.size + [Exchange.mk request outcome.2].countP Exchange.removes =
      store.size + [Exchange.mk request outcome.2].countP Exchange.adds := by
  cases hhandles with
  | added hmode => simp [Store.size, Store.add, Exchange.removes, Exchange.adds, Exchange.added?]
  | refused hmode => simp [Exchange.removes, Exchange.adds, Exchange.added?]
  | found hfound => simp [Exchange.removes, Exchange.adds, Exchange.added?]
  | unknown hnone => simp [Exchange.removes, Exchange.adds, Exchange.added?]
  | removed id => simpa [Exchange.removes, Exchange.adds, Exchange.added?] using h.size_remove id
  | cleared => exact absurd rfl hclear

end Orderly

/-! ## What a whole history does -/

namespace Store

/-- An id that was issued is never added again. -/
theorem ne_of_issued (hissue : Function.Injective issue) {store : Store} {id : String}
    (hid : Issued issue store id) (requests : List Request) :
    ∀ exchange ∈ store.exchanges requests issue, ∀ record ∈ exchange.added?, record.id ≠ id := by
  induction requests generalizing store with
  | nil => simp [exchanges]
  | cons request requests ih =>
    have hhandles : Handles issue store request _ := handle_handles store request
    rw [exchanges_cons, List.forall_mem_cons]
    refine ⟨fun record hadded => ?_, ih (hhandles.issued hid)⟩
    rw [(hhandles.id_of_added hadded).1]
    exact (hid.ne_next hissue).symm

/-- What is found under an id that is never added stays until a request ends it. -/
theorem get?_after {store : Store} {id : String} {requests : List Request}
    (hid : ∀ exchange ∈ store.exchanges requests issue, ∀ record ∈ exchange.added?,
      record.id ≠ id) :
    (store.after requests issue).get? id =
      if ∃ request ∈ requests, request.Ends id then none else store.get? id := by
  induction requests generalizing store with
  | nil => rfl
  | cons request requests ih =>
    rw [exchanges_cons, List.forall_mem_cons] at hid
    have hfirst := (handle_handles store request).get?_of_unadded hid.1
    rw [after_cons, ih hid.2, hfirst]
    simp only [List.exists_mem_cons_iff, ite_or]
    split_ifs <;> rfl

end Store

/-- The store is orderly after all requests. -/
theorem orderly_storeAfter (hissue : Function.Injective issue) (past : List Request) :
    Orderly issue (storeAfter issue past) := by
  induction past using List.reverseRecOn with
  | nil => exact .empty
  | append_singleton past last ih =>
    rw [storeAfter_concat]
    exact ih.handles hissue (handle_handles _ last)

/-- An artifact is found from its addition until its id is removed or all is cleared. -/
theorem get?_of_added (hissue : Function.Injective issue) {past : List Request}
    {before since : List Exchange} {exchange : Exchange} {record : Record}
    (h : history issue past = before ++ exchange :: since) (hadded : exchange.added? = some record) :
    (storeAfter issue past).get? record.id =
      if ∃ later ∈ since, later.request.Ends record.id then none else some record := by
  obtain ⟨hpast, hanswer⟩ := Store.eq_append_of_exchanges h
  let reached := storeAfter issue (before.map Exchange.request)
  let grown := (reached.handle exchange.request issue).1
  have hhandles : Handles issue reached exchange.request _ := handle_handles reached _
  have hnew : Exchange.added? ⟨exchange.request, (reached.handle exchange.request issue).2⟩ =
      some record := by
    rw [← hadded]
    exact congrArg (fun answer => Exchange.added? ⟨exchange.request, answer⟩) hanswer.symm
  obtain ⟨hid, hissued, hrecords⟩ := hhandles.id_of_added hnew
  have hfound : grown.get? record.id = some record := by
    have hfresh : reached.get? (issue (reached.issued + 1)) = none :=
      Store.get?_next hissue (orderly_storeAfter hissue _).issued
    rw [← hid, Store.get?] at hfresh
    rw [Store.get?, hrecords, List.find?_append, hfresh]
    simp
  have hgrown : Issued issue grown record.id := ⟨reached.issued + 1, hissued.ge, hid⟩
  have hafter : storeAfter issue past = grown.after (since.map Exchange.request) issue := by
    rw [hpast, storeAfter, Store.after, List.foldl_append]
    rfl
  rw [hafter, Store.get?_after (Store.ne_of_issued hissue hgrown _), hfound]
  simp only [List.mem_map, exists_exists_and_eq_and]

/-- The number of artifacts is that of the additions less the removals since all was cleared. -/
theorem size_storeAfter (hissue : Function.Injective issue) (past : List Request) :
    (storeAfter issue past).size + (sinceClear (history issue past)).countP Exchange.removes =
      (sinceClear (history issue past)).countP Exchange.adds := by
  induction past using List.reverseRecOn with
  | nil => rfl
  | append_singleton past last ih =>
    rw [storeAfter_concat, history_concat, sinceClear]
    by_cases hclear : last = .clear
    · subst hclear
      rw [List.rtakeWhile_concat_neg _ _ _ (by simp)]
      rfl
    · have hlast := (orderly_storeAfter hissue past).size_handles (handle_handles _ last) hclear
      rw [List.rtakeWhile_concat_pos _ _ _ (by simpa using hclear), List.countP_append,
        List.countP_append, answerTo]
      rw [sinceClear] at ih
      omega

/-- What a store answers next, as its history tells it. -/
structure ToldByHistory (issue : Nat → String) (past : List Request) : Prop where
  add : ∀ draft offer mode, offer.mode? = some mode →
    ∃ record, answerTo issue past (.add draft offer) = .record record ∧
      record.toDraft = { draft with addressing := mode }
  get_added : ∀ before exchange since record,
    history issue past = before ++ exchange :: since → exchange.added? = some record →
    answerTo issue past (.get record.id) =
      if ∃ later ∈ since, later.request.Ends record.id then .unknown record.id else .record record
  get_never_added : ∀ id,
    (∀ exchange ∈ history issue past, ∀ record ∈ exchange.added?, record.id ≠ id) →
    answerTo issue past (.get id) = .unknown id
  remove : ∀ id, ∃ found, answerTo issue past (.remove id) = .removed found ∧
    (found = true ↔ ∃ record, answerTo issue past (.get id) = .record record)
  get_unchanged : ∀ id, storeAfter issue (past ++ [.get id]) = storeAfter issue past
  remove_unchanged : ∀ id, answerTo issue past (.remove id) = .removed false →
    storeAfter issue (past ++ [.remove id]) = storeAfter issue past
  size : ((storeAfter issue past).size : Int) =
    (sinceClear (history issue past)).countP Exchange.adds -
      (sinceClear (history issue past)).countP Exchange.removes

/-- The answer to a look-up is what is found. -/
theorem answerTo_get (past : List Request) (id : String) :
    answerTo issue past (.get id) =
      ((storeAfter issue past).get? id).elim (.unknown id) .record := by
  rw [answerTo, Store.handle_get]

/-- The answer to a removal is whether anything is found. -/
theorem answerTo_remove (past : List Request) (id : String) :
    answerTo issue past (.remove id) = .removed ((storeAfter issue past).get? id).isSome := rfl

/-- Whatever was asked of a store, its history tells what it answers next. -/
theorem toldByHistory (hissue : Function.Injective issue) (past : List Request) :
    ToldByHistory issue past where
  add draft offer mode hmode := by
    simp [answerTo, Store.handle, hmode, Store.add]
  get_added before exchange since record h hadded := by
    rw [answerTo_get, get?_of_added hissue h hadded]
    split_ifs <;> rfl
  get_never_added id hid := by
    rw [answerTo_get, storeAfter, Store.get?_after hid]
    split_ifs <;> rfl
  remove id := by
    refine ⟨_, answerTo_remove past id, ?_⟩
    rw [answerTo_get]
    cases (storeAfter issue past).get? id <;> simp
  get_unchanged id := by
    rw [storeAfter_concat, Store.handle_get]
  remove_unchanged id h := by
    rw [answerTo_remove, Answer.removed.injEq, Option.isSome_eq_false_iff,
      Option.isNone_iff_eq_none] at h
    rw [storeAfter_concat]
    exact Store.remove_of_get?_eq_none h
  size := by
    have hsize := size_storeAfter hissue past
    omega

/-- Of two artifacts the first is removed twice, and an id is looked up that was never issued. -/
theorem toldByHistory_removed_twice :
    let draft : Draft := ⟨Text.widen "[-]", .localVariable, "", "", 2⟩
    let past := [.add draft (.named "local"), .add draft (.named "global"), .remove (idOf 1),
      .remove (idOf 1)]
    Function.Injective idOf ∧
      answerTo idOf past (.get (idOf 1)) = .unknown (idOf 1) ∧
      answerTo idOf past (.get (idOf 2)) =
        .record ⟨{ draft with addressing := .globalVariable }, idOf 2⟩ ∧
      answerTo idOf past (.get "") = .unknown "" ∧ (storeAfter idOf past).size = 1 := by
  intro draft past
  let first : Record := ⟨draft, idOf 1⟩
  let second : Record := ⟨{ draft with addressing := .globalVariable }, idOf 2⟩
  have hhistory : history idOf past = [⟨.add draft (.named "local"), .record first⟩,
      ⟨.add draft (.named "global"), .record second⟩, ⟨.remove (idOf 1), .removed true⟩,
      ⟨.remove (idOf 1), .removed false⟩] := by decide +kernel
  have told := toldByHistory idOf_injective past
  refine ⟨idOf_injective, ?_, ?_, ?_, ?_⟩
  · rw [told.get_added [] _ _ first hhistory rfl]
    decide +kernel
  · rw [told.get_added [_] _ _ second hhistory rfl]
    decide +kernel
  · apply told.get_never_added
    rw [hhistory]
    decide +kernel
  · have hcounts : ((sinceClear (history idOf past)).countP Exchange.adds : Int) -
        (sinceClear (history idOf past)).countP Exchange.removes = 1 := by
      rw [hhistory]
      decide +kernel
    exact Int.ofNat.inj (told.size.trans hcounts)

end BrainfuckWasm.Artifact
