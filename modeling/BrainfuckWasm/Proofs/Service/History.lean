import Mathlib.Data.List.Induction
import BrainfuckWasm.Proofs.Artifact.Ids
import BrainfuckWasm.Proofs.Service.Serving

/-!
# The store in the course of time

The service starts with an empty store and handles visits one after another, each with an assembler
that may behave in its own way. All artifacts that are ever stored are sound and have ids that were
issued. Provided that no id is issued twice, an artifact is found under an id exactly if some visit
has stored it with that id and no later one has deleted the id.
-/

namespace BrainfuckWasm.Service

open Artifact (Draft Record Store)
open Assembler (Tool)

/-- A request, and what the assembler does at the time. -/
structure Visit where
  tool : Tool
  request : Request

/-- What a visit asks for. -/
def Visit.ask (setup : Setup) (visit : Visit) : Ask :=
  visit.request.ask setup

/-- The store after visits one after another. -/
def storeAfter (setup : Setup) (past : List Visit) : Store :=
  past.foldl (fun store visit => (handle setup visit.tool store visit.request).store) {}

/-- The reply to a visit after others. -/
def replyTo (setup : Setup) (past : List Visit) (visit : Visit) : Reply :=
  handle setup visit.tool (storeAfter setup past) visit.request

/-- The store after one more visit is that of the reply to it. -/
@[simp]
theorem storeAfter_concat (setup : Setup) (past : List Visit) (visit : Visit) :
    storeAfter setup (past ++ [visit]) = (replyTo setup past visit).store := by
  rw [storeAfter, List.foldl_append]
  rfl

/-- A visit is answered as it asks. -/
theorem replyTo_serves (setup : Setup) (past : List Visit) (visit : Visit) :
    Serves setup visit.tool (storeAfter setup past) (visit.ask setup) (replyTo setup past visit) :=
  handle_serves setup visit.tool (storeAfter setup past) visit.request

section Since

variable {did : List Visit → Visit → Prop} {undoes : Visit → Prop}

/-- Some visit did something after those before it, and no visit since then has undone it. -/
def Since (did : List Visit → Visit → Prop) (undoes : Visit → Prop) (past : List Visit) : Prop :=
  ∃ before visit after, past = before ++ visit :: after ∧ did before visit ∧
    ∀ later ∈ after, ¬ undoes later

/-- Nothing was done before the first visit. -/
theorem not_since_nil : ¬ Since did undoes [] := by
  rintro ⟨before, visit, after, hpast, -⟩
  simp at hpast

/-- After one more visit: that one did it, or it was done before and is not undone by it. -/
theorem since_concat_iff {past : List Visit} {last : Visit} :
    Since did undoes (past ++ [last]) ↔
      did past last ∨ (¬ undoes last ∧ Since did undoes past) := by
  constructor
  · rintro ⟨before, visit, after, hpast, hdid, hafter⟩
    -- The visit that did it is the last one, or the last one is among those after it.
    induction after using List.reverseRecOn with
    | nil =>
      obtain ⟨rfl, hlast⟩ := List.append_inj' hpast rfl
      cases hlast
      exact Or.inl hdid
    | append_singleton after final _ =>
      rw [← List.cons_append, ← List.append_assoc] at hpast
      obtain ⟨rfl, hlast⟩ := List.append_inj' hpast rfl
      cases hlast
      refine Or.inr ⟨hafter last (by simp), before, visit, after, rfl, hdid, ?_⟩
      exact fun later hlater => hafter later (List.mem_append_left _ hlater)
  · rintro (hdid | ⟨hlast, before, visit, after, rfl, hdid, hafter⟩)
    · exact ⟨past, last, [], rfl, hdid, by simp⟩
    · refine ⟨before, visit, after ++ [last], by simp, hdid, fun later hlater => ?_⟩
      rcases List.mem_append.mp hlater with hlater | hlater
      · exact hafter later hlater
      · rwa [List.mem_singleton.mp hlater]

end Since

/-- The artifacts of a store are sound, and their ids are among those that were issued. -/
structure Orderly (setup : Setup) (store : Store) : Prop where
  sound : ∀ record ∈ store.records, record.Sound
  issued : ∀ record ∈ store.records, ∃ serial ≤ store.issued, record.id = setup.issue serial

namespace Orderly

variable {setup : Setup} {store : Store}

/-- An empty store is orderly. -/
theorem empty (setup : Setup) : Orderly setup {} :=
  ⟨by simp, by simp⟩

/-- Storing a sound artifact keeps a store orderly. -/
theorem add (h : Orderly setup store) {draft : Draft}
    (hsound : (store.add draft setup.issue).2.Sound) :
    Orderly setup (store.add draft setup.issue).1 := by
  refine ⟨fun record hrecord => ?_, fun record hrecord => ?_⟩
  · rcases List.mem_append.mp hrecord with hold | hnew
    · exact h.sound record hold
    · rw [List.mem_singleton.mp hnew]
      exact hsound
  · rcases List.mem_append.mp hrecord with hold | hnew
    · obtain ⟨serial, hserial, hid⟩ := h.issued record hold
      exact ⟨serial, Nat.le_succ_of_le hserial, hid⟩
    · rw [List.mem_singleton.mp hnew]
      exact ⟨store.issued + 1, Nat.le_refl _, rfl⟩

/-- Removing an artifact keeps a store orderly. -/
theorem remove (h : Orderly setup store) (id : String) : Orderly setup (store.remove id).1 :=
  ⟨fun record hrecord => h.sound record (List.mem_of_mem_filter hrecord),
    fun record hrecord => h.issued record (List.mem_of_mem_filter hrecord)⟩

/-- Whatever is asked for, an orderly store stays so. -/
theorem serves (h : Orderly setup store) {tool : Tool} {ask : Ask} {reply : Reply}
    (hserves : Serves setup tool store ask reply) : Orderly setup reply.store := by
  cases hserves with
  | refused hrefusal => exact h
  | stored hsound => exact h.add hsound
  | unknown hask hnone => exact h
  | payload hfound => exact h
  | moduleText hfound => exact h
  | moduleBinary hfound hprogram => exact h
  | nameless hfound hprogram => exact h
  | deleted hfound => exact h.remove _
  | undeleted hnone => exact h
  | other hstore => exact hstore ▸ h

/-- The id that is issued next is fresh. -/
theorem get?_next (h : Orderly setup store) (hissue : Function.Injective setup.issue) :
    store.get? (setup.issue (store.issued + 1)) = none :=
  Store.get?_next hissue h.issued

end Orderly

/-- The store is orderly after all visits. -/
theorem orderly_storeAfter (setup : Setup) (past : List Visit) :
    Orderly setup (storeAfter setup past) := by
  induction past using List.reverseRecOn with
  | nil => exact .empty setup
  | append_singleton past last ih =>
    rw [storeAfter_concat]
    exact ih.serves (replyTo_serves setup past last)

/-- A visit stores an artifact with the next id, and answers with it if that can be sent. -/
structure Adds (setup : Setup) (past : List Visit) (visit : Visit) (record : Record) : Prop where
  asked : ∃ body, visit.ask setup = .compile body
  records_eq : (replyTo setup past visit).store.records =
    (storeAfter setup past).records ++ [record]
  id_eq : record.id = setup.issue ((storeAfter setup past).issued + 1)
  outcome_eq : (replyTo setup past visit).outcome = payloadResponse 201 record

/-- A compile request is refused and changes nothing, or it adds an artifact. -/
theorem refusal_or_adds {setup : Setup} {past : List Visit} {visit : Visit} {body : List UInt8}
    (hask : visit.ask setup = .compile body) :
    (Refusal (replyTo setup past visit).outcome ∧
      (replyTo setup past visit).store = storeAfter setup past) ∨
    ∃ draft, Adds setup past visit ((storeAfter setup past).add draft setup.issue).2 ∧
      (replyTo setup past visit).store = ((storeAfter setup past).add draft setup.issue).1 := by
  have hserves := replyTo_serves setup past visit
  have hadds (record : Record) := @Adds.mk setup past visit record ⟨body, hask⟩
  rw [hask] at hserves
  generalize replyTo setup past visit = reply at hserves hadds ⊢
  cases hserves with
  | refused hrefusal => exact Or.inl ⟨hrefusal, rfl⟩
  | @stored _ draft hsound => exact Or.inr ⟨draft, hadds _ rfl rfl rfl, rfl⟩
  | unknown hread hnone => cases hread

/-- Deleting removes at most the artifact of one id. -/
theorem store_replyTo_of_delete {setup : Setup} {past : List Visit} {visit : Visit} {id : String}
    (hask : visit.ask setup = .delete id) :
    (replyTo setup past visit).store = ((storeAfter setup past).remove id).1 := by
  have hserves := replyTo_serves setup past visit
  rw [hask] at hserves
  generalize replyTo setup past visit = reply at hserves ⊢
  cases hserves with
  | unknown hread hnone => cases hread
  | deleted hfound => rfl
  | undeleted hnone => exact (Store.remove_of_get?_eq_none hnone).symm

/-- Only compile requests and deletions change the store. -/
theorem store_replyTo_of_ne {setup : Setup} {past : List Visit} {visit : Visit}
    (hcompile : ∀ body, visit.ask setup ≠ .compile body)
    (hdelete : ∀ id, visit.ask setup ≠ .delete id) :
    (replyTo setup past visit).store = storeAfter setup past := by
  have hserves := replyTo_serves setup past visit
  generalize replyTo setup past visit = reply at hserves ⊢
  generalize visit.ask setup = ask at hcompile hdelete hserves
  cases hserves with
  | refused hrefusal => exact absurd rfl (hcompile _)
  | stored hsound => exact absurd rfl (hcompile _)
  | unknown hask hnone => rfl
  | payload hfound => rfl
  | moduleText hfound => rfl
  | moduleBinary hfound hprogram => rfl
  | nameless hfound hprogram => rfl
  | deleted hfound => exact absurd rfl (hdelete _)
  | undeleted hnone => rfl
  | other hstore => exact hstore

/-- A compile request adds one artifact at most, and nothing else is found differently. -/
theorem get?_replyTo_of_compile {setup : Setup} (hissue : Function.Injective setup.issue)
    {past : List Visit} {visit : Visit} {body : List UInt8}
    (hask : visit.ask setup = .compile body) (id : String) (record : Record) :
    (replyTo setup past visit).store.get? id = some record ↔
      (Adds setup past visit record ∧ record.id = id) ∨
        (storeAfter setup past).get? id = some record := by
  rcases refusal_or_adds hask with ⟨-, hstore⟩ | ⟨draft, hnew, hstore⟩
  · have hnone : ¬ (Adds setup past visit record ∧ record.id = id) := by
      rintro ⟨hadds, -⟩
      have hrecords := hadds.records_eq
      rw [hstore] at hrecords
      simp at hrecords
    rw [hstore]
    simp [hnone]
  · have hsame : Adds setup past visit record ↔
        record = ((storeAfter setup past).add draft setup.issue).2 := by
      refine ⟨fun hadds => ?_, fun heq => heq ▸ hnew⟩
      simpa using hadds.records_eq.symm.trans hnew.records_eq
    rw [hstore, hsame]
    -- Only the id that was next is looked up differently, and nothing was found there before.
    by_cases hid : id = setup.issue ((storeAfter setup past).issued + 1)
    · subst hid
      have hfresh := (orderly_storeAfter setup past).get?_next hissue
      rw [Store.get?_add_self draft setup.issue hfresh, hfresh]
      simp only [Option.some.injEq, reduceCtorEq, or_false]
      refine ⟨fun heq => ⟨heq.symm, ?_⟩, fun heq => heq.1.symm⟩
      rw [← heq]
      rfl
    · have hother : ¬ (record = ((storeAfter setup past).add draft setup.issue).2 ∧
          record.id = id) := by
        rintro ⟨rfl, hrecord⟩
        exact hid hrecord.symm
      rw [Store.get?_add_of_ne _ draft setup.issue hid]
      simp [hother]

/-- What is found after one more visit: what that has added, or what was found before unless it was
deleted. -/
theorem get?_replyTo_iff {setup : Setup} (hissue : Function.Injective setup.issue)
    (past : List Visit) (visit : Visit) (id : String) (record : Record) :
    (replyTo setup past visit).store.get? id = some record ↔
      (Adds setup past visit record ∧ record.id = id) ∨
        (visit.ask setup ≠ .delete id ∧ (storeAfter setup past).get? id = some record) := by
  by_cases hcompile : ∃ body, visit.ask setup = .compile body
  · obtain ⟨body, hask⟩ := hcompile
    rw [get?_replyTo_of_compile hissue hask]
    simp [hask]
  · have hunadded : ¬ (Adds setup past visit record ∧ record.id = id) :=
      fun hadds => hcompile hadds.1.asked
    by_cases hdelete : ∃ other, visit.ask setup = .delete other
    · obtain ⟨other, hask⟩ := hdelete
      rw [store_replyTo_of_delete hask]
      by_cases hid : id = other
      · subst hid
        simp [hask, hunadded]
      · rw [Store.get?_remove_of_ne _ hid]
        simp [hask, hunadded, Ne.symm hid]
    · push Not at hcompile hdelete
      rw [store_replyTo_of_ne hcompile hdelete]
      simp [hunadded, hdelete id]

/-- An artifact is found under an id exactly if it was added with that id and the id was not deleted
since. -/
theorem get?_storeAfter_iff {setup : Setup} (hissue : Function.Injective setup.issue)
    (past : List Visit) (id : String) (record : Record) :
    (storeAfter setup past).get? id = some record ↔
      Since (fun before visit => Adds setup before visit record ∧ record.id = id)
        (fun visit => visit.ask setup = .delete id) past := by
  induction past using List.reverseRecOn with
  | nil => exact iff_of_false (by simp [storeAfter, Store.get?]) not_since_nil
  | append_singleton past last ih =>
    rw [storeAfter_concat, get?_replyTo_iff hissue, since_concat_iff, ih]

end BrainfuckWasm.Service
