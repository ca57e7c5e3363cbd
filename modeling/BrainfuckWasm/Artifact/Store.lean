import BrainfuckWasm.Addressing
import BrainfuckWasm.Text.Wide

/-!
# The store of compiled modules

A store holds artifacts by id. Ids are issued in order and never twice, so an id stands for the one
artifact that was added with it, until that is removed.
-/

namespace BrainfuckWasm.Artifact

/-- What is known of a compiled module before it is stored. -/
structure Draft where
  /-- The source as it was sent. -/
  code : Text.Wide
  addressing : Addressing
  body : String
  module : String
  labelCount : Int
  deriving DecidableEq, Repr

/-- A stored module. -/
structure Record extends Draft where
  id : String
  deriving DecidableEq, Repr

/-- The number of loops: two labels each, rounded down. -/
def Record.loopCount (record : Record) : Int :=
  record.labelCount.fdiv 2

/-- The id with a serial number: thirty-two hexadecimal digits. -/
def idOf (serial : Nat) : String :=
  Text.hexPadded 32 serial

/-- The stored modules, and how many ids were ever issued. -/
structure Store where
  issued : Nat := 0
  records : List Record := []
  deriving DecidableEq, Repr

namespace Store

/-- The artifact with an id. -/
def get? (store : Store) (id : String) : Option Record :=
  store.records.find? (·.id = id)

/-- Store a module under a fresh id. -/
def add (store : Store) (draft : Draft) (issue : Nat → String := idOf) : Store × Record :=
  let record : Record := { draft with id := issue (store.issued + 1) }
  (⟨store.issued + 1, store.records ++ [record]⟩, record)

/-- Remove the artifact with an id, and tell whether there was one. -/
def remove (store : Store) (id : String) : Store × Bool :=
  ({ store with records := store.records.filter (·.id ≠ id) }, (store.get? id).isSome)

/-- Remove all artifacts. -/
def clear (store : Store) : Store :=
  { store with records := [] }

/-- The number of artifacts. -/
def size (store : Store) : Nat :=
  store.records.length

/-- An artifact is found under the id that it was stored with, if that is fresh. -/
theorem get?_add_self {store : Store} (draft : Draft) (issue : Nat → String)
    (hfresh : store.get? (issue (store.issued + 1)) = none) :
    (store.add draft issue).1.get? (issue (store.issued + 1)) = some (store.add draft issue).2 := by
  rw [get?, List.find?_eq_none] at hfresh
  simp only [get?, add, List.find?_append]
  rw [List.find?_eq_none.mpr hfresh]
  simp

/-- Storing an artifact leaves what is found under all other ids. -/
theorem get?_add_of_ne (store : Store) (draft : Draft) (issue : Nat → String) {id : String}
    (h : id ≠ issue (store.issued + 1)) :
    (store.add draft issue).1.get? id = store.get? id := by
  simp only [get?, add, List.find?_append]
  simp [Ne.symm h]

/-- A removed artifact is not found again. -/
@[simp]
theorem get?_remove_self (store : Store) (id : String) : (store.remove id).1.get? id = none := by
  simp [get?, remove, List.find?_eq_none]

/-- Removing an artifact leaves all others in place. -/
theorem get?_remove_of_ne (store : Store) {id other : String} (h : other ≠ id) :
    (store.remove id).1.get? other = store.get? other := by
  simp only [get?, remove, List.find?_filter]
  congr 1
  funext record
  by_cases hrecord : record.id = other <;> simp_all

/-- Removing an artifact that is not there changes nothing. -/
theorem remove_of_get?_eq_none {store : Store} {id : String} (h : store.get? id = none) :
    (store.remove id).1 = store := by
  have hrecords : store.records.filter (·.id ≠ id) = store.records := by
    rw [List.filter_eq_self]
    intro record hrecord
    simpa using List.find?_eq_none.mp h record hrecord
  rw [remove, hrecords]

/-- Nothing is found in a cleared store. -/
@[simp]
theorem get?_clear (store : Store) (id : String) : store.clear.get? id = none := rfl

end Store

/-- The text about an id that no artifact has. -/
def unknownText (id : String) : String :=
  "Unknown artifact id: " ++ id

/-- What can be asked of a store. -/
inductive Request where
  /-- Add a draft for an offered addressing mode, which replaces the draft's own. -/
  | add (draft : Draft) (offer : Addressing.Offer)
  | get (id : String)
  | remove (id : String)
  | clear
  deriving DecidableEq, Repr

/-- What a store answers. -/
inductive Answer where
  | record (record : Record)
  | unknown (id : String)
  | removed (found : Bool)
  | cleared
  | unknownAddressing (offer : Addressing.Offer)
  deriving DecidableEq, Repr

/-- Carry out one request. A refused addressing mode uses up no id. -/
def Store.handle (store : Store) (request : Request) (issue : Nat → String := idOf) :
    Store × Answer :=
  match request with
  | .add draft offer =>
    match offer.mode? with
    | none => (store, .unknownAddressing offer)
    | some mode =>
      let (grown, record) := store.add { draft with addressing := mode } issue
      (grown, .record record)
  | .get id =>
    match store.get? id with
    | some record => (store, .record record)
    | none => (store, .unknown id)
  | .remove id =>
    let (left, found) := store.remove id
    (left, .removed found)
  | .clear => (store.clear, .cleared)

/-- Carry out requests one after another, with the store after each. -/
def Store.handleAll (store : Store) (requests : List Request) (issue : Nat → String := idOf) :
    List (Answer × Store) :=
  match requests with
  | [] => []
  | request :: rest =>
    let (next, answer) := store.handle request issue
    (answer, next) :: next.handleAll rest issue

end BrainfuckWasm.Artifact
