import BrainfuckWasm.Options.Word
import BrainfuckWasm.Text.Quoted

/-!
# Reading a command line

The words are taken from left to right. A known option acts at once, with the value attached to it
or the plain word after it. The first plain word fills the one place that a command may have, and a
separator next to it is dropped. All other words are left over, and are refused at the end.
-/

namespace BrainfuckWasm.Options

/-- What a command line may hold. -/
structure Grammar (Key : Type) where
  specs : List (Spec Key)
  /-- The name of the place that one plain word must fill, if there is such a place. -/
  place : Option String := none

/-- What is wrong with a command line. -/
inductive Complaint where
  | ambiguous (ambiguity : Ambiguity)
  | valueExpected (option : String)
  | valueIgnored (option value : String)
  | valueRefused (option reason : String)
  | missing (place : String)
  | unrecognized (words : List String)
  deriving DecidableEq, Repr

/-- The diagnostic of a complaint. -/
def Complaint.message : Complaint → String
  | .ambiguous ambiguity =>
    "ambiguous option: " ++ ambiguity.word ++ " could match " ++
      String.intercalate ", " ambiguity.names
  | .valueExpected option => "argument " ++ option ++ ": expected one argument"
  | .valueIgnored option value =>
    "argument " ++ option ++ ": ignored explicit argument " ++ Text.quoted value
  | .valueRefused option reason => "argument " ++ option ++ ": " ++ reason
  | .missing place => "the following arguments are required: " ++ place
  | .unrecognized words => "unrecognized arguments: " ++ String.intercalate " " words

/-- Why reading stops early. -/
inductive Stop where
  | help
  | complaint (cause : Complaint)
  deriving DecidableEq, Repr

/-- What an option is given. -/
inductive Value where
  /-- The option takes no value. -/
  | flag
  | text (word : String)
  /-- The value was the separator, which is dropped and leaves nothing. -/
  | emptied
  deriving DecidableEq, Repr

/-- The value that a word gives. -/
def Value.ofWord (word : String) : Value :=
  if word = "--" then .emptied else .text word

/-- The word of a value that has one. -/
def Value.word? : Value → Option String
  | .text word => some word
  | _ => none

/-- An option as it occurs: with the value attached to it, if there is one. -/
abbrev Occurrence (Key : Type) := Spec Key × Option String

/-- The options that a short name and the characters after it stand for: flags one by one, up to
the first option that takes the rest as its value. -/
def unbundle {Key : Type} (specs : List (Spec Key)) (spec : Spec Key) :
    List Char → Except Complaint (List (Occurrence Key))
  | [] => .ok [(spec, none)]
  | c :: rest =>
    if spec.takesValue then .ok [(spec, some (String.ofList (c :: rest)))]
    else
      match find? specs (String.ofList ['-', c]) with
      | some next => (unbundle specs next rest).map ((spec, none) :: ·)
      | none => .error (.valueIgnored spec.title (String.ofList (c :: rest)))

/-- The options that one word stands for. -/
def occurrences {Key : Type} (specs : List (Spec Key)) (spec : Spec Key) (name : String) :
    Option (List Char) → Except Complaint (List (Occurrence Key))
  | none => .ok [(spec, none)]
  | some attached =>
    if spec.takesValue then .ok [(spec, some (String.ofList attached))]
    else if attached.isEmpty || name.startsWith "--" then
      .error (.valueIgnored spec.title (String.ofList attached))
    else unbundle specs spec attached

/-- The option at the end of a word that takes its value from the next word. -/
def awaiting? {Key : Type} (found : List (Occurrence Key)) : Option (Spec Key) :=
  match found.getLast? with
  | some (spec, none) => if spec.takesValue then some spec else none
  | _ => none

/-- How an option changes what has been read. -/
abbrev Action (Key State : Type) := State → Spec Key → Value → Except Stop State

/-- Let options act one after another. The last one may take its value from the next word. -/
def actAll {Key State : Type} (act : Action Key State) (next : Option String) (state : State) :
    List (Occurrence Key) → Except Stop State
  | [] => .ok state
  | (spec, attached) :: rest =>
    let value := match attached, spec.takesValue with
      | some word, _ => Value.ofWord word
      | none, true => Value.ofWord (next.getD "")
      | none, false => .flag
    match act state spec value with
    | .ok changed => actAll act next changed rest
    | .error stop => .error stop

/-- What has been read so far. -/
structure Reading (State : Type) where
  state : State
  /-- The word in the place for a plain one. -/
  filled : Option String := none
  /-- Words that fit nowhere. -/
  leftOver : List String := []

/-- A reading with one more word that fits nowhere. -/
def Reading.leave {State : Type} (reading : Reading State) (word : String) : Reading State :=
  { reading with leftOver := reading.leftOver ++ [word] }

/-- Whether a plain word is still wanted. -/
def Reading.wants {Key State : Type} (reading : Reading State) (grammar : Grammar Key) : Bool :=
  grammar.place.isSome && reading.filled.isNone

/-- Read classified words. -/
def readWords {Key State : Type} (grammar : Grammar Key) (act : Action Key State) :
    Reading State → List (String × Word Key) → Except Stop (Reading State)
  | reading, [] => .ok reading
  | reading, (_, .known spec name attached) :: (next, .plain) :: rest =>
    match occurrences grammar.specs spec name attached with
    | .error cause => .error (.complaint cause)
    | .ok found =>
      match actAll act (some next) reading.state found with
      | .error stop => .error stop
      | .ok state =>
        match awaiting? found with
        | some _ => readWords grammar act { reading with state := state } rest
        | none => readWords grammar act { reading with state := state } ((next, .plain) :: rest)
  | reading, (_, .known spec name attached) :: rest =>
    match occurrences grammar.specs spec name attached with
    | .error cause => .error (.complaint cause)
    | .ok found =>
      match awaiting? found with
      | some last => .error (.complaint (.valueExpected last.title))
      | none =>
        match actAll act none reading.state found with
        | .error stop => .error stop
        | .ok state => readWords grammar act { reading with state := state } rest
  | reading, (word, .unknown) :: rest => readWords grammar act (reading.leave word) rest
  | reading, (word, .plain) :: (mark, .separator) :: rest =>
    if reading.wants grammar then
      readWords grammar act { reading with filled := some word } rest
    else readWords grammar act ((reading.leave word).leave mark) rest
  | reading, (word, .plain) :: rest =>
    if reading.wants grammar then
      readWords grammar act { reading with filled := some word } rest
    else readWords grammar act (reading.leave word) rest
  | reading, (mark, .separator) :: (word, .plain) :: rest =>
    if reading.wants grammar then
      readWords grammar act { reading with filled := some word } rest
    else readWords grammar act ((reading.leave mark).leave word) rest
  | reading, (mark, .separator) :: rest => readWords grammar act (reading.leave mark) rest

/-- Read a command line from a first state: the final state and the word in the place for a plain
one. -/
def parse {Key State : Type} (grammar : Grammar Key) (act : Action Key State) (first : State)
    (words : List String) : Except Stop (State × Option String) :=
  match classifyAll grammar.specs words with
  | .error ambiguity => .error (.complaint (.ambiguous ambiguity))
  | .ok classified =>
    match readWords grammar act { state := first } classified with
    | .error stop => .error stop
    | .ok reading =>
      match grammar.place, reading.filled with
      | some place, none => .error (.complaint (.missing place))
      | _, _ =>
        if reading.leftOver.isEmpty then .ok (reading.state, reading.filled)
        else .error (.complaint (.unrecognized reading.leftOver))

end BrainfuckWasm.Options
