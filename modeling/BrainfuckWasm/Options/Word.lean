import BrainfuckWasm.Text.DecimalDigit

/-!
# Words of a command line

A word is an option, a plain word or the separator after which all words are plain. A word that
starts with a dash is an option if it is the name of one, alone or before its first equals sign, if
it abbreviates exactly one long name, or if it starts with a short name. Failing that, a negative
number and a word with a space are plain, and any other word is an unknown option.
-/

namespace BrainfuckWasm.Options

/-- An option of a command: its short names are a dash and a letter, its long names start with two
dashes. -/
structure Spec (Key : Type) where
  key : Key
  names : List String
  takesValue : Bool := false

/-- An option as diagnostics name it. -/
def Spec.title {Key : Type} (spec : Spec Key) : String :=
  String.intercalate "/" spec.names

/-- All names with their options, in the order of the list. -/
def named {Key : Type} (specs : List (Spec Key)) : List (String × Spec Key) :=
  specs.flatMap fun spec => spec.names.map fun name => (name, spec)

/-- The option of exactly a name. -/
def find? {Key : Type} (specs : List (Spec Key)) (name : String) : Option (Spec Key) :=
  specs.find? fun spec => spec.names.contains name

/-- What a word of a command line is. -/
inductive Word (Key : Type) where
  | plain
  | separator
  /-- An option by one of its names, and the value attached to it. -/
  | known (spec : Spec Key) (name : String) (attached : Option (List Char))
  | unknown

/-- A word that abbreviates several names. -/
structure Ambiguity where
  word : String
  names : List String
  deriving DecidableEq, Repr

/-- The part of a list before its first equals sign, and the part after it if there is one. -/
def splitEquals : List Char → List Char × Option (List Char)
  | [] => ([], none)
  | c :: rest =>
    if c = '=' then ([], some rest)
    else
      let (front, value) := splitEquals rest
      (c :: front, value)

/-- A list without a final line feed. -/
def dropFinalLineFeed (cs : List Char) : List Char :=
  if cs.getLast? = some '\n' then cs.dropLast else cs

/-- Whether digits with at most one point among them, and digits after it, make up a list. A final
line feed is not looked at. -/
def isUnsignedNumber (cs : List Char) : Bool :=
  let digits := dropFinalLineFeed cs
  match digits.dropWhile Text.isDecimalDigit with
  | [] => !digits.isEmpty
  | '.' :: fraction => !fraction.isEmpty && fraction.all Text.isDecimalDigit
  | _ => false

/-- The options that a word with a leading dash and no exact name may stand for, with the name that
it stands for and the value attached to it. -/
def candidates {Key : Type} (specs : List (Spec Key)) (word : List Char) :
    List (String × Spec Key × Option (List Char)) :=
  match word with
  | '-' :: '-' :: _ =>
    let (front, value) := splitEquals word
    ((named specs).filter fun entry => front.isPrefixOf entry.1.toList).map fun entry =>
      (entry.1, entry.2, value)
  | '-' :: letter :: value =>
    ((named specs).filter fun entry => entry.1 = String.ofList ['-', letter]).map fun entry =>
      (entry.1, entry.2, some value)
  | _ => []

/-- What a word before the separator is. -/
def classify {Key : Type} (specs : List (Spec Key)) (word : String) :
    Except Ambiguity (Word Key) :=
  match word.toList with
  | '-' :: second :: rest =>
    match find? specs word with
    | some spec => .ok (.known spec word none)
    | none =>
      let (front, value) := splitEquals ('-' :: second :: rest)
      match value, find? specs (String.ofList front) with
      | some attached, some spec => .ok (.known spec (String.ofList front) (some attached))
      | _, _ =>
        match candidates specs ('-' :: second :: rest) with
        | [(name, spec, attached)] => .ok (.known spec name attached)
        | [] =>
          if isUnsignedNumber (second :: rest) || word.toList.contains ' ' then .ok .plain
          else .ok .unknown
        | several => .error ⟨word, several.map (·.1)⟩
  | _ => .ok .plain

/-- What each word of a command line is, up to the first ambiguity. -/
def classifyAll {Key : Type} (specs : List (Spec Key)) :
    List String → Except Ambiguity (List (String × Word Key))
  | [] => .ok []
  | word :: rest =>
    if word = "--" then .ok ((word, .separator) :: rest.map fun later => (later, .plain))
    else
      match classify specs word with
      | .error ambiguity => .error ambiguity
      | .ok kind => (classifyAll specs rest).map ((word, kind) :: ·)

end BrainfuckWasm.Options
