import BrainfuckWasm.Addressing

/-!
# Tokens of the text format

Text is split into parentheses, keywords, names, numbers and string literals. Blanks and parentheses
end a word, and nothing but those may come after a word or a literal. The lexer is a state machine
that reads one character at a time, so what it does on a text is put together from what it does on
its pieces.

This is a part of the format: keywords are only those that the other modules give a meaning to,
numbers are decimal, and there are neither comments nor escapes in literals. Any other text is
refused.
-/

namespace BrainfuckWasm.Wat

/-- A reserved word. -/
inductive Keyword where
  | wholeModule
  | hostImport
  | hostExport
  | memory
  | function
  | parameter
  | result
  | word32
  | mutable
  | declare (kind : Addressing)
  | get (kind : Addressing)
  | set (kind : Addressing)
  | constant
  | add
  | sub
  | equal
  | unequal
  | load
  | store
  | call
  | branchIf
  | block
  | loop
  deriving DecidableEq, Repr

namespace Keyword

/-- How a keyword is written. -/
def text : Keyword → String
  | wholeModule => "module"
  | hostImport => "import"
  | hostExport => "export"
  | memory => "memory"
  | function => "func"
  | parameter => "param"
  | result => "result"
  | word32 => "i32"
  | mutable => "mut"
  | declare kind => kind.word
  | get kind => kind.word ++ ".get"
  | set kind => kind.word ++ ".set"
  | constant => "i32.const"
  | add => "i32.add"
  | sub => "i32.sub"
  | equal => "i32.eq"
  | unequal => "i32.ne"
  | load => "i32.load8_u"
  | store => "i32.store8"
  | call => "call"
  | branchIf => "br_if"
  | block => "block"
  | loop => "loop"

/-- All keywords. -/
def all : List Keyword :=
  [wholeModule, hostImport, hostExport, memory, function, parameter, result, word32, mutable,
    declare .localVariable, declare .globalVariable, get .localVariable, get .globalVariable,
    set .localVariable, set .globalVariable, constant, add, sub, equal, unequal, load, store, call,
    branchIf, block, loop]

/-- The keyword that is written as the given characters. -/
def ofChars? (chars : List Char) : Option Keyword :=
  all.find? fun keyword => keyword.text.toList = chars

end Keyword

/-- A token that is no parenthesis. A name keeps its dollar sign, a literal loses its quotes. -/
inductive Atom where
  | keyword (keyword : Keyword)
  | name (text : String)
  | number (value : Nat)
  | literal (text : String)
  deriving DecidableEq, Repr

/-- A token. -/
inductive Token where
  | opening
  | closing
  | atom (atom : Atom)
  deriving DecidableEq, Repr

/-- The token that a word stands for: a name, a number or a keyword. -/
def Atom.ofWord? (word : List Char) : Option Atom :=
  if word.head? = some '$' then some (.name (String.ofList word))
  else if word.all Char.isDigit then some (.number (Nat.ofDigitChars 10 word 0))
  else (Keyword.ofChars? word).map .keyword

/-- A character that separates tokens. -/
def isBlank (c : Char) : Bool :=
  c = ' ' || c = '\t' || c = '\n' || c = '\r'

/-- The parenthesis or the blank that may stand right after a word, as tokens. -/
def delimiter? (c : Char) : Option (List Token) :=
  if c = '(' then some [.opening]
  else if c = ')' then some [.closing]
  else if isBlank c then some []
  else none

/-- A character of a word. -/
def isWordChar (c : Char) : Bool :=
  c.isAlphanum || c = '$' || c = '.' || c = '_'

/-- A character that stands for itself in a string literal: neither a quote nor a backslash nor a
control character. -/
def isLiteralChar (c : Char) : Bool :=
  c ≠ '"' && c ≠ '\\' && 0x20 ≤ c.toNat && c.toNat ≠ 0x7f

/-- Where a lexer stands. -/
inductive Lexing where
  /-- Between two tokens. -/
  | between
  /-- In a word, of which these characters are read. -/
  | word (read : List Char)
  /-- In a literal, of which these characters are read. -/
  | literal (read : List Char)
  /-- Right after a literal. -/
  | afterLiteral
  deriving DecidableEq, Repr

namespace Lexing

/-- Read one character: the tokens that it completes and where the lexer stands after it. -/
def advance (state : Lexing) (c : Char) : Option (List Token × Lexing) :=
  match state with
  | between =>
    match delimiter? c with
    | some tokens => some (tokens, between)
    | none =>
      if c = '"' then some ([], literal [])
      else if isWordChar c then some ([], word [c])
      else none
  | word read =>
    match delimiter? c with
    | some tokens => (Atom.ofWord? read).map fun atom => (.atom atom :: tokens, between)
    | none => if isWordChar c then some ([], word (read ++ [c])) else none
  | literal read =>
    if c = '"' then some ([.atom (.literal (String.ofList read))], afterLiteral)
    else if isLiteralChar c then some ([], literal (read ++ [c]))
    else none
  | afterLiteral => (delimiter? c).map fun tokens => (tokens, between)

/-- Read characters one after another. -/
def read (state : Lexing) : List Char → Option (List Token × Lexing)
  | [] => some ([], state)
  | c :: rest => do
    let (first, middle) ← state.advance c
    let (others, last) ← middle.read rest
    return (first ++ others, last)

/-- The tokens that the end of the text completes, unless it comes within a literal. -/
def finish : Lexing → Option (List Token)
  | between => some []
  | word read => (Atom.ofWord? read).map fun atom => [.atom atom]
  | literal _ => none
  | afterLiteral => some []

end Lexing

/-- The tokens of a text. -/
def tokens? (text : String) : Option (List Token) := do
  let (tokens, last) ← Lexing.between.read text.toList
  let others ← last.finish
  return tokens ++ others

/-- The lexer reads characters from a state, completes the tokens and stands in the next state. -/
def Lexing.Reads (state : Lexing) (chars : List Char) (tokens : List Token) (next : Lexing) : Prop :=
  state.read chars = some (tokens, next)

instance (state : Lexing) (chars : List Char) (tokens : List Token) (next : Lexing) :
    Decidable (state.Reads chars tokens next) :=
  inferInstanceAs (Decidable (state.read chars = some (tokens, next)))

namespace Lexing

/-- A character and those after it are read one after the other. -/
theorem Reads.cons {state middle last : Lexing} {c : Char} {rest : List Char}
    {first second : List Token} (hfirst : state.advance c = some (first, middle))
    (hsecond : middle.Reads rest second last) : state.Reads (c :: rest) (first ++ second) last := by
  have hread : middle.read rest = some (second, last) := hsecond
  rw [Reads, read, hfirst, Option.bind_eq_bind, Option.bind_some]
  exact congrArg (Option.bind · _) hread

/-- Two pieces of a text are read one after the other. -/
theorem Reads.append {state middle last : Lexing} {before after : List Char}
    {first second : List Token} (hfirst : state.Reads before first middle)
    (hsecond : middle.Reads after second last) :
    state.Reads (before ++ after) (first ++ second) last := by
  induction before generalizing state first with
  | nil =>
    cases hfirst
    exact hsecond
  | cons c rest ih =>
    rw [Reads, read, Option.bind_eq_bind, Option.bind_eq_some_iff] at hfirst
    obtain ⟨⟨tokens, next⟩, hadvance, hrest⟩ := hfirst
    obtain ⟨⟨others, reached⟩, hread, heq⟩ := Option.bind_eq_some_iff.mp hrest
    cases heq
    rw [List.cons_append, List.append_assoc]
    exact Reads.cons hadvance (ih hread)

/-- A character of a word does not end it. -/
theorem delimiter?_eq_none {c : Char} (h : isWordChar c = true) : delimiter? c = none := by
  have hne (other : Char) (hother : isWordChar other = false) : c ≠ other := by
    rintro rfl
    rw [h] at hother
    cases hother
  have hblank : isBlank c = false := by
    simp [isBlank, hne ' ' (by decide), hne '\t' (by decide), hne '\n' (by decide),
      hne '\r' (by decide)]
  simp [delimiter?, hne '(' (by decide), hne ')' (by decide), hblank]

/-- A word goes on with its characters. -/
theorem reads_word (before chars : List Char) (h : ∀ c ∈ chars, isWordChar c = true) :
    (word before).Reads chars [] (word (before ++ chars)) := by
  induction chars generalizing before with
  | nil => rw [List.append_nil]; rfl
  | cons c rest ih =>
    have hc := h c List.mem_cons_self
    have hadvance : (word before).advance c = some ([], word (before ++ [c])) := by
      simp [advance, delimiter?_eq_none hc, hc]
    have hrest := ih (before ++ [c]) fun other hother => h other (List.mem_cons_of_mem _ hother)
    rw [List.append_assoc, List.singleton_append] at hrest
    exact Reads.cons hadvance hrest

/-- A word starts with its first character. -/
theorem reads_between_word {chars : List Char} (hne : chars ≠ [])
    (h : ∀ c ∈ chars, isWordChar c = true) : between.Reads chars [] (word chars) := by
  cases chars with
  | nil => exact absurd rfl hne
  | cons c rest =>
    have hc := h c List.mem_cons_self
    have hquote : c ≠ '"' := by
      rintro rfl
      exact absurd hc (by decide)
    have hadvance : between.advance c = some ([], word [c]) := by
      simp [advance, delimiter?_eq_none hc, hc, hquote]
    exact Reads.cons hadvance
      (reads_word [c] rest fun other hother => h other (List.mem_cons_of_mem _ hother))

/-- A delimiter ends a word. -/
theorem Reads.word_delimiter {chars rest : List Char} {atom : Atom} {c : Char}
    {first second : List Token} {last : Lexing} (hatom : Atom.ofWord? chars = some atom)
    (hc : delimiter? c = some first) (hrest : between.Reads rest second last) :
    (word chars).Reads (c :: rest) (.atom atom :: (first ++ second)) last := by
  have hadvance : (word chars).advance c = some (.atom atom :: first, between) := by
    simp [advance, hc, hatom]
  exact Reads.cons hadvance hrest

/-- A literal goes on with its characters. -/
theorem reads_literal (before chars : List Char) (h : ∀ c ∈ chars, isLiteralChar c = true) :
    (literal before).Reads chars [] (literal (before ++ chars)) := by
  induction chars generalizing before with
  | nil => rw [List.append_nil]; rfl
  | cons c rest ih =>
    have hc := h c List.mem_cons_self
    have hquote : c ≠ '"' := by
      rintro rfl
      exact absurd hc (by decide)
    have hadvance : (literal before).advance c = some ([], literal (before ++ [c])) := by
      simp [advance, hc, hquote]
    have hrest := ih (before ++ [c]) fun other hother => h other (List.mem_cons_of_mem _ hother)
    rw [List.append_assoc, List.singleton_append] at hrest
    exact Reads.cons hadvance hrest

/-- A quote ends a literal. -/
theorem Reads.literal_quote (text : String) (h : ∀ c ∈ text.toList, isLiteralChar c = true)
    {rest : List Char} {tokens : List Token} {last : Lexing}
    (hrest : afterLiteral.Reads rest tokens last) :
    (literal []).Reads (text.toList ++ '"' :: rest) (.atom (.literal text) :: tokens) last := by
  have hquote : (literal text.toList).advance '"' =
      some ([.atom (.literal text)], afterLiteral) := by
    simp [advance]
  exact (reads_literal [] text.toList h).append (Reads.cons hquote hrest)

/-- Spaces between tokens change nothing. -/
theorem reads_spaces (count : Nat) : between.Reads (List.replicate count ' ') [] between := by
  induction count with
  | zero => rfl
  | succ count ih =>
    have hadvance : between.advance ' ' = some ([], between) := by decide
    exact Reads.cons hadvance ih

end Lexing

/-- A text that begins and ends between tokens, with the tokens in it. -/
def Lexes (text : String) (tokens : List Token) : Prop :=
  Lexing.between.Reads text.toList tokens .between

instance (text : String) (tokens : List Token) : Decidable (Lexes text tokens) :=
  inferInstanceAs (Decidable (Lexing.between.Reads text.toList tokens .between))

namespace Lexes

/-- Texts one after another have the tokens of both. -/
theorem append {before after : String} {first second : List Token} (hfirst : Lexes before first)
    (hsecond : Lexes after second) : Lexes (before ++ after) (first ++ second) := by
  rw [Lexes, String.toList_append]
  exact Lexing.Reads.append hfirst hsecond

/-- A line feed adds no token. -/
theorem line {text : String} {tokens : List Token} (h : Lexes text tokens) :
    Lexes (text ++ "\n") tokens := by
  have hfeed : Lexes "\n" [] := by decide
  have hline := h.append hfeed
  rwa [List.append_nil] at hline

/-- Texts that are joined have the tokens of all. -/
theorem join {α : Type} (items : List α) (text : α → String) (tokens : α → List Token)
    (h : ∀ item ∈ items, Lexes (text item) (tokens item)) :
    Lexes (String.join (items.map text)) (items.flatMap tokens) := by
  induction items with
  | nil => rfl
  | cons item rest ih =>
    have hrest := ih fun other hother => h other (List.mem_cons_of_mem _ hother)
    rw [List.map_cons, String.join_cons, List.flatMap_cons]
    exact (h item List.mem_cons_self).append hrest

/-- Such a text has these tokens. -/
theorem tokens?_eq {text : String} {tokens : List Token} (h : Lexes text tokens) :
    tokens? text = some tokens := by
  have hread : Lexing.between.read text.toList = some (tokens, .between) := h
  rw [tokens?, hread]
  exact congrArg some (List.append_nil tokens)

end Lexes

end BrainfuckWasm.Wat
