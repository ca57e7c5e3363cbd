import BrainfuckWasm.Proofs.Wat.Token

/-!
# Rows of expressions

A row is a sequence of atoms and of parenthesised rows. As with programs, one type holds an item
together with what follows it, so that rows and their nesting are handled by one structural
recursion. Tokens are read from the last one back: at every point there is one row for each
parenthesis that is closed further on and opened further back, and one for the text as a whole.

Reading accepts exactly the tokens of rows, so a row is all that its tokens say.
-/

namespace BrainfuckWasm.Wat

/-- A row of atoms and parenthesised rows. -/
inductive Row where
  | done
  | atom (atom : Atom) (rest : Row)
  | group (inner rest : Row)
  deriving DecidableEq, Repr

namespace Row

/-- The tokens of a row. -/
def tokens : Row → List Token
  | done => []
  | atom a rest => .atom a :: rest.tokens
  | group inner rest => .opening :: (inner.tokens ++ .closing :: rest.tokens)

/-- A row followed by a further one. -/
def append : Row → Row → Row
  | done, next => next
  | atom a rest, next => atom a (rest.append next)
  | group inner rest, next => group inner (rest.append next)

/-- An empty row adds nothing. -/
theorem append_done (row : Row) : row.append done = row := by
  induction row with
  | done => rfl
  | atom a rest ih => rw [append, ih]
  | group inner rest _ ih => rw [append, ih]

/-- Put a token before rows, of which the first is the innermost. A closing parenthesis begins a row
within the others, and an opening one puts that row into the next. -/
def place : Token → List Row → Option (List Row)
  | .closing, rows => some (done :: rows)
  | .atom a, row :: outer => some (atom a row :: outer)
  | .opening, inner :: row :: outer => some (group inner row :: outer)
  | _, _ => none

/-- The rows that tokens are a part of, the innermost first. -/
def rows? : List Token → Option (List Row)
  | [] => some [done]
  | token :: rest => (rows? rest).bind (place token)

/-- The row of some tokens, if all parentheses match. -/
def ofTokens? (tokens : List Token) : Option Row :=
  match rows? tokens with
  | some [row] => some row
  | _ => none

/-- The tokens of a row are put before the innermost row. -/
theorem rows?_tokens_append (row : Row) {rest : List Token} {next : Row} {outer : List Row}
    (h : rows? rest = some (next :: outer)) :
    rows? (row.tokens ++ rest) = some (row.append next :: outer) := by
  induction row generalizing rest next outer with
  | done => exact h
  | atom a others ih =>
    rw [tokens, List.cons_append, rows?, ih h, Option.bind_some]
    rfl
  | group inner others ihinner ihothers =>
    have hclosing : rows? (.closing :: (others.tokens ++ rest)) =
        some (done :: others.append next :: outer) := by
      rw [rows?, ihothers h, Option.bind_some]
      rfl
    rw [tokens, List.cons_append, List.append_assoc, List.cons_append, rows?, ihinner hclosing,
      Option.bind_some, append_done]
    rfl

/-- The tokens of rows, each after the first following a closing parenthesis. -/
def flatten : List Row → List Token
  | [] => []
  | [row] => row.tokens
  | row :: next :: outer => row.tokens ++ .closing :: flatten (next :: outer)

/-- Putting a token before rows puts it before their tokens. -/
theorem flatten_of_place {token : Token} {before after : List Row} (hne : before ≠ [])
    (h : place token before = some after) :
    after ≠ [] ∧ flatten after = token :: flatten before := by
  cases before with
  | nil => exact absurd rfl hne
  | cons row outer =>
    cases token with
    | closing =>
      cases h
      exact ⟨List.cons_ne_nil _ _, rfl⟩
    | atom a =>
      cases h
      cases outer <;> exact ⟨List.cons_ne_nil _ _, rfl⟩
    | opening =>
      cases outer with
      | nil => cases h
      | cons next outer =>
        cases h
        refine ⟨List.cons_ne_nil _ _, ?_⟩
        cases outer with
        | nil => simp [flatten, tokens]
        | cons further outer => simp [flatten, tokens]

/-- The rows that tokens are a part of have these tokens. -/
theorem flatten_of_rows? {tokens : List Token} {rows : List Row} (h : rows? tokens = some rows) :
    rows ≠ [] ∧ flatten rows = tokens := by
  induction tokens generalizing rows with
  | nil =>
    cases h
    exact ⟨List.cons_ne_nil _ _, rfl⟩
  | cons token rest ih =>
    obtain ⟨before, hbefore, hplace⟩ := Option.bind_eq_some_iff.mp h
    obtain ⟨hne, hflatten⟩ := ih hbefore
    rw [← hflatten]
    exact flatten_of_place hne hplace

/-- Tokens are read as a row exactly if they are its tokens. -/
theorem ofTokens?_eq_some_iff {tokens : List Token} {row : Row} :
    ofTokens? tokens = some row ↔ row.tokens = tokens := by
  constructor
  · intro h
    rw [ofTokens?] at h
    split at h
    · rename_i found hrows
      cases h
      exact (flatten_of_rows? hrows).2
    · cases h
  · intro h
    have hend : rows? [] = some [done] := rfl
    have hrows := rows?_tokens_append row hend
    rw [List.append_nil, append_done, h] at hrows
    rw [ofTokens?, hrows]

end Row

/-- The row of a text. -/
def row? (text : String) : Option Row :=
  (tokens? text).bind Row.ofTokens?

/-- A text with the tokens of a row is read as this row. -/
theorem Lexes.row?_eq {text : String} {row : Row} (h : Lexes text row.tokens) :
    row? text = some row := by
  rw [row?, h.tokens?_eq, Option.bind_some, Row.ofTokens?_eq_some_iff]

end BrainfuckWasm.Wat
