import BrainfuckWasm.Options.Parse

/-!
# Words that need no other

A flag, and an option with its value attached, acts at once and leaves the words around it alone.
A command line of such words is read as their effects one after another, wherever the one plain
word stands among them: before the separator if it starts with no dash, and after it in any case.
-/

namespace BrainfuckWasm.Options

variable {Key State : Type} {grammar : Grammar Key} {act : Action Key State}

/-- A word that acts on its own, whatever was read before and whatever comes next. -/
structure Acts (grammar : Grammar Key) (act : Action Key State) (word : String)
    (effect : State → State) : Prop where
  ne_separator : word ≠ "--"
  reads : ∃ spec name attached found,
    classify grammar.specs word = .ok (.known spec name attached) ∧
    occurrences grammar.specs spec name attached = .ok found ∧ awaiting? found = none ∧
    ∀ next state, actAll act next state found = .ok (effect state)

/-- Reading words from some point on: what they are is told first, for all of them. -/
def readFrom (grammar : Grammar Key) (act : Action Key State) (reading : Reading State)
    (words : List String) : Except Stop (Reading State) :=
  match classifyAll grammar.specs words with
  | .error ambiguity => .error (.complaint (.ambiguous ambiguity))
  | .ok classified => readWords grammar act reading classified

/-- An option that waits for no value acts, and lets the words after it be read as they are. -/
theorem readWords_settled {spec : Spec Key} {name : String} {attached : Option (List Char)}
    {found : List (Occurrence Key)} {word : String} {reading : Reading State} {reached : State}
    (hfound : occurrences grammar.specs spec name attached = .ok found)
    (hsettled : awaiting? found = none)
    (hact : ∀ next, actAll act next reading.state found = .ok reached)
    (rest : List (String × Word Key)) :
    readWords grammar act reading ((word, .known spec name attached) :: rest) =
      readWords grammar act { reading with state := reached } rest := by
  rcases rest with _ | ⟨⟨next, kind⟩, rest⟩
  · simp only [readWords, hfound, hsettled, hact]
  · cases kind <;> simp only [readWords, hfound, hsettled, hact]

/-- The same of words that are still to be told. -/
theorem readFrom_settled {spec : Spec Key} {name : String} {attached : Option (List Char)}
    {found : List (Occurrence Key)} {word : String} {reading : Reading State} {reached : State}
    (hne : word ≠ "--") (hword : classify grammar.specs word = .ok (.known spec name attached))
    (hfound : occurrences grammar.specs spec name attached = .ok found)
    (hsettled : awaiting? found = none)
    (hact : ∀ next, actAll act next reading.state found = .ok reached) (rest : List String) :
    readFrom grammar act reading (word :: rest) =
      readFrom grammar act { reading with state := reached } rest := by
  rw [readFrom, readFrom, classifyAll, if_neg hne, hword]
  cases classifyAll grammar.specs rest with
  | error ambiguity => rfl
  | ok classified => exact readWords_settled hfound hsettled hact classified

/-- A word that acts on its own is read by its effect. -/
theorem Acts.readFrom_cons {word : String} {effect : State → State}
    (h : Acts grammar act word effect) (reading : Reading State) (rest : List String) :
    readFrom grammar act reading (word :: rest) =
      readFrom grammar act { reading with state := effect reading.state } rest := by
  obtain ⟨spec, name, attached, found, hword, hfound, hsettled, hact⟩ := h.reads
  exact readFrom_settled h.ne_separator hword hfound hsettled (hact · reading.state) rest

/-- Words that act on their own are read by their effects in turn. -/
theorem readFrom_map_append {Clause : Type} {word : Clause → String}
    {apply : State → Clause → State} {clauses : List Clause}
    (h : ∀ clause ∈ clauses, Acts grammar act (word clause) (apply · clause))
    (reading : Reading State) (rest : List String) :
    readFrom grammar act reading (clauses.map word ++ rest) =
      readFrom grammar act { reading with state := clauses.foldl apply reading.state } rest := by
  induction clauses generalizing reading with
  | nil => rfl
  | cons clause clauses ih =>
    rw [List.map_cons, List.cons_append, (h clause List.mem_cons_self).readFrom_cons,
      ih fun other hother => h other (List.mem_cons_of_mem _ hother)]
    rfl

/-- No word before the separator is taken for it. -/
theorem classify_ne_separator (specs : List (Spec Key)) (word : String) :
    classify specs word ≠ .ok .separator := by
  fun_cases classify specs word <;> simp

/-- Words are told one by one up to the separator. -/
theorem classifyAll_cons_eq_ok {specs : List (Spec Key)} {word : String} {rest : List String}
    {classified : List (String × Word Key)} (hne : word ≠ "--")
    (h : classifyAll specs (word :: rest) = .ok classified) :
    ∃ kind others, classify specs word = .ok kind ∧ classifyAll specs rest = .ok others ∧
      classified = (word, kind) :: others := by
  rw [classifyAll, if_neg hne] at h
  cases hkind : classify specs word with
  | error ambiguity =>
    rw [hkind] at h
    cases h
  | ok kind =>
    rw [hkind] at h
    cases hrest : classifyAll specs rest with
    | error ambiguity =>
      rw [hrest] at h
      cases h
    | ok others =>
      rw [hrest] at h
      cases h
      exact ⟨kind, others, rfl, rfl, rfl⟩

/-- Unless the first word is the separator, it is not taken for it. -/
theorem ne_separator_of_classifyAll {specs : List (Spec Key)} {words : List String}
    {classified : List (String × Word Key)} (hwords : ∀ next ∈ words.head?, next ≠ "--")
    (h : classifyAll specs words = .ok classified) :
    ∀ entry ∈ classified.head?, entry.2 ≠ .separator := by
  cases words with
  | nil =>
    cases h
    simp
  | cons word rest =>
    obtain ⟨kind, others, hkind, -, rfl⟩ := classifyAll_cons_eq_ok (hwords word rfl) h
    rintro entry ⟨⟩ rfl
    exact classify_ne_separator specs word hkind

/-- A word that starts with no dash is plain. -/
theorem classify_of_head?_ne {specs : List (Spec Key)} {word : String}
    (h : word.toList.head? ≠ some '-') : classify specs word = .ok .plain := by
  rw [classify]
  split
  · next second rest hword =>
    rw [hword] at h
    exact absurd rfl h
  · rfl

/-- A plain word fills the place that is still free, and drops a separator that follows. -/
theorem readWords_plain (word : String) {reading : Reading State} {rest : List (String × Word Key)}
    (hwants : reading.wants grammar = true)
    (hrest : ∀ entry ∈ rest.head?, entry.2 ≠ .separator) :
    readWords grammar act reading ((word, .plain) :: rest) =
      readWords grammar act { reading with filled := some word } rest := by
  rw [readWords, if_pos hwants]
  rintro mark others rfl
  exact hrest _ rfl rfl

/-- A word that starts with no dash fills the place that is still free, unless a separator
follows. -/
theorem readFrom_plain {word : String} {reading : Reading State} {rest : List String}
    (hword : word.toList.head? ≠ some '-') (hwants : reading.wants grammar = true)
    (hrest : ∀ next ∈ rest.head?, next ≠ "--") :
    readFrom grammar act reading (word :: rest) =
      readFrom grammar act { reading with filled := some word } rest := by
  have hne : word ≠ "--" := by
    rintro rfl
    exact hword rfl
  rw [readFrom, readFrom, classifyAll, if_neg hne, classify_of_head?_ne hword]
  cases hclassified : classifyAll grammar.specs rest with
  | error ambiguity => rfl
  | ok classified =>
    refine readWords_plain word hwants fun entry hentry => ?_
    exact ne_separator_of_classifyAll hrest hclassified entry hentry

/-- After the separator any word fills the place that is still free. -/
theorem readFrom_separator (word : String) {reading : Reading State}
    (hwants : reading.wants grammar = true) :
    readFrom grammar act reading ["--", word] = .ok { reading with filled := some word } := by
  simp only [readFrom, classifyAll, if_true, List.map_cons, List.map_nil, readWords, hwants]

/-- A command line is read from its first word on. -/
theorem parse_of_readFrom {first : State} {words : List String} {state : State} {word : String}
    (h : readFrom grammar act { state := first } words =
      .ok { state := state, filled := some word }) :
    parse grammar act first words = .ok (state, some word) := by
  rw [readFrom] at h
  rw [parse]
  cases hwords : classifyAll grammar.specs words with
  | error ambiguity =>
    rw [hwords] at h
    cases h
  | ok classified =>
    simp only [hwords] at h
    simp only [h]
    cases grammar.place <;> rfl

section Clauses

variable {Clause : Type} {word : Clause → String} {apply : State → Clause → State}

/-- Words that act on their own, and the plain one after the separator. -/
theorem parse_separated {clauses : List Clause} (first : State) (plain : String)
    (hplace : grammar.place.isSome)
    (h : ∀ clause ∈ clauses, Acts grammar act (word clause) (apply · clause)) :
    parse grammar act first (clauses.map word ++ ["--", plain]) =
      .ok (clauses.foldl apply first, some plain) := by
  apply parse_of_readFrom
  rw [readFrom_map_append h, readFrom_separator]
  simp [Reading.wants, hplace]

/-- Words that act on their own, and the plain one anywhere among them. -/
theorem parse_among {front back : List Clause} (first : State) {plain : String}
    (hplace : grammar.place.isSome) (hplain : plain.toList.head? ≠ some '-')
    (h : ∀ clause ∈ front ++ back, Acts grammar act (word clause) (apply · clause)) :
    parse grammar act first (front.map word ++ plain :: back.map word) =
      .ok ((front ++ back).foldl apply first, some plain) := by
  rw [List.forall_mem_append] at h
  have hnext : ∀ next ∈ (back.map word).head?, next ≠ "--" := by
    intro next hnext
    obtain ⟨clause, hclause, rfl⟩ := List.mem_map.mp (List.mem_of_mem_head? hnext)
    exact (h.2 clause hclause).ne_separator
  apply parse_of_readFrom
  rw [readFrom_map_append h.1, readFrom_plain hplain (by simp [Reading.wants, hplace]) hnext,
    ← List.append_nil (back.map word), readFrom_map_append h.2, List.foldl_append]
  rfl

end Clauses

/-- The name of a flag is a word that acts on its own. -/
theorem acts_flag {name : String} {spec : Spec Key} {effect : State → State}
    (hdash : ∃ second rest, name.toList = '-' :: second :: rest) (hne : name ≠ "--")
    (hfind : find? grammar.specs name = some spec) (hflag : spec.takesValue = false)
    (hact : ∀ state, act state spec .flag = .ok (effect state)) :
    Acts grammar act name effect := by
  obtain ⟨second, rest, hname⟩ := hdash
  refine ⟨hne, spec, name, none, [(spec, none)], ?_, rfl, ?_, fun next state => ?_⟩
  · rw [classify, hname]
    simp only [hfind]
  · simp [awaiting?, hflag]
  · simp only [actAll, hflag, hact]

/-- What stands before and after the first equals sign. -/
theorem splitEquals_append {front : List Char} (value : List Char) (h : '=' ∉ front) :
    splitEquals (front ++ '=' :: value) = (front, some value) := by
  induction front with
  | nil => simp [splitEquals]
  | cons c rest ih =>
    rw [List.mem_cons, not_or] at h
    rw [List.cons_append, splitEquals, if_neg (Ne.symm h.1), ih h.2]

/-- Without an equals sign all stands before it. -/
theorem splitEquals_of_not_mem {cs : List Char} (h : '=' ∉ cs) : splitEquals cs = (cs, none) := by
  induction cs with
  | nil => rfl
  | cons c rest ih =>
    rw [List.mem_cons, not_or] at h
    rw [splitEquals, if_neg (Ne.symm h.1), ih h.2]

/-- What stands before the first equals sign, and what stands after it if there is one, make up the
whole. -/
theorem eq_of_splitEquals {cs front : List Char} {value : Option (List Char)}
    (h : splitEquals cs = (front, value)) : cs = front ++ value.elim [] ('=' :: ·) := by
  induction cs generalizing front with
  | nil =>
    cases h
    rfl
  | cons c rest ih =>
    by_cases hc : c = '='
    · rw [splitEquals, if_pos hc] at h
      cases h
      exact congrArg (· :: rest) hc
    · rw [splitEquals, if_neg hc] at h
      cases h
      rw [List.cons_append, ← ih rfl]

/-- No option has an equals sign in its name, so a word with one is no name. -/
theorem find?_eq_none_of_equals {specs : List (Spec Key)} {word : String}
    (hspecs : ∀ spec ∈ specs, ∀ name ∈ spec.names, '=' ∉ name.toList)
    (h : '=' ∈ word.toList) : find? specs word = none := by
  rw [find?, List.find?_eq_none]
  intro spec hspec hname
  rw [List.contains_iff_mem] at hname
  exact hspecs spec hspec word hname h

/-- The name of an option with its value attached is a word that acts on its own. -/
theorem acts_attached {name value : String} {spec : Spec Key} {effect : State → State}
    (hspecs : ∀ spec ∈ grammar.specs, ∀ name ∈ spec.names, '=' ∉ name.toList)
    (hdash : ∃ second rest, name.toList = '-' :: second :: rest) (hequals : '=' ∉ name.toList)
    (hfind : find? grammar.specs name = some spec) (htakes : spec.takesValue = true)
    (hvalue : value ≠ "--") (hact : ∀ state, act state spec (.text value) = .ok (effect state)) :
    Acts grammar act (name ++ "=" ++ value) effect := by
  obtain ⟨second, rest, hname⟩ := hdash
  have hword : (name ++ "=" ++ value).toList = name.toList ++ '=' :: value.toList := by
    simp
  have hmem : '=' ∈ (name ++ "=" ++ value).toList := by
    rw [hword]
    simp
  refine ⟨?_, spec, name, some value.toList, [(spec, some value)], ?_, ?_, rfl, ?_⟩
  · rintro heq
    rw [heq] at hmem
    exact absurd hmem (by decide)
  · have hsplit := splitEquals_append value.toList hequals
    have hfront : String.ofList ('-' :: second :: rest) = name := by
      rw [← hname, String.ofList_toList]
    rw [hname] at hword hsplit
    rw [classify, hword]
    simp only [List.cons_append] at hsplit ⊢
    simp only [find?_eq_none_of_equals hspecs hmem, hsplit, hfront, hfind]
  · rw [occurrences, if_pos htakes, String.ofList_toList]
  · intro next state
    simp only [actAll, Value.ofWord, if_neg hvalue, hact]

end BrainfuckWasm.Options
