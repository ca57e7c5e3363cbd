import Mathlib.Data.List.Infix
import BrainfuckWasm.Proofs.Options.Independent

/-!
# Command lines that are accepted

A command that has no place for a plain word accepts a command line exactly if its options take up
all words: each word is an option that acts, or the value of the option before it. A word that no
option takes up is left over, and what is left over once is refused at the end.
-/

namespace BrainfuckWasm.Options

variable {Key State : Type} {grammar : Grammar Key} {act : Action Key State}

/-- The options among words take up all of them, and take one state to another. -/
inductive Takes (grammar : Grammar Key) (act : Action Key State) :
    List String → State → State → Prop where
  | nothing (state : State) : Takes grammar act [] state state
  | alone {word : String} {rest : List String} {spec : Spec Key} {name : String}
      {attached : Option (List Char)} {found : List (Occurrence Key)} {state reached final : State}
      (hne : word ≠ "--") (hword : classify grammar.specs word = .ok (.known spec name attached))
      (hfound : occurrences grammar.specs spec name attached = .ok found)
      (hsettled : awaiting? found = none) (hact : actAll act none state found = .ok reached)
      (hrest : Takes grammar act rest reached final) :
      Takes grammar act (word :: rest) state final
  | withValue {word next : String} {rest : List String} {spec last : Spec Key} {name : String}
      {attached : Option (List Char)} {found : List (Occurrence Key)} {state reached final : State}
      (hne : word ≠ "--") (hword : classify grammar.specs word = .ok (.known spec name attached))
      (hfound : occurrences grammar.specs spec name attached = .ok found)
      (hawaits : awaiting? found = some last) (hnext : next ≠ "--")
      (hplain : classify grammar.specs next = .ok .plain)
      (hact : actAll act (some next) state found = .ok reached)
      (hrest : Takes grammar act rest reached final) :
      Takes grammar act (word :: next :: rest) state final

/-! ## Options in a word -/

/-- A flag does not make a word wait for a value. -/
theorem awaiting?_flag_cons {spec : Spec Key} (hflag : spec.takesValue = false)
    (found : List (Occurrence Key)) : awaiting? ((spec, none) :: found) = awaiting? found := by
  cases found with
  | nil => simp [awaiting?, hflag]
  | cons occurrence found => simp only [awaiting?, List.getLast?_cons_cons]

/-- Options behind a short name that wait for no value need none. -/
theorem flags_of_unbundle {specs : List (Spec Key)} {spec : Spec Key} {attached : List Char}
    {found : List (Occurrence Key)} (h : unbundle specs spec attached = .ok found)
    (hsettled : awaiting? found = none) :
    ∀ occurrence ∈ found, occurrence.2 = none → occurrence.1.takesValue = false := by
  induction attached generalizing spec found with
  | nil =>
    cases h
    simpa [awaiting?] using hsettled
  | cons c rest ih =>
    rw [unbundle] at h
    split_ifs at h with htakes
    · cases h
      simp
    · rw [Bool.not_eq_true] at htakes
      split at h
      · next other hother =>
        cases hrest : unbundle specs other rest with
        | error cause =>
          rw [hrest] at h
          cases h
        | ok others =>
          rw [hrest] at h
          cases h
          rw [awaiting?_flag_cons htakes] at hsettled
          exact List.forall_mem_cons.mpr ⟨fun _ => htakes, ih hrest hsettled⟩
      · cases h

/-- Options of a word that wait for no value need none. -/
theorem flags_of_occurrences {specs : List (Spec Key)} {spec : Spec Key} {name : String}
    {attached : Option (List Char)} {found : List (Occurrence Key)}
    (h : occurrences specs spec name attached = .ok found) (hsettled : awaiting? found = none) :
    ∀ occurrence ∈ found, occurrence.2 = none → occurrence.1.takesValue = false := by
  cases attached with
  | none =>
    cases h
    simpa [awaiting?] using hsettled
  | some attached =>
    rw [occurrences] at h
    split_ifs at h with htakes
    · cases h
      simp
    · exact flags_of_unbundle h hsettled

/-- A word that names a flag stands for it, before all else. -/
theorem eq_cons_of_occurrences_flag {specs : List (Spec Key)} {spec : Spec Key} {name : String}
    {attached : Option (List Char)} {found : List (Occurrence Key)}
    (hflag : spec.takesValue = false) (h : occurrences specs spec name attached = .ok found) :
    ∃ others, found = (spec, none) :: others := by
  rcases attached with _ | _ | ⟨c, rest⟩
  · cases h
    exact ⟨[], rfl⟩
  · simp [occurrences, hflag] at h
  · simp only [occurrences, hflag, unbundle, Bool.false_eq_true, if_false] at h
    split_ifs at h
    split at h
    · next other hother =>
      cases hrest : unbundle specs other rest with
      | error cause =>
        rw [hrest] at h
        cases h
      | ok others =>
        rw [hrest] at h
        cases h
        exact ⟨others, rfl⟩
    · cases h

/-- Options that need no value do not look at the next word. -/
theorem actAll_of_flags {found : List (Occurrence Key)}
    (h : ∀ occurrence ∈ found, occurrence.2 = none → occurrence.1.takesValue = false)
    (next : Option String) (state : State) :
    actAll act next state found = actAll act none state found := by
  induction found generalizing state with
  | nil => rfl
  | cons occurrence found ih =>
    obtain ⟨spec, attached⟩ := occurrence
    rw [List.forall_mem_cons] at h
    cases attached with
    | none =>
      have hflag : spec.takesValue = false := h.1 rfl
      simp only [actAll, hflag, ih h.2]
    | some value => simp only [actAll, ih h.2]

/-! ## Words that are left over -/

/-- What is left over stays so. -/
theorem leftOver_prefix {reading final : Reading State} {classified : List (String × Word Key)}
    (h : readWords grammar act reading classified = .ok final) :
    reading.leftOver <+: final.leftOver := by
  have hleave (reading : Reading State) (word : String) :
      reading.leftOver <+: (reading.leave word).leftOver := List.prefix_append _ _
  fun_induction readWords grammar act reading classified with
  | case1 reading =>
    cases h
    exact List.prefix_refl _
  | case2 | case3 | case6 | case7 | case8 => cases h
  | case4 _ _ _ _ _ _ _ _ _ _ _ _ _ ih => exact ih h
  | case5 _ _ _ _ _ _ _ _ _ _ _ _ ih => exact ih h
  | case9 _ _ _ _ _ _ _ _ _ _ _ _ ih => exact ih h
  | case11 _ _ _ _ _ ih => exact ih h
  | case13 _ _ _ _ _ ih => exact ih h
  | case15 _ _ _ _ _ ih => exact ih h
  | case10 reading word _ ih => exact (hleave reading word).trans (ih h)
  | case14 reading word _ _ _ ih => exact (hleave reading word).trans (ih h)
  | case17 reading mark _ _ ih => exact (hleave reading mark).trans (ih h)
  | case12 reading first second _ _ ih =>
    exact (hleave reading first).trans ((hleave _ second).trans (ih h))
  | case16 reading first second _ _ ih =>
    exact (hleave reading first).trans ((hleave _ second).trans (ih h))

/-- A word that is left over is refused at the end. -/
theorem leftOver_ne_nil_of_leave {reading final : Reading State} {word : String}
    {classified : List (String × Word Key)}
    (h : readWords grammar act (reading.leave word) classified = .ok final) :
    final.leftOver ≠ [] := by
  intro hnone
  have hleft := leftOver_prefix h
  rw [hnone, List.prefix_nil] at hleft
  simp [Reading.leave] at hleft

/-! ## Inversion of reading -/

/-- Nothing is told of no words. -/
theorem eq_nil_of_classifyAll {specs : List (Spec Key)} {words : List String}
    (h : classifyAll specs words = .ok []) : words = [] := by
  cases words with
  | nil => rfl
  | cons word rest =>
    by_cases hne : word = "--"
    · rw [classifyAll, if_pos hne] at h
      cases h
    · obtain ⟨kind, others, -, -, hclassified⟩ := classifyAll_cons_eq_ok hne h
      cases hclassified

/-- What is told first is told of the first word, unless that is the separator. -/
theorem eq_cons_of_classifyAll {specs : List (Spec Key)} {words : List String} {word : String}
    {kind : Word Key} {classified : List (String × Word Key)} (hkind : kind ≠ .separator)
    (h : classifyAll specs words = .ok ((word, kind) :: classified)) :
    ∃ rest, words = word :: rest ∧ word ≠ "--" ∧ classify specs word = .ok kind ∧
      classifyAll specs rest = .ok classified := by
  cases words with
  | nil => cases h
  | cons first rest =>
    by_cases hne : first = "--"
    · rw [classifyAll, if_pos hne] at h
      cases h
      exact absurd rfl hkind
    · obtain ⟨found, others, hfound, hrest, hclassified⟩ := classifyAll_cons_eq_ok hne h
      cases hclassified
      exact ⟨rest, rfl, hne, hfound, hrest⟩

/-- Where there is no place for a plain word and nothing is left over, options take up all words. -/
theorem takes_of_readWords (hplace : grammar.place = none) {words : List String}
    {reading final : Reading State} {classified : List (String × Word Key)}
    (hwords : classifyAll grammar.specs words = .ok classified)
    (h : readWords grammar act reading classified = .ok final) (hnone : final.leftOver = []) :
    Takes grammar act words reading.state final.state := by
  have hwants (reading : Reading State) : reading.wants grammar = false := by
    simp [Reading.wants, hplace]
  fun_induction readWords grammar act reading classified generalizing words with
  | case1 reading =>
    cases h
    rw [eq_nil_of_classifyAll hwords]
    exact .nothing _
  | case2 | case3 | case6 | case7 | case8 => cases h
  | case4 reading word spec name attached next rest found hfound state hact last hawaits ih =>
    obtain ⟨later, rfl, hne, hword, hlater⟩ := eq_cons_of_classifyAll (by simp) hwords
    obtain ⟨rest, rfl, hnext, hplain, hrest⟩ := eq_cons_of_classifyAll (by simp) hlater
    exact .withValue hne hword hfound hawaits hnext hplain hact (ih hrest h)
  | case5 reading word spec name attached next rest found hfound state hact hsettled ih =>
    obtain ⟨rest, rfl, hne, hword, hrest⟩ := eq_cons_of_classifyAll (by simp) hwords
    rw [actAll_of_flags (flags_of_occurrences hfound hsettled)] at hact
    exact .alone hne hword hfound hsettled hact (ih hrest h)
  | case9 reading word spec name attached rest hrest found hfound hsettled state hact ih =>
    obtain ⟨rest, rfl, hne, hword, hrest⟩ := eq_cons_of_classifyAll (by simp) hwords
    exact .alone hne hword hfound hsettled hact (ih hrest h)
  | case11 reading _ _ _ hwanted => simp [hwants reading] at hwanted
  | case13 reading _ _ _ hwanted => simp [hwants reading] at hwanted
  | case15 reading _ _ _ hwanted => simp [hwants reading] at hwanted
  | case10 | case12 | case14 | case16 | case17 => exact absurd hnone (leftOver_ne_nil_of_leave h)

/-- An option that waits for a value takes up the plain word after it. -/
theorem readFrom_withValue {spec last : Spec Key} {name : String} {attached : Option (List Char)}
    {found : List (Occurrence Key)} {word next : String} {reading : Reading State}
    {reached : State} (hne : word ≠ "--")
    (hword : classify grammar.specs word = .ok (.known spec name attached))
    (hfound : occurrences grammar.specs spec name attached = .ok found)
    (hawaits : awaiting? found = some last) (hnext : next ≠ "--")
    (hplain : classify grammar.specs next = .ok .plain)
    (hact : actAll act (some next) reading.state found = .ok reached) (rest : List String) :
    readFrom grammar act reading (word :: next :: rest) =
      readFrom grammar act { reading with state := reached } rest := by
  rw [readFrom, readFrom, classifyAll, if_neg hne, hword, classifyAll, if_neg hnext, hplain]
  cases classifyAll grammar.specs rest with
  | error ambiguity => rfl
  | ok classified => simp only [Except.map, readWords, hfound, hact, hawaits]

/-- Words that options take up are read by what these do. -/
theorem Takes.readFrom_eq {words : List String} {state final : State}
    (h : Takes grammar act words state final) {reading : Reading State}
    (hreading : reading.state = state) :
    readFrom grammar act reading words = .ok { reading with state := final } := by
  induction h generalizing reading with
  | nothing state =>
    subst hreading
    rfl
  | alone hne hword hfound hsettled hact hrest ih =>
    subst hreading
    have hany (next : Option String) :=
      (actAll_of_flags (flags_of_occurrences hfound hsettled) next reading.state).trans hact
    rw [readFrom_settled hne hword hfound hsettled hany, ih rfl]
  | withValue hne hword hfound hawaits hnext hplain hact hrest ih =>
    subst hreading
    rw [readFrom_withValue hne hword hfound hawaits hnext hplain hact, ih rfl]

/-- A command that has no place for a plain word accepts the words that its options take up. -/
theorem parse_eq_ok_iff (hplace : grammar.place = none) {words : List String}
    {first final : State} :
    (parse grammar act first words).map (·.1) = .ok final ↔
      Takes grammar act words first final := by
  constructor
  · intro h
    rw [parse] at h
    cases hclassified : classifyAll grammar.specs words with
    | error ambiguity =>
      rw [hclassified] at h
      cases h
    | ok classified =>
      simp only [hclassified] at h
      cases hread : readWords grammar act { state := first } classified with
      | error stop =>
        rw [hread] at h
        cases h
      | ok reading =>
        simp only [hread, hplace] at h
        split_ifs at h with hnone
        · cases h
          exact takes_of_readWords hplace hclassified hread (List.isEmpty_iff.mp hnone)
        · cases h
  · intro h
    have hread : readFrom grammar act { state := first } words = .ok { state := final } :=
      h.readFrom_eq rfl
    rw [readFrom] at hread
    rw [parse]
    cases hclassified : classifyAll grammar.specs words with
    | error ambiguity =>
      rw [hclassified] at hread
      cases hread
    | ok classified =>
      simp only [hclassified] at hread
      simp only [hread, hplace]
      rfl

end BrainfuckWasm.Options
