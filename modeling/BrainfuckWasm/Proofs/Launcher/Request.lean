import Mathlib.Data.List.Forall2
import Mathlib.Data.List.Perm.Basic
import BrainfuckWasm.Proofs.Launcher.Word
import BrainfuckWasm.Proofs.Numeral
import BrainfuckWasm.Proofs.Options.Accepted

/-!
# Asking for a server

A command line asks for a server by clauses. A clause is a call of an option, with its value after
an equals sign or in the plain word that follows. The launcher accepts the command lines that are
made of clauses and no others, and of the clauses about one setting the last decides. So what is
served can be told from the words, with no regard to how they are read.
-/

namespace BrainfuckWasm.Launcher

open Options (Occurrence Spec Takes actAll awaiting? classify occurrences)

/-- One option as it is asked for. -/
inductive Clause where
  | host (address : String)
  | listenAt (number : Int)
  | reload
  | assembler (executable : String)
  deriving DecidableEq, Repr

namespace Clause

/-- What an option asks for with a value, if it takes one and understands this one. -/
def ofValue? : Key → String → Option Clause
  | .host, value => some (host value)
  | .listenAt, value => (Text.integer? value).map listenAt
  | .assembler, value => some (assembler value)
  | .help, _ | .reload, _ => none

/-- What a clause changes. -/
def apply (settings : Settings) : Clause → Settings
  | host address => { settings with host := some address }
  | listenAt number => { settings with tcpPort := some number }
  | reload => { settings with reload := true }
  | assembler executable => { settings with assembler := some executable }

/-- The address that a clause asks for. -/
def address? : Clause → Option String
  | host address => some address
  | listenAt _ | reload | assembler _ => none

/-- The number of the port that a clause asks for. -/
def number? : Clause → Option Int
  | listenAt number => some number
  | host _ | reload | assembler _ => none

/-- The assembler that a clause asks for. -/
def executable? : Clause → Option String
  | assembler executable => some executable
  | host _ | listenAt _ | reload => none

/-- Only an option that takes a value asks for something with one. -/
theorem takesValue_of_ofValue? {key : Key} {value : String} {clause : Clause}
    (h : ofValue? key value = some clause) : key.spec.takesValue = true := by
  cases key with
  | host | listenAt | assembler => rfl
  | help | reload => cases h

/-- An option with a value does what it asks for, and fails if that is nothing. -/
theorem act_text_eq_ok_iff {key : Key} (htakes : key.spec.takesValue = true) (value : String)
    (settings reached : Settings) :
    act settings key.spec (.text value) = .ok reached ↔
      ∃ clause, ofValue? key value = some clause ∧ apply settings clause = reached := by
  cases key with
  | host | assembler => simp [act, ofValue?, apply, Key.spec, Options.Value.word?]
  | listenAt =>
    cases hvalue : Text.integer? value <;> simp [act, ofValue?, apply, Key.spec, hvalue]
  | help | reload => cases htakes

end Clause

/-- The words ask for the clauses, from the first word to the last. -/
inductive Says : List String → List Clause → Prop where
  | nothing : Says [] []
  | reload {word : String} {rest : List String} {clauses : List Clause}
      (hword : Calls word .reload) (hrest : Says rest clauses) :
      Says (word :: rest) (.reload :: clauses)
  | attached {front value : String} {key : Key} {clause : Clause} {rest : List String}
      {clauses : List Clause} (hfront : Calls front key) (hvalue : value ≠ "--")
      (hclause : Clause.ofValue? key value = some clause) (hrest : Says rest clauses) :
      Says ((front ++ "=" ++ value) :: rest) (clause :: clauses)
  | separate {word value : String} {key : Key} {clause : Clause} {rest : List String}
      {clauses : List Clause} (hword : Calls word key) (hvalue : Plain value)
      (hclause : Clause.ofValue? key value = some clause) (hrest : Says rest clauses) :
      Says (word :: value :: rest) (clause :: clauses)

/-! ## The words that are accepted -/

/-- A word that calls an option stands for it alone, and has a value only if the option takes
one. -/
theorem occurrences_eq_ok_iff {key : Key} {attached : Option (List Char)}
    {found : List (Occurrence Key)} :
    occurrences grammar.specs key.spec key.longName attached = .ok found ↔
      found = [(key.spec, attached.map String.ofList)] ∧
        (attached.isSome → key.spec.takesValue = true) := by
  have hlong : key.longName.startsWith "--" = true := by
    rw [String.startsWith_string_iff]
    cases key <;> decide
  cases attached with
  | none => simp [occurrences, @eq_comm _ found]
  | some value =>
    rw [occurrences, hlong]
    cases key.spec.takesValue <;> simp [@eq_comm _ found]

/-- The word that asks for help acts as nothing else. -/
theorem actAll_help {name : String} {attached : Option (List Char)}
    {found : List (Occurrence Key)}
    (h : occurrences grammar.specs Key.help.spec name attached = .ok found)
    (next : Option String) (settings : Settings) :
    actAll act next settings found = .error .help := by
  obtain ⟨others, rfl⟩ := Options.eq_cons_of_occurrences_flag rfl h
  rfl

/-- An option acts by the clause of the value that is attached to it or comes next. -/
theorem actAll_eq_ok_iff {key : Key} {attached next : Option String} {value : String}
    (htakes : key.spec.takesValue = true) (hvalue : value ≠ "--")
    (hgiven : attached.or next = some value) (settings reached : Settings) :
    actAll act next settings [(key.spec, attached)] = .ok reached ↔
      ∃ clause, Clause.ofValue? key value = some clause ∧
        Clause.apply settings clause = reached := by
  have hact : actAll act next settings [(key.spec, attached)] =
      act settings key.spec (.text value) := by
    cases attached with
    | none =>
      cases hgiven
      simp only [actAll, htakes, Option.getD_some, Options.Value.ofWord, if_neg hvalue]
      cases act settings key.spec (.text value) <;> rfl
    | some word =>
      cases hgiven
      simp only [actAll, Options.Value.ofWord, if_neg hvalue]
      cases act settings key.spec (.text value) <;> rfl
  rw [hact, Clause.act_text_eq_ok_iff htakes]

/-- Clauses are taken up by the options, and change the settings one after another. -/
theorem Says.takes {words : List String} {clauses : List Clause} (h : Says words clauses)
    (settings : Settings) :
    Takes grammar act words settings (clauses.foldl Clause.apply settings) := by
  induction h generalizing settings with
  | nothing => exact .nothing settings
  | @reload word rest clauses hword hrest ih =>
    have hsplit := Options.splitEquals_of_not_mem hword.not_mem_equals
    exact .alone hword.ne_separator (classify_of_calls hsplit hword)
      (occurrences_eq_ok_iff.mpr ⟨rfl, nofun⟩) rfl rfl (ih _)
  | @attached front value key clause rest clauses hfront hvalue hclause hrest ih =>
    have htakes := Clause.takesValue_of_ofValue? hclause
    have hword : (front ++ "=" ++ value).toList = front.toList ++ '=' :: value.toList := by simp
    have hsplit := Options.splitEquals_append value.toList hfront.not_mem_equals
    have hne : front ++ "=" ++ value ≠ "--" := by
      intro heq
      have hmem : '=' ∈ (front ++ "=" ++ value).toList := by simp
      rw [heq] at hmem
      exact absurd hmem (by decide)
    rw [← hword] at hsplit
    refine .alone hne (classify_of_calls hsplit hfront)
      (occurrences_eq_ok_iff.mpr ⟨rfl, fun _ => htakes⟩) rfl ?_ (ih _)
    rw [Option.map_some, String.ofList_toList, actAll_eq_ok_iff htakes hvalue rfl]
    exact ⟨clause, hclause, rfl⟩
  | @separate word value key clause rest clauses hword hvalue hclause hrest ih =>
    have htakes := Clause.takesValue_of_ofValue? hclause
    have hsplit := Options.splitEquals_of_not_mem hword.not_mem_equals
    have hawaits : awaiting? [(key.spec, none)] = some key.spec := by simp [awaiting?, htakes]
    refine .withValue hword.ne_separator (classify_of_calls hsplit hword)
      (occurrences_eq_ok_iff.mpr ⟨rfl, nofun⟩) hawaits hvalue.ne_separator
      (classify_eq_plain_iff.mpr hvalue) ?_ (ih _)
    exact (actAll_eq_ok_iff htakes hvalue.ne_separator rfl _ _).mpr ⟨clause, hclause, rfl⟩

/-- A word whose options act calls one option, and no other acts with it. -/
theorem calls_of_actAll {word name : String} {spec : Spec Key}
    {attached : Option (List Char)} {found : List (Occurrence Key)} {next : Option String}
    {settings reached : Settings}
    (hword : classify grammar.specs word = .ok (.known spec name attached))
    (hfound : occurrences grammar.specs spec name attached = .ok found)
    (hact : actAll act next settings found = .ok reached) :
    ∃ key front, Calls front key ∧ word.toList = front.toList ++ attached.elim [] ('=' :: ·) ∧
      found = [(key.spec, attached.map String.ofList)] ∧
      (attached.isSome → key.spec.takesValue = true) := by
  obtain rfl | ⟨key, front, rfl, rfl, hsplit, hcalls⟩ := calls_of_classify hword
  · rw [actAll_help hfound] at hact
    cases hact
  · exact ⟨key, front, hcalls, Options.eq_of_splitEquals hsplit, occurrences_eq_ok_iff.mp hfound⟩

/-- Words that the options take up ask for clauses, unless the separator is given as a value. -/
theorem says_of_takes {words : List String} {settings final : Settings}
    (h : Takes grammar act words settings final)
    (hwords : ∀ word ∈ words, ¬ ['=', '-', '-'] <:+ String.toList word) :
    ∃ clauses, Says words clauses ∧ clauses.foldl Clause.apply settings = final := by
  induction h with
  | nothing settings => exact ⟨[], .nothing, rfl⟩
  | @alone word rest _ _ attached _ settings _ _ _ hword hfound hsettled hact _ ih =>
    rw [List.forall_mem_cons] at hwords
    obtain ⟨clauses, hsays, rfl⟩ := ih hwords.2
    obtain ⟨key, front, hcalls, hchars, rfl, htakes⟩ := calls_of_actAll hword hfound hact
    cases attached with
    | none =>
      -- An option that takes a value would still wait for it, and help does not act.
      have hflag : key.spec.takesValue = false := by simpa [awaiting?] using hsettled
      obtain rfl : word = front := String.toList_inj.mp (by simpa using hchars)
      cases key with
      | help => cases hact
      | reload =>
        cases hact
        exact ⟨.reload :: clauses, .reload hcalls hsays, rfl⟩
      | host | listenAt | assembler => cases hflag
    | some value =>
      obtain rfl : word = front ++ "=" ++ String.ofList value :=
        String.toList_inj.mp (by simpa using hchars)
      have hvalue : String.ofList value ≠ "--" := by
        intro heq
        refine hwords.1 ⟨front.toList, ?_⟩
        rw [heq]
        simp
      obtain ⟨clause, hclause, rfl⟩ := (actAll_eq_ok_iff (htakes rfl) hvalue rfl _ _).mp hact
      exact ⟨clause :: clauses, .attached hcalls hvalue hclause hsays, rfl⟩
  | @withValue word next rest _ _ _ attached _ settings _ _ _ hword hfound hawaits hnext hplain
      hact _ ih =>
    rw [List.forall_mem_cons, List.forall_mem_cons] at hwords
    obtain ⟨clauses, hsays, rfl⟩ := ih hwords.2.2
    obtain ⟨key, front, hcalls, hchars, rfl, -⟩ := calls_of_actAll hword hfound hact
    cases attached with
    | none =>
      obtain ⟨htakes, -⟩ : key.spec.takesValue = true ∧ _ := by simpa [awaiting?] using hawaits
      obtain rfl : word = front := String.toList_inj.mp (by simpa using hchars)
      obtain ⟨clause, hclause, rfl⟩ := (actAll_eq_ok_iff htakes hnext rfl _ _).mp hact
      exact ⟨clause :: clauses, .separate hcalls (classify_eq_plain_iff.mp hplain) hclause hsays,
        rfl⟩
    | some value => simp [awaiting?] at hawaits

/-- Clauses are accepted. -/
theorem Says.parse_eq {words : List String} {clauses : List Clause} (h : Says words clauses) :
    parse words = .ok (clauses.foldl Clause.apply {}) :=
  (Options.parse_eq_ok_iff rfl).mpr (h.takes {})

/-- Nothing but clauses is accepted, unless the separator is given as a value. -/
theorem parse_eq_ok_iff {words : List String} {settings : Settings}
    (hwords : ∀ word ∈ words, ¬ ['=', '-', '-'] <:+ String.toList word) :
    parse words = .ok settings ↔
      ∃ clauses, Says words clauses ∧ clauses.foldl Clause.apply {} = settings := by
  constructor
  · intro h
    exact says_of_takes ((Options.parse_eq_ok_iff rfl).mp h) hwords
  · rintro ⟨clauses, hsays, rfl⟩
    exact hsays.parse_eq

/-! ## The last clauses -/

/-- The last address that clauses ask for. -/
def lastHost (clauses : List Clause) : String :=
  (clauses.filterMap Clause.address?).getLastD "127.0.0.1"

/-- The last port that clauses ask for. -/
def lastNumber (clauses : List Clause) : Int :=
  (clauses.filterMap Clause.number?).getLastD 8000

/-- The last assembler that clauses ask for. -/
def lastAssembler (clauses : List Clause) : String :=
  (clauses.filterMap Clause.executable?).getLastD "wat2wasm"

/-- Of the clauses about one setting the last decides. -/
theorem foldl_apply (clauses : List Clause) :
    clauses.foldl Clause.apply {} =
      { host := some (lastHost clauses)
        tcpPort := some (lastNumber clauses)
        reload := decide (Clause.reload ∈ clauses)
        assembler := some (lastAssembler clauses) } := by
  induction clauses using List.reverseRecOn with
  | nil => rfl
  | append_singleton clauses clause ih =>
    rw [List.foldl_append, ih]
    cases clause <;>
      simp [Clause.apply, lastHost, lastNumber, lastAssembler, Clause.address?, Clause.number?,
        Clause.executable?]

/-! ## The server that is run -/

/-- A reloader is asked for, and an assembler that it would not use. -/
def Excluded (clauses : List Clause) : Prop :=
  Clause.reload ∈ clauses ∧ lastAssembler clauses ≠ "wat2wasm"

instance (clauses : List Clause) : Decidable (Excluded clauses) :=
  inferInstanceAs (Decidable (_ ∧ _))

/-- The run that clauses ask for. -/
def askedRun (clauses : List Clause) : ServerRun where
  application :=
    if Clause.reload ∈ clauses then .reloaded else .made (some (lastAssembler clauses))
  host := some (lastHost clauses)
  tcpPort := some (lastNumber clauses)

/-- The run that clauses ask for uses the assembler that they ask for, unless they exclude each
other. -/
theorem assembler_askedRun {clauses : List Clause} (h : ¬ Excluded clauses) :
    (askedRun clauses).application.assembler = some (lastAssembler clauses) := by
  by_cases hreload : Clause.reload ∈ clauses
  · have hdefault : lastAssembler clauses = "wat2wasm" := by simpa [Excluded, hreload] using h
    rw [askedRun, if_pos hreload, hdefault]
    rfl
  · rw [askedRun, if_neg hreload]
    rfl

/-- Clauses lead to the run that they ask for, or to none. -/
theorem Says.runs_eq {words : List String} {clauses : List Clause} (h : Says words clauses)
    (serverInstalled : Bool) :
    (run serverInstalled words).runs =
      if serverInstalled = true ∧ ¬ Excluded clauses then [askedRun clauses] else [] := by
  rw [run, h.parse_eq, foldl_apply]
  cases serverInstalled with
  | false => rfl
  | true =>
    by_cases hreload : Clause.reload ∈ clauses
    · by_cases hdefault : lastAssembler clauses = "wat2wasm" <;>
        simp [start, Excluded, askedRun, Assembler.defaultExecutable, hreload, hdefault]
    · simp [start, Excluded, askedRun, hreload]

/-- Without settings nothing is run. -/
theorem runs_eq_nil {words : List String} (h : ∀ settings, parse words ≠ .ok settings)
    (serverInstalled : Bool) : (run serverInstalled words).runs = [] := by
  rw [run]
  split
  · rfl
  · rfl
  · next settings hparse => exact absurd hparse (h settings)

/-- At most one server is run, and it is the one that the words ask for. -/
structure Launches (serverInstalled : Bool) (words : List String) : Prop where
  runs_le_one : (run serverInstalled words).runs.length ≤ 1
  parses_iff : (∃ settings, parse words = .ok settings) ↔ ∃ clauses, Says words clauses
  runs_iff : (run serverInstalled words).runs.length = 1 ↔
    ∃ clauses, Says words clauses ∧ serverInstalled = true ∧ ¬ Excluded clauses
  serves : ∀ clauses, Says words clauses → ∀ server ∈ (run serverInstalled words).runs,
    server.host = some (lastHost clauses) ∧ server.tcpPort = some (lastNumber clauses) ∧
      server.application.assembler = some (lastAssembler clauses)

/-- Clauses launch as they say. -/
theorem Says.launches {words : List String} {clauses : List Clause} (h : Says words clauses)
    (serverInstalled : Bool) : Launches serverInstalled words := by
  have hruns {others : List Clause} (hothers : Says words others) :=
    hothers.runs_eq serverInstalled
  constructor
  · rw [hruns h]
    split_ifs <;> simp
  · exact ⟨fun _ => ⟨clauses, h⟩, fun _ => ⟨_, h.parse_eq⟩⟩
  · constructor
    · intro hone
      rw [hruns h] at hone
      split_ifs at hone with hstarts
      exact ⟨clauses, h, hstarts⟩
    · rintro ⟨others, hothers, hstarts⟩
      rw [hruns hothers, if_pos hstarts]
      rfl
  · intro others hothers server hserver
    rw [hruns hothers] at hserver
    split_ifs at hserver with hstarts
    · rw [List.mem_singleton.mp hserver]
      exact ⟨rfl, rfl, assembler_askedRun hstarts.2⟩
    · cases hserver

/-- Every command line launches as it says, unless the separator is given as a value. -/
theorem launches_of_words {words : List String}
    (hwords : ∀ word ∈ words, ¬ ['=', '-', '-'] <:+ word.toList) (serverInstalled : Bool) :
    Launches serverInstalled words := by
  by_cases hsays : ∃ clauses, Says words clauses
  · obtain ⟨clauses, hclauses⟩ := hsays
    exact hclauses.launches serverInstalled
  · have hparse : ∀ settings, parse words ≠ .ok settings := by
      intro settings h
      obtain ⟨clauses, hclauses, -⟩ := (parse_eq_ok_iff hwords).mp h
      exact hsays ⟨clauses, hclauses⟩
    have hruns := runs_eq_nil hparse serverInstalled
    constructor
    · simp [hruns]
    · exact ⟨fun ⟨settings, h⟩ => absurd h (hparse settings), fun h => absurd h hsays⟩
    · rw [hruns]
      exact ⟨nofun, fun ⟨clauses, h, _⟩ => absurd ⟨clauses, h⟩ hsays⟩
    · exact fun clauses h => absurd ⟨clauses, h⟩ hsays

/-! ## Values that are attached -/

/-- Words that ask for a clause each. -/
theorem says_of_forall₂ {words : List String} {clauses : List Clause}
    (h : List.Forall₂ (fun word clause => ∀ {rest others}, Says rest others →
      Says (word :: rest) (clause :: others)) words clauses) : Says words clauses := by
  induction h with
  | nil => exact .nothing
  | cons hword _ ih => exact hword ih

/-- In any order, a word for each value leads to the one run with these values. -/
theorem runs_of_perm {host executable : String} {number : Int} {words : List String}
    (hhost : host ≠ "--") (hexecutable : executable ≠ "--")
    (hnumber : (Nat.toDigits 10 number.natAbs).length < 4300)
    (hwords : words.Perm
      ["--host=" ++ host, "--port=" ++ toString number, "--assembler=" ++ executable]) :
    (run true words).runs = [⟨.made (some executable), some host, some number⟩] := by
  have hread : Text.integer? (toString number) = some number := Text.integer?_toString hnumber.le
  have hnumeral : toString number ≠ "--" := by
    intro heq
    rw [heq] at hread
    cases hread
  have hclause : Clause.ofValue? .listenAt (toString number) = some (.listenAt number) := by
    rw [Clause.ofValue?, hread]
    rfl
  have hsaid : List.Forall₂ (fun word clause => ∀ {rest others}, Says rest others →
      Says (word :: rest) (clause :: others))
      ["--host=" ++ host, "--port=" ++ toString number, "--assembler=" ++ executable]
      [.host host, .listenAt number, .assembler executable] := by
    refine .cons ?_ (.cons ?_ (.cons ?_ .nil))
    · exact Says.attached (calls_longName .host) hhost rfl
    · exact Says.attached (calls_longName .listenAt) hnumeral hclause
    · exact Says.attached (calls_longName .assembler) hexecutable rfl
  obtain ⟨clauses, hclauses, horder⟩ := List.perm_comp_forall₂ hwords hsaid
  have hreload : Clause.reload ∉ clauses := by simp [horder.mem_iff]
  have haddresses : clauses.filterMap Clause.address? = [host] :=
    List.perm_singleton.mp (horder.filterMap _)
  have hnumbers : clauses.filterMap Clause.number? = [number] :=
    List.perm_singleton.mp (horder.filterMap _)
  have hexecutables : clauses.filterMap Clause.executable? = [executable] :=
    List.perm_singleton.mp (horder.filterMap _)
  rw [(says_of_forall₂ hclauses).runs_eq, if_pos ⟨rfl, fun h => hreload h.1⟩, askedRun,
    if_neg hreload, lastHost, lastNumber, lastAssembler, haddresses, hnumbers, hexecutables]
  rfl

/-- Whether or not the server library is there, every command line in which the separator is no
value launches at most one server, and the one that it asks for. Any address, any assembler and any
number can be asked for. -/
theorem serves_as_asked :
    (∀ (serverInstalled : Bool) (words : List String),
      (∀ word ∈ words, ¬ ['=', '-', '-'] <:+ word.toList) → Launches serverInstalled words) ∧
    ∀ (host executable : String) (number : Int) (words : List String),
      host ≠ "--" → executable ≠ "--" → (Nat.toDigits 10 number.natAbs).length < 4300 →
      words.Perm
        ["--host=" ++ host, "--port=" ++ toString number, "--assembler=" ++ executable] →
      (run true words).runs = [⟨.made (some executable), some host, some number⟩] :=
  ⟨fun serverInstalled _ hwords => launches_of_words hwords serverInstalled,
    fun _ _ _ _ hhost hexecutable hnumber hwords =>
      runs_of_perm hhost hexecutable hnumber hwords⟩

/-- An assembler that is taken back before a reloader is run, and values that look like options. -/
theorem serves_as_asked_dashes :
    let words := ["--assembler=clang", "--re", "--port", "-1", "--assem", "wat2wasm"]
    Launches true words ∧ (run true words).runs = [⟨.reloaded, some "127.0.0.1", some (-1)⟩] ∧
    (run true ["--port=-80", "--assembler=--help", "--host="]).runs =
      [⟨.made (some "--help"), some "", some (-80)⟩] := by
  refine ⟨serves_as_asked.1 true _ (by decide), by decide, ?_⟩
  exact serves_as_asked.2 "" "--help" (-80) _ (by decide) (by decide) (by decide) (by decide)

end BrainfuckWasm.Launcher
