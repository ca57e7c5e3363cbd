import Mathlib.Data.List.Infix
import BrainfuckWasm.Launcher
import BrainfuckWasm.Proofs.Options.Independent

/-!
# Words of the launcher

Each option of the launcher has one long name, and none of these begins another. So a word with two
dashes calls an option exactly if what it has before the first equals sign begins the name of that
option and of no other. The only short name is that of help. A word that calls nothing is plain if
it could not be meant as an option: it is a negative number, or it holds a space.
-/

namespace BrainfuckWasm.Launcher

open Options (Spec Word Ambiguity classify splitEquals isUnsignedNumber)

namespace Key

/-- All options, in the order of the grammar. -/
def all : List Key :=
  [help, host, listenAt, reload, assembler]

/-- The long name of an option. -/
def longName : Key → String
  | help => "--help"
  | host => "--host"
  | listenAt => "--port"
  | reload => "--reload"
  | assembler => "--assembler"

/-- An option as the grammar has it. -/
def spec (key : Key) : Spec Key where
  key := key
  names := match key with
    | help => ["-h", key.longName]
    | host | listenAt | reload | assembler => [key.longName]
  takesValue := match key with
    | help | reload => false
    | host | listenAt | assembler => true

/-- There are no other options. -/
theorem mem_all (key : Key) : key ∈ all := by
  cases key <;> decide

/-- Exactly one option has a property. -/
theorem filter_all_eq_singleton_iff {p : Key → Bool} {key : Key} :
    all.filter p = [key] ↔ ∀ other, p other = true ↔ other = key := by
  constructor
  · intro h other
    have hmem : other ∈ all.filter p ↔ p other = true := by simp [List.mem_filter, mem_all]
    rw [← hmem, h, List.mem_singleton]
  · intro h
    have hp : p = fun other => decide (other = key) := by
      funext other
      rw [Bool.eq_iff_iff, h, decide_eq_true_eq]
    subst hp
    cases key <;> rfl

end Key

/-- The options of the grammar. -/
theorem specs_eq : grammar.specs = Key.all.map Key.spec := rfl

/-- The names of the grammar. -/
theorem named_specs : Options.named grammar.specs =
    ("-h", Key.help.spec) :: Key.all.map fun key => (key.longName, key.spec) := rfl

/-- A text calls an option if it has two dashes, and begins the long name of that option alone. -/
def Calls (front : String) (key : Key) : Prop :=
  ['-', '-'] <+: front.toList ∧ ∀ other : Key, front.toList <+: other.longName.toList ↔ other = key

/-- A word that no option takes for itself. -/
def Plain (word : String) : Prop :=
  match word.toList with
  | '-' :: '-' :: _ =>
    (∀ key : Key, ¬ (splitEquals word.toList).1 <+: key.longName.toList) ∧ ' ' ∈ word.toList
  | '-' :: second :: rest =>
    second ≠ 'h' ∧ (isUnsignedNumber (second :: rest) = true ∨ ' ' ∈ word.toList)
  | _ => True

/-- The text of an option has no equals sign. -/
theorem Calls.not_mem_equals {front : String} {key : Key} (h : Calls front key) :
    '=' ∉ front.toList := by
  have hname : '=' ∉ key.longName.toList := by cases key <;> decide
  exact fun hmem => hname (((h.2 key).mpr rfl).subset hmem)

/-- The text of an option is not the separator. -/
theorem Calls.ne_separator {front : String} {key : Key} (h : Calls front key) : front ≠ "--" := by
  rintro rfl
  have hhelp : Key.help = key := (h.2 .help).mp (by decide)
  have hhost : Key.host = key := (h.2 .host).mp (by decide)
  rw [← hhost] at hhelp
  cases hhelp

/-- The separator is not plain. -/
theorem Plain.ne_separator {word : String} (h : Plain word) : word ≠ "--" := by
  rintro rfl
  exact h.1 .help (by decide)

/-- Only the names of options are found. -/
theorem eq_of_find? {word : String} {spec : Spec Key}
    (h : Options.find? grammar.specs word = some spec) :
    ∃ key : Key, spec = key.spec ∧ ((word = "-h" ∧ key = .help) ∨ word = key.longName) := by
  have hspec := List.mem_of_find?_eq_some h
  have hname := List.find?_some h
  rw [specs_eq] at hspec
  obtain ⟨key, -, rfl⟩ := List.mem_map.mp hspec
  rw [List.contains_iff_mem] at hname
  refine ⟨key, rfl, ?_⟩
  cases key <;> simpa [Key.spec] using hname

/-! ## Words with two dashes -/

/-- The options whose long names begin with what a word has before its first equals sign. -/
def begun (word : List Char) : List Key :=
  Key.all.filter fun key => (splitEquals word).1.isPrefixOf key.longName.toList

/-- What a word with two dashes is, by the options whose names it begins. -/
def told (word : String) : List Key → Except Ambiguity (Word Key)
  | [] => .ok (if ' ' ∈ word.toList then .plain else .unknown)
  | [key] => .ok (.known key.spec key.longName (splitEquals word.toList).2)
  | several => .error ⟨word, several.map Key.longName⟩

/-- A word begins the name of one option alone. -/
theorem begun_eq_singleton_iff {word : List Char} {key : Key} :
    begun word = [key] ↔
      ∀ other : Key, (splitEquals word).1 <+: other.longName.toList ↔ other = key := by
  simp only [begun, Key.filter_all_eq_singleton_iff, List.isPrefixOf_iff_prefix]

/-- A word begins the name of no option. -/
theorem begun_eq_nil_iff {word : List Char} :
    begun word = [] ↔ ∀ key : Key, ¬ (splitEquals word).1 <+: key.longName.toList := by
  simp [begun, List.filter_eq_nil_iff, Key.mem_all]

/-- The long name of an option begins no other long name. -/
theorem filter_longName (key : Key) :
    (Key.all.filter fun other => key.longName.toList.isPrefixOf other.longName.toList) = [key] := by
  cases key <;> decide

/-- The long name of an option calls it. -/
theorem calls_longName (key : Key) : Calls key.longName key := by
  refine ⟨by cases key <;> decide, ?_⟩
  simpa only [List.isPrefixOf_iff_prefix] using
    Key.filter_all_eq_singleton_iff.mp (filter_longName key)

/-- The options that a word with two dashes may stand for are those whose names it begins. -/
theorem candidates_long (rest : List Char) :
    Options.candidates grammar.specs ('-' :: '-' :: rest) =
      (begun ('-' :: '-' :: rest)).map fun key =>
        (key.longName, key.spec, (splitEquals ('-' :: '-' :: rest)).2) := by
  have hshort : (splitEquals ('-' :: '-' :: rest)).1.isPrefixOf "-h".toList = false := by
    simp [splitEquals, List.isPrefixOf]
  simp only [Options.candidates, named_specs, List.filter_cons, hshort, Bool.false_eq_true,
    if_false, List.filter_map, List.map_map]
  rfl

/-- No number starts with a second dash. -/
theorem isUnsignedNumber_dash (rest : List Char) : isUnsignedNumber ('-' :: rest) = false := by
  have hdash : Text.isDecimalDigit '-' = false := by decide
  have hfirst : ∃ more, Options.dropFinalLineFeed ('-' :: rest) = '-' :: more := by
    rw [Options.dropFinalLineFeed]
    split_ifs with hlast
    · cases rest with
      | nil => simp at hlast
      | cons c rest => exact ⟨_, List.dropLast_cons_cons⟩
    · exact ⟨rest, rfl⟩
  obtain ⟨more, hmore⟩ := hfirst
  simp [isUnsignedNumber, hmore, hdash]

/-- A word with two dashes is told by the options whose names it begins. -/
theorem classify_long {word : String} {rest : List Char}
    (hword : word.toList = '-' :: '-' :: rest) :
    classify grammar.specs word = told word (begun word.toList) := by
  have hfront : (splitEquals word.toList).1 = '-' :: '-' :: (splitEquals rest).1 := by
    simp [hword, splitEquals]
  rw [classify, hword]
  simp only
  cases hexact : Options.find? grammar.specs word with
  | some spec =>
    obtain ⟨key, rfl, ⟨rfl, -⟩ | rfl⟩ := eq_of_find? hexact
    · simp at hword
    · rw [← hword]
      cases key <;> rfl
  | none =>
    rw [← hword]
    simp only
    split
    · next attached spec hvalue hnamed =>
      -- A name before the equals sign begins itself alone.
      obtain ⟨key, rfl, ⟨hname, -⟩ | hname⟩ := eq_of_find? hnamed
      · have hchars := congrArg String.toList hname
        rw [String.toList_ofList, hfront] at hchars
        simp at hchars
      · have hchars := congrArg String.toList hname
        rw [String.toList_ofList] at hchars
        rw [begun, hchars, filter_longName, told, hvalue, String.ofList_toList]
    · rw [hword, candidates_long, ← hword]
      rcases begun word.toList with _ | ⟨first, _ | ⟨second, others⟩⟩
      · simp only [List.map_nil, isUnsignedNumber_dash, told, Bool.false_or,
          List.contains_iff_mem]
        split_ifs <;> rfl
      · rfl
      · simp [told]

/-! ## Words with one dash -/

/-- The only short name is that of help. -/
theorem eq_help_of_name {name : String} {key : Key} {second : Char} {rest : List Char}
    (hname : name.toList = '-' :: second :: rest) (hsecond : second ≠ '-')
    (h : (name = "-h" ∧ key = .help) ∨ name = key.longName) : second = 'h' ∧ key = .help := by
  obtain ⟨rfl, rfl⟩ | rfl := h
  · obtain ⟨hhelp, -⟩ : 'h' = second ∧ [] = rest := by simpa using hname
    exact ⟨hhelp.symm, rfl⟩
  · have hdashes : key.longName.toList[1]? = some '-' := by cases key <;> rfl
    rw [hname] at hdashes
    exact absurd (Option.some.inj hdashes) hsecond

/-- A word with one dash may only stand for help. -/
theorem candidates_short {second : Char} (hsecond : second ≠ '-') (rest : List Char) :
    Options.candidates grammar.specs ('-' :: second :: rest) =
      if second = 'h' then [("-h", Key.help.spec, some rest)] else [] := by
  have hfilter : (Options.named grammar.specs).filter
      (fun entry => entry.1 = String.ofList ['-', second]) =
        if second = 'h' then [("-h", Key.help.spec)] else [] := by
    split_ifs with hhelp
    · subst hhelp
      rfl
    · rw [List.filter_eq_nil_iff]
      rintro ⟨name, spec⟩ hentry hname
      rw [decide_eq_true_eq] at hname
      have hchars : name.toList = ['-', second] :=
        (congrArg String.toList hname).trans String.toList_ofList
      have hkey : ∃ key : Key, (name = "-h" ∧ key = .help) ∨ name = key.longName := by
        rw [named_specs, List.mem_cons, List.mem_map] at hentry
        rcases hentry with hshort | ⟨key, -, hlong⟩
        · exact ⟨.help, .inl ⟨congrArg Prod.fst hshort, rfl⟩⟩
        · exact ⟨key, .inr (congrArg Prod.fst hlong).symm⟩
      obtain ⟨key, hkey⟩ := hkey
      exact hhelp (eq_help_of_name hchars hsecond hkey).1
  rw [Options.candidates, hfilter]
  · split_ifs <;> rfl
  · exact hsecond

/-- A word with one dash asks for help, or is plain or unknown. -/
theorem classify_short {word : String} {second : Char} {rest : List Char}
    (hword : word.toList = '-' :: second :: rest) (hsecond : second ≠ '-') :
    (second = 'h' ∧ ∃ name attached,
      classify grammar.specs word = .ok (.known Key.help.spec name attached)) ∨
    (second ≠ 'h' ∧ classify grammar.specs word =
      .ok (if isUnsignedNumber (second :: rest) = true ∨ ' ' ∈ word.toList then .plain
        else .unknown)) := by
  rw [classify, hword]
  simp only
  cases hexact : Options.find? grammar.specs word with
  | some spec =>
    obtain ⟨key, rfl, hname⟩ := eq_of_find? hexact
    obtain ⟨hhelp, rfl⟩ := eq_help_of_name hword hsecond hname
    exact .inl ⟨hhelp, _, _, rfl⟩
  | none =>
    simp only
    split
    · next attached spec hvalue hnamed =>
      obtain ⟨key, rfl, hname⟩ := eq_of_find? hnamed
      by_cases hequals : second = '='
      · subst hequals
        cases key <;> simp [splitEquals, Key.longName] at hname
      · have hfront : (String.ofList (splitEquals ('-' :: second :: rest)).1).toList =
            '-' :: second :: (splitEquals rest).1 := by
          simp [splitEquals, hequals]
        obtain ⟨hhelp, rfl⟩ := eq_help_of_name hfront hsecond hname
        exact .inl ⟨hhelp, _, _, rfl⟩
    · rw [candidates_short hsecond]
      by_cases hhelp : second = 'h'
      · simp only [if_pos hhelp]
        exact .inl ⟨hhelp, _, _, rfl⟩
      · simp only [if_neg hhelp, Bool.or_eq_true, List.contains_iff_mem]
        refine .inr ⟨hhelp, ?_⟩
        split_ifs <;> rfl

/-! ## Options and plain words -/

/-- A word that calls an option is that option, with the value after the first equals sign. -/
theorem classify_of_calls {word front : String} {value : Option (List Char)} {key : Key}
    (hsplit : splitEquals word.toList = (front.toList, value)) (hcalls : Calls front key) :
    classify grammar.specs word = .ok (.known key.spec key.longName value) := by
  obtain ⟨⟨more, hmore⟩, hunique⟩ := hcalls
  have hword := Options.eq_of_splitEquals hsplit
  rw [← hmore, List.append_assoc] at hword
  have hbegun : begun word.toList = [key] := by
    rw [begun_eq_singleton_iff, hsplit]
    exact hunique
  rw [classify_long hword, hbegun, told, hsplit]

/-- A word that is taken for an option calls it, unless it asks for help. -/
theorem calls_of_classify {word name : String} {spec : Spec Key} {attached : Option (List Char)}
    (h : classify grammar.specs word = .ok (.known spec name attached)) :
    spec = Key.help.spec ∨ ∃ key front, spec = key.spec ∧ name = key.longName ∧
      splitEquals word.toList = (String.toList front, attached) ∧ Calls front key := by
  rcases hword : word.toList with _ | ⟨first, _ | ⟨second, rest⟩⟩
  · simp [classify, hword] at h
  · simp [classify, hword] at h
  by_cases hfirst : first = '-'
  · subst hfirst
    by_cases hsecond : second = '-'
    · subst hsecond
      rw [classify_long hword] at h
      rcases hbegun : begun word.toList with _ | ⟨key, _ | ⟨other, others⟩⟩
      · rw [hbegun, told] at h
        split_ifs at h <;> cases h
      · rw [hbegun, told] at h
        cases h
        rw [begun_eq_singleton_iff] at hbegun
        refine .inr ⟨key, String.ofList (splitEquals word.toList).1, rfl, rfl, ?_, ?_, ?_⟩
        · rw [String.toList_ofList, ← hword]
        · rw [String.toList_ofList, hword]
          exact ⟨(splitEquals rest).1, by simp [splitEquals]⟩
        · rwa [String.toList_ofList]
      · rw [hbegun, told] at h
        · cases h
        · simp
        · simp
    · obtain ⟨-, name, attached, hhelp⟩ | ⟨-, hother⟩ := classify_short hword hsecond
      · rw [hhelp] at h
        cases h
        exact .inl rfl
      · rw [hother] at h
        split_ifs at h <;> cases h
  · rw [Options.classify_of_head?_ne (by simp [hword, hfirst])] at h
    cases h

/-- The plain words are those that no option takes for itself. -/
theorem classify_eq_plain_iff {word : String} :
    classify grammar.specs word = .ok .plain ↔ Plain word := by
  rw [Plain]
  split
  · next rest hword =>
    rw [classify_long hword, ← begun_eq_nil_iff]
    rcases begun word.toList with _ | ⟨key, _ | ⟨other, others⟩⟩
    · simp [told]
    · simp [told]
    · simp [told]
  · next second rest hsecond hword =>
    obtain ⟨hhelp, name, attached, hknown⟩ | ⟨hhelp, hother⟩ := classify_short hword hsecond
    · simp [hknown, hhelp]
    · rw [hother]
      split_ifs with hplain <;> simp [hplain, hhelp]
  · next hlong hshort =>
    rw [classify]
    split
    · next second rest hword => exact absurd hword (hshort second rest)
    · simp

end BrainfuckWasm.Launcher
