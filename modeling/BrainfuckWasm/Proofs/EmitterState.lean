import BrainfuckWasm.Body.Emitter
import BrainfuckWasm.Proofs.Interruption

/-!
# The state of an emitter over any use

Of all requests to an emitter only few matter for its state: what the settings are now, what they
were at the last fresh pass, and the source that was given for it. These three follow the requests
without any pass being run, and the state is what a run over that source with those settings leaves
behind. So what holds after every run holds after every request, and while a source is read it holds
after every character.
-/

namespace BrainfuckWasm.Body

/-- What the requests so far come to. -/
structure Era where
  /-- The settings as they are now. -/
  settings : Settings
  /-- The settings at the last fresh pass. -/
  inForce : Settings
  /-- The source of the last fresh pass. -/
  source : List Char
  deriving DecidableEq, Repr

namespace Era

/-- A fresh pass without a source. -/
def start (settings : Settings) : Era :=
  ⟨settings, settings, []⟩

/-- What a request changes. A word that names no addressing mode changes nothing. -/
def next (era : Era) : Emitter.Request → Era
  | .compile source => ⟨era.settings, era.settings, source.toList⟩
  | .reset => start era.settings
  | .setBaseIndent width => { era with settings := { era.settings with baseIndent := width } }
  | .setIndentStep width => { era with settings := { era.settings with indentStep := width } }
  | .setAddressing offer =>
    match offer.mode? with
    | some mode => { era with settings := { era.settings with addressing := mode } }
    | none => era

/-- What requests come to, one after another. -/
def after (settings : Settings) (requests : List Emitter.Request) : Era :=
  requests.foldl next (start settings)

/-- The run of the last fresh pass. -/
def progress (era : Era) : Progress :=
  Pass.run era.inForce era.source

/-- The emitter that an era leads to. -/
def emitter (era : Era) : Emitter :=
  ⟨era.settings, era.progress.pass⟩

/-- A new emitter is at the start of an era. -/
theorem emitter_start (settings : Settings) : (start settings).emitter = Emitter.new settings := rfl

/-- Each request leads from one era to the next. -/
theorem handle_emitter (era : Era) (request : Emitter.Request) :
    (era.emitter.handle request).1 = (era.next request).emitter := by
  cases request with
  | compile source =>
    rw [Emitter.handle]
    split
    · next hrun => exact congrArg (Emitter.mk era.settings) (congrArg Progress.pass hrun).symm
    · next hrun => exact congrArg (Emitter.mk era.settings) (congrArg Progress.pass hrun).symm
  | reset | setBaseIndent width | setIndentStep width => rfl
  | setAddressing offer =>
    rw [Emitter.handle, next]
    cases offer.mode? with
    | some mode => rfl
    | none => rfl

/-- Requests that are carried out one after another are answered in the era that the earlier ones
lead to. -/
theorem getElem?_handleAll (era : Era) (requests : List Emitter.Request) (index : Nat) :
    (era.emitter.handleAll requests)[index]? = requests[index]?.map fun request =>
      ((((requests.take index).foldl next era).emitter.handle request).2,
        (((requests.take index).foldl next era).next request).emitter) := by
  induction requests generalizing era index with
  | nil => rfl
  | cons request rest ih =>
    rw [Emitter.handleAll]
    cases index with
    | zero => exact congrArg some (Prod.ext rfl (era.handle_emitter request))
    | succ index =>
      rw [List.getElem?_cons_succ, List.getElem?_cons_succ, List.take_succ_cons, List.foldl_cons,
        handle_emitter]
      exact ih (era.next request) index

end Era

/-- What holds of an emitter after every request. Its state is that of the last run; the stacks, the
labels and the bound on what is written and pending are in order whatever has stopped the run; the
width, the number of blocks and the sums are so unless a margin error has. All of this holds also
after each character that the run has read. -/
theorem handleAll_accounts (settings : Settings) (requests : List Emitter.Request) (index : Nat)
    (answer : Emitter.Answer) (emitter : Emitter)
    (h : ((Emitter.new settings).handleAll requests)[index]? = some (answer, emitter)) :
    let era := Era.after settings (requests.take (index + 1))
    emitter = era.emitter ∧
    (∀ offer, requests[index]? = some (.setAddressing offer) → offer.mode? = none →
      answer = .unknownAddressing offer ∧
        emitter = (Era.after settings (requests.take index)).emitter) ∧
    emitter.pass.Orderly era.source ∧
    ((∀ cause, era.progress.stop ≠ some (.margin cause)) →
      emitter.pass.Accounts era.inForce (Pass.consumed era.source era.progress.stop)) ∧
    ∀ text pass, text <+: era.source →
      (Pass.start era.inForce).readFrom 0 text = ⟨pass, none⟩ → pass.Accounts era.inForce text := by
  intro era
  rw [← Era.emitter_start, Era.getElem?_handleAll, Option.map_eq_some_iff] at h
  obtain ⟨request, hrequest, hanswer⟩ := h
  obtain ⟨rfl, rfl⟩ := Prod.mk.inj hanswer
  have hera : ((requests.take index).foldl Era.next (Era.start settings)).next request = era := by
    simp only [era, Era.after, List.take_add_one, hrequest, Option.toList_some, List.foldl_append,
      List.foldl_cons, List.foldl_nil]
  refine ⟨by rw [hera], ?_, ?_, ?_, ?_⟩
  · intro offer hoffer hmode
    rw [hrequest, Option.some.injEq] at hoffer
    subst hoffer
    constructor
    · simp only [Emitter.handle, hmode]
    · simp only [Era.next, hmode]
      rfl
  · rw [hera]
    exact Pass.run_orderly era.inForce era.source
  · intro hmargin
    rw [hera]
    exact Pass.run_accounts era.inForce era.source hmargin
  · intro text pass _ hread
    exact (Pass.reached_iff.mpr hread).accounts

/-- New settings leave the state of a source with an open loop as it is. -/
theorem handleAll_accounts_open :
    ∃ emitter, ((Emitter.new {}).handleAll [.compile "[>+", .setIndentStep 3])[1]? =
        some (.done, emitter) ∧
      emitter.settings.indentStep = 3 ∧ emitter.pass.Accounts {} "[>+".toList := by
  have hstate : ((Emitter.new {}).handleAll [.compile "[>+", .setIndentStep 3])[1]? =
      some (.done, (Era.after {} [.compile "[>+", .setIndentStep 3]).emitter) := rfl
  have haccounts := (handleAll_accounts {} _ 1 _ _ hstate).2.2.2.1
  refine ⟨_, hstate, rfl, haccounts fun cause hstop => ?_⟩
  cases hstop

/-- A move is lost when it is to be written at a width beyond the 64-bit integers. -/
theorem not_accounts_beyond_words :
    ¬ ∀ (settings : Settings) (requests : List Emitter.Request) (index : Nat)
        (answer : Emitter.Answer) (emitter : Emitter),
      ((Emitter.new settings).handleAll requests)[index]? = some (answer, emitter) →
      let era := Era.after settings (requests.take (index + 1))
      emitter.pass.Accounts era.inForce (Pass.consumed era.source era.progress.stop) := by
  intro h
  have hmoves := (h { baseIndent := 0x8000000000000000 } [.compile ">+"] 0 _ _ rfl).moves_eq
  have hlost : ¬ (([] : List Run).map Run.move).sum + 0 = surplus '>' '<' ">+".toList := by decide
  exact hlost hmoves

end BrainfuckWasm.Body
