import LogRelay.Proofs.Command.OrderedLine
import LogRelay.Proofs.Delivery.Shipment

/-!
The event sent from a command line. Its errors become a chain and again the texts that they were,
its line is delivered once, and the counts printed behind that add up to the one delivery, also if
the shipper hears all that the library says of itself in the meantime.
-/
set_option autoImplicit false

namespace LogRelay.Command

open Config Delivery

theorem chain_of_texts (text : String) (causes : List String) :
    ∃ chain, ErrorChain.ofTexts (text :: causes) = some chain ∧
      chain.texts = text :: causes := by
  induction causes generalizing text with
  | nil => exact ⟨.root text, rfl, rfl⟩
  | cons cause rest ih =>
      obtain ⟨chain, built, texts⟩ := ih cause
      refine ⟨.caused text chain, ?_, ?_⟩
      · rw [ErrorChain.ofTexts, built]
      · rw [ErrorChain.texts, texts]

theorem event_of_digest (level : Level) (message : String) (errors : List String) :
    (eventOf level message errors).digest = ⟨message, "", errors⟩ := by
  have spoken : Digest.empty.add (messageField, .plain message) = ⟨message, "", []⟩ := by
    simp [Digest.add, Digest.empty, FieldValue.text]
  cases errors with
  | nil => exact spoken
  | cons text causes =>
      obtain ⟨chain, built, texts⟩ := chain_of_texts text causes
      rw [Event.digest, eventOf, built]
      dsimp only
      rw [List.foldl_cons, spoken, List.foldl_cons, List.foldl_nil, ← texts]
      rfl

-- The error's own text is kept whatever the depth.
theorem trace_cut (layout : Layout) (errors : List String) :
    layout.trace errors = if errors = [] then "" else
      " \x7b" ++ "\t".intercalate (errors.take (min (layout.causes + 1) errors.length)) ++
        "\x7d" := by
  cases errors with
  | nil => rfl
  | cons error behind =>
      have kept : (error :: behind).take (min (layout.causes + 1) (error :: behind).length) =
          error :: behind.take layout.causes := by
        rw [List.take_eq_take_min, Nat.min_assoc, Nat.min_self, ← List.take_eq_take_min]
        rfl
      rw [kept]
      rfl

def soleCounts (outcome : Outcome) : List (String × UInt64) :=
  Outcome.all.map fun other => (other.name, if outcome = other then 1 else 0)

theorem sole_counts_sum (outcome : Outcome) :
    ((soleCounts outcome).map fun (_, count) => count.toNat).foldl (· + ·) 0 = 1 := by
  cases outcome <;> rfl

theorem tally_text_sole (outcome : Outcome) :
    tallyText (Tally.zero.count outcome) = countsText (soleCounts outcome) := by
  cases outcome <;> rfl

theorem sent_admitted {m : Type → Type} {κ : Type} (around : Surroundings m κ)
    (settings : CollectorSettings) (level : Level) (message : String) (errors : List String) :
    (shipperOf around settings).admits (eventOf level message errors) = true := by
  rw [Shipper.admits_iff]
  refine ⟨?_, (by decide : ¬ OwnTarget "quill")⟩
  cases level <;> simp [shipperOf, eventOf, Level.verbosity]

theorem sent_line (layout : Layout) (level : Level) (message : String) (errors : List String) :
    layout.eventLine (eventOf level message errors) =
      "[" ++ layout.host ++ "] " ++ level.name ++ " - " ++ message ++
        if errors = [] then "" else
          " \x7b" ++ "\t".intercalate (errors.take (min (layout.causes + 1) errors.length)) ++
            "\x7d" := by
  have named : (eventOf level message errors).level = level := rfl
  rw [Layout.eventLine, event_of_digest, named, Layout.line, trace_cut]
  simp only [String.append_empty, String.append_assoc]

section Counted

variable {m : Type → Type} [Monad m] [LawfulMonad m] {κ : Type} (around : Surroundings m κ)
  (settings : CollectorSettings) (tell : Report → m Unit) (courier : Courier κ) (tally : Tally)

theorem acquire_counted :
    (courier.acquire (tallied around settings)).run tally = (do
      let acquired ← courier.acquire (around.transport settings.endpoint)
      pure (acquired, tally)) := by
  have lifted : courier.acquire (tallied around settings) = StateT.lift (courier.acquire _) :=
    acquire_lift StateT.lift (monadLift_pure (m := m) (n := StateT Tally m))
      (monadLift_bind (n := StateT Tally m)) _ courier
  rw [lifted, StateT.run_lift]

theorem release_counted :
    (courier.release (tallied around settings)).run tally = (do
      let released ← courier.release (around.transport settings.endpoint)
      pure (released, tally)) := by
  have lifted : courier.release (tallied around settings) = StateT.lift (courier.release _) :=
    release_lift StateT.lift (monadLift_pure (m := m) (n := StateT Tally m))
      (monadLift_bind (n := StateT Tally m)) _ courier
  rw [lifted, StateT.run_lift]

theorem drop_counted (outcome : Outcome) (entry : Wire.Entry) (failure : Option Failure) :
    (courier.drop (tellBoth tell) outcome entry failure).run tally = (do
      let result ← courier.drop tell outcome entry failure
      pure (result, tally.count result.1)) := by
  simp [Courier.drop, tellBoth, tellTally, Tally.tell, Report.outcome]

-- A report is told and counted between the transport's steps, so a delivery is not carried over as
-- a whole as those are.
theorem deliver_counted (entry : Wire.Entry) :
    (courier.deliver (tallied around settings) (tellBoth tell) entry).run tally = (do
      let result ← courier.deliver (around.transport settings.endpoint) tell entry
      pure (result, tally.count result.1)) := by
  unfold Courier.deliver
  rw [StateT.run_bind, acquire_counted, bind_assoc, bind_assoc]
  refine congrArg _ (funext fun acquired => ?_)
  rw [pure_bind]
  cases acquired with
  | error failure => exact drop_counted _ _ _ _ _ _
  | ok connection =>
      have submitted : ((tallied around settings).submit connection entry).run tally = (do
          let answered ← (around.transport settings.endpoint).submit connection entry
          pure (answered, tally)) := StateT.run_lift _ tally
      dsimp only
      rw [StateT.run_bind, submitted, bind_assoc, bind_assoc]
      refine congrArg _ (funext fun answered => ?_)
      obtain ⟨answer, connection⟩ := answered
      rw [pure_bind]
      cases answer with
      | ok verdict =>
          cases verdict with
          | ok => simp [tellBoth, tellTally, Tally.tell, Report.outcome]
          | tryLater => exact drop_counted _ _ _ _ _ _
      | error failure =>
          dsimp only
          split
          · rw [StateT.run_bind, release_counted, bind_assoc, bind_assoc]
            refine congrArg _ (funext fun released => ?_)
            rw [pure_bind]
            exact drop_counted _ _ _ _ _ _
          · rw [pure_bind, pure_bind]
            exact drop_counted _ _ _ _ _ _

theorem run_send_delivers (event : Event)
    (admitted : (shipperOf around settings).admits event = true) :
    runSend around settings tell event = (do
      let transport := around.transport settings.endpoint
      let entry := (shipperOf around settings).entryOf event
      let (outcome, courier) ← Courier.deliver transport tell (.idle "scribe") entry
      let _ ← courier.release transport
      around.print (countsText (soleCounts outcome))) := by
  unfold runSend Shipper.observe
  dsimp only
  rw [if_pos admitted, StateT.run_bind, StateT.run_bind, deliver_counted around settings tell]
  simp only [bind_assoc, pure_bind, StateT.run_bind, StateT.run_pure, release_counted,
    tally_text_sole]
  rfl

end Counted

def Surroundings.lift {m n : Type → Type} {κ : Type} (around : Surroundings m κ)
    (run : {α : Type} → m α → n α) : Surroundings n κ where
  environment := around.environment
  systemName := around.systemName
  clock := around.clock
  thread := around.thread
  now := run around.now
  milliseconds := run around.milliseconds
  file path := run (around.file path)
  transport endpoint := (around.transport endpoint).lift run
  collect address verdict := run (around.collect address verdict)
  print line := run (around.print line)

theorem run_send_lift {m n : Type → Type} [Monad m] [LawfulMonad m] [Monad n] [LawfulMonad n]
    {κ : Type} (run : {α : Type} → m α → n α)
    (keepsPure : ∀ {α : Type} (value : α), run (pure value) = pure value)
    (keepsBind : ∀ {α β : Type} (first : m α) (next : α → m β),
      run (first >>= next) = run first >>= fun value => run (next value))
    (around : Surroundings m κ) (settings : CollectorSettings) (tell : Report → m Unit)
    (event : Event) (admitted : (shipperOf around settings).admits event = true) :
    runSend (around.lift run) settings (fun report => run (tell report)) event =
      run (runSend around settings tell event) := by
  rw [run_send_delivers around settings tell event admitted,
    run_send_delivers (around.lift run) settings _ event admitted]
  dsimp only
  rw [keepsBind, ← deliver_lift run keepsPure keepsBind]
  refine congrArg _ (funext fun delivered => ?_)
  rw [keepsBind, ← release_lift run keepsPure keepsBind]
  rfl

section Hearing

variable {S κ : Type} (around : Surroundings (StateM S) κ) (settings : CollectorSettings)

-- Sends an event through a shipper that hears what the library says in the meantime: the warnings
-- of each report, and whatever else is said after a step.
def sendHearing (talk : S → List Event) (event : Event) : StateT S Option Unit :=
  let shipper := shipperOf around settings
  runSend (around.lift (shipper.overhear talk)) settings
    (fun report => shipper.overhear (fun state => report.warnings ++ talk state) (pure ())) event

theorem run_send_hearing (talk : S → List Event)
    (own : ∀ state, ∀ event ∈ talk state, OwnTarget event.target) (event : Event)
    (admitted : (shipperOf around settings).admits event = true) :
    sendHearing around settings talk event =
      fun state => some ((runSend around settings (fun _ => pure ()) event).run state) := by
  let shipper := shipperOf around settings
  rw [sendHearing, funext fun report => shipper.overhear_warnings talk own report (pure ()),
    ← shipper.overhear_own talk own]
  exact run_send_lift (fun {_} => shipper.overhear talk) (shipper.overhear_pure talk own)
    (shipper.overhear_bind talk own) around settings (fun _ => pure ()) event admitted

end Hearing

def webSettings : Settings :=
  { Settings.standard with
    collector := { CollectorSettings.standard with category := "app", localHost := some "web01" } }

def failedRequest : List String := ["request failed", "pool exhausted", "connection refused"]

end LogRelay.Command
