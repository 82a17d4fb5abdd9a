import LogRelay.Delivery.Scripted
import LogRelay.Proofs.Delivery.Errands
import LogRelay.Proofs.Delivery.EventLine

/-!
Which events a shipper delivers. Each that it admits is delivered once, in order, and no other is,
also when all that the library says about itself while it delivers comes back to the shipper.
-/
set_option autoImplicit false

namespace LogRelay.Delivery

open Wire

-- What a courier does is the same in a monad into which all it uses is carried over.
section Lift

variable {m n : Type → Type} [Monad m] [Monad n] {κ : Type} (run : {α : Type} → m α → n α)
  (keepsPure : ∀ {α : Type} (value : α), run (pure value) = pure value)
  (keepsBind : ∀ {α β : Type} (first : m α) (next : α → m β),
    run (first >>= next) = run first >>= fun value => run (next value))
  (transport : Transport m κ) (tell : Report → m Unit)

include keepsPure keepsBind

theorem release_lift (courier : Courier κ) :
    courier.release (transport.lift run) = run (courier.release transport) := by
  unfold Courier.release
  cases courier.held with
  | none => exact (keepsPure courier).symm
  | some connection =>
      rw [keepsBind]
      exact congrArg _ (funext fun _ => (keepsPure _).symm)

theorem acquire_lift (courier : Courier κ) :
    courier.acquire (transport.lift run) = run (courier.acquire transport) := by
  unfold Courier.acquire
  cases courier.held with
  | none => rfl
  | some connection =>
      dsimp only
      rw [keepsBind]
      refine congrArg _ (funext fun usable => ?_)
      cases usable with
      | true => exact (keepsPure _).symm
      | false => exact (keepsBind _ _).symm

theorem drop_lift (courier : Courier κ) (outcome : Outcome) (entry : Entry)
    (failure : Option Failure) :
    courier.drop (fun report => run (tell report)) outcome entry failure =
      run (courier.drop tell outcome entry failure) := by
  unfold Courier.drop
  rw [keepsBind]
  exact congrArg _ (funext fun _ => (keepsPure _).symm)

theorem deliver_lift (courier : Courier κ) (entry : Entry) :
    courier.deliver (transport.lift run) (fun report => run (tell report)) entry =
      run (courier.deliver transport tell entry) := by
  unfold Courier.deliver
  rw [keepsBind, acquire_lift run keepsPure keepsBind transport courier]
  refine congrArg _ (funext fun acquired => ?_)
  cases acquired with
  | error failure => exact drop_lift run keepsPure keepsBind tell _ _ _ _
  | ok connection =>
      dsimp only
      rw [keepsBind]
      refine congrArg _ (funext fun answered => ?_)
      obtain ⟨answer, connection⟩ := answered
      cases answer with
      | ok verdict =>
          cases verdict with
          | ok =>
              dsimp only
              rw [keepsBind]
              exact congrArg _ (funext fun _ => (keepsPure _).symm)
          | tryLater => exact drop_lift run keepsPure keepsBind tell _ _ _ _
      | error failure =>
          dsimp only
          split
          · rw [keepsBind, release_lift run keepsPure keepsBind transport]
            exact congrArg _ (funext fun _ => drop_lift run keepsPure keepsBind tell _ _ _ _)
          · rw [keepsBind, keepsPure]
            exact congrArg _ (funext fun _ => drop_lift run keepsPure keepsBind tell _ _ _ _)

theorem observe_lift (shipper : Shipper) (courier : Courier κ) (event : Event) :
    shipper.observe (transport.lift run) (fun report => run (tell report)) courier event =
      run (shipper.observe transport tell courier event) := by
  unfold Shipper.observe
  split
  · dsimp only
    rw [keepsBind, deliver_lift run keepsPure keepsBind transport tell]
    exact congrArg _ (funext fun _ => (keepsPure _).symm)
  · exact (keepsPure courier).symm

end Lift

theorem warning_target (drop : Drop) :
    drop.warning.target = ownTarget ++ "::sink" := by
  unfold Drop.warning
  split <;> rfl

def OwnTarget (target : String) : Prop := ownTarget.toList <+: target.toList

instance (target : String) : Decidable (OwnTarget target) :=
  inferInstanceAs (Decidable (_ <+: _))

theorem warnings_own (report : Report) (event : Event) (told : event ∈ report.warnings) :
    OwnTarget event.target := by
  cases report with
  | delivered => cases told
  | dropped drop =>
      rw [List.mem_singleton.mp told, warning_target, OwnTarget, String.toList_append]
      exact List.prefix_append _ _

namespace Shipper

theorem admits_iff (shipper : Shipper) (event : Event) : shipper.admits event = true ↔
    event.level.verbosity ≤ shipper.maxLevel.verbosity ∧ ¬ OwnTarget event.target := by
  simp [admits, OwnTarget, ← List.isPrefixOf_iff_prefix]

def entryOf (shipper : Shipper) (event : Event) : Entry :=
  ⟨shipper.category, shipper.layout.eventLine event⟩

def errands (shipper : Shipper) (events : List Event) : List Errand :=
  (events.filter shipper.admits).map fun event => .deliver (shipper.entryOf event)

section Run

variable {S κ : Type} (shipper : Shipper) (transport : Transport (StateM S) κ)
  (tell : Report → StateM S Unit)

-- Does a step of a delivery, after which the library may say something about it. An event that
-- the shipper would have to deliver then finds the courier at work, and nothing goes on.
def overhear (talk : S → List Event) {α : Type} (action : StateM S α) : StateT S Option α :=
  fun state =>
    let (result, after) := action.run state
    if (talk after).any shipper.admits then none else some (result, after)

-- Shows an event to a shipper that hears what the library says while it delivers: the warnings of
-- each report, and whatever else is said after a step.
def observeHearing (talk : S → List Event) (courier : Courier κ) (event : Event) :
    StateT S Option (Courier κ) :=
  shipper.observe (transport.lift (shipper.overhear talk))
    (fun report => shipper.overhear (fun state => report.warnings ++ talk state) (tell report))
    courier event

theorem overhear_own {α : Type} (talk : S → List Event)
    (own : ∀ state, ∀ event ∈ talk state, OwnTarget event.target) (action : StateM S α) :
    shipper.overhear talk action = fun state => some (action.run state) := by
  funext state
  have silent : (talk (action.run state).2).any shipper.admits = false := by
    rw [List.any_eq_false]
    intro event said admitted
    exact ((shipper.admits_iff event).mp admitted).2 (own _ event said)
  change (if (talk (action.run state).2).any shipper.admits then none else some _) = _
  rw [silent]
  rfl

theorem overhear_pure (talk : S → List Event)
    (own : ∀ state, ∀ event ∈ talk state, OwnTarget event.target) {α : Type} (value : α) :
    shipper.overhear talk (pure value) = (pure value : StateT S Option α) :=
  overhear_own shipper talk own _

theorem overhear_bind (talk : S → List Event)
    (own : ∀ state, ∀ event ∈ talk state, OwnTarget event.target) {α β : Type}
    (first : StateM S α) (next : α → StateM S β) : shipper.overhear talk (first >>= next) =
      shipper.overhear talk first >>= fun value => shipper.overhear talk (next value) := by
  simp only [overhear_own shipper talk own]
  rfl

-- The warnings of a report are the library's own, so they go unnoticed like the rest.
theorem overhear_warnings (talk : S → List Event)
    (own : ∀ state, ∀ event ∈ talk state, OwnTarget event.target) (report : Report)
    (action : StateM S Unit) :
    shipper.overhear (fun state => report.warnings ++ talk state) action =
      shipper.overhear talk action := by
  rw [overhear_own shipper talk own, overhear_own]
  intro state event said
  rcases List.mem_append.mp said with warned | other
  · exact warnings_own report event warned
  · exact own state event other

theorem observe_hearing (talk : S → List Event)
    (own : ∀ state, ∀ event ∈ talk state, OwnTarget event.target) (courier : Courier κ)
    (event : Event) : shipper.observeHearing transport tell talk courier event =
      fun state => some ((shipper.observe transport tell courier event).run state) := by
  rw [observeHearing, funext fun report => shipper.overhear_warnings talk own report (tell report),
    ← overhear_own shipper talk own]
  exact @observe_lift (StateM S) (StateT S Option) _ _ κ (fun {_} => shipper.overhear talk)
    (shipper.overhear_pure talk own) (shipper.overhear_bind talk own) transport tell shipper
    courier event

theorem run_observe (courier : Courier κ) (event : Event) (state : S) :
    (shipper.observe transport tell courier event).run state =
      if shipper.admits event then
        let ((_, courier), state) :=
          (courier.deliver transport tell (shipper.entryOf event)).run state
        (courier, state)
      else (courier, state) := by
  unfold observe
  split <;> rfl

theorem run_hearing_all (talk : S → List Event)
    (own : ∀ state, ∀ event ∈ talk state, OwnTarget event.target) (events : List Event)
    (courier : Courier κ) (state : S) :
    (events.foldlM (shipper.observeHearing transport tell talk) courier).run state =
      let ((_, courier), state) :=
        (Courier.performAll transport tell courier (shipper.errands events)).run state
      some (courier, state) := by
  induction events generalizing courier state with
  | nil => rfl
  | cons event rest ih =>
      have shown := congrFun (observe_hearing shipper transport tell talk own courier event) state
      rw [run_observe] at shown
      have head : ((event :: rest).foldlM (shipper.observeHearing transport tell talk)
          courier).run state = (shipper.observeHearing transport tell talk courier event state).bind
            fun (courier, state) =>
              (rest.foldlM (shipper.observeHearing transport tell talk) courier).run state := rfl
      rw [head, shown, Option.bind_some]
      cases admitted : shipper.admits event with
      | true =>
          rw [errands, List.filter_cons_of_pos admitted, List.map_cons,
            Courier.run_perform_all_cons, Courier.run_perform]
          exact ih _ _
      | false =>
          rw [errands, List.filter_cons_of_neg (by simp [admitted])]
          exact ih courier state

end Run

end Shipper

theorem admitted_events_delivered_once {S κ : Type} (shipper : Shipper)
    (transport : Transport (StateM S) κ) (tell : Report → StateM S Unit) (talk : S → List Event)
    (own : ∀ state, ∀ event ∈ talk state, OwnTarget event.target) (events : List Event)
    (courier : Courier κ) (state : S) :
    let deliveries := (events.filter fun event =>
      event.level.verbosity ≤ shipper.maxLevel.verbosity ∧ ¬ OwnTarget event.target).map
        fun event => Errand.deliver ⟨shipper.category, shipper.layout.eventLine event⟩
    (events.foldlM (shipper.observeHearing transport tell talk) courier).run state =
      (let ((_, courier), state) :=
        (Courier.performAll transport tell courier deliveries).run state
      some (courier, state)) ∧
    ∀ event : Event, shipper.layout.eventLine event =
      "[" ++ shipper.layout.host ++ "] " ++ event.level.name ++ " - " ++
        messageOf event.fields ++ remarksOf (event.fields.eraseP isError) ++
        shipper.layout.errorText (firstError? event.fields) := by
  intro deliveries
  have admitted : events.filter shipper.admits = events.filter fun event =>
      event.level.verbosity ≤ shipper.maxLevel.verbosity ∧ ¬ OwnTarget event.target := by
    refine List.filter_congr fun event _ => ?_
    rw [Bool.eq_iff_iff, shipper.admits_iff, decide_eq_true_eq]
  have called : shipper.errands events = deliveries := by
    rw [Shipper.errands, admitted]
    rfl
  refine ⟨?_, event_line_written shipper.layout⟩
  rw [shipper.run_hearing_all transport tell talk own events courier state, called]

def webShipper : Shipper := ⟨"app", ⟨"web01", 1⟩, .info⟩

def connecting : Event := ⟨.debug, "quill_scribe::transport", [("message", .plain "connected")]⟩

def busyEvents : List Event :=
  [⟨.error, "app", [("message", .plain "stop"), ("user", .quoted "a"),
      ("cause", .error (.caused "late" (.caused "slow" (.root "far")))),
      ("message", .error (.root "again"))]⟩,
    connecting, ⟨.debug, "app", [("message", .plain "detail")]⟩,
    ⟨.info, "app::work", [("message", .plain "go")]⟩]

theorem busy_events_delivered :
    (∀ _ : Stage, ∀ event ∈ [connecting], OwnTarget event.target) ∧
      ∃ courier stage,
        (busyEvents.foldlM (webShipper.observeHearing (Stage.transport "here")
          (fun _ => pure ()) fun _ => [connecting]) (.idle "scribe")).run
            (.start [⟨.ok .tryLater, true⟩] none) = some (courier, stage) ∧
        stage.connects = 1 ∧ stage.sent.reverse =
          [⟨"app", "[web01] ERROR - stop user=\"a\" message=again \x7blate\tslow\x7d"⟩,
            ⟨"app", "[web01] INFO - go"⟩] := by
  have own : ∀ _ : Stage, ∀ event ∈ [connecting], OwnTarget event.target := by
    intro stage event said
    rw [List.mem_singleton.mp said]
    decide
  have ran := (admitted_events_delivered_once webShipper (Stage.transport "here")
    (fun _ => pure ()) (fun _ => [connecting]) own busyEvents (.idle "scribe")
    (.start [⟨.ok .tryLater, true⟩] none)).1
  exact ⟨own, _, _, ran, by decide +kernel, by decide +kernel⟩

end LogRelay.Delivery
