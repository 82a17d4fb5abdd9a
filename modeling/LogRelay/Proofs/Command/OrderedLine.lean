import LogRelay.Command.Run
import LogRelay.Delivery.Scripted
import LogRelay.Proofs.AccessLog.Handling
import LogRelay.Proofs.Command.Request
import LogRelay.Proofs.Delivery.Errands

/-!
Lines ordered on a command line. Settings that switch the log off, hold requests back or name no
logger are overruled: one line is printed and, if the order says so, delivered once behind that,
whatever comes of the delivery. Only a name that is set and empty is not overruled.
-/
set_option autoImplicit false

namespace LogRelay.Command

open AccessLog Config Delivery

section Lines

variable (order : LineOrder) (settings : LogSettings) (clock : Clock) (thread : Option String)
  (now : Instant)

theorem ordered_named_iff :
    (Logger.ofSettings clock (order.settings settings)).isNamed = true ↔
      settings.loggerName ≠ some "" := by
  have named : (Logger.ofSettings clock (order.settings settings)).loggerName =
      some (settings.loggerName.getD "quill") := rfl
  rw [Logger.is_named_iff, named]
  cases settings.loggerName <;> simp

theorem ordered_idle :
    (Logger.ofSettings clock (order.settings settings)).phase ≠ .started := nofun

theorem lines_unnamed (unnamed : settings.loggerName = some "") :
    order.lines settings clock thread now = .error (.setup Logger.noName) := by
  have nameless : (Logger.ofSettings clock (order.settings settings)).isNamed = false := by
    rw [← Bool.not_eq_true, ordered_named_iff]
    exact not_not_intro unnamed
  rw [LineOrder.lines, Logger.start_unnamed _ (ordered_idle order settings clock) nameless]

-- A request from a command line has no attributes, so no condition holds it back.
theorem lines_named (named : settings.loggerName ≠ some "") (request : Request)
    (described : order.Describes request) : order.lines settings clock thread now =
      .ok [((Pattern.ofSetting (order.pattern.getD settings.pattern)).write request
        ⟨order.elapsed.toNat * 1000000, now, thread⟩ (.start clock)).1] := by
  have starts := Logger.start_named _ (ordered_idle order settings clock)
    ((ordered_named_iff order settings clock).mpr named)
  rw [LineOrder.lines, starts, (request_iff order request).mpr described]
  generalize begun : { Logger.ofSettings clock (order.settings settings) with phase := .started } =
    logger
  have active : logger.isActive = true := by
    subst begun
    rfl
  have admitted : logger.skips request = false := by
    rw [← Bool.not_eq_true, Logger.skips_iff]
    rintro ⟨name, _, carried⟩
    rw [Request.attribute?, described.attributes] at carried
    cases carried
  dsimp only
  rw [(logger.log_leaves request _).1 ⟨active, admitted⟩]
  subst begun
  rfl

end Lines

theorem ordered_line_printed_unless_unnamed {m : Type → Type} [Monad m] [LawfulMonad m] {κ : Type}
    (around : Surroundings m κ) (settings : Settings) (order : LineOrder)
    (readable : order.Readable) :
    ∃ request, order.Describes request ∧
      let pattern := Pattern.ofSetting (order.pattern.getD settings.log.pattern)
      let line := fun now => (pattern.write request
        ⟨order.elapsed.toNat * 1000000, now, around.thread⟩ (.start around.clock)).1
      let transport := around.transport settings.collector.endpoint
      (settings.log.loggerName ≠ some "" →
        (Task.format order).run around settings = do
          let now ← around.now
          around.print (line now)
          if order.ship then
            let entry := ⟨settings.collector.category, line now⟩
            let _ ← Courier.performAll transport (fun _ => pure ()) (.idle "scribe")
              [.deliver entry, .close]
          pure (.ok ())) ∧
      (settings.log.loggerName = some "" →
        (Task.format order).run around settings = do
          let _ ← around.now
          pure (.error (.setup Logger.noName))) := by
  obtain ⟨request, described⟩ := (readable_iff order).mp readable
  refine ⟨request, described, ?_, ?_⟩
  · intro named
    simp only [Task.run, runFormat, lines_named order settings.log _ _ _ named request described]
    cases order.ship with
    | true => simp [Courier.performAll, Courier.perform]
    | false => simp [Courier.release, Courier.idle]
  · intro unnamed
    simp only [Task.run, runFormat, lines_unnamed order settings.log _ _ _ unnamed]

def desk : Surroundings (StateM (Stage × List String)) Bool where
  environment := []
  systemName := none
  clock := universalClock
  thread := none
  now := pure 0
  milliseconds := pure 0
  file := fun _ => pure .missing
  transport := fun _ => (Stage.transport "here").lift fun act (stage, printed) =>
    let (result, stage) := act.run stage
    (result, (stage, printed))
  collect := fun _ _ => pure false
  print := fun line => modify fun (stage, printed) => (stage, printed ++ [line])

def hushed : Settings := ⟨⟨false, "common", some "quiet", none⟩, .standard⟩

def shippedOrder : LineOrder where
  pattern := some "%m %\x7baccept\x7di %\x7bid\x7dc"
  remoteAddress := none
  remoteHost := none
  method := some "GET"
  uri := none
  query := none
  protocol := none
  status := none
  bytes := 0
  user := none
  headers := ["Accept : */* "]
  responseHeaders := []
  cookies := ["id=7=8"]
  elapsed := 0
  ship := true

def shippedRequest : Request :=
  { Request.blank with
    method := some "GET"
    requestHeaders := [(⟨"accept".toList⟩, "*/*".toUTF8.toList)]
    cookies := [("id", "7=8")] }

theorem shipped_order_request : shippedOrder.request = .ok shippedRequest := by
  decide +kernel

theorem shipped_order_readable : shippedOrder.Readable :=
  (readable_iff shippedOrder).mpr
    ⟨shippedRequest, (request_iff shippedOrder shippedRequest).mp shipped_order_request⟩

theorem refused_order_printed :
    let outcome := ((Task.format shippedOrder).run desk hushed).run
      (.start [] (some (.refused "here" "down")), [])
    shippedOrder.Readable ∧ hushed.log.loggerName ≠ some "" ∧ outcome.1 = .ok () ∧
      outcome.2.2 = ["GET */* 7=8"] ∧ outcome.2.1.connects = 1 := by
  intro outcome
  have named : hushed.log.loggerName ≠ some "" := nofun
  obtain ⟨request, described, prints, _⟩ :=
    ordered_line_printed_unless_unnamed desk hushed shippedOrder shipped_order_readable
  have read := (request_iff shippedOrder request).mpr described
  rw [shipped_order_request] at read
  cases read
  refine ⟨shipped_order_readable, named, ?_⟩
  dsimp only [outcome]
  rw [prints named]
  decide +kernel

def nameless : Settings := ⟨⟨true, "common", none, some ""⟩, .standard⟩

theorem empty_name_stops_order : ¬ ∀ (settings : Settings) (order : LineOrder) (stage : Stage),
    settings.validate = .ok () → order.Readable →
      (((Task.format order).run desk settings).run (stage, [])).1 = .ok () := by
  intro succeeds
  have printed := succeeds nameless shippedOrder (.start [] none) rfl shipped_order_readable
  revert printed
  decide +kernel

end LogRelay.Command
