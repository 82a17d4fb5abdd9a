import LogRelay.Proofs.Delivery.Errands

/-!
A courier whose every deed is written down, over any transport whose operations are functions on a
state: what one errand can do, and from it what a run of errands does.
-/
set_option autoImplicit false

namespace LogRelay.Delivery

open Wire

-- What a courier does with a transport. Connections are known by their number.
inductive Deed where
  | connect (result : Except Failure Nat)
  | ask (number : Nat) (usable : Bool)
  | send (number : Nat) (entry : Entry) (answer : Except Failure Verdict)
  | close (number : Nat)

def Deed.connects : Deed → Bool
  | .connect _ => true
  | _ => false

def Deed.opens : Deed → Bool
  | .connect (.ok _) => true
  | _ => false

def Deed.entry? : Deed → Option Entry
  | .send _ entry _ => some entry
  | _ => none

structure Logbook (S : Type) where
  world : S
  deeds : List Deed
  journal : Journal

structure Numbered (κ : Type) where
  number : Nat
  connection : κ

namespace Logbook

variable {S : Type}

def opened (book : Logbook S) : Nat := book.deeds.countP Deed.opens

def note (book : Logbook S) (world : S) (deeds : List Deed) : Logbook S :=
  { book with world, deeds := book.deeds ++ deeds }

def told (book : Logbook S) (report : Report) : Logbook S :=
  { book with journal := book.journal.tell report }

def tell (report : Report) : StateM (Logbook S) Unit := fun book => ((), book.told report)

theorem note_nothing (book : Logbook S) : book.note book.world [] = book := by
  simp [note]

theorem note_note (book : Logbook S) (middle world : S) (first second : List Deed) :
    (book.note middle first).note world second = book.note world (first ++ second) := by
  simp [note]

end Logbook

def Transport.logged {S κ : Type} (transport : Transport (StateM S) κ) :
    Transport (StateM (Logbook S)) (Numbered κ) where
  endpoint := transport.endpoint
  connect book :=
    match transport.connect.run book.world with
    | (.error failure, world) => (.error failure, book.note world [.connect (.error failure)])
    | (.ok connection, world) =>
        (.ok ⟨book.opened, connection⟩, book.note world [.connect (.ok book.opened)])
  submit held entry book :=
    let ((answer, connection), world) := (transport.submit held.connection entry).run book.world
    ((answer, ⟨held.number, connection⟩), book.note world [.send held.number entry answer])
  isOpen held book :=
    let (usable, world) := (transport.isOpen held.connection).run book.world
    (usable, book.note world [.ask held.number usable])
  close held book :=
    let (_, world) := (transport.close held.connection).run book.world
    ((), book.note world [.close held.number])

namespace Transport

variable {S κ : Type} (transport : Transport (StateM S) κ)

theorem run_logged_connect (book : Logbook S) :
    transport.logged.connect.run book =
      match transport.connect.run book.world with
      | (.error failure, world) => (.error failure, book.note world [.connect (.error failure)])
      | (.ok connection, world) =>
          (.ok ⟨book.opened, connection⟩, book.note world [.connect (.ok book.opened)]) := rfl

theorem run_logged_submit (held : Numbered κ) (entry : Entry) (book : Logbook S) :
    (transport.logged.submit held entry).run book =
      let ((answer, connection), world) := (transport.submit held.connection entry).run book.world
      ((answer, ⟨held.number, connection⟩),
        book.note world [.send held.number entry answer]) := rfl

theorem run_logged_ask (held : Numbered κ) (book : Logbook S) :
    (transport.logged.isOpen held).run book =
      let (usable, world) := (transport.isOpen held.connection).run book.world
      (usable, book.note world [.ask held.number usable]) := rfl

end Transport

structure Shift (S κ : Type) where
  courier : Courier (Numbered κ)
  book : Logbook S

namespace Shift

variable {S κ : Type}

def start (name : String) (world : S) : Shift S κ := ⟨.idle name, ⟨world, [], .empty⟩⟩

variable (transport : Transport (StateM S) κ)

def usable (shift : Shift S κ) : Bool :=
  ((shift.courier.isConnected transport.logged).run shift.book).1

def deliver (shift : Shift S κ) (entry : Entry) : Outcome × Shift S κ :=
  let ((outcome, courier), book) :=
    (shift.courier.deliver transport.logged Logbook.tell entry).run shift.book
  (outcome, ⟨courier, book⟩)

def retire (shift : Shift S κ) : Shift S κ :=
  let (courier, book) := (shift.courier.release transport.logged).run shift.book
  ⟨courier, book⟩

def inquire (shift : Shift S κ) : Shift S κ :=
  { shift with book := ((shift.courier.isConnected transport.logged).run shift.book).2 }

def after (shift : Shift S κ) (errands : List Errand) : Shift S κ :=
  let ((_, courier), book) :=
    (Courier.performAll transport.logged Logbook.tell shift.courier errands).run shift.book
  ⟨courier, book⟩

def outcomes (shift : Shift S κ) (errands : List Errand) : List Outcome :=
  ((Courier.performAll transport.logged Logbook.tell shift.courier errands).run shift.book).1.1

theorem after_deliver (shift : Shift S κ) (entry : Entry) (rest : List Errand) :
    shift.after transport (.deliver entry :: rest) =
      (shift.deliver transport entry).2.after transport rest := rfl

theorem outcomes_deliver (shift : Shift S κ) (entry : Entry) (rest : List Errand) :
    shift.outcomes transport (.deliver entry :: rest) =
      (shift.deliver transport entry).1 ::
        (shift.deliver transport entry).2.outcomes transport rest := rfl

theorem after_close (shift : Shift S κ) (rest : List Errand) :
    shift.after transport (.close :: rest) = (shift.retire transport).after transport rest := rfl

theorem after_inquire (shift : Shift S κ) (rest : List Errand) :
    shift.after transport (.inquire :: rest) = (shift.inquire transport).after transport rest := rfl

theorem retire_idle (shift : Shift S κ) (idle : shift.courier.held = none) :
    shift.retire transport = shift := by
  obtain ⟨⟨name, held⟩, book⟩ := shift
  cases idle
  rfl

theorem retire_held (shift : Shift S κ) (held : Numbered κ) (holds : shift.courier.held = some held) :
    shift.retire transport = ⟨{ shift.courier with held := none },
      shift.book.note ((transport.close held.connection).run shift.book.world).2
        [.close held.number]⟩ := by
  obtain ⟨⟨name, other⟩, book⟩ := shift
  cases holds
  rfl

theorem inquire_idle (shift : Shift S κ) (idle : shift.courier.held = none) :
    shift.inquire transport = shift := by
  obtain ⟨⟨name, held⟩, book⟩ := shift
  cases idle
  rfl

theorem inquire_held (shift : Shift S κ) (held : Numbered κ) (holds : shift.courier.held = some held) :
    shift.inquire transport = ⟨shift.courier,
      shift.book.note ((transport.isOpen held.connection).run shift.book.world).2
        [.ask held.number (shift.usable transport)]⟩ := by
  obtain ⟨⟨name, other⟩, book⟩ := shift
  cases holds
  rfl

theorem usable_idle (shift : Shift S κ) (idle : shift.courier.held = none) :
    shift.usable transport = false := by
  obtain ⟨⟨name, held⟩, book⟩ := shift
  cases idle
  rfl

theorem usable_held (shift : Shift S κ) (held : Numbered κ) (holds : shift.courier.held = some held) :
    shift.usable transport = ((transport.isOpen held.connection).run shift.book.world).1 := by
  obtain ⟨⟨name, other⟩, book⟩ := shift
  cases holds
  rfl

theorem retire_held_none (shift : Shift S κ) : (shift.retire transport).courier.held = none := by
  cases holds : shift.courier.held with
  | none => rw [retire_idle transport shift holds, holds]
  | some held => rw [retire_held transport shift held holds]

theorem retire_tells_nothing (shift : Shift S κ) :
    (shift.retire transport).courier.name = shift.courier.name ∧
      (shift.retire transport).book.journal = shift.book.journal := by
  cases holds : shift.courier.held with
  | none => simp [retire_idle transport shift holds]
  | some held => simp [retire_held transport shift held holds, Logbook.note]

theorem inquire_tells_nothing (shift : Shift S κ) :
    (shift.inquire transport).courier = shift.courier ∧
      (shift.inquire transport).book.journal = shift.book.journal := by
  cases holds : shift.courier.held with
  | none => simp [inquire_idle transport shift holds]
  | some held => simp [inquire_held transport shift held holds, Logbook.note]

inductive Cleared (shift : Shift S κ) : S → List Deed → Prop where
  | idle (idle : shift.courier.held = none) : Cleared shift shift.book.world []
  | stale (held : Numbered κ) (asked : S) (holds : shift.courier.held = some held)
      (shut : (transport.isOpen held.connection).run shift.book.world = (false, asked)) :
      Cleared shift ((transport.close held.connection).run asked).2
        [.ask held.number false, .close held.number]

inductive Acquired (shift : Shift S κ) : Except Failure (Numbered κ) → Logbook S → Prop where
  | kept (held : Numbered κ) (asked : S) (holds : shift.courier.held = some held)
      (stillOpen : (transport.isOpen held.connection).run shift.book.world = (true, asked)) :
      Acquired shift (.ok held) (shift.book.note asked [.ask held.number true])
  | fresh (front : List Deed) (connection : κ) (middle world : S)
      (cleared : Cleared transport shift middle front)
      (connected : transport.connect.run middle = (.ok connection, world)) :
      Acquired shift (.ok ⟨shift.book.opened, connection⟩)
        (shift.book.note world (front ++ [.connect (.ok shift.book.opened)]))
  | refused (front : List Deed) (failure : Failure) (middle world : S)
      (cleared : Cleared transport shift middle front)
      (refused : transport.connect.run middle = (.error failure, world)) :
      Acquired shift (.error failure)
        (shift.book.note world (front ++ [.connect (.error failure)]))

inductive Course (shift : Shift S κ) (entry : Entry) : Outcome → Shift S κ → Prop where
  | unconnected (failure : Failure) (book : Logbook S)
      (acquired : Acquired transport shift (.error failure) book) :
      Course shift entry .noConnection ⟨{ shift.courier with held := none },
        book.told (.dropped ⟨shift.courier.name, .noConnection, entry, some failure⟩)⟩
  | delivered (held : Numbered κ) (connection : κ) (book : Logbook S) (world : S)
      (acquired : Acquired transport shift (.ok held) book)
      (answered : (transport.submit held.connection entry).run book.world =
        ((.ok .ok, connection), world)) :
      Course shift entry .delivered
        ⟨{ shift.courier with held := some ⟨held.number, connection⟩ },
          (book.note world [.send held.number entry (.ok .ok)]).told .delivered⟩
  | overloaded (held : Numbered κ) (connection : κ) (book : Logbook S) (world : S)
      (acquired : Acquired transport shift (.ok held) book)
      (answered : (transport.submit held.connection entry).run book.world =
        ((.ok .tryLater, connection), world)) :
      Course shift entry .overloaded
        ⟨{ shift.courier with held := some ⟨held.number, connection⟩ },
          (book.note world [.send held.number entry (.ok .tryLater)]).told
            (.dropped ⟨shift.courier.name, .overloaded, entry, none⟩)⟩
  | spared (failure : Failure) (held : Numbered κ) (connection : κ) (book : Logbook S) (world : S)
      (acquired : Acquired transport shift (.ok held) book)
      (answered : (transport.submit held.connection entry).run book.world =
        ((.error failure, connection), world)) (spares : failure.endsConnection = false) :
      Course shift entry .failed
        ⟨{ shift.courier with held := some ⟨held.number, connection⟩ },
          (book.note world [.send held.number entry (.error failure)]).told
            (.dropped ⟨shift.courier.name, .failed, entry, some failure⟩)⟩
  | ended (failure : Failure) (held : Numbered κ) (connection : κ) (book : Logbook S) (world : S)
      (acquired : Acquired transport shift (.ok held) book)
      (answered : (transport.submit held.connection entry).run book.world =
        ((.error failure, connection), world)) (ends : failure.endsConnection = true) :
      Course shift entry .failed
        ⟨{ shift.courier with held := none },
          (book.note ((transport.close connection).run world).2
            [.send held.number entry (.error failure), .close held.number]).told
            (.dropped ⟨shift.courier.name, .failed, entry, some failure⟩)⟩

theorem connect_cases (shift : Shift S κ) (world : S) (front : List Deed)
    (cleared : Cleared transport shift world front) :
    Acquired transport shift (transport.logged.connect.run (shift.book.note world front)).1
      (transport.logged.connect.run (shift.book.note world front)).2 := by
  have numbered : (shift.book.note world front).opened = shift.book.opened := by
    cases cleared <;> simp [Logbook.opened, Logbook.note, Deed.opens]
  have there : (shift.book.note world front).world = world := rfl
  rw [transport.run_logged_connect, numbered, there]
  cases ran : transport.connect.run world with
  | mk result after =>
      cases result with
      | error failure =>
          dsimp only
          rw [Logbook.note_note]
          exact .refused front failure world after cleared ran
      | ok connection =>
          dsimp only
          rw [Logbook.note_note]
          exact .fresh front connection world after cleared ran

theorem acquire_cases (shift : Shift S κ) :
    Acquired transport shift ((shift.courier.acquire transport.logged).run shift.book).1
      ((shift.courier.acquire transport.logged).run shift.book).2 := by
  rw [Courier.run_acquire]
  cases holds : shift.courier.held with
  | none =>
      have idle := connect_cases transport shift _ [] (.idle holds)
      rw [Logbook.note_nothing] at idle
      exact idle
  | some held =>
      dsimp only
      cases asked : (transport.isOpen held.connection).run shift.book.world with
      | mk answer world =>
          rw [transport.run_logged_ask, asked]
          cases answer with
          | true => exact .kept held world holds asked
          | false =>
              have stale := connect_cases transport shift _ _ (.stale held world holds asked)
              rw [← List.singleton_append, ← Logbook.note_note] at stale
              exact stale

theorem acquired_journal (shift : Shift S κ) (result : Except Failure (Numbered κ))
    (book : Logbook S) (acquired : Acquired transport shift result book) :
    book.journal = shift.book.journal := by
  cases acquired <;> rfl

theorem deliver_course (shift : Shift S κ) (entry : Entry) :
    Course transport shift entry (shift.deliver transport entry).1
      (shift.deliver transport entry).2 := by
  have acquired := acquire_cases transport shift
  rw [deliver, Courier.run_deliver]
  cases ran : (shift.courier.acquire transport.logged).run shift.book with
  | mk result book =>
      rw [ran] at acquired
      cases result with
      | error failure => exact .unconnected failure book acquired
      | ok held =>
          dsimp only
          cases submitted : (transport.submit held.connection entry).run book.world with
          | mk answered world =>
              obtain ⟨answer, connection⟩ := answered
              rw [transport.run_logged_submit, submitted]
              cases answer with
              | ok verdict =>
                  cases verdict with
                  | ok => exact .delivered held connection book world acquired submitted
                  | tryLater => exact .overloaded held connection book world acquired submitted
              | error failure =>
                  dsimp only
                  cases ends : failure.endsConnection with
                  | false => exact .spared failure held connection book world acquired submitted ends
                  | true =>
                      have course :=
                        Course.ended failure held connection book world acquired submitted ends
                      rw [← List.singleton_append, ← Logbook.note_note _ world] at course
                      exact course

def plain (shift : Shift S κ) : Courier κ :=
  ⟨shift.courier.name, shift.courier.held.map Numbered.connection⟩

theorem plain_acquire (shift : Shift S κ) (result : Except Failure (Numbered κ))
    (book : Logbook S) (acquired : Acquired transport shift result book) :
    (shift.plain.acquire transport).run shift.book.world =
      (result.map Numbered.connection, book.world) := by
  rw [Courier.run_acquire]
  cases acquired with
  | kept held asked holds stillOpen =>
      simp only [plain, holds, Option.map_some, stillOpen]
      rfl
  | fresh front connection middle world cleared connected
  | refused front failure middle world cleared connected =>
      cases cleared with
      | idle idle =>
          simp only [plain, idle, Option.map_none, connected]
          rfl
      | stale held asked holds shut =>
          simp only [plain, holds, Option.map_some, shut, connected]
          rfl

theorem plain_deliver (shift : Shift S κ) (entry : Entry) :
    (shift.plain.deliver transport (fun _ => pure ()) entry).run shift.book.world =
      (((shift.deliver transport entry).1, (shift.deliver transport entry).2.plain),
        (shift.deliver transport entry).2.book.world) := by
  have course := deliver_course transport shift entry
  generalize shift.deliver transport entry = delivered at course
  obtain ⟨outcome, next⟩ := delivered
  rw [Courier.run_deliver]
  cases course with
  | unconnected failure book acquired =>
      rw [plain_acquire transport shift _ book acquired]
      rfl
  | delivered held connection book world acquired answered
  | overloaded held connection book world acquired answered =>
      rw [plain_acquire transport shift _ book acquired]
      simp only [Except.map, answered]
      rfl
  | spared failure held connection book world acquired answered ends
  | ended failure held connection book world acquired answered ends =>
      rw [plain_acquire transport shift _ book acquired]
      simp only [Except.map, answered, ends]
      rfl

-- Writing things down changes nothing else.
theorem plain_after (shift : Shift S κ) (errands : List Errand) :
    (Courier.performAll transport (fun _ => pure ()) shift.plain errands).run shift.book.world =
      ((shift.outcomes transport errands, (shift.after transport errands).plain),
        (shift.after transport errands).book.world) := by
  induction errands generalizing shift with
  | nil => rfl
  | cons errand rest ih =>
      rw [Courier.run_perform_all_cons, Courier.run_perform]
      cases errand with
      | deliver entry =>
          simp only [plain_deliver transport shift entry]
          rw [ih (shift.deliver transport entry).2]
          rfl
      | close =>
          have released : (shift.plain.release transport).run shift.book.world =
              ((shift.retire transport).plain, (shift.retire transport).book.world) := by
            cases holds : shift.courier.held with
            | none => simp [Courier.run_release, plain, holds, retire_idle transport shift holds]
            | some held =>
                simp [Courier.run_release, plain, holds, retire_held transport shift held holds,
                  Logbook.note]
          simp only [released]
          rw [ih (shift.retire transport)]
          rfl
      | inquire =>
          have asked : ((shift.plain.isConnected transport).run shift.book.world).2 =
              (shift.inquire transport).book.world := by
            cases holds : shift.courier.held with
            | none =>
                simp only [Courier.isConnected, plain, holds, inquire_idle transport shift holds]
                rfl
            | some held =>
                simp only [Courier.isConnected, plain, holds,
                  inquire_held transport shift held holds]
                rfl
          have same : shift.plain = (shift.inquire transport).plain := rfl
          simp only [asked]
          rw [same, ih (shift.inquire transport)]
          rfl

theorem outcomes_start (name : String) (world : S) (errands : List Errand) :
    (start name world : Shift S κ).outcomes transport errands =
      ((Courier.performAll transport (fun _ => pure ()) (.idle name) errands).run world).1.1 :=
  (congrArg (fun ran => ran.1.1) (plain_after transport (start name world) errands)).symm

end Shift

end LogRelay.Delivery
