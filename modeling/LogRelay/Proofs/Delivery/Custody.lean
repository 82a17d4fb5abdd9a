import LogRelay.Delivery.Scripted
import LogRelay.Proofs.Delivery.Logbook

/-!
What becomes of the connections that a courier opens. It has at most one at a time, closes each one
once, and uses none that is closed.
-/
set_option autoImplicit false

namespace LogRelay.Delivery

open Wire

def Deed.opening? : Deed → Option Nat
  | .connect (.ok number) => some number
  | _ => none

def Deed.closing? : Deed → Option Nat
  | .close number => some number
  | _ => none

def openedNumbers (deeds : List Deed) : List Nat := deeds.filterMap Deed.opening?

def closedNumbers (deeds : List Deed) : List Nat := deeds.filterMap Deed.closing?

-- Deeds behind which one connection is in hand, or none. To connect, the hands must be empty; all
-- else is done with the connection in hand.
inductive Custody : List Deed → Option Nat → Prop where
  | nothing : Custody [] none
  | opened (deeds : List Deed) (empty : Custody deeds none) :
      Custody (deeds ++ [.connect (.ok (openedNumbers deeds).length)])
        (some (openedNumbers deeds).length)
  | refused (deeds : List Deed) (failure : Failure) (empty : Custody deeds none) :
      Custody (deeds ++ [.connect (.error failure)]) none
  | asked (deeds : List Deed) (number : Nat) (usable : Bool) (had : Custody deeds (some number)) :
      Custody (deeds ++ [.ask number usable]) (some number)
  | sent (deeds : List Deed) (number : Nat) (entry : Entry) (answer : Except Failure Verdict)
      (had : Custody deeds (some number)) :
      Custody (deeds ++ [.send number entry answer]) (some number)
  | closed (deeds : List Deed) (number : Nat) (had : Custody deeds (some number)) :
      Custody (deeds ++ [.close number]) none

theorem filter_map_snoc {α : Type} (note : Deed → Option α) (deeds : List Deed) (deed : Deed) :
    (deeds ++ [deed]).filterMap note = deeds.filterMap note ++ (note deed).toList := by
  cases noted : note deed <;> simp [noted]

theorem opened_numbers_snoc (deeds : List Deed) (deed : Deed) :
    openedNumbers (deeds ++ [deed]) = openedNumbers deeds ++ deed.opening?.toList :=
  filter_map_snoc Deed.opening? deeds deed

theorem closed_numbers_snoc (deeds : List Deed) (deed : Deed) :
    closedNumbers (deeds ++ [deed]) = closedNumbers deeds ++ deed.closing?.toList :=
  filter_map_snoc Deed.closing? deeds deed

theorem custody_balance (deeds : List Deed) (held : Option Nat) (custody : Custody deeds held) :
    openedNumbers deeds = closedNumbers deeds ++ held.toList := by
  induction custody with
  | nothing => rfl
  | opened deeds _ ih | refused deeds _ _ ih | asked deeds _ _ _ ih | sent deeds _ _ _ _ ih
  | closed deeds _ _ ih =>
      simpa [opened_numbers_snoc, closed_numbers_snoc, Deed.opening?, Deed.closing?] using ih

theorem custody_numbers (deeds : List Deed) (held : Option Nat) (custody : Custody deeds held) :
    openedNumbers deeds = List.range (openedNumbers deeds).length := by
  induction custody with
  | nothing => rfl
  | opened deeds _ ih =>
      rw [opened_numbers_snoc, List.length_append]
      exact (congrArg (· ++ _) ih).trans List.range_succ.symm
  | refused deeds _ _ ih | asked deeds _ _ _ ih | sent deeds _ _ _ _ ih | closed deeds _ _ ih =>
      simpa [opened_numbers_snoc, Deed.opening?] using ih

theorem snoc_split (deeds before later : List Deed) (last deed : Deed)
    (split : deeds ++ [last] = before ++ deed :: later) :
    (before = deeds ∧ deed = last) ∨ ∃ rest, deeds = before ++ deed :: rest := by
  rcases List.eq_nil_or_concat later with rfl | ⟨rest, final, rfl⟩
  · obtain ⟨same, one⟩ := List.append_inj' split rfl
    exact .inl ⟨same.symm, (List.singleton_inj.mp one).symm⟩
  · rw [List.concat_eq_append, ← List.cons_append, ← List.append_assoc] at split
    exact .inr ⟨rest, (List.append_inj' split rfl).1⟩

-- So it was at every deed: what was in hand then, and nothing where it connected.
theorem custody_before (deeds : List Deed) (held : Option Nat) (custody : Custody deeds held)
    (before later : List Deed) (deed : Deed) (split : deeds = before ++ deed :: later) :
    ∃ held, Custody before held ∧ (deed.connects = true → held = none) := by
  induction custody generalizing later with
  | nothing => simp at split
  | opened deeds empty ih | refused deeds _ empty ih =>
      rcases snoc_split _ _ _ _ _ split with ⟨rfl, rfl⟩ | ⟨rest, inside⟩
      · exact ⟨none, empty, fun _ => rfl⟩
      · exact ih rest inside
  | asked deeds _ _ had ih | sent deeds _ _ _ had ih | closed deeds _ had ih =>
      rcases snoc_split _ _ _ _ _ split with ⟨rfl, rfl⟩ | ⟨rest, inside⟩
      · exact ⟨_, had, nofun⟩
      · exact ih rest inside

namespace Shift

variable {S κ : Type} (transport : Transport (StateM S) κ)

def InCustody (shift : Shift S κ) : Prop :=
  Custody shift.book.deeds (shift.courier.held.map Numbered.number)

theorem opened_count (book : Logbook S) : book.opened = (openedNumbers book.deeds).length := by
  rw [openedNumbers, List.length_filterMap_eq_countP]
  apply List.countP_congr
  intro deed _
  rcases deed with (_ | _) | _ | _ | _ <;> simp [Deed.opens, Deed.opening?]

theorem in_custody_held (shift : Shift S κ) (held : Numbered κ)
    (holds : shift.courier.held = some held) (custody : shift.InCustody) :
    Custody shift.book.deeds (some held.number) := by
  rw [InCustody, holds] at custody
  exact custody

theorem in_custody_idle (shift : Shift S κ) (idle : shift.courier.held = none)
    (custody : shift.InCustody) : Custody shift.book.deeds none := by
  rw [InCustody, idle] at custody
  exact custody

theorem cleared_custody (shift : Shift S κ) (world : S) (front : List Deed)
    (cleared : Cleared transport shift world front) (custody : shift.InCustody) :
    Custody (shift.book.deeds ++ front) none := by
  cases cleared with
  | idle idle => simpa using in_custody_idle shift idle custody
  | stale held asked holds shut =>
      have had := in_custody_held shift held holds custody
      have ended := (had.asked _ _ false).closed
      rwa [List.append_assoc] at ended

theorem acquired_custody (shift : Shift S κ) (result : Except Failure (Numbered κ))
    (book : Logbook S) (acquired : Acquired transport shift result book)
    (custody : shift.InCustody) :
    Custody book.deeds (result.toOption.map Numbered.number) := by
  cases acquired with
  | kept held asked holds stillOpen =>
      exact (in_custody_held shift held holds custody).asked _ _ true
  | fresh front connection middle world cleared connected =>
      have empty := cleared_custody transport shift middle front cleared custody
      have count : shift.book.opened = (openedNumbers (shift.book.deeds ++ front)).length := by
        rw [opened_count, openedNumbers, openedNumbers, List.filterMap_append]
        cases cleared <;> simp [Deed.opening?]
      have opened := empty.opened
      rw [← count, List.append_assoc] at opened
      exact opened
  | refused front failure middle world cleared refused =>
      have empty := cleared_custody transport shift middle front cleared custody
      have tried := empty.refused _ failure
      rwa [List.append_assoc] at tried

theorem course_custody (shift next : Shift S κ) (entry : Entry) (outcome : Outcome)
    (course : Course transport shift entry outcome next) (custody : shift.InCustody) :
    next.InCustody := by
  cases course with
  | unconnected failure book acquired =>
      exact acquired_custody transport shift _ book acquired custody
  | delivered held connection book world acquired
  | overloaded held connection book world acquired
  | spared failure held connection book world acquired =>
      exact (acquired_custody transport shift _ book acquired custody).sent _ _ entry _
  | ended failure held connection book world acquired =>
      have had := acquired_custody transport shift _ book acquired custody
      have ended := (had.sent _ _ entry (.error failure)).closed
      rwa [List.append_assoc] at ended

theorem retire_custody (shift : Shift S κ) (custody : shift.InCustody) :
    (shift.retire transport).InCustody := by
  cases holds : shift.courier.held with
  | none => rwa [retire_idle transport shift holds]
  | some held =>
      rw [retire_held transport shift held holds]
      exact (in_custody_held shift held holds custody).closed

theorem retire_opens_nothing (shift : Shift S κ) :
    openedNumbers (shift.retire transport).book.deeds = openedNumbers shift.book.deeds := by
  cases holds : shift.courier.held with
  | none => rw [retire_idle transport shift holds]
  | some held =>
      rw [retire_held transport shift held holds, Logbook.note, opened_numbers_snoc]
      exact List.append_nil _

theorem inquire_custody (shift : Shift S κ) (custody : shift.InCustody) :
    (shift.inquire transport).InCustody := by
  cases holds : shift.courier.held with
  | none => rwa [inquire_idle transport shift holds]
  | some held =>
      have asked := (in_custody_held shift held holds custody).asked _ _ (shift.usable transport)
      rw [inquire_held transport shift held holds, InCustody, holds]
      exact asked

theorem after_custody (shift : Shift S κ) (errands : List Errand) (custody : shift.InCustody) :
    (shift.after transport errands).InCustody := by
  induction errands generalizing shift with
  | nil => exact custody
  | cons errand rest ih =>
      cases errand with
      | deliver entry =>
          exact ih _ (course_custody transport shift _ entry _
            (deliver_course transport shift entry) custody)
      | close => exact ih _ (retire_custody transport shift custody)
      | inquire => exact ih _ (inquire_custody transport shift custody)

end Shift

theorem connections_closed_once {S κ : Type} (transport : Transport (StateM S) κ) (name : String)
    (errands : List Errand) (world : S) :
    let shift := (Shift.start name world : Shift S κ).after transport errands
    let deeds := shift.book.deeds
    let dropped := shift.retire transport
    (openedNumbers deeds).length =
      (closedNumbers deeds).length + (if shift.courier.held.isSome then 1 else 0) ∧
    openedNumbers deeds = closedNumbers deeds ++ (shift.courier.held.map Numbered.number).toList ∧
    (openedNumbers deeds).Nodup ∧ (closedNumbers deeds).Nodup ∧
    (∀ before deed later, deeds = before ++ deed :: later →
      ∃ held : Option Nat, openedNumbers before = closedNumbers before ++ held.toList ∧
        (deed.connects = true → held = none)) ∧
    openedNumbers dropped.book.deeds = openedNumbers deeds ∧
    closedNumbers dropped.book.deeds = openedNumbers deeds ∧
    dropped.retire transport = dropped := by
  intro shift deeds dropped
  have custody : shift.InCustody := Shift.after_custody transport _ errands .nothing
  have empty : dropped.courier.held = none := Shift.retire_held_none transport shift
  have balance := custody_balance _ _ custody
  have distinct : (openedNumbers deeds).Nodup := by
    rw [custody_numbers _ _ custody]
    exact List.nodup_range
  have closedDistinct : (closedNumbers deeds).Nodup := by
    rw [balance] at distinct
    exact (List.nodup_append.mp distinct).1
  have opensNothing : openedNumbers dropped.book.deeds = openedNumbers deeds :=
    Shift.retire_opens_nothing transport shift
  have allClosed : closedNumbers dropped.book.deeds = openedNumbers dropped.book.deeds := by
    have final := custody_balance _ _ (Shift.retire_custody transport shift custody)
    rw [empty] at final
    simpa using final.symm
  refine ⟨?_, balance, distinct, closedDistinct, ?_, opensNothing, allClosed.trans opensNothing,
    Shift.retire_idle transport dropped empty⟩
  · rw [balance, List.length_append]
    cases shift.courier.held <;> rfl
  · intro before deed later split
    obtain ⟨held, custodyThen, connects⟩ := custody_before _ _ custody before later deed split
    exact ⟨held, custody_balance before held custodyThen, connects⟩

def shutThenGone : Stage := .start [⟨.ok .ok, false⟩, ⟨.error (.transport "gone"), false⟩] none

def threeErrands : List Errand :=
  [.deliver ⟨"app", "1"⟩, .deliver ⟨"app", "2"⟩, .inquire, .deliver ⟨"app", "3"⟩]

def foundShut : List Deed :=
  [.connect (.ok 0), .send 0 ⟨"app", "1"⟩ (.ok .ok), .ask 0 false, .close 0]

def failed : List Deed :=
  [.send 1 ⟨"app", "2"⟩ (.error (.transport "gone")), .close 1]

def leftOpen : List Deed := [.connect (.ok 2), .send 2 ⟨"app", "3"⟩ (.ok .ok)]

theorem two_errands_shift :
    ∃ journal, (((Shift.start "scribe" shutThenGone : Shift Stage Bool).deliver
        (Stage.transport "here") ⟨"app", "1"⟩).2.deliver (Stage.transport "here") ⟨"app", "2"⟩).2 =
      ⟨.idle "scribe", ⟨⟨[], none, 2, 2, [⟨"app", "2"⟩, ⟨"app", "1"⟩]⟩,
        foundShut ++ .connect (.ok 1) :: failed, journal⟩⟩ :=
  ⟨_, rfl⟩

theorem three_errands_deeds :
    ((Shift.start "scribe" shutThenGone : Shift Stage Bool).after (Stage.transport "here")
      threeErrands).book.deeds = foundShut ++ .connect (.ok 1) :: (failed ++ leftOpen) := by
  obtain ⟨journal, halfway⟩ := two_errands_shift
  rw [threeErrands, Shift.after_deliver, Shift.after_deliver, halfway]
  rfl

theorem three_connections_closed :
    let shift := (Shift.start "scribe" shutThenGone : Shift Stage Bool).after
      (Stage.transport "here") threeErrands
    shift.book.deeds = foundShut ++ .connect (.ok 1) :: (failed ++ leftOpen) ∧
      openedNumbers foundShut = closedNumbers foundShut ∧
      closedNumbers (shift.retire (Stage.transport "here")).book.deeds = [0, 1, 2] := by
  have split := three_errands_deeds
  have kept := connections_closed_once (Stage.transport "here") "scribe" threeErrands shutThenGone
  generalize (Shift.start "scribe" shutThenGone : Shift Stage Bool).after
    (Stage.transport "here") threeErrands = shift at split kept ⊢
  obtain ⟨_, _, _, _, points, _, closed, _⟩ := kept
  obtain ⟨held, balance, connects⟩ := points _ _ _ split
  refine ⟨split, ?_, ?_⟩
  · rw [balance, connects rfl]
    exact List.append_nil _
  · rw [closed, split]
    rfl

end LogRelay.Delivery
