import LogRelay.Delivery.Link
import LogRelay.Proofs.Delivery.Errands
import LogRelay.Proofs.Wire.RoundTrip

set_option autoImplicit false

namespace LogRelay.Delivery

open Wire

theorem map_error_ok {α β γ : Type} (name : α → β) (result : Except α γ) (value : γ)
    (mapped : result.mapError name = .ok value) : result = .ok value := by
  cases result with
  | error cause => cases mapped
  | ok other =>
      cases mapped
      rfl

inductive Breach : Failure → Prop where
  | transport (cause : String) : Breach (.transport cause)
  | protocol (detail : String) : Breach (.protocol detail)
  | application (text : String) : Breach (.application text)

theorem breach_class (failure : Failure) (breach : Breach failure) :
    failure.endsConnection = true ∧ failure.precedesConnection = false := by
  cases breach <;> exact ⟨rfl, rfl⟩

namespace Link

variable {S σ : Type} (network : Network (StateM S) σ)

theorem run_receive_reply (stream : σ) (sequence : Int32) (state : S) :
    (receiveReply network stream sequence).run state =
      match (network.receive stream 4).run state with
      | (.error cause, state) => (.error (.transport cause), state)
      | (.ok front, state) =>
          match announced front.val with
          | .error fault => (.error (.ofFault fault), state)
          | .ok length =>
              match (network.receive stream length).run state with
              | (.error cause, state) => (.error (.transport cause), state)
              | (.ok body, state) =>
                  ((decodeReply body.val sequence).mapError .ofReplyError, state) := by
  rw [receiveReply, run_bind]
  cases (network.receive stream 4).run state with
  | mk answer middle =>
      cases answer with
      | error cause => rfl
      | ok front =>
          dsimp only
          cases announced front.val with
          | error fault => rfl
          | ok length =>
              dsimp only
              rw [run_bind]
              cases (network.receive stream length).run middle with
              | mk answer final => cases answer <;> rfl

theorem receive_reply_breach (stream : σ) (sequence : Int32) (state final : S) (failure : Failure)
    (ran : (receiveReply network stream sequence).run state = (.error failure, final)) :
    Breach failure := by
  rw [run_receive_reply] at ran
  split at ran
  · cases ran
    exact .transport _
  · split at ran
    · cases ran
      exact .protocol _
    · split at ran
      · cases ran
        exact .transport _
      · next body _ _ =>
        cases decoded : decodeReply body.val sequence with
        | ok verdict =>
            rw [decoded] at ran
            cases ran
        | error error =>
            rw [decoded] at ran
            cases ran
            cases error with
            | fault fault => exact .protocol _
            | application text => exact .application text

theorem receive_reply_ends (stream : σ) (sequence : Int32) (state final : S) (failure : Failure)
    (ran : (receiveReply network stream sequence).run state = (.error failure, final)) :
    failure.endsConnection = true :=
  (breach_class failure (receive_reply_breach network stream sequence state final failure ran)).1

theorem run_submit_closed (link : Link σ) (entry : Entry) (state : S)
    (closed : link.stream = none) :
    (link.submit network entry).run state =
      ((.error .notConnected, ⟨none, link.sequence⟩), state) := by
  cases link with
  | mk stream sequence =>
      cases closed
      rfl

theorem run_submit_oversize (stream : σ) (sequence : Int32) (entry : Entry) (state : S)
    (large : ¬ callLength entry ≤ frameLimit) :
    ((⟨some stream, sequence⟩ : Link σ).submit network entry).run state =
      ((.error (.oversize (callLength entry) frameLimit), ⟨some stream, sequence⟩), state) := by
  simp only [submit, exchange, encode_call_oversize [] (sequence + 1) entry large]
  rfl

theorem run_submit_fitting (stream : σ) (sequence : Int32) (entry : Entry) (state : S)
    (fits : callLength entry ≤ frameLimit) :
    ((⟨some stream, sequence⟩ : Link σ).submit network entry).run state =
      match (network.send stream (frame (callBody (sequence + 1) entry))).run state with
      | (.error cause, state) =>
          ((.error (.transport cause), ⟨none, sequence + 1⟩),
            ((network.shutdown stream).run state).2)
      | (.ok (), state) =>
          match (receiveReply network stream (sequence + 1)).run state with
          | (.ok verdict, state) => ((.ok verdict, ⟨some stream, sequence + 1⟩), state)
          | (.error failure, state) =>
              ((.error failure, ⟨none, sequence + 1⟩), ((network.shutdown stream).run state).2) := by
  simp only [submit, exchange, encode_call_fitting [] (sequence + 1) entry fits]
  rw [run_bind, run_bind]
  cases (network.send stream (frame (callBody (sequence + 1) entry))).run state with
  | mk sent middle =>
      cases sent with
      | error cause => rfl
      | ok _ =>
          dsimp only
          rw [run_bind]
          cases replied : (receiveReply network stream (sequence + 1)).run middle with
          | mk answer final =>
              cases answer with
              | ok verdict => rfl
              | error failure =>
                  cases receive_reply_breach network stream _ middle final failure replied <;> rfl

end Link

end LogRelay.Delivery
