import LogRelay.Delivery.Link

set_option autoImplicit false

namespace LogRelay.Delivery

open Wire

-- The far end decides from all bytes that went either way before. A write breaks off after some
-- of the bytes offered, or takes them all; a read is given the next byte, or fails.
structure FarEnd where
  breaks : (written read offered : Bytes) → Option (Nat × String)
  next : (written read : Bytes) → Except String UInt8

structure Channel where
  written : Bytes
  read : Bytes
  shut : Bool

namespace Channel

def fresh : Channel := ⟨[], [], false⟩

def send (far : FarEnd) (bytes : Bytes) (channel : Channel) : Except String Unit × Channel :=
  match far.breaks channel.written channel.read bytes with
  | none => (.ok (), { channel with written := channel.written ++ bytes })
  | some (count, cause) =>
      (.error cause, { channel with written := channel.written ++ bytes.take count })

def receive (far : FarEnd) :
    (count : Nat) → Channel → Except String { bytes : Bytes // bytes.length = count } × Channel
  | 0, channel => (.ok ⟨[], rfl⟩, channel)
  | count + 1, channel =>
      match far.next channel.written channel.read with
      | .error cause => (.error cause, channel)
      | .ok byte =>
          match receive far count { channel with read := channel.read ++ [byte] } with
          | (.error cause, channel) => (.error cause, channel)
          | (.ok bytes, channel) =>
              (.ok ⟨byte :: bytes.val, congrArg Nat.succ bytes.property⟩, channel)

-- The stream is open from the beginning, so whom a name stands for does not matter.
def network (far : FarEnd) : Network (StateM Channel) Unit where
  resolve host _ := pure [host]
  dial _ _ _ := pure (.ok ())
  send _ bytes channel := channel.send far bytes
  receive _ count channel := channel.receive far count
  shutdown _ channel := ((), { channel with shut := true })

theorem run_send (far : FarEnd) (bytes : Bytes) (channel : Channel) :
    ((network far).send () bytes).run channel = channel.send far bytes := rfl

theorem run_receive (far : FarEnd) (count : Nat) (channel : Channel) :
    ((network far).receive () count).run channel = channel.receive far count := rfl

theorem send_grows (far : FarEnd) (bytes : Bytes) (channel : Channel) :
    ∃ sent, sent <+: bytes ∧
      (channel.send far bytes).2 = { channel with written := channel.written ++ sent } ∧
      ((channel.send far bytes).1 = .ok () → sent = bytes) := by
  unfold send
  split
  · exact ⟨bytes, List.prefix_refl bytes, rfl, fun _ => rfl⟩
  · next count cause _ => exact ⟨bytes.take count, List.take_prefix count bytes, rfl, nofun⟩

theorem receive_grows (far : FarEnd) (count : Nat) (channel : Channel) :
    ∃ taken, (channel.receive far count).2 = { channel with read := channel.read ++ taken } ∧
      ∀ bytes, (channel.receive far count).1 = .ok bytes → taken = bytes.val := by
  induction count generalizing channel with
  | zero =>
      refine ⟨[], by simp [receive], ?_⟩
      intro bytes taken
      cases taken
      rfl
  | succ count ih =>
      cases given : far.next channel.written channel.read with
      | error cause =>
          refine ⟨[], by simp [receive, given], ?_⟩
          intro bytes finished
          simp [receive, given] at finished
      | ok byte =>
          obtain ⟨taken, grown, whole⟩ := ih { channel with read := channel.read ++ [byte] }
          cases result : receive far count { channel with read := channel.read ++ [byte] } with
          | mk answer final =>
              rw [result] at grown whole
              have total : final = { channel with read := channel.read ++ byte :: taken } := by
                simpa using grown
              cases answer with
              | error cause =>
                  refine ⟨byte :: taken, by simpa [receive, given, result] using total, ?_⟩
                  intro bytes finished
                  simp [receive, given, result] at finished
              | ok rest =>
                  refine ⟨byte :: taken, by simpa [receive, given, result] using total, ?_⟩
                  intro bytes finished
                  simp only [receive, given, result, Except.ok.injEq] at finished
                  rw [← finished, whole rest rfl]

end Channel

end LogRelay.Delivery
