set_option autoImplicit false

namespace LogRelay.Delivery

inductive Outcome where
  | delivered
  | noConnection
  | overloaded
  | failed
deriving DecidableEq, Repr

namespace Outcome

def all : List Outcome := [.delivered, .noConnection, .overloaded, .failed]

def name : Outcome → String
  | .delivered => "delivered"
  | .noConnection => "dropped_no_connection"
  | .overloaded => "dropped_overloaded"
  | .failed => "dropped_error"

def code : Outcome → UInt8
  | .delivered => 0
  | .noConnection => 1
  | .overloaded => 2
  | .failed => 3

def isDrop (outcome : Outcome) : Bool := outcome != .delivered

structure Unknown where
  code : UInt8
deriving DecidableEq

def Unknown.message (unknown : Unknown) : String :=
  "invalid outcome code: " ++ toString unknown.code.toNat

def ofCode (code : UInt8) : Except Unknown Outcome :=
  match all[code.toNat]? with
  | some outcome => .ok outcome
  | none => .error ⟨code⟩

theorem of_code_code (outcome : Outcome) : ofCode outcome.code = .ok outcome := by
  cases outcome <;> rfl

end Outcome

end LogRelay.Delivery
