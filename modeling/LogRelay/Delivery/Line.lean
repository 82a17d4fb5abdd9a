import LogRelay.Delivery.Failure

/-!
The line sent to a collector: a host in brackets, a body and, where an error is attached, the
texts of the error and of its causes in braces.
-/
set_option autoImplicit false

namespace LogRelay.Delivery

inductive ErrorChain where
  | root (text : String)
  | caused (text : String) (cause : ErrorChain)
deriving DecidableEq, Repr

namespace ErrorChain

def text : ErrorChain → String
  | .root text => text
  | .caused text _ => text

def texts : ErrorChain → List String
  | .root text => [text]
  | .caused text cause => text :: cause.texts

def ofTexts : List String → Option ErrorChain
  | [] => none
  | text :: causes =>
      match ofTexts causes with
      | none => some (.root text)
      | some cause => some (.caused text cause)

end ErrorChain

def Failure.chain (failure : Failure) : ErrorChain :=
  match failure.cause? with
  | none => .root failure.message
  | some cause => .caused failure.message (.root cause)

structure Layout where
  host : String
  causes : Nat
deriving DecidableEq, Repr

namespace Layout

-- The first text is the error's own; of those behind it `causes` are kept.
def trace (layout : Layout) : List String → String
  | [] => ""
  | error :: behind =>
      " \x7b" ++ "\t".intercalate (error :: behind.take layout.causes) ++ "\x7d"

def line (layout : Layout) (body : String) (trace : List String) : String :=
  "[" ++ layout.host ++ "] " ++ body ++ layout.trace trace

end Layout

end LogRelay.Delivery
