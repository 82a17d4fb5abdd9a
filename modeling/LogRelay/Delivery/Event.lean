import LogRelay.Delivery.Line
import LogRelay.Text.Decimal
import LogRelay.Text.Quoted
import LogRelay.Text.Shortest

set_option autoImplicit false

namespace LogRelay.Delivery

-- How verbose an event is; errors are the least.
inductive Level where
  | error
  | warn
  | info
  | debug
  | trace
deriving DecidableEq, Repr

namespace Level

def name : Level → String
  | .error => "ERROR"
  | .warn => "WARN"
  | .info => "INFO"
  | .debug => "DEBUG"
  | .trace => "TRACE"

def verbosity : Level → Nat
  | .error => 1
  | .warn => 2
  | .info => 3
  | .debug => 4
  | .trace => 5

def all : List Level := [.error, .warn, .info, .debug, .trace]

def ofText? (text : String) : Option Level :=
  match Decimal.toUnsigned? text.toList with
  | some number => all.find? fun level => level.verbosity = number
  | none => all.find? fun level => level.name.toList = text.toList.map Char.toUpper

end Level

inductive FieldValue where
  | plain (text : String)
  | quoted (text : String)
  | integer (number : Int)
  | float (number : Float)
  | truth (value : Bool)
  | error (chain : ErrorChain)

def FieldValue.text : FieldValue → String
  | .plain text => text
  | .quoted text => Text.quote text
  | .integer number => toString number
  | .float number => Decimal.shortest number
  | .truth true => "true"
  | .truth false => "false"
  | .error chain => chain.text

structure Event where
  level : Level
  target : String
  fields : List (String × FieldValue)

def messageField : String := "message"

end LogRelay.Delivery
