import LogRelay.Phase
import LogRelay.Text.Quoted

set_option autoImplicit false

namespace LogRelay.Command

inductive Problem where
  | setup (error : SetupError)
  | loading (path : String) (error : SetupError)
  | stopped
  | headerForm (text : String)
  | headerName (text : String)
  | headerValue (text : String)
  | cookieForm (text : String)
  | binding (address : String)
deriving DecidableEq, Repr

def Problem.message : Problem → String
  | .setup error => error.message
  | .loading path _ => "loading " ++ path
  | .stopped => "a text of the environment cannot be cut"
  | .headerForm text => "header " ++ Text.quote text ++ " is not Name: value"
  | .headerName text => "invalid header name in " ++ Text.quote text
  | .headerValue text => "invalid header value in " ++ Text.quote text
  | .cookieForm text => "cookie " ++ Text.quote text ++ " is not name=value"
  | .binding address => "binding " ++ address

-- A stop is not reported as an error, and ends the program with a code of its own.
def Problem.notice (problem : Problem) : String :=
  (if problem = .stopped then "Stopped: " else "Error: ") ++ problem.message

def Problem.exitCode : Problem → UInt32
  | .stopped => 101
  | _ => 1

end LogRelay.Command
