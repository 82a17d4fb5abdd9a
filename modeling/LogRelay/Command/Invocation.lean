import LogRelay.Command.Arguments
import LogRelay.Delivery.Shipper

/-!
What a command line asks for. A level for diagnostics is accepted; diagnostics themselves are no
part of what the program puts out here.
-/
set_option autoImplicit false

namespace LogRelay.Command

structure LineOrder where
  pattern : Option String
  remoteAddress : Option String
  remoteHost : Option String
  method : Option String
  uri : Option String
  query : Option String
  protocol : Option String
  status : Option UInt16
  bytes : Int64
  user : Option String
  headers : List String
  responseHeaders : List String
  cookies : List String
  elapsed : UInt64
  ship : Bool
deriving DecidableEq, Repr

inductive Task where
  | send (level : Delivery.Level) (message : String) (errors : List String)
  | bench (threads messages : UInt64)
  | collect (address : String) (tryLater : Bool)
  | format (order : LineOrder)
deriving DecidableEq, Repr

structure Invocation where
  config : String
  host : Option String
  port : Option UInt16
  category : Option String
  task : Task
deriving DecidableEq, Repr

def question (name : String) (letter : Char) (refusal : Refusal) : Switch :=
  ⟨name, some letter, .question refusal, .text⟩

def single (name : String) (form : Form) : Switch := ⟨name, none, .single, form⟩

def repeated (name : String) : Switch := ⟨name, none, .repeated, .text⟩

def flag (name : String) : Switch := ⟨name, none, .flag, .text⟩

def help : Switch := question "help" 'h' .help

def taskGrammars : List (String × Grammar) := [
  ("send", ⟨[help, repeated "error"], [.level, .text], []⟩),
  ("bench", ⟨[help, single "threads" .word64, single "messages" .word64], [], []⟩),
  ("collect", ⟨[help, single "listen" .text, flag "try-later"], [], []⟩),
  ("format", ⟨[help, single "pattern" .text, single "remote-addr" .text,
    single "remote-host" .text, single "method" .text, single "uri" .text, single "query" .text,
    single "protocol" .text, single "status" .word16, single "bytes" .int64, single "user" .text,
    repeated "header", repeated "response-header", repeated "cookie",
    single "elapsed-ms" .word64, flag "ship"], [], []⟩)]

def taskNames : List String := taskGrammars.map Prod.fst ++ ["help"]

def programGrammar : Grammar where
  switches := [help, question "version" 'V' .version, ⟨"config", some 'c', .single, .path⟩,
    single "log-level" .text, single "host" .text, single "port" .word16,
    single "category" .text]
  operands := []
  tasks := taskNames

def readSend (sorted : Sorted) : Option Task :=
  match sorted.operands with
  | [level, message] =>
      (Delivery.Level.ofText? level).map fun level => .send level message (sorted.texts "error")
  | _ => none

def readBench (sorted : Sorted) : Task :=
  .bench ((sorted.value? "threads" word64?).getD 4) ((sorted.value? "messages" word64?).getD 1000)

def readCollect (sorted : Sorted) : Task :=
  .collect ((sorted.text? "listen").getD "127.0.0.1:1463") (sorted.has "try-later")

def readFormat (sorted : Sorted) : Task :=
  .format {
    pattern := sorted.text? "pattern"
    remoteAddress := sorted.text? "remote-addr"
    remoteHost := sorted.text? "remote-host"
    method := sorted.text? "method"
    uri := sorted.text? "uri"
    query := sorted.text? "query"
    protocol := sorted.text? "protocol"
    status := sorted.value? "status" word16?
    bytes := (sorted.value? "bytes" int64?).getD 0
    user := sorted.text? "user"
    headers := sorted.texts "header"
    responseHeaders := sorted.texts "response-header"
    cookies := sorted.texts "cookie"
    elapsed := (sorted.value? "elapsed-ms" word64?).getD 0
    ship := sorted.has "ship" }

def readTask (name : String) (sorted : Sorted) : Option Task :=
  if name = "send" then readSend sorted
  else if name = "bench" then some (readBench sorted)
  else if name = "collect" then some (readCollect sorted)
  else some (readFormat sorted)

-- The answer to a call for help: there is a text on the program and on each word that starts a
-- command line, and on nothing below those.
def askHelp (topics : List String) : Refusal :=
  match topics with
  | [] => .help
  | [topic] => if taskNames.contains topic then .help else .usage
  | _ => .usage

def parseTask : List String → Except Refusal Task
  | [] => .error .usage
  | name :: words =>
      if name = "help" then .error (askHelp words)
      else
        match taskGrammars.lookup name with
        | none => .error .usage
        | some grammar => do
            let (sorted, _) ← sortWords grammar .empty words
            match readTask name (← sorted.settle) with
            | none => .error .usage
            | some task => .ok task

-- The program's last option is settled behind the task.
def Invocation.parse (words : List String) : Except Refusal Invocation := do
  let (sorted, rest) ← sortWords programGrammar .empty words
  let task ← parseTask rest
  let sorted ← sorted.settle
  pure {
    config := (sorted.text? "config").getD "quill.yaml"
    host := sorted.text? "host"
    port := sorted.value? "port" word16?
    category := sorted.text? "category"
    task }

end LogRelay.Command
