import LogRelay.Command.Form

/-!
The words of a command line, sorted into options and operands. An option's value is the next word,
or stands in the same word behind an equals sign; only there may it start with a dash. A value in a
word of its own is looked at only when the next option or operand comes, so a question about the
program that comes first is answered first.
-/
set_option autoImplicit false

namespace LogRelay.Command

inductive Refusal where
  | usage
  | help
  | version
deriving DecidableEq, Repr

inductive Arity where
  | question (refusal : Refusal)
  | flag
  | single
  | repeated
deriving DecidableEq, Repr

structure Switch where
  name : String
  letter : Option Char
  arity : Arity
  form : Form
deriving DecidableEq, Repr

def Switch.takesValue (switch : Switch) : Bool :=
  switch.arity = .single || switch.arity = .repeated

-- What a command line may hold: options, operands by place, and words that end it and start one
-- of their own.
structure Grammar where
  switches : List Switch
  operands : List Form
  tasks : List String
deriving DecidableEq, Repr

inductive Word where
  | operand
  | divider
  | long (name : String) (value : Option String)
  | short (letters : List Char)
deriving DecidableEq, Repr

def Word.ofLong (text : List Char) : Word :=
  let name := String.ofList (text.takeWhile (· ≠ '='))
  match text.dropWhile (· ≠ '=') with
  | [] => .long name none
  | _ :: value => .long name (some (String.ofList value))

def Word.ofText (text : String) : Word :=
  match text.toList with
  | ['-'] => .operand
  | ['-', '-'] => .divider
  | '-' :: '-' :: rest => .ofLong rest
  | '-' :: letters => .short letters
  | _ => .operand

-- An option or an operand that is not settled yet; the option may still wait for its value.
inductive Pending where
  | option (switch : Switch) (value : Option String)
  | operand (form : Form) (text : String)
deriving DecidableEq, Repr

structure Sorted where
  options : List (String × String)
  operands : List String
  pending : Option Pending
deriving DecidableEq, Repr

namespace Sorted

def empty : Sorted := ⟨[], [], none⟩

def has (sorted : Sorted) (name : String) : Bool := sorted.options.any (·.1 = name)

def text? (sorted : Sorted) (name : String) : Option String := sorted.options.lookup name

def texts (sorted : Sorted) (name : String) : List String :=
  (sorted.options.filter (·.1 = name)).map Prod.snd

def value? {α : Type} (sorted : Sorted) (name : String) (read : String → Option α) : Option α :=
  (sorted.text? name).bind read

def addOption (sorted : Sorted) (switch : Switch) (value : String) : Except Refusal Sorted :=
  if switch.arity ≠ .repeated ∧ sorted.has switch.name then .error .usage
  else if switch.form.accepts value then
    .ok { sorted with options := sorted.options ++ [(switch.name, value)] }
  else .error .usage

def settle (sorted : Sorted) : Except Refusal Sorted :=
  let settled := { sorted with pending := none }
  match sorted.pending with
  | none => .ok sorted
  | some (.option switch (some value)) => settled.addOption switch value
  | some (.option _ none) => .error .usage
  | some (.operand form text) =>
      if form.accepts text then .ok { settled with operands := sorted.operands ++ [text] }
      else .error .usage

def waiting? (sorted : Sorted) : Option Switch :=
  match sorted.pending with
  | some (.option switch none) => some switch
  | _ => none

def addSwitch (sorted : Sorted) (switch : Switch) (value : Option String) :
    Except Refusal Sorted := do
  let settled ← sorted.settle
  match switch.arity, value with
  | .question refusal, none => .error refusal
  | .question _, some _ => .error .usage
  | .flag, none => settled.addOption switch ""
  | .flag, some _ => .error .usage
  | _, some value => settled.addOption switch value
  | _, none => .ok { settled with pending := some (.option switch none) }

def addLong (sorted : Sorted) (grammar : Grammar) (name : String) (value : Option String) :
    Except Refusal Sorted :=
  match grammar.switches.find? (·.name = name) with
  | none => .error .usage
  | some switch => sorted.addSwitch switch value

-- Adds options by their letters; what is behind a letter whose option has a value is the value.
def addShort (sorted : Sorted) (grammar : Grammar) : List Char → Except Refusal Sorted
  | [] => .ok sorted
  | letter :: rest =>
      match grammar.switches.find? (·.letter = some letter) with
      | none => .error .usage
      | some switch =>
          if switch.takesValue then
            match rest with
            | [] => sorted.addSwitch switch none
            | '=' :: value => sorted.addSwitch switch (some (String.ofList value))
            | value => sorted.addSwitch switch (some (String.ofList value))
          else do
            let sorted ← sorted.addSwitch switch none
            sorted.addShort grammar rest

def addOperand (grammar : Grammar) (sorted : Sorted) (text : String) : Except Refusal Sorted := do
  let settled ← sorted.settle
  match grammar.operands[settled.operands.length]? with
  | none => .error .usage
  | some form => .ok { settled with pending := some (.operand form text) }

end Sorted

-- Sorts words behind those already sorted, up to a word that starts a command line of its own:
-- it and all behind it are left over.
def sortWords (grammar : Grammar) (sorted : Sorted) :
    List String → Except Refusal (Sorted × List String)
  | [] => .ok (sorted, [])
  | word :: rest =>
      if sorted.waiting?.isNone && grammar.tasks.contains word then .ok (sorted, word :: rest)
      else
        match Word.ofText word, sorted.waiting? with
        | .divider, _ => do
            let sorted ← rest.foldlM (Sorted.addOperand grammar) sorted
            .ok (sorted, [])
        | .long name value, _ => do
            let sorted ← sorted.addLong grammar name value
            sortWords grammar sorted rest
        | .short letters, _ => do
            let sorted ← sorted.addShort grammar letters
            sortWords grammar sorted rest
        | .operand, some switch =>
            let value := Pending.option switch (some word)
            sortWords grammar { sorted with pending := some value } rest
        | .operand, none => do
            let sorted ← sorted.addOperand grammar word
            sortWords grammar sorted rest

end LogRelay.Command
