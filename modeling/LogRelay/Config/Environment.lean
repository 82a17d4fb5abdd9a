import LogRelay.Config.Literal

/-!
Settings from the environment. A variable's name, compared without case, starts with a mark; what
is behind the mark is the path of the value, each step set off by two underscores. Its text is a
literal.
-/
set_option autoImplicit false

namespace LogRelay.Config

def variableMark : List Char := "quill_".toList

def pointed : List Char → List Char
  | '_' :: '_' :: rest => '.' :: pointed rest
  | c :: rest => c :: pointed rest
  | [] => []

def pathOf? (name : String) : Option (List String) :=
  let lowered := (Text.trim name.toList).map Char.toLower
  if variableMark.isPrefixOf lowered then
    let path := pointed (lowered.drop variableMark.length)
    let steps := ((Text.trim path).splitOn '.').map String.ofList
    if steps.contains "" then none else some steps
  else none

def addVariable? (value : Value) (name text : String) : Option Value :=
  match pathOf? name with
  | none => some value
  | some path => (Value.ofLiteral? text).map fun literal => value.merge (literal.nest path)

def ofEnvironment? (environment : List (String × String)) : Option Value :=
  environment.foldlM (fun value (name, text) => addVariable? value name text) (.map [])

end LogRelay.Config
