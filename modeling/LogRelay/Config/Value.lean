set_option autoImplicit false

namespace LogRelay.Config

-- A value as documents write it. A number that is not whole is known only as such.
inductive Value where
  | null
  | truth (value : Bool)
  | whole (number : Int)
  | fraction
  | text (content : String)
  | list (items : List Value)
  | map (entries : List (String × Value))
deriving Repr, Inhabited

namespace Value

def put (name : String) (value : Value) : List (String × Value) → List (String × Value)
  | [] => [(name, value)]
  | (other, former) :: rest =>
      if other = name then (name, value) :: rest else (other, former) :: put name value rest

mutual

def depth : Value → Nat
  | .list items => depthOfItems items + 1
  | .map entries => depthOfEntries entries + 1
  | _ => 0

def depthOfItems : List Value → Nat
  | [] => 0
  | item :: rest => max (depth item) (depthOfItems rest)

def depthOfEntries : List (String × Value) → Nat
  | [] => 0
  | (_, value) :: rest => max (depth value) (depthOfEntries rest)

end

mutual

def merge (earlier : Value) : Value → Value
  | .map later =>
      match earlier with
      | .map entries => .map (mergeEntries entries later)
      | _ => .map later
  | later => later

def mergeEntries (entries : List (String × Value)) :
    List (String × Value) → List (String × Value)
  | [] => entries
  | (name, value) :: rest =>
      match entries.lookup name with
      | none => mergeEntries (put name value entries) rest
      | some former => mergeEntries (put name (merge former value) entries) rest

end

def nest (value : Value) : List String → Value
  | [] => value
  | name :: path => .map [(name, nest value path)]

-- The value of a record's field, which a map holds under its name and a list at its place.
def field? (record : Value) (place : Nat) (name : String) : Option Value :=
  match record with
  | .map entries => entries.lookup name
  | .list items => items[place]?
  | _ => none

def isRecord (fields : Nat) : Value → Bool
  | .map _ => true
  | .list items => items.length ≤ fields
  | _ => false

def cut (value : Value) (size : Nat) : Value :=
  match value with
  | .list items => .list (items.take size)
  | _ => value

def truth? : Value → Option Bool
  | .truth value => some value
  | _ => none

def text? : Value → Option String
  | .text content => some content
  | _ => none

def natUpTo? (limit : Nat) : Value → Option Nat
  | .whole number => if 0 ≤ number ∧ number ≤ limit then some number.toNat else none
  | _ => none

def word16? (value : Value) : Option UInt16 :=
  (value.natUpTo? (UInt16.size - 1)).map UInt16.ofNat

def word64? (value : Value) : Option UInt64 :=
  (value.natUpTo? (UInt64.size - 1)).map UInt64.ofNat

def orNull {α : Type} (read : Value → Option α) : Value → Option (Option α)
  | .null => some none
  | value => (read value).map some

def readField {α : Type} (record : Value) (place : Nat) (name : String)
    (read : Value → Option α) (fallback : α) : Option α :=
  match record.field? place name with
  | none => some fallback
  | some value => read value

end Value

end LogRelay.Config
