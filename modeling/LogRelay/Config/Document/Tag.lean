import LogRelay.Config.Document.Character
import LogRelay.Text.Hex
import LogRelay.Text.Utf8

/-!
Tags, which say what kind of value a node has, and the directives before a document. A tag is
written with a handle, which stands for a longer beginning, or in full between angle brackets.
-/
set_option autoImplicit false

namespace LogRelay.Config.Document

-- A tag as it is written; one in full has the empty handle.
structure Tag where
  handle : String
  suffix : Bytes
deriving DecidableEq, Repr

def uriMarks : List Char :=
  [';', '/', '?', ':', '@', '&', '=', '+', '$', '.', '!', '~', '*', '\'', '(', ')']

def isUriCharacter (full : Bool) (c : Char) : Bool :=
  isNameCharacter c || uriMarks.contains c || (full && [',', '[', ']'].contains c)

def followers? (byte : UInt8) : Option Nat :=
  if byte < 0x80 then some 0
  else if byte &&& 0xE0 = 0xC0 then some 1
  else if byte &&& 0xF0 = 0xE0 then some 2
  else if byte &&& 0xF8 = 0xF0 then some 3
  else none

def countByte (byte : UInt8) : Nat → Option Nat
  | 0 => followers? byte
  | owed + 1 => if byte &&& 0xC0 = 0x80 then some owed else none

-- Takes the characters of a tag. A percent sign escapes a byte, and the bytes of one character
-- stand together.
def takeUri (full : Bool) : Nat → List Char → Option (Bytes × List Char)
  | 0, [] => some ([], [])
  | _ + 1, [] => none
  | owed, '%' :: a :: b :: rest => do
      let byte := UInt8.ofNat (16 * (← Hex.digit? a) + (← Hex.digit? b))
      let (bytes, rest) ← takeUri full (← countByte byte owed) rest
      some (byte :: bytes, rest)
  | _ + 1, _ :: _ => none
  | 0, c :: rest =>
      if isUriCharacter full c then do
        let (bytes, rest) ← takeUri full 0 rest
        some (UInt8.ofNat c.toNat :: bytes, rest)
      else if c = '%' then none
      else some ([], c :: rest)

def wholeUri? (full : Bool) (text : List Char) : Option Bytes :=
  match takeUri full 0 text with
  | some (bytes, []) => some bytes
  | _ => none

-- Splits a handle off: a name between exclamation marks, of which the last may be missing.
def splitHandle (text : List Char) : List Char × List Char :=
  let name := (text.drop 1).takeWhile isNameCharacter
  match (text.drop 1).dropWhile isNameCharacter with
  | '!' :: rest => ('!' :: name ++ ['!'], rest)
  | rest => ('!' :: name, rest)

-- Reads a tag with its exclamation mark. One exclamation mark alone is a tag in full.
def Tag.ofText? (text : List Char) : Option Tag :=
  match text with
  | '!' :: '<' :: rest =>
      match takeUri true 0 rest with
      | some (bytes, ['>']) => if bytes = [] then none else some ⟨"", bytes⟩
      | _ => none
  | ['!'] => some ⟨"", Utf8.encode "!"⟩
  | _ =>
      let (handle, rest) := splitHandle text
      if 2 ≤ handle.length ∧ handle.getLast? = some '!' then
        match wholeUri? false rest with
        | none => none
        | some bytes => if bytes = [] then none else some ⟨String.ofList handle, bytes⟩
      else
        (wholeUri? false rest).map fun bytes =>
          ⟨"!", Utf8.encode (String.ofList (handle.drop 1)) ++ bytes⟩

inductive Directive where
  | version (major minor : Nat)
  | handle (name : String) (start : Bytes)
deriving DecidableEq, Repr

def takeNumber (text : List Char) : Option (Nat × List Char) :=
  let digits := text.takeWhile Char.isDigit
  if digits = [] ∨ 9 < digits.length then none
  else some (digits.foldl (fun n c => 10 * n + (c.toNat - 48)) 0, text.dropWhile Char.isDigit)

def isRowEnd (text : List Char) : Bool :=
  match text.dropWhile isBlank with
  | [] => true
  | c :: _ => c = '#'

def takeVersion (text : List Char) : Option (Directive × List Char) := do
  let (major, rest) ← takeNumber (text.dropWhile isBlank)
  match rest with
  | '.' :: rest =>
      let (minor, rest) ← takeNumber rest
      some (.version major minor, rest)
  | _ => none

def takeHandle (text : List Char) : Option (Directive × List Char) :=
  let text := text.dropWhile isBlank
  let (name, rest) := splitHandle text
  if text.head? ≠ some '!' ∨ (name ≠ ['!'] ∧ name.getLast? ≠ some '!') then none
  else if rest.head?.any isBlank then
    match takeUri true 0 (rest.dropWhile isBlank) with
    | none => none
    | some (start, rest) =>
        if start = [] ∨ !isSpaced rest then none
        else some (.handle (String.ofList name) start, rest)
  else none

def Directive.ofRow? (row : List Char) : Option Directive :=
  let name := String.ofList (row.takeWhile isNameCharacter)
  let rest := row.dropWhile isNameCharacter
  let taken :=
    if !isSpaced rest then none
    else if name = "YAML" then takeVersion rest
    else if name = "TAG" then takeHandle rest
    else none
  match taken with
  | none => none
  | some (directive, rest) => if isRowEnd rest then some directive else none

end LogRelay.Config.Document
