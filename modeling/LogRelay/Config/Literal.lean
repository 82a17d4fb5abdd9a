import LogRelay.Config.Document.Character
import LogRelay.Config.Document.Scalar
import LogRelay.Text.Blank

/-!
Literals: the values that single texts stand for. A literal is a truth value, a number, a character
or a text in quotes, a list, a map, or a word. A text that is no literal, or goes on behind one, is
text as it stands.
-/
set_option autoImplicit false

namespace LogRelay.Config

-- Why a text is no literal. The second cause stops all reading.
inductive Misreading where
  | malformed
  | cutInside
deriving DecidableEq, Repr

namespace Literal

def shortEscapes : List (Char × Char) :=
  [('"', '"'), ('\\', '\\'), ('b', '\x08'), ('f', '\x0c'), ('n', '\n'), ('r', '\r'), ('t', '\t')]

def isPermitted (c : Char) : Bool := c = '\t' || (' ' ≤ c && c ≠ '\x7f')

def codePoint? (digits : List Char) : Except Misreading Char :=
  match (inBase? 16 digits).bind Document.charOf? with
  | some c => .ok c
  | none => .error .malformed

def replaceEscapes : List Char → Except Misreading (List Char)
  | [] => .ok []
  | '\\' :: 'u' :: a :: b :: c :: d :: rest => do
      let meant ← codePoint? [a, b, c, d]
      return meant :: (← replaceEscapes rest)
  | '\\' :: 'U' :: a :: b :: c :: d :: e :: f :: g :: h :: rest => do
      let meant ← codePoint? [a, b, c, d, e, f, g, h]
      return meant :: (← replaceEscapes rest)
  | '\\' :: c :: rest =>
      match shortEscapes.lookup c with
      | none => .error .malformed
      | some meant => return meant :: (← replaceEscapes rest)
  | c :: rest =>
      if c ≠ '\\' && isPermitted c then return c :: (← replaceEscapes rest)
      else .error .malformed

-- The characters that make up so many bytes of a text; the bytes may end within a character.
def takeBytes? : Nat → List Char → Option (List Char)
  | 0, _ => some []
  | _, [] => none
  | bytes, c :: rest =>
      if bytes < c.utf8Size then none
      else (takeBytes? (bytes - c.utf8Size) rest).map (c :: ·)

-- The text that stands in quotes. In front of the first escape as many bytes of it are kept as
-- there are characters.
def unescape (text : List Char) : Except Misreading (List Char) :=
  let front := text.takeWhile (· ≠ '\\')
  if !front.all isPermitted then .error .malformed
  else
    match text.dropWhile (· ≠ '\\') with
    | [] => .ok text
    | rest =>
        match takeBytes? front.length text with
        | none => .error .cutInside
        | some kept => (replaceEscapes rest).map (kept ++ ·)

def takeQuoted : List Char → Option (List Char × List Char)
  | [] => none
  | '"' :: rest => some ([], rest)
  | '\\' :: c :: rest => (takeQuoted rest).map fun (text, rest) => ('\\' :: c :: text, rest)
  | c :: rest => (takeQuoted rest).map fun (text, rest) => (c :: text, rest)

def takeText (text : List Char) : Except Misreading (String × List Char) :=
  match takeQuoted text with
  | none => .error .malformed
  | some (inner, rest) => (unescape inner).map fun text => (String.ofList text, rest)

def word? (text : List Char) : Option Int :=
  (Decimal.toInt? text).filter fun number => -(Int.pow 2 63) ≤ number && number < Int.pow 2 64

def ofWord (text : List Char) : Value :=
  if text.contains '.' && isReal text then .fraction
  else
    match word? text with
    | some number => .whole number
    | none => .text (String.ofList text)

def separators : List Char := [',', '{', '}', '[', ']']

def takeWord (text : List Char) : Value × List Char :=
  (ofWord (Text.trim (text.takeWhile fun c => !separators.contains c)),
    text.dropWhile fun c => !separators.contains c)

def skipBlanks (text : List Char) : List Char := text.dropWhile Text.isPlainBlank

def takeName (text : List Char) : Except Misreading (String × List Char) := do
  let (name, rest) ←
    match skipBlanks text with
    | '"' :: rest => takeText rest
    | text =>
        let name := text.takeWhile Document.isNameCharacter
        if name = [] then .error .malformed
        else .ok (String.ofList name, text.dropWhile Document.isNameCharacter)
  match skipBlanks rest with
  | '=' :: rest => .ok (name, rest)
  | _ => .error .malformed

-- Takes what follows a part of a collection: a comma, or the closing bracket, for which the
-- answer is no.
def takeComma (closing : Char) : List Char → Except Misreading (Bool × List Char)
  | [] => .error .malformed
  | c :: rest =>
      if c = ',' then .ok (true, rest)
      else if c = closing then .ok (false, rest)
      else .error .malformed

mutual

def take (fuel : Nat) (text : List Char) : Except Misreading (Value × List Char) :=
  match fuel with
  | 0 => .error .malformed
  | fuel + 1 => do
      let (value, rest) ←
        match skipBlanks text with
        | 't' :: 'r' :: 'u' :: 'e' :: rest => .ok (.truth true, rest)
        | 'f' :: 'a' :: 'l' :: 's' :: 'e' :: rest => .ok (.truth false, rest)
        | '{' :: rest => takeEntries fuel [] rest
        | '[' :: rest => takeItems fuel [] rest
        | '"' :: rest => (takeText rest).map fun (text, rest) => (.text text, rest)
        | '\'' :: c :: '\'' :: rest => .ok (.text (String.singleton c), rest)
        | '\'' :: _ => .error .malformed
        | text => .ok (takeWord text)
      .ok (value, skipBlanks rest)

def takeItems (fuel : Nat) (items : List Value) (text : List Char) :
    Except Misreading (Value × List Char) :=
  match fuel, text with
  | 0, _ => .error .malformed
  | _, ']' :: rest => .ok (.list items.reverse, rest)
  | fuel + 1, text => do
      let (value, rest) ← take fuel text
      let (more, rest) ← takeComma ']' rest
      if more then takeItems fuel (value :: items) rest
      else .ok (.list (value :: items).reverse, rest)

def takeEntries (fuel : Nat) (entries : List (String × Value)) (text : List Char) :
    Except Misreading (Value × List Char) :=
  match fuel, text with
  | 0, _ => .error .malformed
  | _, '}' :: rest => .ok (.map entries, rest)
  | fuel + 1, text => do
      let (name, rest) ← takeName text
      let (value, rest) ← take fuel rest
      let entries := Value.put name value entries
      let (more, rest) ← takeComma '}' rest
      if more then takeEntries fuel entries rest else .ok (.map entries, rest)

end

end Literal

-- The value of a text, if its bytes can be cut where its escapes ask for it. Each step into a
-- collection or along it takes a character, so twice their number is fuel enough.
def Value.ofLiteral? (text : String) : Option Value :=
  match Literal.take (2 * text.length + 1) text.toList with
  | .ok (value, []) => some value
  | .ok _ => some (.text text)
  | .error .malformed => some (.text text)
  | .error .cutInside => none

end LogRelay.Config
