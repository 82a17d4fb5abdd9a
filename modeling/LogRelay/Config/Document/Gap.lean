import LogRelay.Config.Document.Character

/-!
What stands between two words of a plain or quoted text: blanks on one row, or the end of a row and
all blanks around it. Texts are kept the last character first.
-/
set_option autoImplicit false

namespace LogRelay.Config.Document

-- Blanks on a row, or breaks: the first one, unless it was escaped, and all further ones.
inductive Gap where
  | blanks (text : List Char)
  | breaks (first : Option Char) (more : List Char)
deriving DecidableEq, Repr

namespace Gap

def empty : Gap := .blanks []

def addBlank (gap : Gap) (c : Char) : Gap :=
  match gap with
  | .blanks text => .blanks (c :: text)
  | .breaks first more => .breaks first more

def addBreak (gap : Gap) (c : Char) : Gap :=
  match gap with
  | .blanks _ => .breaks (some c) []
  | .breaks first more => .breaks first (c :: more)

def isOnRow : Gap → Bool
  | .blanks _ => true
  | .breaks _ _ => false

-- A line feed alone shows as a space, and with further breaks not at all.
def text : Gap → List Char
  | .blanks text => text
  | .breaks (some '\n') [] => [' ']
  | .breaks (some '\n') more => more
  | .breaks first more => more ++ first.toList

end Gap

end LogRelay.Config.Document
