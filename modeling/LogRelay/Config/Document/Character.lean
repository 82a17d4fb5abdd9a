set_option autoImplicit false

namespace LogRelay.Config.Document

def isBlank (c : Char) : Bool := c = ' ' || c = '\t'

-- The line separator and the paragraph separator end a row as a line feed does, but stay what
-- they are within a text.
def isBreak (c : Char) : Bool := c = '\n' || c = '\u2028' || c = '\u2029'

def isSpaced : List Char → Bool
  | [] => true
  | c :: _ => isBlank c || isBreak c

def unifyBreaks : List Char → List Char
  | [] => []
  | '\r' :: '\n' :: rest => '\n' :: unifyBreaks rest
  | '\r' :: rest => '\n' :: unifyBreaks rest
  | '\u0085' :: rest => '\n' :: unifyBreaks rest
  | c :: rest => c :: unifyBreaks rest

def isPermitted (c : Char) : Bool :=
  c = '\t' || c = '\n' || (' ' ≤ c && c ≤ '~') ||
    ('\u00a0' ≤ c && c != '\ufffe' && c != '\uffff')

-- The mark of byte order, which may stand at the start of a row.
def orderMark : Char := '\ufeff'

def isNameCharacter (c : Char) : Bool := c.isAlphanum || c = '_' || c = '-'

def flowMarks : List Char := [',', '[', ']', '{', '}']

def indicators : List Char :=
  ['-', '?', ':', ',', '[', ']', '{', '}', '#', '&', '*', '!', '|', '>', '\'', '"', '%', '@',
    '\x60']

def isMarker (mark : Char) (column : Nat) (text : List Char) : Bool :=
  column = 0 && text.take 3 = [mark, mark, mark] && isSpaced (text.drop 3)

def isEitherMarker (column : Nat) (text : List Char) : Bool :=
  isMarker '-' column text || isMarker '.' column text

def escapes : List (Char × Char) :=
  [('0', '\x00'), ('a', '\x07'), ('b', '\x08'), ('t', '\t'), ('\t', '\t'), ('n', '\n'),
    ('v', '\x0b'), ('f', '\x0c'), ('r', '\r'), ('e', '\x1b'), (' ', ' '), ('"', '"'), ('/', '/'),
    ('\\', '\\'), ('N', '\u0085'), ('_', '\u00a0'), ('L', '\u2028'), ('P', '\u2029')]

def codeLengths : List (Char × Nat) := [('x', 2), ('u', 4), ('U', 8)]

def charOf? (code : Nat) : Option Char :=
  if code.isValidChar then some (Char.ofNat code) else none

end LogRelay.Config.Document
