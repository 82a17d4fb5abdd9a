import LogRelay.Config.Document.Character

/-!
Block text: rows at one column under a header. Literal text keeps its rows; in folded text a break
between two rows that do not start with a blank shows as a space. The header may say how far the
rows are indented and what becomes of the breaks at the end.
-/
set_option autoImplicit false

namespace LogRelay.Config.Document

-- What becomes of the breaks at the end: none, one or all of them stay.
inductive Chomping where
  | strip
  | clip
  | keep
deriving DecidableEq, Repr

-- A block text while it is read, the last character first. The column of its rows is known once
-- it is given or its first row has begun; `widest` is the rightmost column so far. `last` is the
-- break behind the last row, `more` the breaks of empty rows behind that.
structure Block where
  folded : Bool
  chomping : Chomping
  column : Option Nat
  widest : Nat
  text : List Char
  last : Option Char
  more : List Char
  blankRow : Bool
  inRow : Bool
deriving DecidableEq, Repr

namespace Block

def chomping? : Char → Option Chomping
  | '+' => some .keep
  | '-' => some .strip
  | _ => none

def increment? (c : Char) : Option Nat :=
  if c.isDigit ∧ c ≠ '0' then some (c.toNat - 48) else none

-- A header's chomping and increment, in either order, and what is behind them.
def takeHeader (text : List Char) : Option (Chomping × Option Nat × List Char) :=
  match text with
  | [] => some (.clip, none, [])
  | c :: rest =>
      match chomping? c with
      | some chomping =>
          match rest with
          | [] => some (chomping, none, [])
          | d :: behind =>
              if d.isDigit then (increment? d).map fun number => (chomping, some number, behind)
              else some (chomping, none, rest)
      | none =>
          if c.isDigit then do
            let number ← increment? c
            match rest with
            | [] => some (.clip, some number, [])
            | d :: behind =>
                match chomping? d with
                | some chomping => some (chomping, some number, behind)
                | none => some (.clip, some number, rest)
          else some (.clip, none, text)

-- Starts a block text with the row of its header; `outer` is the column of the collection that it
-- stands in.
def ofHeader? (folded : Bool) (outer : Option Nat) (header : List Char) : Option Block := do
  let (chomping, increment, rest) ← takeHeader header
  let behind := rest.dropWhile isBlank
  if behind = [] ∨ behind.head? = some '#' then
    some {
      folded
      chomping
      column := increment.map (outer.getD 0 + ·)
      widest := 0
      text := []
      last := none
      more := []
      blankRow := false
      inRow := false }
  else none

def isIndented (block : Block) (column : Nat) : Bool :=
  match block.column with
  | none => true
  | some own => column < own

-- Fixes the column when a row begins: right of the collection around it, and of all before.
def settle (block : Block) (outer : Option Nat) (column : Nat) : Block :=
  match block.column with
  | some _ => block
  | none =>
      let least := outer.elim 1 fun outer => max (outer + 1) 1
      { block with column := some (max (max block.widest column) least) }

def beginRow (block : Block) (c : Char) : Block :=
  let joins := block.folded && block.last = some '\n' && !block.blankRow && !isBlank c
  let gap :=
    if joins then if block.more = [] then [' '] else [] else block.last.toList
  { block with
    text := c :: (block.more ++ (gap ++ block.text))
    last := none
    more := []
    blankRow := isBlank c
    inRow := true }

def add (block : Block) (c : Char) : Block := { block with text := c :: block.text }

def endRow (block : Block) (c : Char) : Block := { block with last := some c, inRow := false }

def addEmptyRow (block : Block) (column : Nat) (c : Char) : Block :=
  { block with widest := max block.widest column, more := c :: block.more }

def content (block : Block) : String :=
  let text :=
    match block.chomping with
    | .strip => block.text
    | .clip => block.last.toList ++ block.text
    | .keep => block.more ++ (block.last.toList ++ block.text)
  String.ofList text.reverse

end Block

end LogRelay.Config.Document
