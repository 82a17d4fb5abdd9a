import LogRelay.Config.Document.Block
import LogRelay.Config.Document.Gap
import LogRelay.Config.Document.Token

/-!
From the characters of a document to its tokens. A machine reads one character after another and
looks up to three places ahead. It keeps the columns of the open block collections, and for each
level of flow collections the place of a node that may turn out to be a key: when the colon comes,
the key's token is put in front of that node.
-/
set_option autoImplicit false

namespace LogRelay.Config.Document

-- A node that may turn out to be a key: where it starts, and how many tokens are before it. In a
-- block map a node at the map's column must be a key.
structure KeyPlace where
  row : Nat
  column : Nat
  required : Bool
  tokens : Nat
deriving DecidableEq, Repr

def keyReach : Nat := 1024

def KeyPlace.isStale (place : KeyPlace) (row column : Nat) : Bool :=
  place.row < row || place.column + keyReach < column

-- What the next character belongs to. Texts are kept the last character first.
inductive Mode where
  | between
  | comment
  | passed (left : Nat)
  | directive (row : List Char)
  | name (make : Bool) (text : List Char)
  | tag (text : List Char)
  | plain (text : List Char) (gap : Gap)
  | single (text : List Char) (gap : Gap)
  | apostrophe (text : List Char)
  | double (text : List Char) (gap : Gap)
  | escaped (text : List Char)
  | escapedBreak (text : List Char)
  | code (text : List Char) (left value : Nat)
  | header (folded : Bool) (row : List Char)
  | block (block : Block)
deriving DecidableEq, Repr

-- The machine: where it is, the columns of the open block collections and the places of keys, the
-- innermost first, whether a key may start here, and the tokens so far, the last first.
structure Scanner where
  row : Nat
  column : Nat
  columns : List Nat
  keys : List (Option KeyPlace)
  keyAllowed : Bool
  mode : Mode
  tokens : List Token
deriving DecidableEq, Repr

namespace Scanner

def start : Scanner := ⟨0, 0, [], [none], true, .between, []⟩

def inFlow (scanner : Scanner) : Bool := 1 < scanner.keys.length

def outer (scanner : Scanner) : Option Nat := scanner.columns.head?

def isOutside (scanner : Scanner) (column : Nat) : Bool :=
  scanner.outer.any fun outer => column ≤ outer

def enter (scanner : Scanner) (mode : Mode) : Scanner :=
  { scanner with column := scanner.column + 1, mode }

def newRow (scanner : Scanner) (mode : Mode) : Scanner :=
  { scanner with row := scanner.row + 1, column := 0, mode }

def breakBetween (scanner : Scanner) : Scanner :=
  { scanner.newRow .between with keyAllowed := scanner.keyAllowed || !scanner.inFlow }

def add (scanner : Scanner) (token : Token) : Scanner :=
  { scanner with tokens := token :: scanner.tokens }

def allowKey (scanner : Scanner) (keyAllowed : Bool) : Scanner := { scanner with keyAllowed }

def dropKey (scanner : Scanner) : Option Scanner :=
  match scanner.keys with
  | some place :: rest =>
      if place.required then none else some { scanner with keys := none :: rest }
  | _ => some scanner

def dropStale (scanner : Scanner) : Option Scanner :=
  let isStale := fun (key : Option KeyPlace) =>
    key.any fun place => place.isStale scanner.row scanner.column
  if scanner.keys.any fun key => isStale key && key.any KeyPlace.required then none
  else some { scanner with keys := scanner.keys.map fun key => if isStale key then none else key }

def saveKey (scanner : Scanner) : Option Scanner :=
  if scanner.keyAllowed then
    scanner.dropKey.map fun scanner =>
      let required := !scanner.inFlow && scanner.outer = some scanner.column
      let place := ⟨scanner.row, scanner.column, required, scanner.tokens.length⟩
      { scanner with keys := some place :: scanner.keys.tail }
  else some scanner

def indent (scanner : Scanner) (column : Nat) (token : Token) : Scanner :=
  if scanner.inFlow || scanner.outer.any (column ≤ ·) then scanner
  else { scanner.add token with columns := column :: scanner.columns }

def endBlocks (keeps : Nat → Bool) : List Nat → List Token → List Nat × List Token
  | [], tokens => ([], tokens)
  | column :: rest, tokens =>
      if keeps column then (column :: rest, tokens)
      else endBlocks keeps rest (.blockEnd :: tokens)

def outdent (scanner : Scanner) (keeps : Nat → Bool) : Scanner :=
  if scanner.inFlow then scanner
  else
    let (columns, tokens) := endBlocks keeps scanner.columns scanner.tokens
    { scanner with columns, tokens }

def outdentAll (scanner : Scanner) : Scanner := scanner.outdent fun _ => false

def boundary (scanner : Scanner) (mode : Mode) : Option Scanner :=
  scanner.outdentAll.dropKey.map fun scanner => (scanner.enter mode).allowKey false

def marker (scanner : Scanner) (token : Token) : Option Scanner :=
  (scanner.boundary (.passed 2)).map fun scanner => scanner.add token

def content (scanner : Scanner) (mode : Mode) : Option Scanner :=
  scanner.saveKey.map fun scanner => (scanner.enter mode).allowKey false

-- There are as many levels of keys as flow collections are open, and one more.
def openFlow (scanner : Scanner) (token : Token) : Option Scanner :=
  if maxDepth < scanner.keys.length then none
  else
    scanner.saveKey.map fun scanner =>
      { (scanner.enter .between).add token with keys := none :: scanner.keys, keyAllowed := true }

def closeFlow (scanner : Scanner) (token : Token) : Option Scanner :=
  scanner.dropKey.map fun scanner =>
    let keys := if scanner.inFlow then scanner.keys.tail else scanner.keys
    { (scanner.enter .between).add token with keys, keyAllowed := false }

def comma (scanner : Scanner) : Option Scanner :=
  scanner.dropKey.map fun scanner => ((scanner.enter .between).add .comma).allowKey true

-- A mark in front of a list's item or of a map's key. In block collections it has to stand where
-- a key may start.
def mark (scanner : Scanner) (collection token : Token) (keyAllowed : Bool) : Option Scanner :=
  if scanner.inFlow || scanner.keyAllowed then
    (scanner.indent scanner.column collection).dropKey.map fun scanner =>
      ((scanner.enter .between).add token).allowKey keyAllowed
  else none

-- Puts a key's token, and the start of its map if the map is new, in front of a node.
def insertKey (scanner : Scanner) (place : KeyPlace) : Scanner :=
  let behind := scanner.tokens.take (scanner.tokens.length - place.tokens)
  let before := { scanner with tokens := scanner.tokens.drop behind.length }
  let before := (before.indent place.column .mapStart).add .key
  { before with
    tokens := behind ++ before.tokens
    keys := none :: scanner.keys.tail
    keyAllowed := false }

def colon (scanner : Scanner) : Option Scanner :=
  let add := fun (scanner : Scanner) => (scanner.enter .between).add .value
  match scanner.keys with
  | some place :: _ => some (add (scanner.insertKey place))
  | _ =>
      if scanner.inFlow then some ((add scanner).allowKey false)
      else if scanner.keyAllowed then
        some ((add (scanner.indent scanner.column .mapStart)).allowKey true)
      else none

def blockHeader (scanner : Scanner) (folded : Bool) : Option Scanner :=
  scanner.dropKey.map fun scanner => (scanner.enter (.header folded [])).allowKey true

def startsPlain (scanner : Scanner) (c : Char) : Bool :=
  c = '-' || (!scanner.inFlow && (c = '?' || c = ':')) || !indicators.contains c && c ≠ '\t'

def dispatch (scanner : Scanner) (c : Char) (rest : List Char) : Option Scanner :=
  let isMark := scanner.inFlow || isSpaced rest
  if scanner.column = 0 && c = '%' then scanner.boundary (.directive [])
  else if isMarker '-' scanner.column (c :: rest) then scanner.marker .start
  else if isMarker '.' scanner.column (c :: rest) then scanner.marker .finish
  else if c = '[' then scanner.openFlow .openList
  else if c = '{' then scanner.openFlow .openMap
  else if c = ']' then scanner.closeFlow .closeList
  else if c = '}' then scanner.closeFlow .closeMap
  else if c = ',' then scanner.comma
  else if c = '-' && isSpaced rest then scanner.mark .listStart .dash true
  else if c = '?' && isMark then scanner.mark .mapStart .key !scanner.inFlow
  else if c = ':' && isMark then scanner.colon
  else if c = '*' then scanner.content (.name false [])
  else if c = '&' then scanner.content (.name true [])
  else if c = '!' then scanner.content (.tag ['!'])
  else if c = '|' && !scanner.inFlow then scanner.blockHeader false
  else if c = '>' && !scanner.inFlow then scanner.blockHeader true
  else if c = '\'' then scanner.content (.single [] .empty)
  else if c = '"' then scanner.content (.double [] .empty)
  else if scanner.startsPlain c then scanner.content (.plain [c] .empty)
  else none

-- A character between tokens. Tabs may not stand where a key of a block map may start.
def stepBetween (scanner : Scanner) (c : Char) (rest : List Char) : Option Scanner :=
  if isBreak c then some scanner.breakBetween
  else if c = ' ' || (c = orderMark && scanner.column = 0) then some (scanner.enter .between)
  else if c = '\t' && (scanner.inFlow || !scanner.keyAllowed) then some (scanner.enter .between)
  else if c = '#' then some (scanner.enter .comment)
  else
    scanner.dropStale.bind fun scanner =>
      (scanner.outdent (· ≤ scanner.column)).dispatch c rest

def addDirective (scanner : Scanner) (row : List Char) : Option Scanner :=
  (Directive.ofRow? row.reverse).map fun directive => scanner.add (.directive directive)

def addName (scanner : Scanner) (make : Bool) (text : List Char) : Option Scanner :=
  let name := String.ofList text.reverse
  if text = [] then none
  else some (scanner.add (if make then .anchor name else .alias name))

def addTag (scanner : Scanner) (text : List Char) : Option Scanner :=
  (Tag.ofText? text.reverse).map fun tag => scanner.add (.tag tag)

def addScalar (scanner : Scanner) (plain : Bool) (text : List Char) : Scanner :=
  scanner.add (.scalar plain (String.ofList text.reverse))

def addPlain (scanner : Scanner) (text : List Char) (gap : Gap) : Scanner :=
  (scanner.addScalar true text).allowKey (scanner.keyAllowed || !gap.isOnRow)

def behindName : List Char := ['?', ':', ',', ']', '}', '%', '@', '\x60']

def stepName (scanner : Scanner) (make : Bool) (text : List Char) (c : Char) (rest : List Char) :
    Option Scanner :=
  if isNameCharacter c then some (scanner.enter (.name make (c :: text)))
  else if isSpaced [c] || behindName.contains c then
    (scanner.addName make text).bind fun scanner => scanner.stepBetween c rest
  else none

def isBracketOpen (text : List Char) : Bool :=
  text.reverse.take 2 = ['!', '<'] && !text.contains '>'

def stepTag (scanner : Scanner) (text : List Char) (c : Char) (rest : List Char) :
    Option Scanner :=
  if isSpaced [c] || (c = ',' && scanner.inFlow && !isBracketOpen text) then
    (scanner.addTag text).bind fun scanner => scanner.stepBetween c rest
  else some (scanner.enter (.tag (c :: text)))

def endsBehindGap (scanner : Scanner) (gap : Gap) (c : Char) (rest : List Char) : Bool :=
  gap ≠ .empty &&
    ((!scanner.inFlow && scanner.isOutside scanner.column) || c = '#' ||
      isEitherMarker scanner.column (c :: rest))

def endsPlain (scanner : Scanner) (c : Char) (rest : List Char) : Bool :=
  (c = ':' && isSpaced rest) || (scanner.inFlow && flowMarks.contains c)

-- The characters before which a colon in a flow collection is neither a mark nor text.
def behindColon : List Char := '?' :: flowMarks

def stepPlain (scanner : Scanner) (text : List Char) (gap : Gap) (c : Char) (rest : List Char) :
    Option Scanner :=
  if isBreak c then some (scanner.newRow (.plain text (gap.addBreak c)))
  else if isBlank c then
    if c = '\t' && !gap.isOnRow && scanner.isOutside scanner.column then none
    else some (scanner.enter (.plain text (gap.addBlank c)))
  else if scanner.endsBehindGap gap c rest then (scanner.addPlain text gap).stepBetween c rest
  else if scanner.inFlow && c = ':' && rest.head?.any behindColon.contains then none
  else if scanner.endsPlain c rest then (scanner.addPlain text gap).stepBetween c rest
  else some (scanner.enter (.plain (c :: (gap.text ++ text)) .empty))

def closeQuote (scanner : Scanner) (text : List Char) : Scanner :=
  (scanner.enter .between).addScalar false text

def stepSingle (scanner : Scanner) (text : List Char) (gap : Gap) (c : Char) (rest : List Char) :
    Option Scanner :=
  let whole := gap.text ++ text
  if isBreak c then some (scanner.newRow (.single text (gap.addBreak c)))
  else if isBlank c then some (scanner.enter (.single text (gap.addBlank c)))
  else if isEitherMarker scanner.column (c :: rest) then none
  else if c = '\'' then
    if rest.head? = some '\'' then some (scanner.enter (.apostrophe whole))
    else some (scanner.closeQuote whole)
  else some (scanner.enter (.single (c :: whole) .empty))

def stepDouble (scanner : Scanner) (text : List Char) (gap : Gap) (c : Char) (rest : List Char) :
    Option Scanner :=
  let whole := gap.text ++ text
  if isBreak c then some (scanner.newRow (.double text (gap.addBreak c)))
  else if isBlank c then some (scanner.enter (.double text (gap.addBlank c)))
  else if isEitherMarker scanner.column (c :: rest) then none
  else if c = '"' then some (scanner.closeQuote whole)
  else if c = '\\' then
    if rest.head?.any isBreak then some (scanner.enter (.escapedBreak whole))
    else some (scanner.enter (.escaped whole))
  else some (scanner.enter (.double (c :: whole) .empty))

def stepEscaped (scanner : Scanner) (text : List Char) (c : Char) : Option Scanner :=
  match escapes.lookup c, codeLengths.lookup c with
  | some meant, _ => some (scanner.enter (.double (meant :: text) .empty))
  | none, some length => some (scanner.enter (.code text length 0))
  | none, none => none

def stepCode (scanner : Scanner) (text : List Char) (left value : Nat) (c : Char) :
    Option Scanner := do
  let digit ← Hex.digit? c
  let value := 16 * value + digit
  if left ≤ 1 then
    let meant ← charOf? value
    some (scanner.enter (.double (meant :: text) .empty))
  else some (scanner.enter (.code text (left - 1) value))

def beginBlock (scanner : Scanner) (folded : Bool) (row : List Char) : Option Scanner :=
  (Block.ofHeader? folded scanner.outer row.reverse).map fun block =>
    { scanner with mode := .block block }

def addBlock (scanner : Scanner) (block : Block) : Scanner :=
  { scanner.add (.scalar false block.content) with mode := .between }

def stepBlock (scanner : Scanner) (block : Block) (c : Char) (rest : List Char) :
    Option Scanner :=
  let column := scanner.column
  if block.inRow then
    if isBreak c then some (scanner.newRow (.block (block.endRow c)))
    else some (scanner.enter (.block (block.add c)))
  else if c = ' ' && block.isIndented column then some (scanner.enter (.block block))
  else if c = '\t' && block.isIndented column then none
  else if isBreak c then some (scanner.newRow (.block (block.addEmptyRow column c)))
  else
    let block := block.settle scanner.outer column
    if block.column = some column then some (scanner.enter (.block (block.beginRow c)))
    else (scanner.addBlock block).stepBetween c rest

def step (scanner : Scanner) (c : Char) (rest : List Char) : Option Scanner :=
  match scanner.mode with
  | .between => scanner.stepBetween c rest
  | .comment => some (if isBreak c then scanner.breakBetween else scanner.enter .comment)
  | .passed left => some (scanner.enter (if left ≤ 1 then .between else .passed (left - 1)))
  | .directive row =>
      if isBreak c then (scanner.addDirective row).map fun scanner => scanner.newRow .between
      else some (scanner.enter (.directive (c :: row)))
  | .name make text => scanner.stepName make text c rest
  | .tag text => scanner.stepTag text c rest
  | .plain text gap => scanner.stepPlain text gap c rest
  | .single text gap => scanner.stepSingle text gap c rest
  | .apostrophe text => some (scanner.enter (.single (c :: text) .empty))
  | .double text gap => scanner.stepDouble text gap c rest
  | .escaped text => scanner.stepEscaped text c
  | .escapedBreak text => some (scanner.newRow (.double text (.breaks none [])))
  | .code text left value => scanner.stepCode text left value c
  | .header folded row =>
      if isBreak c then
        (scanner.newRow .between).beginBlock folded row
      else some (scanner.enter (.header folded (c :: row)))
  | .block block => scanner.stepBlock block c rest

def run (scanner : Scanner) : List Char → Option Scanner
  | [] => some scanner
  | c :: rest =>
      match scanner.step c rest with
      | none => none
      | some next => next.run rest

def complete (scanner : Scanner) : Option Scanner :=
  match scanner.mode with
  | .between => some scanner
  | .comment => some scanner
  | .directive row => scanner.addDirective row
  | .name make text => scanner.addName make text
  | .tag text => scanner.addTag text
  | .plain text gap => some (scanner.addPlain text gap)
  | .header folded row =>
      (Block.ofHeader? folded scanner.outer row.reverse).map scanner.addBlock
  | .block block => some (scanner.addBlock block)
  | _ => none

def finish (scanner : Scanner) : Option (List Token) := do
  let scanner ← scanner.complete
  let scanner ← scanner.dropStale
  let scanner ← scanner.outdentAll.dropKey
  some scanner.tokens.reverse

end Scanner

def tokens? (document : String) : Option (List Token) :=
  let text := unifyBreaks document.toList
  if text.all isPermitted then (Scanner.start.run text).bind Scanner.finish else none

end LogRelay.Config.Document
