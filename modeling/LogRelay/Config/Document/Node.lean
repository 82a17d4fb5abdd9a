import LogRelay.Config.Document.Token

/-!
The tree of nodes that the tokens of a document form. Tokens are taken one after another; the
collections that are open at a token are kept as frames, the innermost first. Where a node is left
out, an empty plain text stands for it.
-/
set_option autoImplicit false

namespace LogRelay.Config.Document

structure Properties where
  anchor : Option String
  tag : Option Bytes
deriving DecidableEq, Repr

inductive Node where
  | alias (name : String)
  | scalar (properties : Properties) (plain : Bool) (text : String)
  | list (properties : Properties) (items : List Node)
  | map (properties : Properties) (entries : List (Node × Node))

namespace Node

def noProperties : Properties := ⟨none, none⟩

def empty : Node := .scalar noProperties true ""

end Node

-- How a collection is written. A bare list's items stand at the column of the map around it; a
-- pair is an entry of a map that stands for the map within a flow list.
inductive Style where
  | block
  | bare
  | flow
  | pair
deriving DecidableEq, Repr

inductive Stage where
  | between
  | ready
  | key
  | mark (key : Node)
  | value (key : Node)

-- A collection that is open, what is in it the last first; or the document itself.
inductive Frame where
  | document (root : Option Node)
  | list (style : Style) (properties : Properties) (items : List Node) (ready : Bool)
  | map (style : Style) (properties : Properties) (entries : List (Node × Node)) (stage : Stage)

namespace Frame

def isReady : Frame → Bool
  | .document root => root.isNone
  | .list _ _ _ ready => ready
  | .map style _ _ .ready => style = .flow
  | .map _ _ _ .key => true
  | .map _ _ _ (.value _) => true
  | _ => false

def takesBlocks : Frame → Bool
  | .document _ => true
  | .list style _ _ _ => style ≠ .flow
  | .map style _ _ _ => style = .block

def takesBare : Frame → Bool
  | .map style _ _ _ => style = .block
  | _ => false

def isLeftOut : Frame → Token → Bool
  | .document _, token =>
      match token with
      | .directive _ => true
      | .start => true
      | .finish => true
      | _ => false
  | .list style _ _ _, token =>
      match style with
      | .block => token = .dash || token = .blockEnd
      | .bare => token = .dash || token = .key || token = .value || token = .blockEnd
      | _ => false
  | .map style _ _ stage, token =>
      match style, stage with
      | .block, _ => token = .key || token = .value || token = .blockEnd
      | .flow, .key => token = .value || token = .comma || token = .closeMap
      | .flow, .value _ => token = .comma || token = .closeMap
      | .pair, .value _ => token = .comma || token = .closeList
      | _, _ => false

end Frame

def place (node : Node) : List Frame → Option (List Frame)
  | .document none :: rest => some (.document (some node) :: rest)
  | .list style properties items true :: rest =>
      some (.list style properties (node :: items) false :: rest)
  | .map style properties entries stage :: rest =>
      match style, stage with
      | .flow, .ready =>
          some (.map style properties ((node, .empty) :: entries) .between :: rest)
      | _, .key => some (.map style properties entries (.mark node) :: rest)
      | .pair, .value key => place (.map properties [(key, node)]) rest
      | _, .value key => some (.map style properties ((key, node) :: entries) .between :: rest)
      | _, _ => none
  | _ => none

def close : List Frame → Option (List Frame)
  | .list _ properties items _ :: rest => place (.list properties items.reverse) rest
  | .map _ properties entries _ :: rest => place (.map properties entries.reverse) rest
  | _ => none

-- The reader of tokens: the handles of tags, the open frames, and what has been said of the next
-- node. Until the document has begun there is no frame.
structure Builder where
  hasVersion : Bool
  handles : List (String × Bytes)
  frames : List Frame
  next : Properties

namespace Builder

def start : Builder := ⟨false, [], [], Node.noProperties⟩

def standardHandles : List (String × Bytes) :=
  [("!", Utf8.encode "!"), ("!!", Utf8.encode "tag:yaml.org,2002:")]

def withFrames (builder : Builder) (frames : List Frame) : Builder := { builder with frames }

def push (builder : Builder) (frame : Properties → Frame) : Builder :=
  { builder with frames := frame builder.next :: builder.frames, next := Node.noProperties }

def add (builder : Builder) (node : Node) : Option Builder :=
  (place node builder.frames).map fun frames =>
    { builder with frames, next := Node.noProperties }

def hasNext (builder : Builder) : Bool := builder.next.anchor.isSome || builder.next.tag.isSome

def continues (builder : Builder) : Token → Bool
  | .anchor _ => builder.next.anchor.isNone
  | .tag _ => builder.next.tag.isNone
  | .scalar _ _ => true
  | .openList => true
  | .openMap => true
  | .listStart => builder.frames.head?.any Frame.takesBlocks
  | .mapStart => builder.frames.head?.any Frame.takesBlocks
  | .dash => builder.frames.head?.any Frame.takesBare
  | _ => false

def addLeftOut (builder : Builder) (token : Token) : Option Builder :=
  if builder.hasNext then
    if builder.continues token then some builder
    else builder.add (.scalar builder.next true "")
  else
    match builder.frames with
    | frame :: _ =>
        if frame.isReady && frame.isLeftOut token then builder.add .empty else some builder
    | [] => some builder

def closeBare (builder : Builder) (token : Token) : Option Builder :=
  match builder.frames with
  | .list .bare _ _ false :: _ =>
      if token = .dash then some builder else (close builder.frames).map builder.withFrames
  | _ => some builder

def addNoValue (builder : Builder) (token : Token) : Option Builder :=
  match builder.frames with
  | .map style properties entries (.mark key) :: rest =>
      if token = .value then some builder
      else
        (place .empty (.map style properties entries (.value key) :: rest)).map builder.withFrames
  | _ => some builder

def resolve? (builder : Builder) (tag : Tag) : Option Bytes :=
  if tag.handle = "" then some tag.suffix
  else (builder.handles.lookup tag.handle).map (· ++ tag.suffix)

-- The tag of a text; one exclamation mark says nothing of it.
def textProperties (properties : Properties) : Properties :=
  if properties.tag = some (Utf8.encode "!") then { properties with tag := none } else properties

def startNode (builder : Builder) (frame : Frame) (token : Token) : Option Builder :=
  match token with
  | .alias name => builder.add (.alias name)
  | .anchor name => some { builder with next := { builder.next with anchor := some name } }
  | .tag tag =>
      (builder.resolve? tag).map fun bytes =>
        { builder with next := { builder.next with tag := some bytes } }
  | .scalar plain text => builder.add (.scalar (textProperties builder.next) plain text)
  | .openList => some (builder.push fun properties => .list .flow properties [] true)
  | .openMap => some (builder.push fun properties => .map .flow properties [] .ready)
  | .listStart =>
      if frame.takesBlocks then some (builder.push fun properties => .list .block properties [] false)
      else none
  | .mapStart =>
      if frame.takesBlocks then
        some (builder.push fun properties => .map .block properties [] .between)
      else none
  | .dash =>
      if frame.takesBare then some (builder.push fun properties => .list .bare properties [] true)
      else none
  | _ => none

def stepList (builder : Builder) (style : Style) (properties : Properties) (items : List Node)
    (ready : Bool) (rest : List Frame) (token : Token) : Option Builder :=
  let closed := (close (.list style properties items ready :: rest)).map builder.withFrames
  let opened := some (builder.withFrames (.list style properties items true :: rest))
  match style, ready, token with
  | .flow, _, .closeList => closed
  | .flow, false, .comma => opened
  | .flow, true, .key => some (builder.push fun properties => .map .pair properties [] .key)
  | .block, false, .blockEnd => closed
  | .block, false, .dash => opened
  | .bare, false, .dash => opened
  | _, true, _ => builder.startNode (.list style properties items true) token
  | _, _, _ => none

-- A token within a map. A pair without a key swallows the token before which the key is left
-- out.
def stepMap (builder : Builder) (style : Style) (properties : Properties)
    (entries : List (Node × Node)) (stage : Stage) (rest : List Frame) (token : Token) :
    Option Builder :=
  let frame := Frame.map style properties entries
  let closed := (close (frame stage :: rest)).map builder.withFrames
  match style, stage, token with
  | .block, .between, .key => some (builder.withFrames (frame .key :: rest))
  | .block, .between, .blockEnd => closed
  | .flow, .between, .comma => some (builder.withFrames (frame .ready :: rest))
  | .flow, .between, .closeMap => closed
  | .flow, .ready, .closeMap => closed
  | .flow, .ready, .key => some (builder.withFrames (frame .key :: rest))
  | _, .mark key, .value => some (builder.withFrames (frame (.value key) :: rest))
  | .pair, .key, .value => builder.add .empty
  | .pair, .key, .comma => builder.add .empty
  | .pair, .key, .closeList => builder.add .empty
  | _, _, _ => if (frame stage).isReady then builder.startNode (frame stage) token else none

def stepInside (builder : Builder) (token : Token) : Option Builder := do
  let builder ← builder.addLeftOut token
  let builder ← builder.closeBare token
  let builder ← builder.addNoValue token
  match builder.frames with
  | .document none :: _ => builder.startNode (.document none) token
  | .document (some _) :: _ => if token = .finish then some builder else none
  | .list style properties items ready :: rest =>
      builder.stepList style properties items ready rest token
  | .map style properties entries stage :: rest =>
      builder.stepMap style properties entries stage rest token
  | [] => none

-- Begins the document. A handle that a directive names has no other meaning.
def begin (builder : Builder) : Builder :=
  { builder with
    handles := builder.handles ++ standardHandles
    frames := [.document none] }

def hasDirectives (builder : Builder) : Bool := builder.hasVersion || builder.handles ≠ []

-- A token before the document. Directives need the marker of its start behind them.
def stepBefore (builder : Builder) (token : Token) : Option Builder :=
  match token with
  | .directive (.version major minor) =>
      if !builder.hasVersion && major = 1 && (minor = 1 || minor = 2) then
        some { builder with hasVersion := true }
      else none
  | .directive (.handle name start) =>
      if (builder.handles.lookup name).isSome then none
      else some { builder with handles := (name, start) :: builder.handles }
  | .start => some builder.begin
  | .finish => none
  | _ => if builder.hasDirectives then none else builder.begin.stepInside token

def step (builder : Builder) (token : Token) : Option Builder :=
  match builder.frames with
  | [] => builder.stepBefore token
  | _ => builder.stepInside token

def finish (builder : Builder) : Option (Option Node) :=
  match builder.frames with
  | [] => if builder.hasDirectives then none else some none
  | _ =>
      match builder.addLeftOut .finish with
      | some ⟨_, _, [.document (some root)], _⟩ => some (some root)
      | _ => none

end Builder

def Node.ofTokens? (tokens : List Token) : Option (Option Node) :=
  (tokens.foldlM Builder.step .start).bind Builder.finish

end LogRelay.Config.Document
