import LogRelay.Config.Document.Node
import LogRelay.Config.Document.Scalar

/-!
The values that the nodes of a document stand for. A tag may ask for a kind of value; a tag that
starts with an exclamation mark is private to some other program and has no value here.
-/
set_option autoImplicit false

namespace LogRelay.Config.Document

structure Anchored where
  text : Option String
  value : Option Value

abbrev Anchors := List (String × Anchored)

def kindTag (kind : String) : Bytes := Utf8.encode ("tag:yaml.org,2002:" ++ kind)

def isPrivate (tag : Bytes) : Bool := tag.head? = some 0x21

def ofTagged (tag : Bytes) (text : String) : Option Value :=
  if tag = kindTag "bool" then (truthOf? text).map .truth
  else if tag = kindTag "int" then (whole? text.toList).map .whole
  else if tag = kindTag "float" then if isNumber text then some .fraction else none
  else if tag = kindTag "null" then if nullWords.contains text then some .null else none
  else if isPrivate tag then none
  else some (.text text)

def textValue? (properties : Properties) (plain : Bool) (text : String) : Option Value :=
  match properties.tag with
  | some tag => ofTagged tag text
  | none => some (if plain then .ofPlain text else .text text)

def setAnchor (anchors : Anchors) (properties : Properties) (meaning : Anchored) : Anchors :=
  match properties.anchor with
  | none => anchors
  | some name => (name, meaning) :: anchors

-- An anchor has no meaning within its own node.
def openAnchor (anchors : Anchors) (properties : Properties) : Anchors :=
  setAnchor anchors properties ⟨none, none⟩

def keyName? (anchors : Anchors) : Node → Option (String × Anchors)
  | .alias name => ((anchors.lookup name).bind Anchored.text).map fun text => (text, anchors)
  | .scalar properties plain text =>
      some (text, setAnchor anchors properties ⟨some text, textValue? properties plain text⟩)
  | _ => none

mutual

def nodeValue? (anchors : Anchors) : Node → Option (Value × Anchors)
  | .alias name => ((anchors.lookup name).bind Anchored.value).map fun value => (value, anchors)
  | .scalar properties plain text =>
      (textValue? properties plain text).map fun value =>
        (value, setAnchor anchors properties ⟨some text, some value⟩)
  | .list properties items =>
      if properties.tag.any isPrivate then none
      else
        match itemValues? (openAnchor anchors properties) items with
        | none => none
        | some (values, anchors) =>
            let value := Value.list values
            some (value, setAnchor anchors properties ⟨none, some value⟩)
  | .map properties entries =>
      if properties.tag.any isPrivate then none
      else
        match entryValues? (openAnchor anchors properties) [] entries with
        | none => none
        | some (values, anchors) =>
            let value := Value.map values
            some (value, setAnchor anchors properties ⟨none, some value⟩)

def itemValues? (anchors : Anchors) : List Node → Option (List Value × Anchors)
  | [] => some ([], anchors)
  | item :: rest =>
      match nodeValue? anchors item with
      | none => none
      | some (value, anchors) =>
          (itemValues? anchors rest).map fun (values, anchors) => (value :: values, anchors)

def entryValues? (anchors : Anchors) (done : List (String × Value)) :
    List (Node × Node) → Option (List (String × Value) × Anchors)
  | [] => some (done, anchors)
  | (key, node) :: rest =>
      match keyName? anchors key with
      | none => none
      | some (name, anchors) =>
          match nodeValue? anchors node with
          | none => none
          | some (value, anchors) => entryValues? anchors (Value.put name value done) rest

end

def rootEntries? : Node → Option (List (String × Value))
  | .map properties entries =>
      (entryValues? (openAnchor [] properties) [] entries).map Prod.fst
  | .scalar _ plain text => if plain && text = "" then some [] else none
  | _ => none

end LogRelay.Config.Document
