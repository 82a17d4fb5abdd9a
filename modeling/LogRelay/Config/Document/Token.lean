import LogRelay.Config.Document.Tag

/-!
Tokens of configuration documents. The start and the end of a block collection, and the key of a
map, are tokens without characters of their own: they show in the columns of the text.
-/
set_option autoImplicit false

namespace LogRelay.Config.Document

def maxDepth : Nat := 128

inductive Token where
  | directive (directive : Directive)
  | start
  | finish
  | listStart
  | mapStart
  | blockEnd
  | openList
  | closeList
  | openMap
  | closeMap
  | dash
  | comma
  | key
  | value
  | alias (name : String)
  | anchor (name : String)
  | tag (tag : Tag)
  | scalar (plain : Bool) (text : String)
deriving DecidableEq, Repr

end LogRelay.Config.Document
