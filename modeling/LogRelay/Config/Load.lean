import LogRelay.Config.Document.Content
import LogRelay.Config.Document.Scanner
import LogRelay.Config.Environment
import LogRelay.Config.Settings

/-!
Loading settings: a document, then the environment over it, then the checks. A document is taken
apart into tokens, the tokens form nodes, and the nodes stand for values; one that does not exist is
like one with nothing in it.
-/
set_option autoImplicit false

namespace LogRelay.Config

def readDocument? (document : String) : Option (List (String × Value)) := do
  let tokens ← Document.tokens? document
  match ← Document.Node.ofTokens? tokens with
  | none => some []
  | some root =>
      let entries ← Document.rootEntries? root
      if (Value.map entries).depth ≤ Document.maxDepth then some entries else none

-- How many fields a section has, by its name; no other entry is a section.
def sectionSizes : List (String × Nat) := [("access_log", 4), ("scribe", 7)]

-- A section that is a list loses the items for which it has no fields.
def withCutSections : Value → Value
  | .map entries =>
      .map (entries.map fun (name, value) =>
        (name, (sectionSizes.lookup name).elim value value.cut))
  | value => value

def overlay? (document : Option String) (overrides : Value) : Option Value :=
  (readDocument? (document.getD "")).map fun entries => (Value.map entries).merge overrides

def read? (document : Option String) (overrides : Value) : Option Settings :=
  (overlay? document overrides).bind fun value => Settings.ofValue? (withCutSections value)

-- How loading ends. A text of the environment that cannot be cut where its escapes ask for it stops
-- the reader itself: there are no settings then, and no error either.
inductive Loading where
  | ok (settings : Settings)
  | error (error : SetupError)
  | stopped
deriving DecidableEq, Repr

-- The environment is read whatever the document holds, so its stop comes before any error.
def Settings.load (document : Option String) (environment : List (String × String)) : Loading :=
  match ofEnvironment? environment with
  | none => .stopped
  | some overrides =>
      match read? document overrides with
      | none => .error .unreadable
      | some settings =>
          match settings.validate with
          | .error invalid => .error invalid
          | .ok () => .ok settings

end LogRelay.Config
