/-!
Patterns of access-log lines: literal text and directives behind a percent sign. Every pattern
compiles; what is not understood becomes an element that shows itself in the line.
-/
set_option autoImplicit false

namespace LogRelay.AccessLog

inductive ElapsedUnit where
  | milliseconds
  | seconds
deriving DecidableEq, Repr

inductive Element where
  | literal (text : String)
  | remoteAddress
  | localAddress
  | localPort
  | protocol
  | method
  | query
  | requestLine
  | uri
  | host
  | server
  | status
  | sessionId
  | user
  | elapsed (unit : ElapsedUnit)
  | byteCount (dashForNone : Bool)
  | dateTime
  | thread
  | requestHeader (name : String)
  | cookie (name : String)
  | requestAttribute (name : String)
  | sessionAttribute (name : String)
  | responseHeader (name : String)
  | unknown (directive : Option Char)
deriving DecidableEq, Repr

def directives : List (Char × Element) :=
  [('a', .remoteAddress), ('A', .localAddress), ('b', .byteCount true), ('B', .byteCount false),
    ('D', .elapsed .milliseconds), ('h', .host), ('H', .protocol), ('l', .literal "-"),
    ('m', .method), ('p', .localPort), ('q', .query), ('r', .requestLine), ('s', .status),
    ('S', .sessionId), ('t', .dateTime), ('T', .elapsed .seconds), ('u', .user), ('U', .uri),
    ('v', .server), ('I', .thread)]

def Element.ofDirective (c : Char) : Element :=
  match directives.lookup c with
  | some element => element
  | none => .unknown (some c)

def Element.ofNamed (name : String) (conversion : Char) : Element :=
  if conversion = 'i' then .requestHeader name
  else if conversion = 'c' then .cookie name
  else if conversion = 'o' then .responseHeader name
  else if conversion = 'r' then .requestAttribute name
  else if conversion = 's' then .sessionAttribute name
  else .unknown none

-- A name up to its closing brace, the conversion character and the rest, if all are there.
def takeNamed (text : List Char) :
    Option (List Char × Char × { rest : List Char // rest.length < text.length }) :=
  match closing : text.dropWhile (· ≠ '}') with
  | _ :: conversion :: rest =>
      some (text.takeWhile (· ≠ '}'), conversion, ⟨rest, by
        have shorter := (List.dropWhile_suffix (· ≠ '}') (l := text)).length_le
        rw [closing] at shorter
        simp only [List.length_cons] at shorter
        omega⟩)
  | _ => none

-- Adds the literal text read so far, the last character first, unless there is none.
def flush (literal : List Char) (done : List Element) : List Element :=
  if literal = [] then done else .literal (String.ofList literal.reverse) :: done

-- Reads on behind elements already read, the last first, and literal text not yet complete. A
-- percent sign that ends the pattern is dropped.
def scan (done : List Element) (literal : List Char) : List Char → List Element
  | [] => (flush literal done).reverse
  | '%' :: [] => (flush literal done).reverse
  | '%' :: '{' :: rest =>
      match takeNamed rest with
      | some (name, conversion, ⟨rest', _⟩) =>
          scan (.ofNamed (String.ofList name) conversion :: flush literal done) [] rest'
      | none => scan (.ofDirective '{' :: flush literal done) [] rest
  | '%' :: c :: rest => scan (.ofDirective c :: flush literal done) [] rest
  | c :: rest => scan done (c :: literal) rest
termination_by text => text.length

def elementsOf (pattern : String) : List Element := scan [] [] pattern.toList

structure Pattern where
  source : String
  elements : List Element
deriving DecidableEq, Repr

namespace Pattern

def empty : Pattern := ⟨"", []⟩

def compile (source : String) : Pattern := ⟨source, elementsOf source⟩

def commonLog : String := "%h %l %u %t \"%r\" %s %b"

def combinedLog : String := commonLog ++ " \"%\x7bReferer\x7di\" \"%\x7bUser-Agent\x7di\""

def expand (pattern : String) : String :=
  if pattern = "common" then commonLog
  else if pattern = "combined" then combinedLog
  else pattern

def ofSetting (pattern : String) : Pattern := compile (expand pattern)

end Pattern

end LogRelay.AccessLog
