import LogRelay.Text.Utf8

/-!
What is known of a request and its response when its line is written. Header names are compared
without case; of several values under one name the order is kept.
-/
set_option autoImplicit false

namespace LogRelay.AccessLog

def headerPunctuation : List Char :=
  "!#$%&'*+-.^_`|~".toList

def isHeaderChar (c : Char) : Bool :=
  c.isAlphanum || headerPunctuation.contains c

def headerNameLimit : Nat := 65535

-- The name of a header, in lower case.
structure HeaderName where
  text : List Char
deriving DecidableEq, Repr

def HeaderName.ofText? (text : List Char) : Option HeaderName :=
  if text ≠ [] ∧ text.all isHeaderChar ∧ text.length ≤ headerNameLimit then
    some ⟨text.map Char.toLower⟩
  else none

def isHeaderValue (bytes : Bytes) : Bool :=
  bytes.all fun b => (0x20 ≤ b && b != 0x7F) || b == 0x09

abbrev Headers := List (HeaderName × Bytes)

namespace Headers

def add (headers : Headers) (name : HeaderName) (value : Bytes) : Headers :=
  headers ++ [(name, value)]

-- The values under a name, as text. Under a name that no header can have there are none.
def values (headers : Headers) (name : String) : List String :=
  match HeaderName.ofText? name.toList with
  | none => []
  | some key => (headers.filter (·.1 = key)).map fun header => Utf8.decodeLossy header.2

end Headers

-- Named values; a later one stands in front of an earlier one of the same name and hides it.
abbrev Attributes := List (String × String)

def Attributes.insert (attributes : Attributes) (name value : String) : Attributes :=
  (name, value) :: attributes

structure Session where
  id : String
  attributes : Attributes
deriving DecidableEq, Repr

structure Request where
  remoteAddress : Option String
  remoteHost : Option String
  localAddress : Option String
  localPort : Option UInt16
  serverName : Option String
  protocol : Option String
  method : Option String
  uri : Option String
  query : Option String
  status : Option UInt16
  bytesSent : Int64
  user : Option String
  thread : Option String
  requestHeaders : Headers
  responseHeaders : Headers
  cookies : List (String × String)
  attributes : Attributes
  session : Option Session
deriving DecidableEq, Repr

namespace Request

def blank : Request where
  remoteAddress := none
  remoteHost := none
  localAddress := none
  localPort := none
  serverName := none
  protocol := none
  method := none
  uri := none
  query := none
  status := none
  bytesSent := 0
  user := none
  thread := none
  requestHeaders := []
  responseHeaders := []
  cookies := []
  attributes := []
  session := none

def header? (request : Request) (name : String) : Option String :=
  (request.requestHeaders.values name).head?

def responseHeader (request : Request) (name : String) : List String :=
  request.responseHeaders.values name

def cookie? (request : Request) (name : String) : Option String :=
  request.cookies.lookup name

def attribute? (request : Request) (name : String) : Option String :=
  request.attributes.lookup name

def sessionId? (request : Request) : Option String :=
  request.session.map Session.id

def sessionAttribute? (request : Request) (name : String) : Option String :=
  request.session.bind fun session => session.attributes.lookup name

end Request

end LogRelay.AccessLog
