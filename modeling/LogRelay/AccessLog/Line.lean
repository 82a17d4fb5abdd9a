import LogRelay.AccessLog.Pattern
import LogRelay.AccessLog.Request
import LogRelay.AccessLog.Stamp

set_option autoImplicit false

namespace LogRelay.AccessLog

-- When and where a line is written: the time that the request took, the instant, and the name of
-- the writing thread.
structure Moment where
  elapsedNanos : Nat
  now : Instant
  thread : Option String

def Moment.milliseconds (moment : Moment) : Nat :=
  min (moment.elapsedNanos / 1000000) (UInt64.size - 1)

def orDash (text : Option String) : String := text.getD "-"

def queryText (request : Request) : String :=
  match request.query with
  | none => ""
  | some query => "?" ++ query

def requestLine (request : Request) : String :=
  orDash request.method ++ " " ++ orDash request.uri ++ queryText request ++ " " ++
    orDash request.protocol

def secondsText (milliseconds : Nat) : String :=
  let rest := milliseconds % 1000
  String.ofList (Decimal.digits (milliseconds / 1000) ++ ['.'] ++
    [Decimal.digit (rest / 100), Decimal.digit (rest % 100 / 10)])

def elapsedText (moment : Moment) : ElapsedUnit → String
  | .milliseconds => Decimal.ofNat moment.milliseconds
  | .seconds => secondsText moment.milliseconds

def byteCountText (dashForNone : Bool) (bytes : Int64) : String :=
  if bytes ≤ 0 ∧ dashForNone then "-" else Decimal.ofInt bytes.toInt

def valuesText (values : List String) : String :=
  if values = [] then "-" else ",".intercalate values

def unknownText : Option Char → String
  | some c => "???" ++ c.toString ++ "???"
  | none => "???"

def Element.text (request : Request) (moment : Moment) : Element → String
  | .literal text => text
  | .remoteAddress => orDash request.remoteAddress
  | .localAddress => orDash request.localAddress
  | .localPort => orDash (request.localPort.map fun port => Decimal.ofNat port.toNat)
  | .protocol => orDash request.protocol
  | .method => orDash request.method
  | .query => queryText request
  | .requestLine => AccessLog.requestLine request
  | .uri => orDash request.uri
  | .host => orDash (request.remoteHost <|> request.remoteAddress)
  | .server => orDash request.serverName
  | .status => orDash (request.status.map fun status => Decimal.ofNat status.toNat)
  | .sessionId => orDash request.sessionId?
  | .user => orDash request.user
  | .elapsed unit => elapsedText moment unit
  | .byteCount dashForNone => byteCountText dashForNone request.bytesSent
  | .dateTime => ""
  | .thread => orDash (request.thread <|> moment.thread)
  | .requestHeader name => orDash (request.header? name)
  | .cookie name => orDash (request.cookie? name)
  | .requestAttribute name => orDash (request.attribute? name)
  | .sessionAttribute name => orDash (request.sessionAttribute? name)
  | .responseHeader name => valuesText (request.responseHeader name)
  | .unknown directive => unknownText directive

def Element.write (request : Request) (moment : Moment) (cache : StampCache) (element : Element) :
    String × StampCache :=
  match element with
  | .dateTime =>
      let (stamp, cache) := cache.stampAt moment.now
      (stamp.text, cache)
  | element => (element.text request moment, cache)

def writeOn (request : Request) (moment : Moment) :
    String → StampCache → List Element → String × StampCache
  | line, cache, [] => (line, cache)
  | line, cache, element :: rest =>
      let (text, cache) := element.write request moment cache
      writeOn request moment (line ++ text) cache rest

def Pattern.write (pattern : Pattern) (request : Request) (moment : Moment) (cache : StampCache) :
    String × StampCache :=
  writeOn request moment "" cache pattern.elements

end LogRelay.AccessLog
