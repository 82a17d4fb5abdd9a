import LogRelay.AccessLog.Logger
import LogRelay.Command.Invocation
import LogRelay.Command.Problem
import LogRelay.Text.Blank

set_option autoImplicit false

namespace LogRelay.Command

open AccessLog Config

def splitAt? (mark : Char) (text : String) : Option (List Char × List Char) :=
  match text.toList.dropWhile (· ≠ mark) with
  | [] => none
  | _ :: behind => some (text.toList.takeWhile (· ≠ mark), behind)

def readHeader (text : String) : Except Problem (HeaderName × Bytes) :=
  match splitAt? ':' text with
  | none => .error (.headerForm text)
  | some (name, value) =>
      match HeaderName.ofText? (Text.trim name) with
      | none => .error (.headerName text)
      | some name =>
          let bytes := Utf8.encode (String.ofList (Text.trim value))
          if isHeaderValue bytes then .ok (name, bytes) else .error (.headerValue text)

def readCookie (text : String) : Except Problem (String × String) :=
  match splitAt? '=' text with
  | none => .error (.cookieForm text)
  | some (name, value) => .ok (String.ofList name, String.ofList value)

def LineOrder.request (order : LineOrder) : Except Problem Request := do
  let requestHeaders ← order.headers.mapM readHeader
  let responseHeaders ← order.responseHeaders.mapM readHeader
  let cookies ← order.cookies.mapM readCookie
  pure { Request.blank with
    remoteAddress := order.remoteAddress
    remoteHost := order.remoteHost
    method := order.method
    uri := order.uri
    query := order.query
    protocol := order.protocol
    status := order.status
    bytesSent := order.bytes
    user := order.user
    requestHeaders
    responseHeaders
    cookies }

-- A line that is asked for is always written, under a name of its own if none is set.
def LineOrder.settings (order : LineOrder) (settings : LogSettings) : LogSettings :=
  { settings with
    pattern := order.pattern.getD settings.pattern
    enabled := true
    loggerName := some (settings.loggerName.getD "quill") }

def LineOrder.lines (order : LineOrder) (settings : LogSettings) (clock : Clock)
    (thread : Option String) (now : Instant) : Except Problem (List String) :=
  match (Logger.ofSettings clock (order.settings settings)).start with
  | (.error error, _) => .error (.setup error)
  | (.ok (), logger) =>
      match order.request with
      | .error problem => .error problem
      | .ok request =>
          .ok (logger.log request ⟨order.elapsed.toNat * 1000000, now, thread⟩).2.lines

end LogRelay.Command
