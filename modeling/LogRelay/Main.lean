import LogRelay.Command.Run
import LogRelay.Sockets
import Std.Async.System

set_option autoImplicit false

namespace LogRelay.Program

open Command

def versionText : String := "quill 0.1.0"

def usageText : String :=
  "Usage: quill [--config FILE] [--log-level LEVEL] [--host HOST] [--port PORT] " ++
    "[--category CATEGORY] COMMAND\n\n" ++
    "Commands:\n" ++
    "  send LEVEL MESSAGE [--error TEXT]...            Ship one log event to the collector\n" ++
    "  bench [--threads N] [--messages N]              Deliver messages and report the outcomes\n" ++
    "  collect [--listen ADDRESS] [--try-later]        Print every entry received\n" ++
    "  format [--pattern PATTERN] [OPTION VALUE]...    Render one access-log line\n"

def readEnvironment : IO (List (String × String)) := do
  let bytes ←
    try IO.FS.readBinFile "/proc/self/environ"
    catch _ => pure ByteArray.empty
  return (Utf8.decodeLossy bytes.toList).splitOn "\x00" |>.filterMap fun entry =>
    (splitAt? '=' entry).map fun (name, text) => (String.ofList name, String.ofList text)

def readSystemName : IO (Option String) := do
  try
    let name ← Std.Async.System.getHostName
    return if name = "" then none else some name
  catch _ => return none

-- The number of the error that reading a folder ends in.
def folderError : UInt32 := 21

def findFile (path : String) : IO File := do
  try
    let bytes ← IO.FS.readBinFile path
    return match String.fromUTF8? bytes with
      | some content => .text content
      | none => .unreadable
  catch
    | .noFileOrDirectory .. => return .missing
    | .inappropriateType _ number _ => return if number = folderError then .other else .missing
    | _ => return .unreadable

def readInstant : IO AccessLog.Instant := do
  let time ← Std.Time.Timestamp.now
  return Int64.ofInt time.toMillisecondsSinceUnixEpoch.val

-- The zone that the environment names, else the one of the machine, else universal time.
def readZone (name : Option String) : IO AccessLog.Zone := do
  let zoneOf := fun (rules : Std.Time.TimeZone.ZoneRules) =>
    AccessLog.Zone.mk fun instant =>
      (rules.timezoneAt (.ofMillisecondsSinceUnixEpoch ⟨instant.toInt⟩)).offset.second.val
  if let some name := name then
    try return zoneOf (← Std.Time.Database.defaultGetZoneRules name)
    catch _ => pure ()
  try return zoneOf (← Std.Time.Database.defaultGetLocalZoneRules)
  catch _ => return .utc

def readClock (zoneName : Option String) : IO AccessLog.Clock := do
  let zone ← readZone zoneName
  let now ← readInstant
  return .ofZone zone (Civil.ofSeconds (now.toInt / 1000)).date.year

def readSurroundings : IO (Surroundings IO (Delivery.Link Sockets.Stream)) := do
  let environment ← readEnvironment
  return {
    environment
    systemName := ← readSystemName
    clock := ← readClock (environment.lookup "TZ")
    thread := some "main"
    now := readInstant
    milliseconds := IO.monoMsNow
    file := findFile
    transport := fun endpoint => endpoint.transport Sockets.network
    collect := Sockets.collect
    print := fun line => IO.println line }

def run (words : List String) : IO UInt32 := do
  match Invocation.parse words with
  | .error .help =>
      IO.print usageText
      return 0
  | .error .version =>
      IO.println versionText
      return 0
  | .error .usage =>
      IO.eprint usageText
      return 2
  | .ok invocation =>
      match ← invocation.run (← readSurroundings) with
      | .ok () => return 0
      | .error problem =>
          IO.eprintln problem.notice
          return problem.exitCode

end LogRelay.Program

def main (words : List String) : IO UInt32 := LogRelay.Program.run words
