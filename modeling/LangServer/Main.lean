import LangServer.Json.Printer
import LangServer.Json.Reader
import LangServer.Launch.Conversation
import LangServer.Launch.Frame
import LangServer.Launch.Help

/-!
# The Command Line

Runs the server on the standard streams: reads the surroundings, starts, and then passes frames to
a conversation and back. Log lines go to the error stream, because standard output carries the
protocol. Serving over the network ends with an error here: only the standard streams are served.
-/

namespace LangServer

namespace CommandLine

/-- An error of the system: its number, and its words with the number. Other errors have the number
zero. -/
def systemError (e : IO.Error) : Nat × String :=
  match e with
  | .alreadyExists _ code words | .invalidArgument _ code words | .permissionDenied _ code words
  | .resourceExhausted _ code words | .inappropriateType _ code words | .noSuchThing _ code words
  | .interrupted _ code words | .noFileOrDirectory _ code words | .otherError code words
  | .resourceBusy code words | .resourceVanished code words | .unsupportedOperation code words
  | .hardwareFault code words | .unsatisfiedConstraints code words | .illegalOperation code words
  | .protocolError code words | .timeExpired code words =>
    -- Some numbers come with a minus sign.
    let number := if code < 0x80000000 then code.toNat else (0 - code).toNat
    let name := match number with
      | 2 => "No such file or directory"
      | 5 => "Input/output error"
      | 13 => "Permission denied"
      | 40 => "Too many levels of symbolic links"
      | _ => words
    (number, name ++ " (os error " ++ toString number ++ ")")
  | .unexpectedEof | .userError _ => (0, toString e)

/-- Whether a path leads to a file or a directory, readable or not. -/
def isThere (p : Path) : IO Bool := do
  try
    let _ ← IO.FS.realPath p.toString
    return true
  catch _ => return false

/-- What a path leads to. -/
def look (p : Path) : IO Sight := do
  if '\x00' ∈ p.text then return .zeroInPath
  try
    return .file (← IO.FS.readBinFile p.toString)
  catch e =>
    match systemError e with
    | (2, _) => return .absent
    | (20, _) => return .notDirectory
    | (21, _) => return .directory
    | (36, _) => return .tooLong
    | (_, words) => if ← isThere p then return .closed words else return .outOfReach words

/-- The working directory, or why it cannot be had. -/
def workingDirectory : IO (Except ReadFailure Path) := do
  try
    return .ok (.ofString (← IO.FS.realPath ".").toString)
  catch e => return .error (.other (systemError e).2)

/-- The number of the account that runs a process, in the status of the process. -/
def accountOf? (status : Text) : Option Text :=
  (List.splitOn '\n' status).findSome? fun line =>
    match List.splitOn '\t' line with
    | name :: number :: _ => if name = "Uid:".toList then some number else none
    | _ => none

/-- The home directory of an account in a user database. -/
def homeIn? (database account : Text) : Option Path :=
  (List.splitOn '\n' database).findSome? fun line =>
    match List.splitOn ':' line with
    | _ :: _ :: number :: _ :: _ :: home :: _ =>
      if number = account ∧ home ≠ [] then some ⟨home⟩ else none
    | _ => none

/-- The home directory of the account that runs the process. -/
def accountHome : IO (Option Path) := do
  try
    let status ← IO.FS.readFile "/proc/self/status"
    let database ← IO.FS.readFile "/etc/passwd"
    return (accountOf? status.toList).bind (homeIn? database.toList)
  catch _ => return none

/-- The environment variables that are set. -/
def readVariables : IO (List (String × ByteArray)) :=
  Start.variableNames.filterMapM fun name => do
    return (← IO.getEnv name).map fun value => (name, value.toUTF8)

/-- The surroundings of the process. -/
def surroundings (arguments : List String) : IO Surroundings := do
  let vars ← readVariables
  let here ← workingDirectory
  let home := World.homeOf vars (← accountHome)
  let environment := fun name => vars.lookup name
  let blank : Surroundings := ⟨⟨fun _ => .absent, environment, home⟩, here⟩
  let config := match Invocation.ofArguments arguments blank.configFile with
    | .serve a => a.config
    | .ended _ => none
  let sights ← (Start.paths blank config).mapM fun p => return (p, ← look p)
  return ⟨⟨fun p => (sights.lookup p).getD .absent, environment, home⟩, here⟩

/-- The header lines of the next frame, or none at the end of the input. -/
partial def readHeader (input : IO.FS.Stream) (lines : List String) :
    IO (Option (List String)) := do
  let line ← input.getLine
  if line.isEmpty then return none
  if line = "\r\n" || line = "\n" then return some lines.reverse
  readHeader input (line :: lines)

/-- A number of bytes, or fewer at the end of the input. -/
partial def readBody (input : IO.FS.Stream) (count : Nat) (bytes : ByteArray) : IO ByteArray := do
  if count ≤ bytes.size then return bytes
  let more ← input.read (count - bytes.size).toUSize
  if more.isEmpty then return bytes
  readBody input count (bytes ++ more)

/-- Writes a value as a frame. -/
def writeFrame (output : IO.FS.Stream) (j : Json) : IO Unit := do
  output.putStr (Frame.encode j.render)
  output.flush

/-- Writes all that a conversation holds. -/
def emit (output errors : IO.FS.Stream) (c : Conversation) : IO Conversation := do
  let (outgoing, log, c) := c.drain
  log.forM fun line => errors.putStrLn line.render
  outgoing.forM fun o => writeFrame output o.toJson
  return c

/-- The value of a body. -/
def valueOf? (body : ByteArray) : Option Json :=
  (String.fromUTF8? body).bind fun text => Json.parse? text.toList

/-- Serves frames until the input ends or the session is gone. -/
partial def serve (input output errors : IO.FS.Stream) (c : Conversation) : IO Unit := do
  let c ← emit output errors c
  if c.session.phase = .gone then return
  let some lines ← readHeader input [] | return
  let some count := Frame.length? lines | serve input output errors c
  match valueOf? (← readBody input count .empty) with
  | none =>
    writeFrame output unreadableJson
    serve input output errors c
  | some j =>
    match Message.ofJson? j with
    | some m => serve input output errors (c.send m)
    | none => serve input output errors c

/-- Runs the server and tells how it went. -/
def run (arguments : List String) : IO UInt32 := do
  let output ← IO.getStdout
  let errors ← IO.getStderr
  match Start.of (← surroundings arguments) arguments with
  | .ended .help =>
    output.putStr helpText
    return 0
  | .ended .version =>
    output.putStrLn versionLine
    return 0
  | .ended (.wrong e) =>
    errors.putStrLn ("error: " ++ e.message ++
      "\n\nUsage: buglang-lsp [OPTIONS]\n\nFor more information, try '--help'.")
    return 2
  | .badAddress r =>
    let _ ← emit output errors (.ofReady r)
    errors.putStrLn ("Error: " ++ addressErrorMessage)
    return 1
  | .listening r address =>
    let _ ← emit output errors (.ofReady r)
    errors.putStrLn ("Error: cannot serve on " ++ String.ofList address.render)
    return 1
  | .streaming r =>
    serve (← IO.getStdin) output errors (.ofReady r)
    return 0

end CommandLine

end LangServer

/-- Runs the server. -/
def main (arguments : List String) : IO UInt32 :=
  LangServer.CommandLine.run arguments
