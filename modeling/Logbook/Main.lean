import Logbook.Command.Run

/-!
# The program

Reads what a command line asks for, hands it to `Request.run` and writes the reply.
-/

open Logbook.Command

/-- How the program is called. -/
def usage : String :=
  "usage: log-sea [--config FILE] [-v] [-q] [--color auto|always|never] [-F text|json] [-o FILE]\n"
    ++ "       query|schema|logs [OPTIONS] FILES...\n"

/-- The cause of an error of the system. -/
def fileError (e : IO.Error) : FileError :=
  match e with
  | .noFileOrDirectory .. => .notFound
  | .permissionDenied .. => .permissionDenied
  | .inappropriateType _ code _ => if code = 20 then .notDirectory else .isDirectory
  | e => .other (toString e)

/-- Some bytes as text. -/
def textOf (bytes : ByteArray) : Except FileError String :=
  match String.fromUTF8? bytes with
  | some s => .ok s
  | none => .error .notText

/-- The text of a file. -/
def readFile (path : String) : IO (Except FileError String) := do
  try
    return textOf (← IO.FS.readBinFile path)
  catch e =>
    return .error (fileError e)

/-- All bytes of a stream that follow `bytes`. -/
partial def readAll (stream : IO.FS.Stream) (bytes : ByteArray) : IO ByteArray := do
  let more ← stream.read 65536
  if more.isEmpty then return bytes else readAll stream (bytes ++ more)

/-- The text that is piped in. -/
def readInput : IO (Except FileError String) := do
  try
    return textOf (← readAll (← IO.getStdin) .empty)
  catch e =>
    return .error (fileError e)

/-- The texts that a request reads. -/
def readSources (r : Request) : IO Sources := do
  let input ← if r.files.contains inputPath then readInput else pure (.ok "")
  let paths := r.files.filter (· != inputPath) ++ r.config.toList
  let texts ← paths.mapM fun path => return (path, ← readFile path)
  return { file := fun path => (texts.lookup path).getD (.error .notFound), input }

/-- Writes the output of a reply to its file. -/
def writeOutput (r : Reply) : IO Reply :=
  match r.output with
  | none => return r
  | some (path, text) => do
    try
      IO.FS.writeFile path text
      return r
    catch e =>
      return r.failOutput path (fileError e)

def main (arguments : List String) : IO UInt32 := do
  match Request.parse arguments (← IO.getEnv "LOG_SEA_CONFIG") with
  | .error .usage =>
    IO.eprint usage
    return 2
  | .error .help =>
    IO.print usage
    return 0
  | .error .version =>
    IO.println "log-sea 0.1.0"
    return 0
  | .ok request =>
    let outlet : Logbook.Report.Outlet :=
      if ← (← IO.getStdout).isTty then .wideTerminal else .pipe
    let reply := request.run (← readSources request) outlet
    IO.print reply.stdout
    let reply ← writeOutput reply
    IO.eprint reply.stderr
    return UInt32.ofNat reply.code
