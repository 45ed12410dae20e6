import MetricAgent.CommandLine.Start

/-!
The agent as a program. It looks up its settings, variables and files, and starts; then the standard
input is a client that submits lines, and what the agent writes goes to the standard output.
-/

namespace MetricAgent.CommandLine

open Config

/-- What a path leads to. -/
def fileState (path : String) : IO FileState := do
  try
    return .content (← IO.FS.readBinFile path)
  catch
    | .noFileOrDirectory .. => return .missing
    | .inappropriateType .. => return .refused .isADirectory
    | _ => return .refused .notADirectory

/-- The values of some variables. -/
def environment (names : List String) : IO Environment := do
  let values ← names.mapM fun name => do return (name, ← IO.getEnv name)
  return fun name => (values.lookup name).join

/-- The variables that a file refers to. -/
def namesIn : FileState → List String
  | .content bytes => (String.fromUTF8? bytes).elim [] fun s => referredNames s.toList
  | _ => []

/-- The directories on the way to a path. -/
def directoriesTo (p : Path) : IO (List Path) := do
  let here ← IO.currentDir
  ((List.range p.length).map p.take).filterM fun d =>
    (here / ("/" ++ "/".intercalate d)).isDir

/-- Looks up all that a start with some arguments asks for. -/
def lookUp (args : List String) : IO Site := do
  let names := Setting.all.map (·.variableName)
  let given := (settings (← environment names) args).toOption.getD []
  let file ← fileState ((given.value? .config).getD defaultPath)
  let env ← environment (names ++ namesIn file)
  let base := Path.ofText [] (← IO.currentDir).toString
  let site : Site := ⟨env, fun _ => file, .ofTree (.ofDirectories []), base, 0⟩
  let address := (mergedConfig site given).toOption.bind fun c =>
    (Listen.Address.parse c.listen.address).toOption
  let directories ← directoriesTo (Path.ofText base (address.elim "" (·.address)))
  return { site with
    sockets := .ofTree (.ofDirectories directories), identity := directories.length }

/-- All that is still to come on a stream. -/
partial def readRest (stream : IO.FS.Stream) (bytes : ByteArray) : IO ByteArray := do
  let more ← stream.read 65536
  if more.isEmpty then return bytes else readRest stream (bytes ++ more)

/-- Tells what a start came to; an agent that is ready serves the standard input. -/
def report (outcome : Outcome) : IO Unit := do
  match outcome with
  | .refused .version => IO.print versionText
  | .refused .help => IO.print usage
  | .refused .misused => IO.eprint usage
  | .failed e => IO.eprintln ("Error: " ++ e.describe?.getD ConfigError.malformed.describe)
  | .overflowed => IO.eprintln "Error: channel_capacity is too large"
  | .ready a =>
    if a.workshop.binding.isSome then
      let bytes ← readRest (← IO.getStdin) .empty
      IO.print (String.join (a.lines (Listen.Listener.submissions [bytes.toList])))

end MetricAgent.CommandLine

/-- Starts the agent and tells what came of it. -/
def main (args : List String) : IO UInt32 := do
  let outcome := MetricAgent.CommandLine.start (← MetricAgent.CommandLine.lookUp args) args
  MetricAgent.CommandLine.report outcome
  return outcome.status.toUInt32
