import Telemetry.CommandLine.Load

/-!
# The program

Reads the arguments, the environment and the configuration file, and does what
`CommandLine.run` says. It opens no ports: `Delivery.respond`, `Delivery.call` and `Query.respond`
answer requests for whoever listens, and a run that would serve says that nobody does.
-/

namespace Telemetry.CommandLine

/-- The text of a file, or why there is none. -/
def readText (name : String) : IO (Except ReadFault String) := do
  match ← (IO.FS.readFile name).toBaseIO with
  | .ok text => pure (.ok text)
  | .error (.noFileOrDirectory ..) => pure (.error .notFound)
  | .error (.inappropriateType ..) => pure (.error .isDirectory)
  | .error e => pure (.error (.other e.toString))

/-- The variables that a run looks at. -/
def variableNames : List String :=
  ["OTELSCOPE_GRPC_PORT", "OTELSCOPE_HTTP_PORT", "OTELSCOPE_UI_PORT", "OTELSCOPE_VERBOSE",
    "OTELSCOPE_DEBUG", "OTELSCOPE_STATIC_DIR", "OTELSCOPE_CONFIG", "OTELSCOPE_LOG_LEVEL", "RUST_LOG"]

/-- The directory of the user's configuration files. -/
def configDirectory : IO (Option String) := do
  match ← IO.getEnv "XDG_CONFIG_HOME" with
  | some directory => if directory.startsWith "/" then return some directory
  | none => pure ()
  return (← IO.getEnv "HOME").map fun home => home ++ "/.config"

/-- The environment of a run. -/
def environment : IO (String → Option String) := do
  let known ← variableNames.filterMapM fun name => do
    return (← IO.getEnv name).map fun value => (name, value)
  return fun name => known.lookup name

/-- The files of a run, of which only the one that the options name is read. -/
def configFiles (arguments : List String) (env : String → Option String) : IO ConfigFiles := do
  let named ← match Options.read arguments env with
    | .ok o => o.config.mapM readText
    | .error _ => pure none
  let home ← (← configDirectory).mapM fun directory =>
    readText (directory ++ "/otelscope/config.yaml")
  return { read := fun _ => named.getD (.error .notFound), home }

/-- Does what a run does, and gives its exit code. -/
def perform : Run → IO UInt32
  | .ends ending => do
    IO.print ending.output
    if ending.logsConfig then IO.eprintln "DEBUG Resolved configuration"
    return ending.exitCode.toUInt32
  | .fails e => do
    IO.eprintln s!"Error: {e.message}"
    return (Run.fails e).ending.exitCode.toUInt32
  | .serves config => do
    IO.eprintln s!"Error: nobody listens on port {config.uiPort.toNat}"
    return 1

end Telemetry.CommandLine

def main (arguments : List String) : IO UInt32 := do
  let env ← Telemetry.CommandLine.environment
  let files ← Telemetry.CommandLine.configFiles arguments env
  Telemetry.CommandLine.perform (Telemetry.CommandLine.run arguments env files)
