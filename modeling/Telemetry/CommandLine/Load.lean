import Telemetry.CommandLine.Options
import Telemetry.Config.File
import Telemetry.Config.LogFilter
import Telemetry.FileName

/-!
# Loading the configuration

A configuration file that the options name has to be there. If they name none, the one in the
user's directory is read if it can be. What the options say comes before what the file says, and
only the outcome has to be valid.
-/

namespace Telemetry

/-- The files that a configuration may be read from. -/
structure ConfigFiles where
  /-- The text of a file that is named. -/
  read : String → Except ReadFault String
  /-- The text of the file in the user's directory, if there is one. -/
  home : Option (Except ReadFault String)

/-- The text of a file that is named. A name that can name no file is not looked up. -/
def ConfigFiles.named (files : ConfigFiles) (name : String) : Except ReadFault String :=
  match FileName.fault? name.toList with
  | some fault => .error fault
  | none => files.read name

/-- The text of the configuration file, if one is to be read. -/
def ConfigFiles.text (files : ConfigFiles) (o : Options) : Except Error (Option String) :=
  match o.config with
  | some name =>
    match files.named name with
    | .ok text => .ok (some text)
    | .error fault =>
      let quoted := FileName.quoted name.toList
      .error (.config s!"Failed to read config file {quoted}: {fault.message}")
  | none =>
    -- Nobody asked for this file, so one that cannot be read does no harm.
    match files.home with
    | some (.ok text) => .ok (some text)
    | _ => .ok none

/-- What the configuration file says, or nothing if none is to be read. -/
def ConfigFiles.settings (files : ConfigFiles) (o : Options) : Except Error Settings := do
  match ← files.text o with
  | some text => Settings.ofYaml text
  | none => pure .none

/-- The configuration of a run before it is checked. -/
def Options.resolve (o : Options) (fileSettings : Settings) : Config :=
  { (Config.usual.override fileSettings).override o.settings with debug := o.debug.getD false }

/-- The configuration of a run. -/
def Options.load (o : Options) (files : ConfigFiles) : Except Error Config := do
  let fileSettings ← files.settings o
  (o.resolve fileSettings).validate

namespace CommandLine

/-- The version of the program. -/
def versionText : String := "otelscope 0.1.0\n"

/-- What is shown to who asks for help. -/
def helpText : String :=
  "Usage: otelscope [--grpc PORT] [--http PORT] [--ui PORT] [--static-dir DIR] [--config FILE]\n" ++
    "                 [--verbose] [--debug] [--check-config]\n"

/-- What is printed about a valid configuration. -/
def report (c : Config) : String :=
  "Configuration is valid!\n" ++
    s!"  gRPC port: {c.grpcPort.toNat}\n" ++
    s!"  HTTP port: {c.httpPort.toNat}\n" ++
    s!"  UI port: {c.uiPort.toNat}\n" ++
    s!"  Static dir: {c.staticDir}\n"

/-- The source of the message that shows the configuration of a run. -/
def logSource : String := "otelscope_lib::cli"

/-- The fields of that message. -/
def logFields : List String := ["message"]

/-- How a run ends that needs no listeners. -/
structure Ending where
  exitCode : Nat
  output : String
  /-- The configuration is logged on the way. -/
  logsConfig : Bool
  deriving DecidableEq

/-- What a run does. -/
inductive Run where
  | ends (ending : Ending)
  | fails (error : Error)
  | serves (config : Config)

/-- How a run ends. A configuration that cannot be had ends it with code 1; a run that serves is
ended from outside, and has nothing to complain about. -/
def Run.ending : Run → Ending
  | .ends ending => ending
  | .fails _ => ⟨1, "", false⟩
  | .serves _ => ⟨0, "", false⟩

/-- What a run with the given arguments does. A command line that is at fault ends it with code 2,
an error with code 1, and a log filter that breaks a character with code 101. -/
def run (arguments : List String) (env : String → Option String) (files : ConfigFiles) : Run :=
  match Options.read arguments env with
  | .error .helpRequested => .ends ⟨0, helpText, false⟩
  | .error .versionRequested => .ends ⟨0, versionText, false⟩
  | .error _ => .ends ⟨2, "", false⟩
  | .ok o =>
    match o.load files with
    | .error e => .fails e
    | .ok config =>
      if o.checkConfig = some true then
        -- The configuration is logged for debugging before it is reported.
        match config.logFilter (env "RUST_LOG") (env "OTELSCOPE_LOG_LEVEL") with
        | .ok filter => .ends ⟨0, report config, filter.shows logSource logFields .debug⟩
        | .error _ => .ends ⟨101, "", false⟩
      else .serves config

end CommandLine

end Telemetry
