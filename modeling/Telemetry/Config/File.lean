import Telemetry.Config.Basic
import Telemetry.Yaml.Core

/-!
# Configuration files

A configuration file is a YAML mapping of sections. All that is left out keeps its usual value,
also a section without content, and entries with other names do not matter.
-/

namespace Telemetry.Settings

open Yaml

/-- A port. -/
def port? (d : Document) (node : Node) : Option UInt16 :=
  ((d.nat? node).filter (· < UInt16.size)).map UInt16.ofNat

/-- Reads a field that may be left out. -/
def field? {α : Type} (fields : List (String × Node)) (name : String) (read : Node → Option α) :
    Option (Option α) :=
  match fields.lookup name with
  | some node => (read node).map some
  | Option.none => some Option.none

/-- Reads a section. One that is left out is empty. -/
def section? (d : Document) (sections : List (String × Node)) (name : String)
    (names : List String) : Option (List (String × Node)) :=
  match sections.lookup name with
  | some node => d.fields? names node
  | Option.none => some []

/-- The settings in a document. -/
def ofDocument? (d : Document) : Option Settings := do
  let sections ← d.fields? ["server", "ui", "logging"] d.root
  let server ← section? d sections "server" ["grpc_port", "http_port", "ui_port"]
  let ui ← section? d sections "ui" ["static_dir"]
  let logging ← section? d sections "logging" ["level", "verbose"]
  some
    { grpcPort := ← field? server "grpc_port" (port? d)
      httpPort := ← field? server "http_port" (port? d)
      uiPort := ← field? server "ui_port" (port? d)
      staticDir := ← field? ui "static_dir" d.text?
      level := ← field? logging "level" fun node => (d.choice? node).bind LogLevel.ofName?
      verbose := ← field? logging "verbose" d.flag? }

/-- The settings in a file. A file without a document says nothing. -/
def ofYaml? (text : String) : Option Settings :=
  match Document.ofText? text with
  | some (some d) => ofDocument? d
  | some Option.none => some none
  | Option.none => Option.none

/-- The settings in a file, or the error that it has none. -/
def ofYaml (text : String) : Except Error Settings :=
  match ofYaml? text with
  | some settings => .ok settings
  | Option.none => .error (.config "Failed to parse YAML config: malformed configuration")

end Telemetry.Settings

namespace Telemetry

/-- The configuration that a file alone amounts to. -/
def Config.ofYaml (text : String) : Except Error Config :=
  (Settings.ofYaml text).map Config.usual.override

end Telemetry
