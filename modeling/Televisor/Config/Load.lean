import Televisor.Config.Decode
import Televisor.Config.Location
import Televisor.Config.Validate
import Televisor.Toml.Reader

namespace Televisor.Config

/-! Loading settings, and writing a first file of them. -/

/-- The settings of a file; what is missing or unreadable gives the defaults. -/
def Settings.ofFile (content : Option (List UInt8)) : Settings :=
  let document := (content.bind Text.textOfUtf8?).bind Toml.parse?
  (document.bind (Settings.ofDatum? .ignored)).getD .default

def Settings.gather (environment : Environment) (tree : Host.FileTree) : Settings :=
  (Settings.ofFile (tree.read? (activePath environment tree))).override environment

def Settings.load (environment : Environment) (tree : Host.FileTree) : Except Fault Settings := do
  let settings := Settings.gather environment tree
  settings.validate
  return settings

def tomlText (text : String) : String :=
  "\"" ++ text ++ "\""

def tomlSection (name : String) (fields : List (String × String)) : String :=
  String.join (("[" ++ name ++ "]\n") ::
    fields.map fun field => field.1 ++ " = " ++ field.2 ++ "\n")

/-- The file of default settings; what is not set is left out. -/
def defaultFile : String :=
  let settings := Settings.default
  String.intercalate "\n" [
    tomlSection "tv" [
      ("host", tomlText settings.tv.host),
      ("port", toString settings.tv.port),
      ("name", tomlText settings.tv.name),
      ("client_name", tomlText settings.tv.clientName),
      ("client_description", tomlText settings.tv.clientDescription),
      ("client_id", tomlText settings.tv.clientId),
      ("timeout_ms", toString settings.tv.timeout)],
    tomlSection "poll" [
      ("interval_ms", toString settings.poll.interval),
      ("app_list_timeout_ms", toString settings.poll.appListTimeout)],
    tomlSection "server" [
      ("enabled", toString settings.server.enabled),
      ("port", toString settings.server.port)]]

inductive InitFault where
  | alreadyExists
  | system (problem : Host.Problem)
deriving Repr, DecidableEq

def InitFault.message : InitFault → String
  | .alreadyExists => "config.toml already exists"
  | .system problem => problem.message

/-- Writes the default settings to a path where there is nothing yet. -/
def writeDefault (tree : Host.FileTree) (path : String) : Except InitFault Host.FileTree := do
  if tree.exists? path then throw .alreadyExists
  let parent := (Host.plainSteps path).dropLast
  let tree ←
    if parent.isEmpty then .ok tree else (tree.makeDirectories parent).mapError .system
  (tree.write path (Text.utf8Bytes defaultFile.toList)).mapError .system

end Televisor.Config
