import Televisor.Config.Environment
import Televisor.Host.FileTree

namespace Televisor.Config

/-! Where the settings are kept. -/

def fileName : String := "config.toml"

/-- A path below a directory; an absolute path stands for itself. -/
def joinPath (directory path : String) : String :=
  if path.startsWith "/" || directory.isEmpty then path
  else if directory.endsWith "/" then directory ++ path
  else directory ++ "/" ++ path

/-- The file named by the environment, otherwise one in the user's configuration directory. -/
def defaultPath (environment : Environment) : String :=
  match environment.own? "CONFIG_PATH" with
  | some path => path
  | none =>
    let base :=
      match environment.get? "XDG_CONFIG_HOME", environment.get? "HOME" with
      | some directory, _ => directory
      | none, some home => joinPath home ".config"
      | none, none => "."
    joinPath (joinPath base "tv-control-bridge") fileName

/-- A file in the working directory goes before the default one. -/
def activePath (environment : Environment) (tree : Host.FileTree) : String :=
  if tree.exists? fileName then fileName else defaultPath environment

end Televisor.Config
