import Televisor.Config.Load
import Televisor.Config.Setup
import Televisor.Report.Filter

namespace Televisor.Cli

open Config Report

/-! What the program does with its arguments, up to the point where it would begin to serve. -/

/-- Either the program is done, with its exit code, the lines it prints and the files it leaves, or
it goes on with settings. -/
inductive Start where
  | done (code : Nat) (lines : List String) (tree : Host.FileTree)
  | serve (settings : Settings)
deriving Repr

def fatalLines (filter : Filter) (reason : String) : List String :=
  if filter.prints ownTopic 1 then ["ERROR fatal error=" ++ reason] else []

def start (arguments : List String) (environment : Environment) (tree : Host.FileTree) : Start :=
  let filter := Filter.ofEnvironment environment
  if arguments.head? = some "config-init" then
    let path := defaultPath environment
    match writeDefault tree path with
    | .ok tree => .done 0 ["Wrote default config to " ++ path] tree
    | .error fault => .done 1 (fatalLines filter fault.message) tree
  else
    match Settings.load environment tree with
    | .ok settings => .serve settings
    | .error fault => .done 1 (fatalLines filter fault.message) tree

end Televisor.Cli
