import Televisor.Cli
import Televisor.Run.Loop

/-! The program: it reads its surroundings, has it decided what is to be done, and does that. -/

namespace Televisor.Main

open Config

def readEnvironment : IO Environment :=
  knownVariables.filterMapM fun name => do
    let value ← IO.getEnv name
    return value.map fun text => (name, some text)

def readFile (path : String) : IO (Option ByteArray) := do
  try
    let bytes ← IO.FS.readBinFile path
    return some bytes
  catch _ => return none

def readTree (environment : Environment) : IO Host.FileTree :=
  [fileName, defaultPath environment].foldlM (fun tree path => do
    match ← readFile path with
    | some bytes => return tree.place path (.file bytes.toList)
    | none => return tree) .empty

def writeFile (path : String) (bytes : List UInt8) : IO Unit := do
  let above := (Host.steps path).dropLast
  if !above.isEmpty then IO.FS.createDirAll (String.intercalate "/" above)
  IO.FS.writeBinFile path ⟨bytes.toArray⟩

def makeToken : IO String := do
  let picks ← (List.range Api.tokenLength).mapM fun _ => IO.rand 0 (Api.tokenDigits.length - 1)
  return Api.freshToken picks

/-- Polls and handles events until the process is ended; nothing connects to a television here. -/
partial def serve (loop : Run.Loop) : IO Unit := do
  let interval := loop.state.controller.options.pollInterval
  let handled := loop.turns [.poll]
  match handled.bind fun loop => loop.turns (loop.state.queue.map fun _ => .event) with
  | none => return
  | some loop =>
    IO.sleep interval.toUInt32
    match loop.turn (.pass interval) with
    | none => return
    | some loop => serve loop

def firstState (settings : Settings) (options : Controller.Options) : Run.State :=
  let caller : Remote.Caller := ⟨settings.tv.host, settings.identity⟩
  let television := Run.Television.unreachable caller (.broken Wake.unreachable)
  .initial options television (.unrouted 8058 "/notify") [] (some Run.clientPatience)

end Televisor.Main

open Televisor in
def main (arguments : List String) : IO UInt32 := do
  let environment ← Main.readEnvironment
  let tree ← Main.readTree environment
  match Cli.start arguments environment tree with
  | .done code lines after =>
    let path := Config.defaultPath environment
    if code = 0 then
      match after.read? path with
      | some bytes => Main.writeFile path bytes
      | none => pure ()
    for line in lines do
      IO.println line
    return UInt32.ofNat code
  | .serve settings =>
    match settings.options with
    | .error _ => return 1
    | .ok options =>
      let fresh ← Main.makeToken
      for line in settings.banner fresh do
        IO.println line
      Main.serve (.start (Main.firstState settings options))
      return 0
