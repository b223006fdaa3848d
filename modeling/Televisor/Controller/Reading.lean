import Televisor.Controller.Command
import Televisor.Json.Outline
import Televisor.Text.Quoted

namespace Televisor.Controller

open Data Json Media

/-! Reading commands.  A command is an object with its name under `command` and its parameters
beside it, or a list of the name and the parameters in order.  The text is gone through from the
front, so that the first fault decides. -/

/-- Why a text is no command; `place` tells where a name of the wrong kind stands. -/
inductive ReadFailure where
  | malformed
  | mismatch (place : String) (message : String)
deriving Repr, DecidableEq

def describe : Datum → String
  | .null => "null"
  | .bool value => "boolean `" ++ writeBool value ++ "`"
  | .int value => "integer `" ++ toString value ++ "`"
  | .float value => "floating point `" ++ Decimal.doubleJson value ++ "`"
  | .text value => "string " ++ Text.quoted value
  | .list _ => "sequence"
  | .object _ => "map"

def invalidType (found expected : String) : String :=
  "invalid type: " ++ found ++ ", expected " ++ expected

def elements (count : Nat) : String :=
  toString count ++ (if count = 1 then " element" else " elements")

def invalidLength (found : Nat) (expected : String) : String :=
  "invalid length " ++ toString found ++ ", expected " ++ expected

inductive Parameter where
  | text (name : String)
  | texts (name : String)
  | level (name : String)
deriving Repr, DecidableEq

def Parameter.name : Parameter → String
  | .text name => name
  | .texts name => name
  | .level name => name

inductive Argument where
  | text (value : String)
  | texts (values : List String)
  | level (value : Level)
deriving Repr, DecidableEq

def readText : Datum → Except String String
  | .text value => .ok value
  | value => .error (invalidType (describe value) "a string")

def Parameter.read (parameter : Parameter) (value : Datum) : Except String Argument :=
  match parameter with
  | .text _ => (readText value).map .text
  | .texts _ =>
    match value with
    | .list items => (items.mapM readText).map .texts
    | value => .error (invalidType (describe value) "a sequence")
  | .level _ =>
    match value with
    | .int n => .ok (.level (.ofInt n))
    | .float x => .ok (.level (.ofFloat x))
    | value => .error (invalidType (describe value) "f32")

/-- A kind of command: the name clients use, the one messages use, and its parameters. -/
structure Form where
  name : String
  variant : String
  parameters : List Parameter
  build : List Argument → Option Command

def simple (name variant : String) (command : Command) : Form :=
  ⟨name, variant, [], fun
    | [] => some command
    | _ => none⟩

def forms : List Form := [
  simple "turn_on" "TurnOn" .turnOn,
  simple "turn_off" "TurnOff" .turnOff,
  ⟨"send_keys", "SendKeys", [.texts "keys"], fun
    | [.texts keys] => some (.sendKeys keys)
    | _ => none⟩,
  ⟨"launch_app", "LaunchApp", [.text "app_id"], fun
    | [.text id] => some (.launchApp id)
    | _ => none⟩,
  ⟨"set_volume", "SetVolume", [.level "level"], fun
    | [.level level] => some (.setVolume level)
    | _ => none⟩,
  simple "volume_up" "VolumeUp" .volumeUp,
  simple "volume_down" "VolumeDown" .volumeDown,
  simple "mute_volume" "MuteVolume" .muteVolume,
  simple "media_play" "MediaPlay" .mediaPlay,
  simple "media_pause" "MediaPause" .mediaPause,
  simple "media_play_pause" "MediaPlayPause" .mediaPlayPause,
  simple "media_next_track" "MediaNextTrack" .mediaNextTrack,
  simple "media_previous_track" "MediaPreviousTrack" .mediaPreviousTrack,
  ⟨"play_media", "PlayMedia", [.text "kind", .text "media_id"], fun
    | [.text kind, .text mediaId] => some (.playMedia kind mediaId)
    | _ => none⟩,
  ⟨"select_source", "SelectSource", [.text "source"], fun
    | [.text source] => some (.selectSource source)
    | _ => none⟩]

def unknownName (name : String) : String :=
  "unknown variant `" ++ name ++ "`, expected one of " ++
    String.intercalate ", " (forms.map fun form => "`" ++ form.name ++ "`")

def formNamed (name : String) : Except String Form :=
  match forms.find? (·.name == name) with
  | some form => .ok form
  | none => .error (unknownName name)

/-- The form that the value under `command` names; a list or an object there is refused before its
inside is read. -/
def readName (place : String) (value : Sketch) : Except ReadFailure Form :=
  let misplaced (found : String) : Except ReadFailure Form :=
    .error (.mismatch place (invalidType found "variant identifier"))
  match value with
  | .whole (.text name) => (formNamed name).mapError (.mismatch place)
  | .whole value => misplaced (describe value)
  | .begun true => misplaced "sequence"
  | .begun false => misplaced "map"
  | .broken => .error .malformed

def splitName (form : Option Form) (others : List (String × Datum)) :
    List (String × Sketch) → Except ReadFailure (Option Form × List (String × Datum))
  | [] => .ok (form, others.reverse)
  | (key, value) :: rest =>
    if key = "command" then
      match form with
      | some _ => .error (.mismatch "" "duplicate field `command`")
      | none => do
        let form ← readName "command" value
        splitName (some form) others rest
    else
      match value with
      | .whole value => splitName form ((key, value) :: others) rest
      | _ => .error .malformed

/-- Arguments by parameter, from fields in any order; fields that are no parameters do not count. -/
def readFields (parameters : List Parameter) (given : List (String × Argument)) :
    List (String × Datum) → Except String (List (String × Argument))
  | [] => .ok given
  | (key, value) :: rest =>
    match parameters.find? (·.name == key) with
    | none => readFields parameters given rest
    | some parameter =>
      if given.any (·.1 == key) then .error ("duplicate field `" ++ key ++ "`")
      else do
        let argument ← parameter.read value
        readFields parameters ((key, argument) :: given) rest

def collect (given : List (String × Argument)) (parameters : List Parameter) :
    Except String (List Argument) :=
  parameters.mapM fun parameter =>
    match given.find? (·.1 == parameter.name) with
    | some argument => .ok argument.2
    | none => .error ("missing field `" ++ parameter.name ++ "`")

/-- Arguments in the order of the parameters; `count` have been read. -/
def readItems (form : Form) (count : Nat) :
    List Parameter → List Datum → Except String (List Argument)
  | [], [] => .ok []
  | [], items => .error (invalidLength (count + items.length) (elements count ++ " in sequence"))
  | _ :: _, [] =>
    .error (invalidLength count ("struct variant ControlCommand::" ++ form.variant ++ " with " ++
      elements form.parameters.length))
  | parameter :: parameters, item :: items => do
    let argument ← parameter.read item
    let arguments ← readItems form (count + 1) parameters items
    return argument :: arguments

def Form.command (form : Form) (arguments : Except String (List Argument)) :
    Except ReadFailure Command :=
  match arguments with
  | .error message => .error (.mismatch "" message)
  | .ok arguments =>
    match form.build arguments with
    | some command => .ok command
    | none => .error .malformed

def wholeItems (items : List Sketch) : Except ReadFailure (List Datum) :=
  items.mapM fun
    | .whole value => .ok value
    | _ => .error .malformed

def missingName : ReadFailure :=
  .mismatch "" "missing field `command`"

def Command.ofOutline : Outline → Except ReadFailure Command
  | .malformed => .error .malformed
  | .scalar value =>
    .error (.mismatch "" (invalidType (describe value) "internally tagged enum ControlCommand"))
  | .object fields closed => do
    let (form, others) ← splitName none [] fields
    if !closed then throw .malformed
    match form with
    | none => throw missingName
    | some form =>
      form.command do
        let given ← readFields form.parameters [] others
        collect given form.parameters
  | .list [] closed => .error (if closed then missingName else .malformed)
  | .list (name :: items) closed => do
    let form ← readName "[0]" name
    let items ← wholeItems items
    if !closed then throw .malformed
    form.command (readItems form 0 form.parameters items)

def Command.parse (text : String) : Except ReadFailure Command := do
  let (outline, rest) := outline (tokens text)
  let command ← Command.ofOutline outline
  if rest.isEmpty then return command else throw .malformed

/-- Reads a command from a value; fields that repeat have been settled, and are taken by name. -/
def Command.ofDatum (value : Datum) : Except ReadFailure Command :=
  match value with
  | .object fields =>
    let byName := (Datum.distinctFields fields).mergeSort fun a b => decide (a.1 ≤ b.1)
    Command.ofOutline (.ofDatum (.object byName))
  | value => Command.ofOutline (.ofDatum value)

end Televisor.Controller
