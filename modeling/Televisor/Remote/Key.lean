namespace Televisor.Remote.Key

/-! The keys of a remote control that are sent on behalf of commands. -/

def powerOff : String := "KEY_POWEROFF"

def volumeUp : String := "KEY_VOLUP"

def volumeDown : String := "KEY_VOLDOWN"

/-- Turns the sound off and on again. -/
def mute : String := "KEY_MUTE"

def play : String := "KEY_PLAY"

def pause : String := "KEY_PAUSE"

def channelUp : String := "KEY_CHUP"

def channelDown : String := "KEY_CHDOWN"

def enter : String := "KEY_ENTER"

def digit (digit : Char) : String :=
  "KEY_" ++ String.singleton digit

end Televisor.Remote.Key
