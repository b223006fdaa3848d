namespace Televisor.Config

/-! The settings of the program.  Times are milliseconds. -/

structure TvSettings where
  host : String
  port : Nat
  name : String
  mac : Option String
  /-- Where the television's renderer describes itself. -/
  location : Option String
  /-- The command that turns the television on; it goes before a wake packet. -/
  onAction : Option (List String)
  clientName : String
  clientDescription : String
  clientId : String
  timeout : Nat
deriving Repr, DecidableEq

structure PollSettings where
  interval : Nat
  appListTimeout : Nat
deriving Repr, DecidableEq

structure ServerSettings where
  enabled : Bool
  port : Nat
  token : Option String
deriving Repr, DecidableEq

structure Settings where
  tv : TvSettings
  poll : PollSettings
  server : ServerSettings
deriving Repr, DecidableEq

def TvSettings.default : TvSettings where
  host := "192.168.1.100"
  port := 55000
  name := "Samsung TV"
  mac := none
  location := none
  onAction := none
  clientName := "TV Control Bridge"
  clientDescription := "tv-control-bridge"
  clientId := "tv-control-bridge"
  timeout := 1000

def PollSettings.default : PollSettings where
  interval := 10000
  appListTimeout := 3000

def ServerSettings.default : ServerSettings where
  enabled := true
  port := 7171
  token := none

def Settings.default : Settings where
  tv := .default
  poll := .default
  server := .default

end Televisor.Config
