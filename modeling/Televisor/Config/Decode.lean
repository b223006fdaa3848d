import Televisor.Config.Settings
import Televisor.Data.Datum

namespace Televisor.Config

open Data

/-! Settings from a value of a data format.  A group of settings is an object of named fields or a
list of them in order; fields that are missing keep their defaults, and one wrong value makes the
whole unreadable. -/

/-- Whether a list may hold more items than there are fields. -/
inductive Surplus where
  | ignored
  | refused
deriving Repr, DecidableEq

/-- The value given for each field, in the order of the names. -/
def fieldValues? (surplus : Surplus) (names : List String) : Datum → Option (List (Option Datum))
  | .object fields => some (names.map (Datum.object fields).field?)
  | .list items =>
    if surplus = .refused && names.length < items.length then none
    else some (names.zipIdx.map fun (_, place) => items[place]?)
  | _ => none

def readWord? (bits : Nat) : Datum → Option Nat
  | .int n => if 0 ≤ n && n < Nat.pow 2 bits then some n.toNat else none
  | _ => none

def readText? : Datum → Option String
  | .text value => some value
  | _ => none

def readBool? : Datum → Option Bool
  | .bool value => some value
  | _ => none

def readTexts? : Datum → Option (List String)
  | .list items => items.mapM readText?
  | _ => none

def readOptional? (read : Datum → Option α) : Datum → Option (Option α)
  | .null => some none
  | value => (read value).map some

def orDefault (read : Datum → Option α) (default : α) : Option Datum → Option α
  | none => some default
  | some value => read value

def TvSettings.ofDatum? (surplus : Surplus) (value : Datum) : Option TvSettings := do
  let names := ["host", "port", "name", "mac", "rendering_control_location", "on_action",
    "client_name", "client_description", "client_id", "timeout_ms"]
  match ← fieldValues? surplus names value with
  | [host, port, name, mac, location, onAction, clientName, clientDescription, clientId, timeout] =>
    let initial := TvSettings.default
    return {
      host := ← orDefault readText? initial.host host
      port := ← orDefault (readWord? 16) initial.port port
      name := ← orDefault readText? initial.name name
      mac := ← orDefault (readOptional? readText?) initial.mac mac
      location := ← orDefault (readOptional? readText?) initial.location location
      onAction := ← orDefault (readOptional? readTexts?) initial.onAction onAction
      clientName := ← orDefault readText? initial.clientName clientName
      clientDescription := ← orDefault readText? initial.clientDescription clientDescription
      clientId := ← orDefault readText? initial.clientId clientId
      timeout := ← orDefault (readWord? 64) initial.timeout timeout }
  | _ => none

def PollSettings.ofDatum? (surplus : Surplus) (value : Datum) : Option PollSettings := do
  match ← fieldValues? surplus ["interval_ms", "app_list_timeout_ms"] value with
  | [interval, appListTimeout] =>
    let initial := PollSettings.default
    return {
      interval := ← orDefault (readWord? 64) initial.interval interval
      appListTimeout := ← orDefault (readWord? 64) initial.appListTimeout appListTimeout }
  | _ => none

def ServerSettings.ofDatum? (surplus : Surplus) (value : Datum) : Option ServerSettings := do
  match ← fieldValues? surplus ["enabled", "port", "token"] value with
  | [enabled, port, token] =>
    let initial := ServerSettings.default
    return {
      enabled := ← orDefault readBool? initial.enabled enabled
      port := ← orDefault (readWord? 16) initial.port port
      token := ← orDefault (readOptional? readText?) initial.token token }
  | _ => none

def Settings.ofDatum? (surplus : Surplus) (value : Datum) : Option Settings := do
  match ← fieldValues? surplus ["tv", "poll", "server"] value with
  | [tv, poll, server] =>
    return {
      tv := ← orDefault (TvSettings.ofDatum? surplus) .default tv
      poll := ← orDefault (PollSettings.ofDatum? surplus) .default poll
      server := ← orDefault (ServerSettings.ofDatum? surplus) .default server }
  | _ => none

end Televisor.Config
