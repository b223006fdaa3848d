import Televisor.Config.Load

namespace Televisor.Config

open Data

/-! What a file makes of the settings: each field is the one the file gives, or the default where it
gives none; and a file that cannot be read as a whole gives nothing at all. -/

/-- A setting that may be given. -/
inductive Provided (read : Datum → Option α) (default : α) (given? : Option Datum) : α → Prop
  | given {datum value} (present : given? = some datum) (meant : read datum = some value) :
      Provided read default given? value
  | missing (absent : given? = none) : Provided read default given? default

/-- The value that a group gives to one of its fields: by name in an object, by place in a list. -/
def given? (names : List String) (name : String) : Datum → Option Datum
  | .list items => items[names.idxOf name]?
  | value => value.field? name

namespace Fields

def groups : List String := ["tv", "poll", "server"]

def tv : List String :=
  ["host", "port", "name", "mac", "rendering_control_location", "on_action", "client_name",
    "client_description", "client_id", "timeout_ms"]

def poll : List String := ["interval_ms", "app_list_timeout_ms"]

def server : List String := ["enabled", "port", "token"]

end Fields

/-- The value that a document gives to a field of a group. -/
def within? (group : String) (names : List String) (name : String) (document : Datum) :
    Option Datum :=
  (given? Fields.groups group document).bind (given? names name)

/-- The settings that a variable can override, as a document provides them. -/
structure FromDocument (document : Datum) (file : Settings) : Prop where
  host : Provided readText? TvSettings.default.host (within? "tv" Fields.tv "host" document)
    file.tv.host
  port : Provided (readWord? 16) TvSettings.default.port (within? "tv" Fields.tv "port" document)
    file.tv.port
  mac : Provided (readOptional? readText?) TvSettings.default.mac
    (within? "tv" Fields.tv "mac" document) file.tv.mac
  location : Provided (readOptional? readText?) TvSettings.default.location
    (within? "tv" Fields.tv "rendering_control_location" document) file.tv.location
  interval : Provided (readWord? 64) PollSettings.default.interval
    (within? "poll" Fields.poll "interval_ms" document) file.poll.interval
  enabled : Provided readBool? ServerSettings.default.enabled
    (within? "server" Fields.server "enabled" document) file.server.enabled
  serverPort : Provided (readWord? 16) ServerSettings.default.port
    (within? "server" Fields.server "port" document) file.server.port
  token : Provided (readOptional? readText?) ServerSettings.default.token
    (within? "server" Fields.server "token" document) file.server.token

/-- A document that settings can be read from. -/
structure Readable (content : Option (List UInt8)) (document : Datum) (file : Settings) : Prop where
  decoded : ∃ bytes text, content = some bytes ∧ Text.textOfUtf8? bytes = some text ∧
    Toml.parse? text = some document
  read : Settings.ofDatum? .ignored document = some file

inductive FromFile (content : Option (List UInt8)) : Settings → Prop
  | read {document file} (readable : Readable content document file)
      (provided : FromDocument document file) : FromFile content file
  | ignored (unreadable : ∀ document file, ¬ Readable content document file) :
      FromFile content .default

theorem fieldValues?_given {surplus : Surplus} {value : Datum} (names : List String)
    {values : List (Option Datum)} (nodup : names.Nodup)
    (read : fieldValues? surplus names value = some values) :
    values = names.map (given? names · value) := by
  cases value with
  | object fields =>
      simp only [fieldValues?, Option.some.injEq] at read
      exact read.symm
  | list items =>
      simp only [fieldValues?] at read
      split at read
      · contradiction
      · cases read
        apply List.ext_getElem
        · simp
        · intro place _ inside
          have inNames : place < names.length := by simpa using inside
          simp [given?, nodup.idxOf_getElem place inNames]
  | _ => contradiction

section Provided

variable {read : Datum → Option α} {default value : α} {datum? : Option Datum}

theorem provided_of_orDefault (found : orDefault read default datum? = some value) :
    Provided read default datum? value := by
  cases datum? with
  | none =>
      obtain rfl : default = value := Option.some.inj found
      exact .missing rfl
  | some datum => exact .given rfl found

/-- A field of a group that may be missing as a whole. -/
theorem provided_within {readGroup : Datum → Option γ} {group defaultGroup : γ}
    (found : orDefault readGroup defaultGroup datum? = some group) (field : γ → α)
    (field? : Datum → Option Datum)
    (reads : ∀ datum, readGroup datum = some group →
      orDefault read (field defaultGroup) (field? datum) = some (field group)) :
    Provided read (field defaultGroup) (datum?.bind field?) (field group) := by
  cases datum? with
  | none =>
      obtain rfl : defaultGroup = group := Option.some.inj found
      exact .missing rfl
  | some datum => exact provided_of_orDefault (reads datum found)

end Provided

variable {surplus : Surplus} {value : Datum}

theorem TvSettings.ofDatum?_fields {tv : TvSettings}
    (read : TvSettings.ofDatum? surplus value = some tv) :
    orDefault readText? default.host (given? Fields.tv "host" value) = some tv.host ∧
    orDefault (readWord? 16) default.port (given? Fields.tv "port" value) = some tv.port ∧
    orDefault (readOptional? readText?) default.mac (given? Fields.tv "mac" value) = some tv.mac ∧
    orDefault (readOptional? readText?) default.location
      (given? Fields.tv "rendering_control_location" value) = some tv.location := by
  obtain ⟨values, split, rest⟩ := Option.bind_eq_some_iff.mp read
  obtain rfl := fieldValues?_given Fields.tv (by decide) split
  simp only [Fields.tv, List.map_cons, List.map_nil, Option.bind_eq_bind, Option.bind_eq_some_iff,
    Option.pure_def, Option.some.injEq] at rest
  obtain ⟨host, isHost, port, isPort, _, _, mac, isMac, location, isLocation, _, _, _, _, _, _, _, _,
    _, _, same⟩ := rest
  subst same
  exact ⟨isHost, isPort, isMac, isLocation⟩

theorem PollSettings.ofDatum?_fields {poll : PollSettings}
    (read : PollSettings.ofDatum? surplus value = some poll) :
    orDefault (readWord? 64) default.interval (given? Fields.poll "interval_ms" value) =
      some poll.interval := by
  obtain ⟨values, split, rest⟩ := Option.bind_eq_some_iff.mp read
  obtain rfl := fieldValues?_given Fields.poll (by decide) split
  simp only [Fields.poll, List.map_cons, List.map_nil, Option.bind_eq_bind, Option.bind_eq_some_iff,
    Option.pure_def, Option.some.injEq] at rest
  obtain ⟨interval, isInterval, _, _, same⟩ := rest
  subst same
  exact isInterval

theorem ServerSettings.ofDatum?_fields {server : ServerSettings}
    (read : ServerSettings.ofDatum? surplus value = some server) :
    orDefault readBool? default.enabled (given? Fields.server "enabled" value) =
      some server.enabled ∧
    orDefault (readWord? 16) default.port (given? Fields.server "port" value) = some server.port ∧
    orDefault (readOptional? readText?) default.token (given? Fields.server "token" value) =
      some server.token := by
  obtain ⟨values, split, rest⟩ := Option.bind_eq_some_iff.mp read
  obtain rfl := fieldValues?_given Fields.server (by decide) split
  simp only [Fields.server, List.map_cons, List.map_nil, Option.bind_eq_bind,
    Option.bind_eq_some_iff, Option.pure_def, Option.some.injEq] at rest
  obtain ⟨enabled, isEnabled, port, isPort, token, isToken, same⟩ := rest
  subst same
  exact ⟨isEnabled, isPort, isToken⟩

theorem Settings.ofDatum?_provided {document : Datum} {file : Settings}
    (read : Settings.ofDatum? surplus document = some file) : FromDocument document file := by
  obtain ⟨values, split, rest⟩ := Option.bind_eq_some_iff.mp read
  obtain rfl := fieldValues?_given Fields.groups (by decide) split
  simp only [Fields.groups, List.map_cons, List.map_nil, Option.bind_eq_bind,
    Option.bind_eq_some_iff, Option.pure_def, Option.some.injEq] at rest
  obtain ⟨tv, isTv, poll, isPoll, server, isServer, same⟩ := rest
  subst same
  exact {
    host := provided_within isTv (·.host) _ fun _ found => (TvSettings.ofDatum?_fields found).1
    port := provided_within isTv (·.port) _ fun _ found => (TvSettings.ofDatum?_fields found).2.1
    mac := provided_within isTv (·.mac) _ fun _ found => (TvSettings.ofDatum?_fields found).2.2.1
    location := provided_within isTv (·.location) _ fun _ found =>
      (TvSettings.ofDatum?_fields found).2.2.2
    interval := provided_within isPoll (·.interval) _ fun _ found =>
      PollSettings.ofDatum?_fields found
    enabled := provided_within isServer (·.enabled) _ fun _ found =>
      (ServerSettings.ofDatum?_fields found).1
    serverPort := provided_within isServer (·.port) _ fun _ found =>
      (ServerSettings.ofDatum?_fields found).2.1
    token := provided_within isServer (·.token) _ fun _ found =>
      (ServerSettings.ofDatum?_fields found).2.2 }

theorem Settings.ofFile_provided (content : Option (List UInt8)) :
    FromFile content (Settings.ofFile content) := by
  have readable {document : Datum} {file : Settings} : Readable content document file ↔
      (content.bind Text.textOfUtf8?).bind Toml.parse? = some document ∧
        Settings.ofDatum? .ignored document = some file := by
    constructor
    · rintro ⟨⟨bytes, text, present, decoded, parsed⟩, read⟩
      exact ⟨by rw [present, Option.bind_some, decoded, Option.bind_some, parsed], read⟩
    · rintro ⟨found, read⟩
      obtain ⟨text, textFound, parsed⟩ := Option.bind_eq_some_iff.mp found
      obtain ⟨bytes, present, decoded⟩ := Option.bind_eq_some_iff.mp textFound
      exact ⟨⟨bytes, text, present, decoded, parsed⟩, read⟩
  have same : Settings.ofFile content = (((content.bind Text.textOfUtf8?).bind Toml.parse?).bind
      (Settings.ofDatum? .ignored)).getD .default := rfl
  rw [same]
  cases found : ((content.bind Text.textOfUtf8?).bind Toml.parse?).bind
      (Settings.ofDatum? .ignored) with
  | some file =>
      obtain ⟨document, parsed, read⟩ := Option.bind_eq_some_iff.mp found
      exact .read (readable.mpr ⟨parsed, read⟩) (ofDatum?_provided read)
  | none =>
      refine .ignored fun document file isReadable => ?_
      obtain ⟨parsed, read⟩ := readable.mp isReadable
      rw [parsed, Option.bind_some, read] at found
      contradiction

end Televisor.Config
