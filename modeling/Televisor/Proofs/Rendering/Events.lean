import Televisor.Proofs.Markup.Attributes
import Televisor.Proofs.Markup.Escaping
import Televisor.Proofs.Text.Number
import Televisor.Rendering.LastChange

namespace Televisor.Rendering

open Markup

/-! Event bodies as renderers push them: entries of any channels among other elements, escaped once into
a property among other properties. -/

namespace Tag

def volume : Name := ⟨"Volume".toList, by decide, by decide⟩

def mute : Name := ⟨"Mute".toList, by decide, by decide⟩

def channel : Name := ⟨"channel".toList, by decide, by decide⟩

def val : Name := ⟨"val".toList, by decide, by decide⟩

def lastChange : Name := ⟨"LastChange".toList, by decide, by decide⟩

end Tag

/-- An element without a channel counts as the master's. -/
def onMaster (channel : Option Value) : Bool :=
  channel.all fun channel => channel.letters == "Master".toList

/-- A value that an element tells, of a channel or of none, with its attributes in either order. -/
structure Setting where
  channel : Option Value
  value : Value
  channelFirst : Bool

namespace Setting

def channelPair (channel : Value) : Pair :=
  ⟨Tag.channel, channel, by decide⟩

def valuePair (value : Value) : Pair :=
  ⟨Tag.val, value, by decide⟩

def pairs (setting : Setting) : List Pair :=
  match setting.channel with
  | none => [valuePair setting.value]
  | some channel =>
    if setting.channelFirst then [channelPair channel, valuePair setting.value]
    else [valuePair setting.value, channelPair channel]

theorem pairs_ne_nil (setting : Setting) : setting.pairs ≠ [] := by
  unfold pairs
  split
  · exact List.cons_ne_nil _ _
  · split <;> exact List.cons_ne_nil _ _

def piece (tag : Name) (setting : Setting) : Piece :=
  .opening tag (.ofPairs setting.pairs setting.pairs_ne_nil)

def master (setting : Setting) : Bool :=
  onMaster setting.channel

end Setting

def levelValue (level : UInt32) : Value :=
  ⟨(Nat.repr level.toNat).toList, by
    rw [List.all_eq_true]
    intro c inside
    have digit := Text.isDigit_of_mem_repr inside
    have other {mark : Char} (sign : mark.isDigit = false) : c ≠ mark := by
      rintro rfl
      exact Bool.false_ne_true (sign.symm.trans digit)
    simp only [isPlain, Bool.and_eq_true, bne_iff_ne]
    exact ⟨⟨⟨other rfl, other rfl⟩, other rfl⟩, other rfl⟩⟩

/-- A flag is told by a digit or by a word. -/
def flagValue (flag digit : Bool) : Value :=
  ⟨(if digit then (if flag then "1" else "0") else (if flag then "true" else "false")).toList, by
    cases flag <;> cases digit <;> decide⟩

inductive Entry where
  | volume (channel : Option Value) (level : UInt32) (channelFirst : Bool)
  | mute (channel : Option Value) (flag digit channelFirst : Bool)
  /-- Any other piece of the event: elements of other names, and what stands around the entries. -/
  | other (piece : Piece) (apart : piece.name? ≠ some Tag.volume ∧ piece.name? ≠ some Tag.mute)

namespace Entry

def piece : Entry → Piece
  | .volume channel level channelFirst =>
    Setting.piece Tag.volume ⟨channel, levelValue level, channelFirst⟩
  | .mute channel flag digit channelFirst =>
    Setting.piece Tag.mute ⟨channel, flagValue flag digit, channelFirst⟩
  | .other piece _ => piece

/-- The volume that an entry tells of the master. -/
def masterVolume? : Entry → Option Nat
  | .volume channel level _ => if onMaster channel then some level.toNat else none
  | _ => none

def masterFlag? : Entry → Option Bool
  | .mute channel flag _ _ => if onMaster channel then some flag else none
  | _ => none

/-- What an entry of that name tells. -/
def setting? (tag : Name) : Entry → Option Setting
  | .volume channel level channelFirst =>
    if Tag.volume = tag then some ⟨channel, levelValue level, channelFirst⟩ else none
  | .mute channel flag digit channelFirst =>
    if Tag.mute = tag then some ⟨channel, flagValue flag digit, channelFirst⟩ else none
  | .other _ _ => none

end Entry

/-- A body whose event is written, with any choice of escapes, into the first of its properties of that
name. -/
structure Notice where
  before : List Piece
  apart : ∀ piece ∈ before, piece.name? ≠ some Tag.lastChange
  attributes : Attributes
  entries : List Entry
  written : List Char
  escapes : Escapes (render (entries.map Entry.piece)) written
  after : List Piece

namespace Notice

def pieces (notice : Notice) : List Piece :=
  notice.before ++ .opening Tag.lastChange notice.attributes ::
    .text notice.written notice.escapes.not_mem_bracket :: .closing Tag.lastChange :: notice.after

def body (notice : Notice) : String :=
  String.ofList (render notice.pieces)

end Notice

namespace Setting

variable (setting : Setting)

theorem attribute?_channel :
    attribute? ((spaced setting.pairs).drop 1) "channel".toList = setting.channel.map Value.letters := by
  have plain : Tag.channel.letters.all isPlain := by decide
  have found := attribute?_spaced plain setting.pairs
  rw [show "channel".toList = Tag.channel.letters from rfl, found, pairs]
  cases setting.channel with
  | none => rfl
  | some channel => cases setting.channelFirst <;> rfl

theorem attribute?_val :
    attribute? ((spaced setting.pairs).drop 1) "val".toList = some setting.value.letters := by
  have plain : Tag.val.letters.all isPlain := by decide
  have found := attribute?_spaced plain setting.pairs
  rw [show "val".toList = Tag.val.letters from rfl, found, pairs]
  cases setting.channel with
  | none => rfl
  | some channel => cases setting.channelFirst <;> rfl

theorem isMaster_pairs : isMaster ((spaced setting.pairs).drop 1) = setting.master := by
  rw [isMaster, attribute?_channel, master]
  rw [onMaster]
  cases setting.channel <;> rfl

end Setting

section Entries

variable {tag : Name}

theorem Entry.piece_eq {entry : Entry} {setting : Setting} (told : entry.setting? tag = some setting) :
    entry.piece = setting.piece tag := by
  cases entry with
  | volume channel level channelFirst =>
      rw [setting?] at told
      split at told
      · rename_i same
        cases told
        rw [← same, piece]
      · cases told
  | mute channel flag digit channelFirst =>
      rw [setting?] at told
      split at told
      · rename_i same
        cases told
        rw [← same, piece]
      · cases told
  | other piece apart => cases told

theorem Entry.not_opening (looked : tag = Tag.volume ∨ tag = Tag.mute) {entry : Entry}
    (silent : entry.setting? tag = none) : ∀ attributes, entry.piece ≠ .opening tag attributes := by
  intro attributes same
  cases entry with
  | volume channel level channelFirst =>
      cases same
      rw [setting?, if_pos rfl] at silent
      cases silent
  | mute channel flag digit channelFirst =>
      cases same
      rw [setting?, if_pos rfl] at silent
      cases silent
  | other piece apart =>
      change piece = _ at same
      subst same
      rcases looked with rfl | rfl
      · exact apart.1 rfl
      · exact apart.2 rfl

theorem emptyElements_entries (looked : tag = Tag.volume ∨ tag = Tag.mute) (entries : List Entry) :
    emptyElements (render (entries.map Entry.piece)) tag.letters =
      (entries.filterMap (Entry.setting? tag)).map fun setting => (spaced setting.pairs).drop 1 := by
  induction entries with
  | nil => exact emptyElements_none
  | cons entry entries ih =>
      rw [List.map_cons, render_cons, List.filterMap_cons]
      cases told : entry.setting? tag with
      | none => rw [emptyElements_other (Entry.not_opening looked told), ih]
      | some setting =>
          rw [Entry.piece_eq told, Setting.piece, emptyElements_ofPairs, ih]
          rfl

/-- Of every element of that name that is the master's, its value is told. -/
theorem masterValues_entries (looked : tag = Tag.volume ∨ tag = Tag.mute) {word : String}
    (letters : word.toList = tag.letters) (entries : List Entry) :
    masterValues (render (entries.map Entry.piece)) word =
      ((entries.filterMap (Entry.setting? tag)).filter Setting.master).map
        fun setting => some setting.value.letters := by
  have masters : isMaster ∘ (fun setting : Setting => (spaced setting.pairs).drop 1) = Setting.master :=
    funext Setting.isMaster_pairs
  rw [masterValues, letters, emptyElements_entries looked, List.filter_map, masters, List.map_map]
  exact congrArg (List.map · _) (funext Setting.attribute?_val)

/-- Where everything can be read, reading the last is the last of what is read. -/
theorem getLast?_bind {α β : Type} {read : α → Option β} {list : List α}
    (readable : ∀ item ∈ list, (read item).isSome) :
    list.getLast?.bind read = (list.filterMap read).getLast? := by
  rcases List.eq_nil_or_concat list with rfl | ⟨init, last, rfl⟩
  · rfl
  · obtain ⟨value, found⟩ := Option.isSome_iff_exists.mp (readable last (by simp))
    rw [List.concat_eq_append, List.getLast?_concat, List.filterMap_append, Option.bind_some]
    simp [found]

/-- What is read of the master's last element of a name, where every value of that name can be read. -/
theorem lastOf_entries {α : Type} (looked : tag = Tag.volume ∨ tag = Tag.mute) {word : String}
    (letters : word.toList = tag.letters) {read : List Char → Option α} {master? : Entry → Option α}
    (readable : ∀ entry : Entry, ∀ setting ∈ entry.setting? tag, (read setting.value.letters).isSome)
    (told : ∀ entry : Entry, master? entry =
      ((entry.setting? tag).filter Setting.master).bind (read ·.value.letters)) (entries : List Entry) :
    (masterValues (render (entries.map Entry.piece)) word).getLast?.bind (·.bind read) =
      (entries.filterMap master?).getLast? := by
  rw [masterValues_entries looked letters, getLast?_bind]
  · refine congrArg List.getLast? ?_
    rw [List.filterMap_map, List.filterMap_filter, List.filterMap_filterMap]
    refine congrArg (List.filterMap · entries) (funext fun entry => ?_)
    rw [told]
    cases entry.setting? tag with
    | none => rfl
    | some setting =>
        simp only [Option.bind_some, Function.comp_apply, Option.filter_some]
        split <;> rfl
  · intro item member
    obtain ⟨setting, inside, rfl⟩ := List.mem_map.mp member
    obtain ⟨entry, _, found⟩ := List.mem_filterMap.mp (List.mem_filter.mp inside).1
    exact readable entry setting found

theorem readVolume?_level (level : UInt32) : readVolume? (levelValue level).letters = some level.toNat :=
  Text.readUnsigned?_repr level.toNat_lt

theorem readMute?_flag (flag digit : Bool) : readMute? (flagValue flag digit).letters = some flag := by
  cases flag <;> cases digit <;> rfl

theorem volume_entries (entries : List Entry) :
    (masterValues (render (entries.map Entry.piece)) "Volume").getLast?.bind (·.bind readVolume?) =
      (entries.filterMap Entry.masterVolume?).getLast? := by
  refine lastOf_entries (.inl rfl) (show _ = Tag.volume.letters from rfl) ?_ ?_ entries
  · intro entry setting found
    cases entry with
    | volume channel level channelFirst =>
        cases found
        rw [readVolume?_level]
        rfl
    | mute channel flag digit channelFirst => cases found
    | other piece apart => cases found
  · intro entry
    cases entry with
    | volume channel level channelFirst =>
        rw [Entry.setting?, if_pos rfl, Option.filter_some, Entry.masterVolume?, Setting.master]
        cases onMaster channel with
        | true => exact (readVolume?_level level).symm
        | false => rfl
    | mute channel flag digit channelFirst => rfl
    | other piece apart => rfl

theorem flag_entries (entries : List Entry) :
    (masterValues (render (entries.map Entry.piece)) "Mute").getLast?.bind (·.bind readMute?) =
      (entries.filterMap Entry.masterFlag?).getLast? := by
  refine lastOf_entries (.inr rfl) (show _ = Tag.mute.letters from rfl) ?_ ?_ entries
  · intro entry setting found
    cases entry with
    | volume channel level channelFirst => cases found
    | mute channel flag digit channelFirst =>
        cases found
        rw [readMute?_flag]
        rfl
    | other piece apart => cases found
  · intro entry
    cases entry with
    | volume channel level channelFirst => rfl
    | mute channel flag digit channelFirst =>
        rw [Entry.setting?, if_pos rfl, Option.filter_some, Entry.masterFlag?, Setting.master]
        cases onMaster channel with
        | true => exact (readMute?_flag flag digit).symm
        | false => rfl
    | other piece apart => rfl

theorem parseEvent_entries (entries : List Entry) :
    parseEvent (render (entries.map Entry.piece)) =
      ⟨(entries.filterMap Entry.masterVolume?).getLast?,
        (entries.filterMap Entry.masterFlag?).getLast?⟩ := by
  rw [parseEvent, volume_entries, flag_entries]

end Entries

/-- The event of a body tells the volume and the flag of the master's last entries, whatever is told of
other channels, by other elements and in other properties. -/
theorem notices_read (notice : Notice) :
    parseLastChange notice.body =
      ⟨(notice.entries.filterMap Entry.masterVolume?).getLast?,
        (notice.entries.filterMap Entry.masterFlag?).getLast?⟩ := by
  have others : ∀ piece ∈ notice.before, ∀ attributes, piece ≠ .opening Tag.lastChange attributes := by
    rintro piece member attributes rfl
    exact notice.apart _ member rfl
  have unclosed : ∀ piece ∈ [Piece.text notice.written notice.escapes.not_mem_bracket],
      piece ≠ .closing Tag.lastChange :=
    List.forall_mem_singleton.mpr nofun
  have found := elementText?_opening notice.attributes unclosed (render notice.after)
  have text : elementText? notice.body.toList "LastChange".toList = some notice.written := by
    rw [Notice.body, String.toList_ofList, Notice.pieces, render_append,
      show "LastChange".toList = Tag.lastChange.letters from rfl, elementText?_skip others, render_cons,
      render_cons, render_cons]
    simpa [Piece.render] using found
  rw [parseLastChange, text]
  dsimp only
  rw [notice.escapes.unescape, parseEvent_entries]

/-- The master's volume between others, and a flag without a channel. -/
def mixedNotice : Notice where
  before := [.opening ⟨"e:property".toList, by decide, by decide⟩ .none]
  apart := by decide
  attributes := .none
  entries := [
    .other (.opening ⟨"Event".toList, by decide, by decide⟩ .none) (by decide),
    .other (.opening ⟨"InstanceID".toList, by decide, by decide⟩
      ⟨" val=\"0\"".toList, by decide, by decide⟩) (by decide),
    .volume (some ⟨"Master".toList, by decide⟩) 17 true,
    .volume (some ⟨"LF".toList, by decide⟩) 90 false,
    .other (.opening ⟨"VolumeDB".toList, by decide, by decide⟩
      ⟨" channel=\"Master\" val=\"-12\"/".toList, by decide, by decide⟩) (by decide),
    .mute none true true true,
    .other (.closing ⟨"InstanceID".toList, by decide, by decide⟩) (by decide),
    .other (.closing ⟨"Event".toList, by decide, by decide⟩) (by decide)]
  written := _
  escapes := .escape _
  after := [.closing ⟨"e:property".toList, by decide, by decide⟩]

theorem mixedNotice_read :
    mixedNotice.body = "<e:property><LastChange>&lt;Event&gt;&lt;InstanceID val=&quot;0&quot;&gt;" ++
        "&lt;Volume channel=&quot;Master&quot; val=&quot;17&quot;/&gt;" ++
        "&lt;Volume val=&quot;90&quot; channel=&quot;LF&quot;/&gt;" ++
        "&lt;VolumeDB channel=&quot;Master&quot; val=&quot;-12&quot;/&gt;" ++
        "&lt;Mute val=&quot;1&quot;/&gt;&lt;/InstanceID&gt;&lt;/Event&gt;</LastChange></e:property>" ∧
      parseLastChange mixedNotice.body = ⟨some 17, some true⟩ :=
  ⟨by decide +kernel, notices_read mixedNotice⟩

end Televisor.Rendering
