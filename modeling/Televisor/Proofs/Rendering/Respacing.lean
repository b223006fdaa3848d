import Televisor.Proofs.Markup.OpenTags
import Televisor.Proofs.Markup.Spacing
import Televisor.Proofs.Rendering.Events

namespace Televisor.Rendering

open Markup Text

/-! Event bodies that differ in blanks.  How long a run of blanks is and what it is made of does not matter,
except that a name is taken for an element's only where the blank behind it is a space. -/

section Values

variable {α : Type} {text : List Char}

/-- Blanks in a value make it unreadable, whichever they are. -/
theorem read_condense {read : List Char → Option α}
    (solid : ∀ text value, read text = some value → ∀ c ∈ text, ¬ isBlank c) (text : List Char) :
    read (condense false text) = read text := by
  cases shown : read text with
  | some value => rw [condense_of_solid (solid text value shown), shown]
  | none =>
      cases other : read (condense false text) with
      | none => rfl
      | some value =>
          have same := (condense_eq_iff (solid _ value other)).mp rfl
          rw [← same, shown] at other
          cases other

theorem readVolume?_condense (text : List Char) : readVolume? (condense false text) = readVolume? text := by
  refine read_condense (fun text value shown => ?_) text
  rw [readVolume?, ← String.toList_ofList (l := text), readUnsigned?_eq_some] at shown
  obtain ⟨⟨digits, shape, _, plain, _⟩, _⟩ := shown
  have solid : ∀ c ∈ digits, ¬ isBlank c := fun c inside => not_isBlank_of_isDigit (plain c inside)
  rw [String.toList_ofList] at shape
  rcases shape with rfl | rfl
  · exact solid
  · exact List.forall_mem_cons.mpr ⟨by decide, solid⟩

theorem readMute?_condense (text : List Char) : readMute? (condense false text) = readMute? text := by
  have words : ∀ word ∈ ["1", "true", "0", "false"], word.toList.all (!isBlank ·) := by decide
  refine read_condense (fun text value shown => ?_) text
  simp only [readMute?, Bool.or_eq_true, beq_iff_eq] at shown
  split at shown
  · rename_i known
    rcases known with rfl | rfl
    · exact not_isBlank_of_all (words "1" (by decide))
    · exact not_isBlank_of_all (words "true" (by decide))
  · split at shown
    · rename_i known
      rcases known with rfl | rfl
      · exact not_isBlank_of_all (words "0" (by decide))
      · exact not_isBlank_of_all (words "false" (by decide))
    · cases shown

theorem isMaster_condense (attributes : List Char) :
    isMaster (condense true attributes) = isMaster attributes := by
  have solid : ∀ c ∈ "Master".toList, ¬ isBlank c := not_isBlank_of_all (by decide)
  have found := attribute?_condense Tag.channel attributes
  rw [show Tag.channel.letters = "channel".toList from rfl] at found
  rw [isMaster, found, isMaster]
  cases attribute? attributes "channel".toList with
  | none => rfl
  | some channel =>
      rw [Option.map_some, Bool.eq_iff_iff, beq_iff_eq, beq_iff_eq]
      exact condense_eq_iff solid

end Values

section Events

theorem masterValues_condense {tag : Name} {word : String} (letters : word.toList = tag.letters)
    (running : Bool) (event : List Char) :
    masterValues (condense running event) word = (masterValues event word).map (·.map (condense false)) := by
  have masters : isMaster ∘ condense true = isMaster := funext isMaster_condense
  rw [masterValues, letters, emptyElements_condense, List.filter_map, masters, List.map_map, masterValues,
    letters, List.map_map]
  exact congrArg (List.map · _) (funext (attribute?_condense Tag.val))

theorem getLast?_condense {α : Type} {read : List Char → Option α}
    (same : ∀ text, read (condense false text) = read text) (values : List (Option (List Char))) :
    (values.map (·.map (condense false))).getLast?.bind (·.bind read) = values.getLast?.bind (·.bind read) := by
  rw [List.getLast?_map]
  cases values.getLast? with
  | none => rfl
  | some value =>
      cases value with
      | none => rfl
      | some text => exact same text

theorem parseEvent_condense (running : Bool) (event : List Char) :
    parseEvent (condense running event) = parseEvent event := by
  have volumes := masterValues_condense (show "Volume".toList = Tag.volume.letters from rfl) running event
  have flags := masterValues_condense (show "Mute".toList = Tag.mute.letters from rfl) running event
  rw [parseEvent, volumes, flags, getLast?_condense readVolume?_condense, getLast?_condense readMute?_condense,
    parseEvent]

theorem parseLastChange_condense {body other : String} (cut : other.toList = condense false body.toList) :
    parseLastChange other = parseLastChange body := by
  have found := elementText?_condense Tag.lastChange false body.toList
  rw [show Tag.lastChange.letters = "LastChange".toList from rfl] at found
  rw [parseLastChange, cut, found, parseLastChange]
  cases elementText? body.toList "LastChange".toList with
  | none => rfl
  | some inner =>
      rw [Option.map_some]
      dsimp only
      rw [unescape_condense, parseEvent_condense]

/-- Bodies that are the same once runs of blanks have been cut short tell the same. -/
theorem parseLastChange_congr {body other : String}
    (same : condense false body.toList = condense false other.toList) :
    parseLastChange body = parseLastChange other := by
  have cut : (String.ofList (condense false body.toList)).toList = condense false body.toList :=
    String.toList_ofList
  rw [← parseLastChange_condense cut, parseLastChange_condense (cut.trans same)]

end Events

/-- The search for elements with attributes tells of each opening tag, in order, the part that stands
behind a space; it tells all of them in full exactly if each name is followed by a space.  What blanks
there are otherwise, in the body or in the event, changes nothing. -/
theorem spaces_tell_elements (tag : Name) (text : List Char) :
    (∀ start, openTagEnd? text tag.letters start =
      (dropBytes? start text).bind fun rest =>
        (openTag? tag.letters rest).map fun found => utf8Length text - utf8Length found.2) ∧
    emptyElements text tag.letters = (openTags text tag.letters).filterMap (spacedPart? tag.letters) ∧
    (emptyElements text tag.letters =
        ((openTags text tag.letters).filter (· ≠ [])).map (fun written => trimEnd '/' written.tail) ↔
      ∀ written ∈ openTags text tag.letters, written.head?.all (· = ' ')) ∧
    ∀ before blanks others after, text = before ++ (blanks ++ after) → Respacing blanks others →
      parseEvent text = parseEvent (before ++ (others ++ after)) ∧
        parseLastChange (String.ofList text) =
          parseLastChange (String.ofList (before ++ (others ++ after))) := by
  refine ⟨fun start => ?_, emptyElements_eq_filterMap tag text, emptyElements_complete_iff tag text, ?_⟩
  · rw [openTagEnd?]
    cases dropBytes? start text with
    | none => rfl
    | some rest =>
        simp only [Option.bind_eq_bind, Option.bind_some, afterOpenTag?_eq_openTag?]
        cases openTag? tag.letters rest <;> rfl
  · rintro before blanks others after rfl spacing
    have same := spacing.condense_between before after
    constructor
    · rw [← parseEvent_condense false, same, parseEvent_condense]
    · apply parseLastChange_congr
      rw [String.toList_ofList, String.toList_ofList, same]

def brokenEvent : List Char :=
  "<LastChange>&lt;Volume \n\tchannel=&quot;Master&quot; val=&quot;17&quot;/&gt;</LastChange>".toList

/-- Behind a space, a line break changes nothing. -/
theorem brokenEvent_read :
    Respacing " \n\t".toList [' '] ∧
      parseLastChange (String.ofList brokenEvent) = parseLastChange
        "<LastChange>&lt;Volume channel=&quot;Master&quot; val=&quot;17&quot;/&gt;</LastChange>" := by
  have spacing : Respacing " \n\t".toList [' '] :=
    ⟨⟨by decide, by decide⟩, ⟨List.all_eq_true.mp (by decide), List.all_eq_true.mp (by decide)⟩, by decide⟩
  obtain ⟨_, _, _, respaced⟩ := spaces_tell_elements Tag.volume brokenEvent
  exact ⟨spacing, (respaced "<LastChange>&lt;Volume".toList _ _
    "channel=&quot;Master&quot; val=&quot;17&quot;/&gt;</LastChange>".toList rfl spacing).2⟩

/-- A tab behind the name hides an element that the other search finds, and with it the volume. -/
theorem tab_hides_volume :
    openTags "<Volume\tchannel=\"Master\" val=\"17\"/>".toList Tag.volume.letters =
        ["\tchannel=\"Master\" val=\"17\"/".toList] ∧
      emptyElements "<Volume\tchannel=\"Master\" val=\"17\"/>".toList Tag.volume.letters = [] ∧
      parseLastChange
        "<LastChange>&lt;Volume\tchannel=&quot;Master&quot; val=&quot;17&quot;/&gt;</LastChange>" =
        ⟨none, none⟩ ∧
      parseLastChange
        "<LastChange>&lt;Volume channel=&quot;Master&quot; val=&quot;17&quot;/&gt;</LastChange>" =
        ⟨some 17, none⟩ := by
  decide +kernel

end Televisor.Rendering
