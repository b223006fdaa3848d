import Televisor.Markup.Cursor
import Televisor.Proofs.Markup.Attributes
import Televisor.Proofs.Text.Slice

namespace Televisor.Markup.Cursor

open Text

/-! Searches by byte offsets never leave the text: every part they take lies between two characters,
every loop moves on with each turn and ends, and they find what the searches by suffixes find. -/

theorem restFrom_append (before after : List Char) :
    restFrom (before ++ after) (utf8Length before) = .ok after := by
  rw [restFrom, dropBytes?_append]

theorem slice_append (before part after : List Char) :
    slice (before ++ (part ++ after)) (utf8Length before) (utf8Length before + utf8Length part) =
      .ok part := by
  rw [slice, sliceBytes?_append]

/-- The offset behind what has been passed over and the word that was found there. -/
theorem offset_behind (before skipped word : List Char) :
    utf8Length before + utf8Length skipped + utf8Length word = utf8Length (before ++ (skipped ++ word)) := by
  simp only [utf8Length_append, Nat.add_assoc]

/-- The offset behind a part of a text is what the rest leaves of its size. -/
theorem offset_eq {text passed after : List Char} (split : text = passed ++ after) :
    utf8Length passed = utf8Length text - utf8Length after := by
  rw [split, utf8Length_append]
  omega

section Word

variable {word skipped behind rest : List Char} (found : Found word skipped behind rest)
variable (before : List Char)

include found

theorem found_split : before ++ rest = before ++ (skipped ++ word) ++ behind := by
  rw [found.text_eq]
  simp only [List.append_assoc]

theorem restFrom_found :
    restFrom (before ++ rest) (utf8Length (before ++ (skipped ++ word))) = .ok behind := by
  rw [found_split found, restFrom_append]

/-- What stands before a word that is found is a part of the text. -/
theorem slice_found :
    slice (before ++ rest) (utf8Length before) (utf8Length before + utf8Length skipped) = .ok skipped := by
  rw [found.text_eq, slice_append]

theorem slice_found_start :
    slice (before ++ rest) 0 (utf8Length before + utf8Length skipped) = .ok (before ++ skipped) := by
  have whole := slice_append [] (before ++ skipped) (word ++ behind)
  rw [utf8Length_nil, Nat.zero_add, utf8Length_append, List.nil_append, List.append_assoc,
    ← found.text_eq] at whole
  exact whole

end Word

section Loop

variable {α : Type} {text before rest : List Char} {turn : Nat → Except Mishap (Turn α)}
variable {answer : List Char → List Char → α}

/-- A turn between two parts of a text gives the answer, or passes over some of the text and leaves the
answer to what follows. -/
inductive Sound (answer : List Char → List Char → α) (before rest : List Char) : Turn α → Prop where
  | ended : Sound answer before rest (.ended (answer before rest))
  | onward {passed after : List Char} {collect : α → α} (moved : passed ≠ [])
      (split : rest = passed ++ after)
      (left : answer before rest = collect (answer (before ++ passed) after)) :
      Sound answer before rest (.onward (utf8Length (before ++ passed)) collect)

theorem Sound.of_eq {result : α} (same : answer before rest = result) :
    Sound answer before rest (.ended result) :=
  same ▸ .ended

/-- No turn that begins between two characters of the text fails. -/
def Steady (text : List Char) (turn : Nat → Except Mishap (Turn α))
    (answer : List Char → List Char → α) : Prop :=
  ∀ before rest, text = before ++ rest →
    ∃ outcome, turn (utf8Length before) = .ok outcome ∧ Sound answer before rest outcome

theorem Steady.loop (steady : Steady text turn answer) {turns : Nat} (split : text = before ++ rest)
    (enough : utf8Length rest < turns) :
    loop turn turns (utf8Length before) = .ok (answer before rest) := by
  induction turns generalizing before rest with
  | zero => exact (Nat.not_lt_zero _ enough).elim
  | succ turns ih =>
      obtain ⟨outcome, done, sound⟩ := steady before rest split
      rw [Cursor.loop, done]
      cases sound with
      | ended => rfl
      | @onward passed after collect moved further left =>
          subst further
          have positive := utf8Length_pos moved
          rw [utf8Length_append] at enough
          have later := ih (split.trans (List.append_assoc ..).symm) (by omega)
          change (do return collect (← Cursor.loop turn turns (utf8Length (before ++ passed)))) = _
          rw [later, left]
          rfl

theorem Steady.loopFrom (steady : Steady text turn answer) (split : text = before ++ rest) :
    loopFrom turn text (utf8Length before) = .ok (answer before rest) := by
  refine steady.loop split ?_
  rw [split, utf8Length_append]
  omega

/-- From every offset between characters a turn succeeds, and where the loop goes on it goes on at a later
one. -/
def Advances (text : List Char) (turn : Nat → Except Mishap (Turn α)) : Prop :=
  ∀ position, IsBoundary text position → ∃ outcome, turn position = .ok outcome ∧
    ∀ next collect, outcome = .onward next collect → position < next ∧ IsBoundary text next

theorem Steady.advances (steady : Steady text turn answer) : Advances text turn := by
  rintro _ ⟨before, rest, split, rfl⟩
  obtain ⟨outcome, done, sound⟩ := steady before rest split
  refine ⟨outcome, done, ?_⟩
  rintro next collect rfl
  cases sound with
  | @onward passed after _ moved further _ =>
      refine ⟨?_, before ++ passed, after, ?_, rfl⟩
      · have positive := utf8Length_pos moved
        rw [utf8Length_append]
        omega
      · rw [split, further, List.append_assoc]

end Loop

section Tags

variable {tag before rest skipped behind : List Char}

theorem tagTurn_missed (missed : offsetOf? (openWord tag) rest = none) :
    tagTurn (before ++ rest) tag (utf8Length before) = .ok (.ended none) := by
  simp only [tagTurn, restFrom_append, bind, Except.bind, missed]
  rfl

/-- A turn of the search for opening tags, by what stands behind the name. -/
theorem tagTurn_found (found : Found (openWord tag) skipped behind rest) :
    tagTurn (before ++ rest) tag (utf8Length before) =
      .ok (match behind with
        | [] => .onward (utf8Length (before ++ (skipped ++ openWord tag))) id
        | c :: _ =>
          if c = '>' then .ended (some (utf8Length (before ++ (skipped ++ openWord tag)) + 1))
          else if isBlank c then
            .ended ((offsetOf? ['>'] behind).map
              (utf8Length (before ++ (skipped ++ openWord tag)) + · + 1))
          else .onward (utf8Length (before ++ (skipped ++ openWord tag))) id) := by
  simp only [tagTurn, restFrom_append, bind, Except.bind, found.offsetOf?, offset_behind,
    restFrom_found found]
  cases behind with
  | nil => rfl
  | cons c following =>
      dsimp only
      split
      · rfl
      · split
        · cases offsetOf? ['>'] (c :: following) <;> rfl
        · rfl

theorem tagTurn_steady (text tag : List Char) :
    Steady text (tagTurn text tag) fun _ rest =>
      (afterOpenTag? tag rest).map fun after => utf8Length text - utf8Length after := by
  rintro before rest rfl
  have next := afterOpenTag?_eq tag rest
  rcases found_or_missed (openWord tag) rest with ⟨skipped, behind, found⟩ | ⟨missed, nowhere⟩
  · refine ⟨_, tagTurn_found found, ?_⟩
    have shape := found_split found before
    have moved : skipped ++ openWord tag ≠ [] := by simp [openWord]
    have further := found_split found []
    rw [found.after?, Option.bind_some] at next
    cases behind with
    | nil =>
        refine .onward moved further ?_
        rw [next, afterOpenTag?_eq]
        rfl
    | cons c following =>
        dsimp only at next ⊢
        split
        · rename_i bracket
          subst bracket
          have stop : utf8Length (before ++ (skipped ++ openWord tag) ++ ['>']) = _ :=
            offset_eq (shape.trans (List.append_cons ..))
          refine .of_eq ?_
          rw [next, if_pos rfl, Option.map_some, ← stop, utf8Length_append _ ['>']]
          rfl
        · rename_i noBracket
          rw [if_neg noBracket] at next
          split
          · rename_i blank
            rw [if_pos blank, afterBracket?] at next
            refine .of_eq ?_
            rcases found_or_missed ['>'] (c :: following) with ⟨written, after, closed⟩ | ⟨unclosed, nowhere⟩
            · have stop : utf8Length (before ++ (skipped ++ openWord tag) ++ (written ++ ['>'])) = _ :=
                offset_eq (shape.trans (found_split closed _))
              rw [next, closed.after?, closed.offsetOf?, Option.map_some, Option.map_some, ← stop,
                ← offset_behind]
              rfl
            · rw [next, unclosed, nowhere]
              rfl
          · rename_i solid
            rw [if_neg solid] at next
            refine .onward moved further ?_
            rw [next]
            rfl
  · refine ⟨_, tagTurn_missed nowhere, .of_eq ?_⟩
    rw [next, missed]
    rfl

theorem openTagEnd?_append (before rest tag : List Char) :
    openTagEnd? (before ++ rest) tag (utf8Length before) =
      (afterOpenTag? tag rest).map fun after => utf8Length (before ++ rest) - utf8Length after := by
  rw [openTagEnd?, dropBytes?_append, Option.bind_eq_bind, Option.bind_some]
  cases afterOpenTag? tag rest <;> rfl

/-- An opening tag that is found ends with a bracket. -/
theorem afterOpenTag?_split {text : List Char} (found : afterOpenTag? tag text = some rest) :
    ∃ passed, passed ≠ [] ∧ text = passed ++ '>' :: rest := by
  fun_induction afterOpenTag? tag text with
  | case1 => contradiction
  | case2 => contradiction
  | case3 text following first =>
      cases found
      obtain ⟨skipped, place⟩ := found_of_after? first
      exact ⟨skipped ++ openWord tag, by simp [openWord], by rw [place.text_eq, List.append_assoc]⟩
  | case4 text c following first _ _ =>
      obtain ⟨skipped, place⟩ := found_of_after? first
      obtain ⟨written, closed⟩ := found_of_after? found
      refine ⟨skipped ++ (openWord tag ++ written), by simp [openWord], ?_⟩
      rw [place.text_eq, closed.text_eq]
      simp only [List.append_assoc, List.singleton_append]
  | case5 text c following first _ _ ih =>
      obtain ⟨skipped, place⟩ := found_of_after? first
      obtain ⟨passed, _, split⟩ := ih found
      refine ⟨skipped ++ (openWord tag ++ passed), by simp [openWord], ?_⟩
      rw [place.text_eq, split]
      simp only [List.append_assoc]

end Tags

section Elements

variable {tag before rest skipped behind : List Char}

/-- An element ends at its first closing tag. -/
theorem untilClosed_append (before inner tag : List Char) :
    untilClosed (before ++ inner) tag (utf8Length before) =
      .ok ((splitAtFirst? (closeWord tag) inner).map fun found =>
        (found.1, utf8Length (before ++ (found.1 ++ closeWord tag)))) := by
  rcases found_or_missed (closeWord tag) inner with ⟨inside, after, found⟩ | ⟨missed, nowhere⟩
  · simp only [untilClosed, restFrom_append, bind, Except.bind, found.offsetOf?, slice_found found,
      offset_behind, found.splitAtFirst?]
    rfl
  · simp only [untilClosed, restFrom_append, bind, Except.bind, nowhere, splitAtFirst?, missed]
    rfl

section Opened

variable {opening inner : List Char} (opened : afterOpenTag? tag (opening ++ inner) = some inner)

include opened

theorem openTagEnd_found (before : List Char) :
    openTagEnd (before ++ (opening ++ inner)) tag (utf8Length before) =
      .ok (some (utf8Length (before ++ opening))) := by
  rw [openTagEnd, (tagTurn_steady _ tag).loopFrom rfl, opened, Option.map_some,
    offset_eq (List.append_assoc before opening inner).symm]

theorem blockTurn_found {inside after : List Char} (closed : Found (closeWord tag) inside after inner) :
    blockTurn (before ++ (opening ++ inner)) tag (utf8Length before) =
      .ok (.onward (utf8Length (before ++ (opening ++ (inside ++ closeWord tag)))) (inside :: ·)) := by
  have ended := untilClosed_append (before ++ opening) inner tag
  simp only [closed.splitAtFirst?, Option.map_some, List.append_assoc] at ended
  simp only [blockTurn, openTagEnd_found opened before, ended, bind, Except.bind]
  rfl

theorem blockTurn_unclosed (unclosed : splitAtFirst? (closeWord tag) inner = none) :
    blockTurn (before ++ (opening ++ inner)) tag (utf8Length before) = .ok (.ended []) := by
  have ended := untilClosed_append (before ++ opening) inner tag
  simp only [unclosed, Option.map_none, List.append_assoc] at ended
  simp only [blockTurn, openTagEnd_found opened before, ended, bind, Except.bind]
  rfl

end Opened

theorem openTagEnd_missed (missed : afterOpenTag? tag rest = none) (before : List Char) :
    openTagEnd (before ++ rest) tag (utf8Length before) = .ok none := by
  rw [openTagEnd, (tagTurn_steady _ tag).loopFrom rfl, missed, Option.map_none]

theorem blockTurn_missed (missed : afterOpenTag? tag rest = none) :
    blockTurn (before ++ rest) tag (utf8Length before) = .ok (.ended []) := by
  simp only [blockTurn, openTagEnd_missed missed before, bind, Except.bind]
  rfl

theorem blockTurn_steady (text tag : List Char) :
    Steady text (blockTurn text tag) fun _ rest => Markup.blocks rest tag := by
  rintro before rest rfl
  have next := blocks_eq rest tag
  cases opened : afterOpenTag? tag rest with
  | none =>
      rw [opened] at next
      exact ⟨_, blockTurn_missed opened, .of_eq next⟩
  | some inner =>
      rw [opened] at next
      dsimp only at next
      obtain ⟨passed, _, split⟩ := afterOpenTag?_split opened
      obtain rfl : rest = passed ++ ['>'] ++ inner := by rw [split, List.append_cons]
      rcases found_or_missed (closeWord tag) inner with ⟨inside, after, closed⟩ | ⟨missed, _⟩
      · have further : passed ++ ['>'] ++ inner = passed ++ ['>'] ++ (inside ++ closeWord tag) ++ after := by
          rw [closed.text_eq]
          simp only [List.append_assoc]
        refine ⟨_, blockTurn_found opened closed, .onward (by simp) further ?_⟩
        rw [next, closed.splitAtFirst?]
      · have unclosed : splitAtFirst? (closeWord tag) inner = none := by
          rw [splitAtFirst?, missed, Option.map_none]
        refine ⟨_, blockTurn_unclosed opened unclosed, .of_eq ?_⟩
        rw [next, unclosed]

theorem elementText_eq (text tag : List Char) : elementText text tag = .ok (elementText? text tag) := by
  cases opened : afterOpenTag? tag text with
  | none =>
      have missed : openTagEnd text tag 0 = .ok none := openTagEnd_missed opened []
      rw [elementText, missed, elementText?, opened]
      rfl
  | some inner =>
      obtain ⟨passed, _, split⟩ := afterOpenTag?_split opened
      obtain rfl : text = passed ++ ['>'] ++ inner := by rw [split, List.append_cons]
      have start : openTagEnd (passed ++ ['>'] ++ inner) tag 0 = .ok (some (utf8Length (passed ++ ['>']))) :=
        openTagEnd_found opened []
      simp only [elementText, start, untilClosed_append, elementText?, opened, bind, Except.bind,
        Option.bind_some]
      cases splitAtFirst? (closeWord tag) inner <;> rfl

section Spaced

variable (found : Found (openWord tag ++ [' ']) skipped behind rest)

include found

theorem emptyTurn_found {written after : List Char} (closed : Found ['>'] written after behind) :
    emptyTurn (before ++ rest) tag (utf8Length before) =
      .ok (.onward (utf8Length (before ++ (skipped ++ (openWord tag ++ [' ']) ++ written)))
        (trimEnd '/' written :: ·)) := by
  have part := slice_found closed (before ++ (skipped ++ (openWord tag ++ [' '])))
  rw [← found_split found] at part
  simp only [emptyTurn, restFrom_append, bind, Except.bind, found.offsetOf?, offset_behind,
    restFrom_found found, closed.offsetOf?, part]
  rw [← utf8Length_append, List.append_assoc before]
  rfl

theorem emptyTurn_unclosed (unclosed : offsetOf? ['>'] behind = none) :
    emptyTurn (before ++ rest) tag (utf8Length before) = .ok (.ended []) := by
  simp only [emptyTurn, restFrom_append, bind, Except.bind, found.offsetOf?, offset_behind,
    restFrom_found found, unclosed]
  rfl

end Spaced

theorem emptyTurn_missed (missed : offsetOf? (openWord tag ++ [' ']) rest = none) :
    emptyTurn (before ++ rest) tag (utf8Length before) = .ok (.ended []) := by
  simp only [emptyTurn, restFrom_append, bind, Except.bind, missed]
  rfl

theorem emptyTurn_steady (text tag : List Char) :
    Steady text (emptyTurn text tag) fun _ rest => Markup.emptyElements rest tag := by
  rintro before rest rfl
  rcases found_or_missed (openWord tag ++ [' ']) rest with ⟨skipped, behind, found⟩ | ⟨missed, nowhere⟩
  · rcases found_or_missed ['>'] behind with ⟨written, after, closed⟩ | ⟨unclosed, nowhere⟩
    · have further : rest = skipped ++ (openWord tag ++ [' ']) ++ written ++ '>' :: after := by
        rw [found.text_eq, closed.text_eq]
        simp only [List.append_assoc, List.cons_append, List.nil_append]
      exact ⟨_, emptyTurn_found found closed,
        .onward (by simp) further (emptyElements_found found closed)⟩
    · exact ⟨_, emptyTurn_unclosed found nowhere, .of_eq (emptyElements_unclosed found unclosed)⟩
  · exact ⟨_, emptyTurn_missed nowhere, .of_eq (emptyElements_missed missed)⟩

end Elements

section Values

variable {word name before rest skipped behind : List Char}

section Quoted

variable (found : Found (name ++ ['=', '"']) skipped behind rest)

include found

theorem attributeTurn_found {inside after : List Char} (closed : Found ['"'] inside after behind) :
    attributeTurn (before ++ rest) name (utf8Length before) =
      .ok (if (before ++ skipped).getLast?.all isBlank then .ended (some inside)
        else .onward (utf8Length (before ++ (skipped ++ (name ++ ['=', '"']) ++ inside))) id) := by
  have part := slice_found closed (before ++ (skipped ++ (name ++ ['=', '"'])))
  rw [← found_split found] at part
  simp only [attributeTurn, restFrom_append, bind, Except.bind, found.offsetOf?, offset_behind,
    slice_found_start found, restFrom_found found, closed.offsetOf?, part]
  rw [← utf8Length_append, List.append_assoc before]
  split <;> rfl

theorem attributeTurn_unquoted (unquoted : offsetOf? ['"'] behind = none) :
    attributeTurn (before ++ rest) name (utf8Length before) = .ok (.ended none) := by
  simp only [attributeTurn, restFrom_append, bind, Except.bind, found.offsetOf?, offset_behind,
    slice_found_start found, restFrom_found found, unquoted]
  rfl

end Quoted

theorem attributeTurn_missed (missed : offsetOf? (name ++ ['=', '"']) rest = none) :
    attributeTurn (before ++ rest) name (utf8Length before) = .ok (.ended none) := by
  simp only [attributeTurn, restFrom_append, bind, Except.bind, missed]
  rfl

theorem attributeTurn_steady (text name : List Char) :
    Steady text (attributeTurn text name) fun before rest =>
      attributeFrom? (name ++ ['=', '"']) before.getLast? rest := by
  rintro before rest rfl
  rcases found_or_missed (name ++ ['=', '"']) rest with ⟨skipped, behind, found⟩ | ⟨missed, nowhere⟩
  · rcases found_or_missed ['"'] behind with ⟨inside, after, closed⟩ | ⟨unclosed, nowhere⟩
    · have next := attributeFrom?_quoted found (by simp) closed before.getLast?
      rw [lastOr_getLast?] at next
      refine ⟨_, attributeTurn_found found closed, ?_⟩
      split
      · rename_i boundary
        exact .of_eq (next.trans (if_pos boundary))
      · rename_i joined
        have further : rest = skipped ++ (name ++ ['=', '"']) ++ inside ++ '"' :: after := by
          rw [found.text_eq, closed.text_eq]
          simp only [List.append_assoc, List.cons_append, List.nil_append]
        have last : (before ++ (skipped ++ (name ++ ['=', '"']) ++ inside)).getLast? =
            lastOr (some '"') inside := by
          rw [← List.append_assoc before, ← lastOr_getLast?]
          simp [List.getLast?_append]
        refine .onward (by simp) further (next.trans ?_)
        rw [if_neg joined, last]
        rfl
    · exact ⟨_, attributeTurn_unquoted found nowhere, .of_eq (attributeFrom?_unclosed found unclosed _)⟩
  · exact ⟨_, attributeTurn_missed nowhere, .of_eq (attributeFrom?_nowhere missed _)⟩

end Values

/-- An offset behind another one, between two characters of the text and directly after a bracket. -/
structure PastBracket (text : List Char) (start stop : Nat) : Prop where
  later : start < stop
  inside : stop ≤ utf8Length text
  boundary : IsBoundary text stop
  bracket : ∃ before after, text = before ++ '>' :: after ∧ stop = utf8Length before + 1

theorem openTagEnd?_past {text tag : List Char} {start stop : Nat} (boundary : IsBoundary text start)
    (found : openTagEnd? text tag start = some stop) : PastBracket text start stop := by
  obtain ⟨before, rest, rfl, rfl⟩ := boundary
  rw [openTagEnd?_append, Option.map_eq_some_iff] at found
  obtain ⟨after, opened, rfl⟩ := found
  obtain ⟨passed, _, rfl⟩ := afterOpenTag?_split opened
  have shape : before ++ (passed ++ '>' :: after) = before ++ passed ++ ['>'] ++ after := by
    simp only [List.append_assoc, List.singleton_append]
  have stop : utf8Length (before ++ passed ++ ['>']) = _ := offset_eq shape
  have reached : IsBoundary (before ++ (passed ++ '>' :: after)) (utf8Length (before ++ passed ++ ['>'])) :=
    ⟨_, _, shape, rfl⟩
  rw [← stop]
  refine ⟨?_, reached.le, reached, before ++ passed, after, (List.append_assoc ..).symm, utf8Length_append ..⟩
  simp only [utf8Length_append]
  exact Nat.lt_of_le_of_lt (Nat.le_add_right _ _) (Nat.lt_add_of_pos_right (by decide))

/-- No search takes anything from outside the text or inside a character, and every loop ends.  Every tag
that is found ends at a bracket behind the start of the search. -/
theorem searches_stay_inside (text name : List Char) :
    (∀ start, IsBoundary text start →
      openTagEnd text name start = .ok (openTagEnd? text name start) ∧
        ∀ stop, openTagEnd? text name start = some stop → PastBracket text start stop) ∧
    elementText text name = .ok (elementText? text name) ∧
    blocks text name = .ok (Markup.blocks text name) ∧
    emptyElements text name = .ok (Markup.emptyElements text name) ∧
    attributeValue text name = .ok (attribute? text name) ∧
    Advances text (tagTurn text name) ∧ Advances text (blockTurn text name) ∧
    Advances text (emptyTurn text name) ∧ Advances text (attributeTurn text name) := by
  refine ⟨fun start boundary => ⟨?_, fun stop => openTagEnd?_past boundary⟩, elementText_eq text name,
    ?_, ?_, ?_, (tagTurn_steady text name).advances, (blockTurn_steady text name).advances,
    (emptyTurn_steady text name).advances, (attributeTurn_steady text name).advances⟩
  · obtain ⟨before, rest, rfl, rfl⟩ := boundary
    rw [openTagEnd, (tagTurn_steady _ name).loopFrom rfl, openTagEnd?_append]
  · exact (blockTurn_steady text name).loopFrom (List.nil_append text).symm
  · exact (emptyTurn_steady text name).loopFrom (List.nil_append text).symm
  · exact (attributeTurn_steady text name).loopFrom (List.nil_append text).symm

/-- Past a character of more than one byte, and a bracket inside a value. -/
theorem accented_tag_passed :
    IsBoundary "é<a é=\">\"/>".toList 2 ∧
      openTagEnd "é<a é=\">\"/>".toList ['a'] 2 = .ok (some 10) ∧
      PastBracket "é<a é=\">\"/>".toList 2 10 := by
  have boundary : IsBoundary "é<a é=\">\"/>".toList 2 := ⟨['é'], "<a é=\">\"/>".toList, rfl, rfl⟩
  have found : openTagEnd? "é<a é=\">\"/>".toList ['a'] 2 = some 10 := by decide +kernel
  obtain ⟨done, past⟩ := (searches_stay_inside "é<a é=\">\"/>".toList ['a']).1 2 boundary
  rw [found] at done
  exact ⟨boundary, done, past 10 found⟩

end Televisor.Markup.Cursor
