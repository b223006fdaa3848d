import Mathlib.Data.List.Basic
import Televisor.Proofs.Markup.Scanning
import Televisor.Proofs.Text.Slice

namespace Televisor.Markup

open Text

/-! Two searches for elements with attributes.  The one for opening tags takes any blank behind the name,
the one for the attributes of elements takes a space only; otherwise they see the same elements. -/

/-- What stands between the name and the bracket of the next opening tag, and the rest of the text behind
the bracket. -/
def openTag? (tag text : List Char) : Option (List Char × List Char) :=
  match _found : after? (openWord tag) text with
  | none => none
  | some [] => none
  | some (c :: rest) =>
    if c = '>' || isBlank c then splitAtFirst? ['>'] (c :: rest)
    else openTag? tag (c :: rest)
termination_by text.length
decreasing_by
  have bound := after?_length_le _found
  simp only [openWord, List.length_cons] at bound ⊢
  omega

theorem splitAtFirst?_bracket (rest : List Char) : splitAtFirst? ['>'] ('>' :: rest) = some ([], rest) := by
  have here : Found ['>'] [] rest ('>' :: rest) := .here rest
  exact here.splitAtFirst?

/-- It is the search for the end of an opening tag that also keeps what it passes over. -/
theorem afterOpenTag?_eq_openTag? (tag text : List Char) :
    afterOpenTag? tag text = (openTag? tag text).map (·.2) := by
  fun_induction openTag? tag text with
  | case1 text missed => rw [afterOpenTag?_eq, missed]; rfl
  | case2 text found => rw [afterOpenTag?_eq, found]; rfl
  | case3 text c rest found ends =>
      rw [afterOpenTag?_eq, found, Option.bind_some]
      dsimp only
      split
      · rename_i bracket
        rw [bracket, splitAtFirst?_bracket, Option.map_some]
      · rename_i noBracket
        rw [if_pos (by simpa [noBracket] using ends), afterBracket?, splitAtFirst?, Option.map_map]
        exact Option.map_id'.symm
  | case4 text c rest found goes ih =>
      rw [Bool.or_eq_true, not_or, decide_eq_true_eq] at goes
      rw [afterOpenTag?_eq, found, Option.bind_some]
      dsimp only
      rw [if_neg goes.1, if_neg goes.2, ih]

theorem openTag?_length_lt {tag text written rest : List Char}
    (found : openTag? tag text = some (written, rest)) : rest.length < text.length := by
  have after : afterOpenTag? tag text = some rest := by
    rw [afterOpenTag?_eq_openTag?, found, Option.map_some]
  exact afterOpenTag?_length_lt after

/-- What the opening tags of a name hold, each searched for behind the one before. -/
def openTags (text tag : List Char) : List (List Char) :=
  match _found : openTag? tag text with
  | none => []
  | some (written, rest) => written :: openTags rest tag
termination_by text.length
decreasing_by exact openTag?_length_lt _found

/-- What of an opening tag is told as attributes: what stands behind the first space that follows the
name, or else behind the name again and a space. -/
def spacedPart? (tag written : List Char) : Option (List Char) :=
  (after? (openWord tag ++ [' ']) (openWord tag ++ written)).map (trimEnd '/')

section Words

variable {word more text : List Char}

/-- A word that goes on is found where its beginning first is, or later. -/
theorem after?_longer {skipped behind : List Char} (found : Found word skipped behind text)
    (more : List Char) : after? (word ++ more) text = after? (word ++ more) (word ++ behind) := by
  induction found with
  | here behind => rfl
  | later missed _ ih =>
      rw [after?_missed, ih]
      exact fun begins => missed ((List.prefix_append word more).trans begins)

theorem after?_longer_missed (missed : after? word text = none) (more : List Char) :
    after? (word ++ more) text = none := by
  rw [after?_eq_none] at missed ⊢
  exact fun longer => missed ((List.prefix_append word more).isInfix.trans longer)

/-- A word is found before a character that it does not have, or behind it. -/
theorem after?_around {stop : Char} (free : stop ∉ word) (nonempty : word ≠ []) (text rest : List Char) :
    after? word (text ++ stop :: rest) =
      ((after? word text).map (· ++ stop :: rest)).or (after? word rest) := by
  induction text with
  | nil =>
      have apart : ¬ word <+: [] ++ stop :: rest := fun begins =>
        nonempty (List.prefix_nil.mp (prefix_before begins free))
      have nowhere : after? word [] = none := by
        rw [after?, if_neg (by simpa using nonempty)]
      rw [nowhere, List.nil_append, after?_missed apart]
      rfl
  | cons c text ih =>
      by_cases begins : word <+: c :: text
      · obtain ⟨behind, joined⟩ := begins
        rw [← joined, List.append_assoc, after?_here, after?_here]
        rfl
      · have apart : ¬ word <+: c :: text ++ stop :: rest := fun longer =>
          begins (prefix_before longer free)
        rw [List.cons_append] at apart
        rw [List.cons_append, after?_missed apart, after?_missed begins, ih]

end Words

namespace Name

theorem not_mem_spacedWord (tag : Name) : '>' ∉ openWord tag.letters ++ [' '] := by
  rw [openWord, List.cons_append, List.mem_cons, List.mem_append, not_or, not_or]
  exact ⟨by decide, tag.not_mem_closing, by decide⟩

end Name

section Step

variable {tag : Name} {written : List Char}

theorem spacedPart?_nil (tag : List Char) : spacedPart? tag [] = none := by
  have shorter : after? (openWord tag ++ [' ']) (openWord tag ++ []) = none := by
    cases found : after? (openWord tag ++ [' ']) (openWord tag ++ []) with
    | none => rfl
    | some rest =>
        have bound := after?_length_le found
        simp only [List.length_append, List.length_cons, List.length_nil] at bound
        omega
  rw [spacedPart?, shorter, Option.map_none]

theorem spacedPart?_space (tag values : List Char) :
    spacedPart? tag (' ' :: values) = some (trimEnd '/' values) := by
  rw [spacedPart?, List.append_cons _ ' ' values, after?_here, Option.map_some]

/-- Behind a name that goes on or is followed by another blank, the search goes on at what follows. -/
theorem after?_not_spaced {c : Char} (other : c ≠ ' ') (rest : List Char) :
    after? (openWord tag.letters ++ [' ']) (openWord tag.letters ++ c :: rest) =
      after? (openWord tag.letters ++ [' ']) (c :: rest) := by
  have missed : ¬ openWord tag.letters ++ [' '] <+: openWord tag.letters ++ c :: rest := by
    rw [List.prefix_append_right_inj, List.cons_prefix_cons]
    exact fun same => other same.1.symm
  exact (after?_missed missed).trans (after?_skip tag.not_mem_bracket _ _)

/-- At an opening tag that is closed, its part is told before everything that follows. -/
theorem emptyElements_closed (closed : '>' ∉ written) (rest : List Char) :
    emptyElements (openWord tag.letters ++ (written ++ '>' :: rest)) tag.letters =
      (spacedPart? tag.letters written).toList ++ emptyElements rest tag.letters := by
  have around := after?_around tag.not_mem_spacedWord (by simp) (openWord tag.letters ++ written) rest
  rw [← List.append_assoc, spacedPart?]
  cases located : after? (openWord tag.letters ++ [' ']) (openWord tag.letters ++ written) with
  | none =>
      rw [located] at around
      exact emptyElements_congr around
  | some values =>
      rw [located] at around
      -- Within this tag: the word has no bracket, so it does not lie across the one that closes the tag.
      obtain ⟨skipped, place⟩ := found_of_after? located
      obtain ⟨passed, found⟩ := found_of_after? around
      have name : '>' ∉ openWord tag.letters ++ written := by
        rw [List.mem_append, not_or]
        exact ⟨fun inside => tag.not_mem_spacedWord (List.mem_append_left _ inside), closed⟩
      have free : '>' ∉ values := fun inside =>
        name (place.text_eq ▸ List.mem_append_right _ (List.mem_append_right _ inside))
      have left : emptyElements ('>' :: rest) tag.letters = emptyElements rest tag.letters :=
        emptyElements_skip (show '<' ∉ ['>'] by decide) _ _
      rw [emptyElements_found found (.before free rest), left]
      rfl

theorem emptyElements_nowhere {text : List Char} (unclosed : '>' ∉ text) :
    emptyElements text tag.letters = [] := by
  cases located : after? (openWord tag.letters ++ [' ']) text with
  | none => exact emptyElements_missed located
  | some values =>
      obtain ⟨skipped, place⟩ := found_of_after? located
      refine emptyElements_unclosed place (after?_of_not_mem fun inside => ?_)
      exact unclosed (place.text_eq ▸ List.mem_append_right _ (List.mem_append_right _ inside))

/-- What is told of elements with attributes is told of the next opening tag and of what follows it. -/
theorem emptyElements_openTag? (tag : Name) (text : List Char) :
    emptyElements text tag.letters =
      match openTag? tag.letters text with
      | none => []
      | some (written, rest) =>
        (spacedPart? tag.letters written).toList ++ emptyElements rest tag.letters := by
  fun_induction openTag? tag.letters text with
  | case1 text missed => rw [emptyElements_eq, after?_longer_missed missed]
  | case2 text found =>
      obtain ⟨skipped, place⟩ := found_of_after? found
      have shorter := spacedPart?_nil tag.letters
      rw [spacedPart?, Option.map_eq_none_iff] at shorter
      rw [emptyElements_eq, after?_longer place, shorter]
  | case3 text c rest found ends =>
      obtain ⟨skipped, place⟩ := found_of_after? found
      rw [emptyElements_congr (after?_longer place [' '])]
      rcases found_or_missed ['>'] (c :: rest) with ⟨written, after, closed⟩ | ⟨unclosed, _⟩
      · rw [closed.splitAtFirst?, closed.text_eq]
        exact emptyElements_closed closed.not_mem after
      · rw [splitAtFirst?, unclosed]
        refine emptyElements_nowhere fun inside => ?_
        rcases List.mem_append.mp inside with name | behind
        · exact tag.not_mem_spacedWord (List.mem_append_left _ name)
        · exact not_mem_of_missed unclosed behind
  | case4 text c rest found goes ih =>
      obtain ⟨skipped, place⟩ := found_of_after? found
      have other : c ≠ ' ' := by
        rintro rfl
        exact goes rfl
      rw [← ih]
      exact emptyElements_congr ((after?_longer place [' ']).trans (after?_not_spaced other rest))

theorem emptyElements_eq_filterMap (tag : Name) (text : List Char) :
    emptyElements text tag.letters = (openTags text tag.letters).filterMap (spacedPart? tag.letters) := by
  fun_induction openTags text tag.letters with
  | case1 text missed => rw [emptyElements_openTag?, missed, List.filterMap_nil]
  | case2 text written rest found ih =>
      rw [emptyElements_openTag?, found]
      dsimp only
      rw [ih, List.filterMap_cons]
      cases spacedPart? tag.letters written <;> rfl

/-- Only behind a space is everything told that stands behind the name. -/
theorem spacedPart?_eq_some_iff (nonempty : written ≠ []) :
    spacedPart? tag.letters written = some (trimEnd '/' written.tail) ↔ written.head? = some ' ' := by
  cases written with
  | nil => exact (nonempty rfl).elim
  | cons c values =>
      rw [List.head?_cons, List.tail_cons, Option.some.injEq]
      constructor
      · intro told
        by_contra other
        rw [spacedPart?, after?_not_spaced other, Option.map_eq_some_iff] at told
        obtain ⟨rest, located, same⟩ := told
        obtain ⟨skipped, place⟩ := found_of_after? located
        have shape : c :: values = (skipped ++ openWord tag.letters) ++ ' ' :: rest := by
          rw [place.text_eq]
          simp only [List.append_assoc, List.singleton_append]
        obtain ⟨first, passed, begun⟩ := List.exists_cons_of_ne_nil
          (show skipped ++ openWord tag.letters ≠ [] by simp [openWord])
        rw [begun, List.cons_append, List.cons.injEq] at shape
        obtain ⟨_, split⟩ := shape
        -- What is found later is shorter, and slashes at the end do not make up for the space before it.
        rw [split, trimEnd_append (by decide)] at same
        have size := congrArg List.length same
        simp only [List.length_append, List.length_cons] at size
        omega
      · rintro rfl
        exact spacedPart?_space tag.letters values

/-- All elements with attributes are told, and in full, exactly if each name is followed by a space. -/
theorem emptyElements_complete_iff (tag : Name) (text : List Char) :
    emptyElements text tag.letters =
        ((openTags text tag.letters).filter (· ≠ [])).map (fun written => trimEnd '/' written.tail) ↔
      ∀ written ∈ openTags text tag.letters, written.head?.all (· = ' ') := by
  have bare : (openTags text tag.letters).filterMap (spacedPart? tag.letters) =
      ((openTags text tag.letters).filter (· ≠ [])).filterMap (spacedPart? tag.letters) := by
    rw [List.filterMap_filter]
    refine List.filterMap_congr fun written _ => ?_
    cases written with
    | nil => rw [spacedPart?_nil]; rfl
    | cons c values => rw [if_pos (by simp)]
  rw [emptyElements_eq_filterMap, bare, List.filterMap_eq_map_iff_forall_eq_some]
  refine forall_congr' fun written => ?_
  rw [List.mem_filter]
  cases written with
  | nil => simp
  | cons c values =>
      rw [spacedPart?_eq_some_iff (List.cons_ne_nil c values)]
      simp

end Step

end Televisor.Markup
