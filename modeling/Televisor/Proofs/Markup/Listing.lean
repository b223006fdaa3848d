import Mathlib.Data.List.Basic
import Televisor.Proofs.Markup.Scanning

namespace Televisor.Markup

open Text

/-! Elements of one name among other text.  The search for elements tells their insides, whatever else is
written between them, and there is no text in which it does not find its way like that. -/

/-- Wherever `<tag` stands in the text, neither a bracket nor a blank follows: a longer name goes on. -/
def Unopened (tag text : List Char) : Prop :=
  ∀ c ∈ text, openWord tag ++ [c] <:+: text → c ≠ '>' ∧ ¬ isBlank c

instance (tag text : List Char) : Decidable (Unopened tag text) :=
  decidable_of_iff (text.all fun c => contains (openWord tag ++ [c]) text → c ≠ '>' ∧ ¬ isBlank c) <| by
    simp only [List.all_eq_true, decide_eq_true_eq, contains_iff, Unopened]

/-- What stands between elements. -/
structure Filler (tag : List Char) where
  text : List Char
  unopened : Unopened tag text

/-- What follows the name in an opening tag, up to its bracket. -/
structure Opening where
  written : List Char
  apart : ∀ c ∈ written.head?, isBlank c
  unended : '>' ∉ written

structure Element (tag : List Char) where
  opening : Opening
  inner : List Char
  unclosed : ¬ closeWord tag <:+: inner

/-- What a text may end with that is no element. -/
inductive Ending (tag : List Char) where
  | nothing
  /-- An element without its closing tag. -/
  | unclosed (element : Element tag)
  /-- An opening tag without its bracket. -/
  | unended (opening : Opening)

/-- Elements, each behind a filler, and what follows the last of them. -/
structure Listing (tag : List Char) where
  parts : List (Filler tag × Element tag)
  last : Filler tag
  ending : Ending tag

variable {tag : List Char}

def Opening.begun (tag : List Char) (opening : Opening) : List Char :=
  openWord tag ++ opening.written

def Element.begun (element : Element tag) : List Char :=
  element.opening.begun tag ++ '>' :: element.inner

def Element.render (element : Element tag) : List Char :=
  element.begun ++ closeWord tag

def Ending.render : Ending tag → List Char
  | .nothing => []
  | .unclosed element => element.begun
  | .unended opening => opening.begun tag

def Listing.render (listing : Listing tag) : List Char :=
  listing.parts.flatMap (fun part => part.1.text ++ part.2.render) ++
    (listing.last.text ++ listing.ending.render)

section Words

variable {first : Char} {word text rest : List Char}

/-- A word that has its first character only once is found before that character, or from it on. -/
theorem after?_before (once : first ∉ word) (text : List Char) (next : ∀ c ∈ rest.head?, c = first) :
    after? (first :: word) (text ++ rest) =
      ((after? (first :: word) text).map (· ++ rest)).or (after? (first :: word) rest) := by
  induction text with
  | nil => rfl
  | cons c text ih =>
      by_cases begins : first :: word <+: c :: text
      · obtain ⟨behind, joined⟩ := begins
        rw [← joined, List.append_assoc, after?_here, after?_here]
        rfl
      · have apart : ¬ first :: word <+: c :: (text ++ rest) := by
          intro longer
          obtain ⟨same, longer⟩ := List.cons_prefix_cons.mp longer
          refine begins (List.cons_prefix_cons.mpr ⟨same, ?_⟩)
          cases rest with
          | nil => rwa [List.append_nil] at longer
          | cons other rest => exact prefix_before (next other rfl ▸ longer) once
        rw [List.cons_append, after?_missed apart, after?_missed begins, ih]

theorem infix_before (once : first ∉ word) (text : List Char) (next : ∀ c ∈ rest.head?, c = first) :
    first :: word <:+: text ++ rest ↔ first :: word <:+: text ∨ first :: word <:+: rest := by
  simp only [← contains_iff, contains, after?_before once text next, Option.isSome_or, Option.isSome_map,
    Bool.or_eq_true]

end Words

section Fillers

variable {text rest : List Char}

theorem after?_openWord (plain : '<' ∉ tag) (text : List Char) (next : ∀ c ∈ rest.head?, c = '<') :
    after? (openWord tag) (text ++ rest) =
      ((after? (openWord tag) text).map (· ++ rest)).or (after? (openWord tag) rest) :=
  after?_before plain text next

theorem Unopened.behind {before : List Char} (unopened : Unopened tag (before ++ rest)) : Unopened tag rest :=
  fun c member inside => unopened c (List.mem_append_right _ member)
    (inside.trans (List.suffix_append before rest).isInfix)

theorem Unopened.following {c : Char} (unopened : Unopened tag text)
    (found : after? (openWord tag) text = some (c :: rest)) :
    (c ≠ '>' ∧ ¬ isBlank c) ∧ Unopened tag (c :: rest) := by
  obtain ⟨skipped, place⟩ := found_of_after? found
  rw [place.text_eq] at unopened
  refine ⟨unopened c (by simp) ⟨skipped, rest, by simp⟩, ?_⟩
  rw [← List.append_assoc] at unopened
  exact unopened.behind

/-- A filler is passed over. -/
theorem afterOpenTag?_unopened (plain : '<' ∉ tag) (unopened : Unopened tag text)
    (next : ∀ c ∈ rest.head?, c = '<') : afterOpenTag? tag (text ++ rest) = afterOpenTag? tag rest := by
  fun_induction afterOpenTag? tag text with
  | case1 text missed =>
      rw [afterOpenTag?_eq, after?_openWord plain text next, missed, afterOpenTag?_eq tag rest]
      rfl
  | case2 text found =>
      -- The text ends with the name, and what follows it opens another tag or is nothing.
      rw [afterOpenTag?_eq, after?_openWord plain text next, found]
      cases rest with
      | nil =>
          rw [afterOpenTag?_nil]
          rfl
      | cons c rest =>
          obtain rfl := next c rfl
          rfl
  | case3 text following found => exact absurd rfl (unopened.following found).1.1
  | case4 text c following found _ blank => exact absurd blank (unopened.following found).1.2
  | case5 text c following found bracket blank ih =>
      rw [← ih (unopened.following found).2, afterOpenTag?_eq, after?_openWord plain text next, found]
      simp [bracket, blank]

end Fillers

section Elements

variable {inner rest : List Char}

theorem Opening.begun_first (opening : Opening) (rest : List Char) :
    ∀ c ∈ (opening.begun tag ++ rest).head?, c = '<' := by
  simp [begun, openWord]

/-- The search goes over a filler to the bracket of the opening tag behind it. -/
theorem afterOpenTag?_filler (plain : '<' ∉ tag) (filler : Filler tag) (opening : Opening)
    (next : ∀ c ∈ rest.head?, c = '>') :
    afterOpenTag? tag (filler.text ++ (opening.begun tag ++ rest)) = afterBracket? rest := by
  rw [afterOpenTag?_unopened plain filler.unopened (opening.begun_first rest), Opening.begun, List.append_assoc]
  exact afterOpenTag?_begun opening.apart opening.unended next

theorem afterOpenTag?_element (plain : '<' ∉ tag) (filler : Filler tag) (element : Element tag)
    (rest : List Char) :
    afterOpenTag? tag (filler.text ++ (element.begun ++ rest)) = some (element.inner ++ rest) := by
  rw [Element.begun, List.append_assoc, List.cons_append,
    afterOpenTag?_filler plain filler element.opening (by simp)]
  exact after?_here ['>'] _

theorem splitAtFirst?_unclosed (plain : '<' ∉ tag) (unclosed : ¬ closeWord tag <:+: inner)
    (rest : List Char) :
    splitAtFirst? (closeWord tag) (inner ++ (closeWord tag ++ rest)) = some (inner, rest) := by
  have once : '<' ∉ '/' :: tag ++ ['>'] := by simp [plain]
  have next : ∀ c ∈ (closeWord tag ++ rest).head?, c = '<' := by simp [closeWord]
  have found : after? (closeWord tag) (inner ++ (closeWord tag ++ rest)) =
      ((after? (closeWord tag) inner).map (· ++ (closeWord tag ++ rest))).or
        (after? (closeWord tag) (closeWord tag ++ rest)) := after?_before once inner next
  refine splitAtFirst?_of_after? (found.trans ?_)
  rw [after?_eq_none.mpr unclosed, after?_here]
  rfl

/-- The next element is told, and the search goes on behind it. -/
theorem blocks_element (plain : '<' ∉ tag) (filler : Filler tag) (element : Element tag) (rest : List Char) :
    blocks (filler.text ++ (element.render ++ rest)) tag = element.inner :: blocks rest tag := by
  rw [blocks_eq, Element.render, List.append_assoc, afterOpenTag?_element plain]
  dsimp only
  rw [splitAtFirst?_unclosed plain element.unclosed]

/-- Nothing is told of what follows the last element. -/
theorem blocks_ending (plain : '<' ∉ tag) (last : Filler tag) (ending : Ending tag) :
    blocks (last.text ++ ending.render) tag = [] := by
  cases ending with
  | nothing =>
      have opened : afterOpenTag? tag (last.text ++ []) = none := by
        rw [afterOpenTag?_unopened plain last.unopened (by simp), afterOpenTag?_nil]
      rw [blocks_eq, Ending.render, opened]
  | unclosed element =>
      have opened : afterOpenTag? tag (last.text ++ element.begun) = some element.inner := by
        simpa using afterOpenTag?_element plain last element []
      rw [blocks_eq, Ending.render, opened]
      dsimp only
      rw [splitAtFirst?, after?_eq_none.mpr element.unclosed]
      rfl
  | unended opening =>
      have opened : afterOpenTag? tag (last.text ++ opening.begun tag) = none := by
        rw [← List.append_nil (opening.begun tag), afterOpenTag?_filler plain last opening (by simp)]
        rfl
      rw [blocks_eq, Ending.render, opened]

end Elements

section Every

variable {word skipped behind text : List Char}

theorem Unopened.of_absent (missing : ¬ openWord tag <:+: text) : Unopened tag text :=
  fun _ _ inside => absurd ((List.prefix_append _ _).isInfix.trans inside) missing

/-- Text before the tag's name is first found behind a bracket, the name, and text with which it goes on. -/
theorem Unopened.append (plain : '<' ∉ tag) (missing : ¬ openWord tag <:+: skipped)
    (unopened : Unopened tag behind) (goes : ∀ c ∈ behind.head?, c ≠ '>' ∧ ¬ isBlank c) :
    Unopened tag (skipped ++ (openWord tag ++ behind)) := by
  intro c _ inside
  by_contra ends
  have once : '<' ∉ tag ++ [c] := by
    rw [List.mem_append, List.mem_singleton, not_or]
    refine ⟨plain, ?_⟩
    rintro rfl
    exact ends (by decide)
  rcases (infix_before once skipped (by simp [openWord])).mp inside with early | late
  · exact missing ((List.prefix_append (openWord tag) [c]).isInfix.trans early)
  · rw [openWord, List.cons_append, List.infix_cons_iff, infix_skip plain] at late
    rcases late with begins | later
    · have first : [c] <+: behind := by simpa using begins
      obtain ⟨rest, rfl⟩ := first
      exact ends (goes c rfl)
    · exact ends (unopened c (later.subset (by simp)) later)

theorem exists_opening (ends : ∀ c ∈ text.head?, c = '>' ∨ isBlank c) :
    ∃ (opening : Opening) (rest : List Char), text = opening.written ++ rest ∧ ∀ c ∈ rest.head?, c = '>' := by
  refine ⟨⟨text.takeWhile (· != '>'), ?_, ?_⟩, text.dropWhile (· != '>'),
    List.takeWhile_append_dropWhile.symm, fun c first => ?_⟩
  · intro c first
    rw [List.head?_takeWhile, Option.mem_def, Option.filter_eq_some_iff] at first
    exact (ends c first.1).resolve_left (by simpa using first.2)
  · exact fun inside => absurd (List.all_eq_true.mp List.all_takeWhile _ inside) (by decide)
  · have stops := List.head?_dropWhile_not (· != '>') text
    rw [first] at stops
    simpa using stops

/-- A text does not open the tag, or it begins with a filler and an opening tag. -/
theorem unopened_or_begun (plain : '<' ∉ tag) (text : List Char) :
    Unopened tag text ∨ ∃ (filler : Filler tag) (opening : Opening) (rest : List Char),
      text = filler.text ++ (opening.begun tag ++ rest) ∧ ∀ c ∈ rest.head?, c = '>' := by
  rcases found_or_missed (openWord tag) text with ⟨skipped, behind, place⟩ | ⟨missed, _⟩
  · have missing := place.absent nofun
    by_cases ends : ∀ c ∈ behind.head?, c = '>' ∨ isBlank c
    · obtain ⟨opening, rest, split, next⟩ := exists_opening ends
      refine .inr ⟨⟨skipped, .of_absent missing⟩, opening, rest, ?_, next⟩
      rw [place.text_eq, split, Opening.begun, List.append_assoc]
    · have goes : ∀ c ∈ behind.head?, c ≠ '>' ∧ ¬ isBlank c := by
        intro c first
        rw [first] at ends
        simpa using ends
      -- A longer name: the first tag that is opened behind it is the first one of all.
      rcases unopened_or_begun plain behind with unopened | ⟨filler, opening, rest, split, next⟩
      · exact .inl (place.text_eq ▸ .append plain missing unopened goes)
      · have longer : Unopened tag (skipped ++ (openWord tag ++ filler.text)) := by
          refine .append plain missing filler.unopened fun c first => goes c ?_
          rw [split, List.head?_append, Option.mem_def.mp first]
          rfl
        refine .inr ⟨⟨_, longer⟩, opening, rest, ?_, next⟩
        rw [place.text_eq, split]
        simp only [List.append_assoc]
  · exact .inl (.of_absent (after?_eq_none.mp missed))
termination_by text.length
decreasing_by
  have size := congrArg List.length place.text_eq
  simp only [openWord, List.length_append, List.length_cons] at size
  omega

/-- By recursion on what follows the first element. -/
theorem exists_listing (plain : '<' ∉ tag) (text : List Char) : ∃ listing : Listing tag, listing.render = text := by
  rcases unopened_or_begun plain text with unopened | ⟨filler, opening, rest, split, next⟩
  · exact ⟨⟨[], ⟨text, unopened⟩, .nothing⟩, List.append_nil text⟩
  cases rest with
  | nil =>
      rw [List.append_nil] at split
      exact ⟨⟨[], filler, .unended opening⟩, split.symm⟩
  | cons c inner =>
      obtain rfl := next c rfl
      rcases found_or_missed (closeWord tag) inner with ⟨inside, after, closed⟩ | ⟨unclosed, _⟩
      · obtain ⟨listing, same⟩ := exists_listing plain after
        let element : Element tag := ⟨opening, inside, closed.absent nofun⟩
        refine ⟨{ listing with parts := (filler, element) :: listing.parts }, ?_⟩
        rw [split, closed.text_eq, ← same]
        simp [Listing.render, Element.render, Element.begun, element]
      · exact ⟨⟨[], filler, .unclosed ⟨opening, inner, after?_eq_none.mp unclosed⟩⟩, split.symm⟩
termination_by text.length
decreasing_by
  have size := congrArg List.length split
  simp only [closed.text_eq, List.length_append, List.length_cons] at size
  omega

end Every

/-- The insides of the elements are told, in order, whatever stands between them and whatever the text ends
with; and there is no other text than such a listing. -/
theorem blocks_recovered (plain : '<' ∉ tag) :
    (∀ (parts : List (Filler tag × Element tag)) (last : Filler tag) (ending : Ending tag),
      blocks (Listing.render ⟨parts, last, ending⟩) tag = parts.map (·.2.inner)) ∧
    ∀ text : List Char, ∃ listing : Listing tag, listing.render = text := by
  refine ⟨fun parts last ending => ?_, exists_listing plain⟩
  unfold Listing.render
  dsimp only
  induction parts with
  | nil => exact blocks_ending plain last ending
  | cons part parts ih =>
      rw [List.flatMap_cons, List.append_assoc, List.append_assoc, blocks_element plain, ih, List.map_cons]

/-- A longer name and a stray closing tag stand before the elements, an opening tag stands inside of the
first, and the last one is not closed. -/
def services : Listing "service".toList where
  parts := [
    (⟨"<serviceList></service>".toList, by decide +kernel⟩,
      ⟨⟨[], nofun, by decide⟩, "<service>A".toList, by decide +kernel⟩),
    (⟨"<service/>".toList, by decide +kernel⟩,
      ⟨⟨"\tid=\"<service \"".toList, by simp; decide, by decide +kernel⟩, [], by decide +kernel⟩)]
  last := ⟨"</serviceList>".toList, by decide +kernel⟩
  ending := .unclosed ⟨⟨[' '], by simp; decide, by decide⟩, "B</service".toList, by decide +kernel⟩

theorem services_recovered :
    '<' ∉ "service".toList ∧
      blocks ("<serviceList></service><service><service>A</service>".toList ++
        "<service/><service\tid=\"<service \"></service></serviceList><service >B</service".toList)
        "service".toList = ["<service>A".toList, []] := by
  have plain : '<' ∉ "service".toList := by decide +kernel
  have recovered := (blocks_recovered plain).1 services.parts services.last services.ending
  have written : services.render = "<serviceList></service><service><service>A</service>".toList ++
      "<service/><service\tid=\"<service \"></service></serviceList><service >B</service".toList := by
    decide +kernel
  exact ⟨plain, written ▸ recovered⟩

end Televisor.Markup
