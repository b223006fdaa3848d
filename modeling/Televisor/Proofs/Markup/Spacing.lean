import Televisor.Proofs.Markup.Attributes
import Televisor.Proofs.Markup.Unescaping
import Televisor.Proofs.Text.Spacing

namespace Televisor.Markup

open Text

/-! What the searches make of a text whose runs of blanks have been cut short: what they make of the text
itself, cut short. -/

namespace Name

variable (tag : Name)

theorem openWord_ne_nil : openWord tag.letters ≠ [] :=
  List.cons_ne_nil _ _

theorem openWord_solid : ∀ c ∈ openWord tag.letters, ¬ isBlank c :=
  List.forall_mem_cons.mpr ⟨by decide, fun _ => tag.not_isBlank⟩

theorem firm_openWord : Firm (openWord tag.letters) false :=
  .of_solid tag.openWord_ne_nil tag.openWord_solid

theorem firm_spacedWord : Firm (openWord tag.letters ++ [' ']) true :=
  .spaced tag.openWord_ne_nil tag.openWord_solid

theorem firm_closeWord : Firm (closeWord tag.letters) false := by
  refine .of_solid (List.cons_ne_nil _ _) ?_
  simp only [closeWord, List.cons_append, List.forall_mem_cons, List.forall_mem_append]
  exact ⟨by decide, by decide, fun _ => tag.not_isBlank, by decide, List.forall_mem_nil _⟩

theorem firm_attributeWord : Firm (attributeWord tag) false := by
  refine .of_solid (by simp [attributeWord]) ?_
  simp only [attributeWord, List.forall_mem_append]
  exact ⟨fun _ => tag.not_isBlank, not_isBlank_of_all (by decide)⟩

end Name

theorem firm_bracket : Firm ['>'] false :=
  .of_solid (List.cons_ne_nil _ _) (not_isBlank_of_all (by decide))

theorem firm_quote : Firm ['"'] false :=
  .of_solid (List.cons_ne_nil _ _) (not_isBlank_of_all (by decide))

section Tags

variable (tag : Name)

theorem afterOpenTag?_condense (running : Bool) (text : List Char) :
    afterOpenTag? tag.letters (condense running text) =
      (afterOpenTag? tag.letters text).map (condense false) := by
  fun_induction afterOpenTag? tag.letters text generalizing running with
  | case1 text missed =>
      rw [afterOpenTag?_eq, tag.firm_openWord.after?_condense, missed]
      rfl
  | case2 text found =>
      rw [afterOpenTag?_eq, tag.firm_openWord.after?_condense, found]
      rfl
  | case3 text rest found =>
      rw [afterOpenTag?_eq, tag.firm_openWord.after?_condense, found, Option.map_some,
        condense_solid (by decide)]
      rfl
  | case4 text c rest found noBracket blank =>
      obtain ⟨mark, marked, _, shape⟩ := condense_blank blank
      have other : mark ≠ '>' := by
        rintro rfl
        exact absurd marked (by decide)
      have closed := firm_bracket.after?_condense false (c :: rest)
      rw [shape] at closed
      rw [afterOpenTag?_eq, tag.firm_openWord.after?_condense, found, Option.map_some, shape,
        Option.bind_some]
      dsimp only
      rw [if_neg other, if_pos marked, afterBracket?, closed, afterBracket?]
  | case5 text c rest found noBracket solid ih =>
      have later := ih false
      rw [condense_solid solid] at later
      rw [afterOpenTag?_eq, tag.firm_openWord.after?_condense, found, Option.map_some,
        condense_solid solid, Option.bind_some]
      dsimp only
      rw [if_neg noBracket, if_neg solid, later]

theorem elementText?_condense (running : Bool) (text : List Char) :
    elementText? (condense running text) tag.letters =
      (elementText? text tag.letters).map (condense false) := by
  rw [elementText?, afterOpenTag?_condense, elementText?]
  cases afterOpenTag? tag.letters text with
  | none => rfl
  | some inner =>
      simp only [Option.map_some, Option.bind_eq_bind, Option.bind_some,
        tag.firm_closeWord.splitAtFirst?_condense]
      cases splitAtFirst? (closeWord tag.letters) inner <;> rfl

theorem emptyElements_condense (running : Bool) (text : List Char) :
    emptyElements (condense running text) tag.letters =
      (emptyElements text tag.letters).map (condense true) := by
  rcases found_or_missed (openWord tag.letters ++ [' ']) text with ⟨skipped, behind, found⟩ | ⟨missed, _⟩
  · have place := tag.firm_spacedWord.found found running
    rcases found_or_missed ['>'] behind with ⟨written, rest, closed⟩ | ⟨unclosed, _⟩
    · have shorter : ('>' :: rest).length < text.length := by
        simp only [found.text_eq, closed.text_eq, List.length_append, List.length_cons]
        omega
      have later := emptyElements_condense false ('>' :: rest)
      rw [condense_solid (by decide)] at later
      rw [emptyElements_found place (firm_bracket.found closed true), emptyElements_found found closed,
        later, List.map_cons, trimEnd_condense (by decide)]
    · have unclosed' : after? ['>'] (condense true behind) = none := by
        rw [firm_bracket.after?_condense, unclosed, Option.map_none]
      rw [emptyElements_unclosed place unclosed', emptyElements_unclosed found unclosed, List.map_nil]
  · have nowhere : after? (openWord tag.letters ++ [' ']) (condense running text) = none := by
      rw [tag.firm_spacedWord.after?_condense, missed, Option.map_none]
    rw [emptyElements_missed nowhere, emptyElements_missed missed, List.map_nil]
termination_by text.length

end Tags

section Lookup

/-- Whether a blank stands last does not change either. -/
theorem lastOr_condense {running : Bool} {last other : Option Char}
    (same : other.all isBlank = last.all isBlank) (inside : running = true → last.all isBlank)
    (text : List Char) :
    (lastOr other (condense running text)).all isBlank = (lastOr last text).all isBlank := by
  induction text generalizing running last other with
  | nil => rw [condense_nil]; exact same
  | cons c text ih =>
      rw [lastOr_cons last]
      by_cases blank : isBlank c
      · cases running with
        | true =>
            rw [condense_running blank]
            exact ih (by rw [same, inside rfl]; exact blank.symm) fun _ => blank
        | false =>
            obtain ⟨mark, marked, _, shape⟩ := condense_blank blank
            rw [shape, lastOr_cons]
            exact ih (marked.trans blank.symm) fun _ => blank
      · rw [condense_solid blank, lastOr_cons]
        exact ih rfl nofun

theorem attributeFrom?_condense (name : Name) {running : Bool} {last other : Option Char}
    (same : other.all isBlank = last.all isBlank) (inside : running = true → last.all isBlank)
    (text : List Char) :
    attributeFrom? (attributeWord name) other (condense running text) =
      (attributeFrom? (attributeWord name) last text).map (condense false) := by
  have nonempty : attributeWord name ≠ [] := by simp [attributeWord]
  rcases found_or_missed (attributeWord name) text with ⟨skipped, behind, found⟩ | ⟨missed, _⟩
  · have place := name.firm_attributeWord.found found running
    rcases found_or_missed ['"'] behind with ⟨value, rest, closed⟩ | ⟨unclosed, _⟩
    · have shorter : ('"' :: rest).length < text.length := by
        have positive := List.length_pos_iff.mpr nonempty
        simp only [found.text_eq, closed.text_eq, List.length_append, List.length_cons]
        omega
      rw [attributeFrom?_quoted place nonempty (firm_quote.found closed false),
        attributeFrom?_quoted found nonempty closed, lastOr_condense same inside]
      split
      · rfl
      · have still {last : Option Char} (runs : false = true) : last.all isBlank :=
          (Bool.false_ne_true runs).elim
        have ended := lastOr_condense (show (some '"').all isBlank = (some '"').all isBlank from rfl) still value
        have later := attributeFrom?_condense name ended still ('"' :: rest)
        rwa [condense_solid (by decide)] at later
    · have unclosed' : after? ['"'] (condense false behind) = none := by
        rw [firm_quote.after?_condense, unclosed, Option.map_none]
      rw [attributeFrom?_unclosed place unclosed', attributeFrom?_unclosed found unclosed, Option.map_none]
  · have nowhere : after? (attributeWord name) (condense running text) = none := by
      rw [name.firm_attributeWord.after?_condense, missed, Option.map_none]
    rw [attributeFrom?_nowhere nowhere, attributeFrom?_nowhere missed, Option.map_none]
termination_by text.length

theorem attribute?_condense (name : Name) (attributes : List Char) :
    attribute? (condense true attributes) name.letters =
      (attribute? attributes name.letters).map (condense false) :=
  attributeFrom?_condense name rfl (fun _ => rfl) attributes

end Lookup

section Escapes

variable {word replacement : List Char}

theorem replaceAll_condense (firm : Firm word false) (written : Firm replacement false) (running : Bool)
    (text : List Char) :
    replaceAll word replacement (condense running text) =
      condense running (replaceAll word replacement text) := by
  have nonempty : word ≠ [] := by
    obtain ⟨c, rest, rfl, _⟩ := firm.first
    exact List.cons_ne_nil c rest
  cases text with
  | nil => rw [condense_nil, replaceAll, condense_nil]
  | cons c rest =>
      by_cases begins : word <+: c :: rest
      · obtain ⟨more, joined⟩ := begins
        have shorter : more.length < rest.length + 1 := by
          have positive := List.length_pos_iff.mpr nonempty
          have size := congrArg List.length joined
          rw [List.length_append, List.length_cons] at size
          omega
        rw [← joined, firm.kept, replaceAll_found nonempty, replaceAll_found nonempty, written.kept,
          replaceAll_condense firm written false more]
      · rw [replaceAll_missed begins]
        by_cases blank : isBlank c
        · cases running with
          | true => rw [condense_running blank, condense_running blank, replaceAll_condense firm written]
          | false =>
              obtain ⟨mark, marked, _, shape⟩ := condense_blank blank
              rw [shape, shape, replaceAll_missed (firm.not_prefix_blank marked _),
                replaceAll_condense firm written]
        · rw [condense_solid blank, condense_solid blank,
            replaceAll_missed (firm.not_prefix_condense blank begins), replaceAll_condense firm written]
termination_by text.length

theorem firm_entities : ∀ entity ∈ entities, Firm entity.2.toList false ∧ Firm [entity.1] false := by
  have solid : ∀ entity ∈ entities,
      entity.2.toList ≠ [] ∧ entity.2.toList.all (!isBlank ·) ∧ [entity.1].all (!isBlank ·) := by
    decide
  intro entity known
  obtain ⟨nonempty, word, character⟩ := solid entity known
  exact ⟨.of_solid nonempty (not_isBlank_of_all word),
    .of_solid (List.cons_ne_nil _ _) (not_isBlank_of_all character)⟩

theorem unescape_condense (running : Bool) (text : List Char) :
    unescape (condense running text) = condense running (unescape text) := by
  have replaced : ∀ table : List (Char × String),
      (∀ entity ∈ table, Firm entity.2.toList false ∧ Firm [entity.1] false) → ∀ text,
        table.foldl (fun text entity => replaceAll entity.2.toList [entity.1] text) (condense running text) =
          condense running (table.foldl (fun text entity => replaceAll entity.2.toList [entity.1] text) text) := by
    intro table firm
    induction table with
    | nil => exact fun _ => rfl
    | cons entity table ih =>
        intro text
        obtain ⟨⟨word, character⟩, others⟩ := List.forall_mem_cons.mp firm
        rw [List.foldl_cons, List.foldl_cons, replaceAll_condense word character, ih others]
  exact replaced entities firm_entities text

end Escapes

end Televisor.Markup
