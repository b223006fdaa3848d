import Televisor.Proofs.Text.Slice

namespace Televisor.Text

/-! Runs of blanks.  Where a search looks for a word without blanks, it does not matter how long the runs
around the word are or which blanks they are made of. -/

/-- Of every run of blanks the first stays, and of that only whether it is a space.  The text stands in
such a run already, or not. -/
def condense : (running : Bool) → List Char → List Char
  | _, [] => []
  | running, c :: rest =>
    if isBlank c then
      if running then condense true rest else (if c = ' ' then ' ' else '\t') :: condense true rest
    else c :: condense false rest

section Condense

variable {running : Bool} {c : Char} {text rest word : List Char}

@[simp] theorem condense_nil (running : Bool) : condense running [] = [] := by
  rw [condense]

theorem condense_solid (solid : ¬ isBlank c) (running : Bool) (rest : List Char) :
    condense running (c :: rest) = c :: condense false rest := by
  rw [condense, if_neg solid]

theorem condense_running (blank : isBlank c) (rest : List Char) :
    condense true (c :: rest) = condense true rest := by
  rw [condense, if_pos blank, if_pos rfl]

/-- The first blank of a run. -/
theorem condense_blank (blank : isBlank c) :
    ∃ mark, isBlank mark ∧ (mark = ' ' ↔ c = ' ') ∧
      ∀ rest, condense false (c :: rest) = mark :: condense true rest := by
  by_cases space : c = ' '
  · subst space
    exact ⟨' ', by decide, Iff.rfl, fun _ => rfl⟩
  · refine ⟨'\t', by decide, by simp [space], fun rest => ?_⟩
    rw [condense, if_pos blank, if_neg Bool.false_ne_true, if_neg space]

/-- Whether a text stands in a run of blanks once some of it has been passed over. -/
def runsOn (running : Bool) (text : List Char) : Bool :=
  (text.getLast?.map isBlank).getD running

theorem runsOn_cons (running : Bool) (c : Char) (text : List Char) :
    runsOn running (c :: text) = runsOn (isBlank c) text := by
  rw [runsOn, runsOn, List.getLast?_cons]
  cases text.getLast? <;> rfl

theorem condense_append (running : Bool) (text rest : List Char) :
    condense running (text ++ rest) = condense running text ++ condense (runsOn running text) rest := by
  induction text generalizing running with
  | nil => rfl
  | cons c text ih =>
      rw [runsOn_cons, List.cons_append]
      by_cases blank : isBlank c
      · cases running with
        | true => rw [condense_running blank, condense_running blank, ih, blank]
        | false =>
            obtain ⟨mark, _, _, shape⟩ := condense_blank blank
            rw [shape, shape, ih, blank, List.cons_append]
      · rw [condense_solid blank, condense_solid blank, ih, Bool.eq_false_iff.mpr blank, List.cons_append]

theorem condense_of_solid (solid : ∀ c ∈ text, ¬ isBlank c) (running : Bool) : condense running text = text := by
  induction text generalizing running with
  | nil => exact condense_nil running
  | cons c text ih =>
      obtain ⟨first, others⟩ := List.forall_mem_cons.mp solid
      rw [condense_solid first, ih others]

/-- A text without blanks that looks the same once runs have been cut short is the same. -/
theorem condense_eq_iff (solid : ∀ c ∈ word, ¬ isBlank c) : condense false text = word ↔ text = word := by
  constructor
  · intro same
    induction text generalizing word with
    | nil => exact same
    | cons c text ih =>
        by_cases blank : isBlank c
        · obtain ⟨mark, marked, _, shape⟩ := condense_blank blank
          rw [shape] at same
          exact (solid mark (same ▸ List.mem_cons_self) marked).elim
        · rw [condense_solid blank] at same
          subst same
          obtain ⟨_, others⟩ := List.forall_mem_cons.mp solid
          exact congrArg (c :: ·) (ih others rfl)
  · rintro rfl
    exact condense_of_solid solid false

theorem prefix_of_condense (solid : ∀ c ∈ word, ¬ isBlank c) (begins : word <+: condense false text) :
    word <+: text := by
  induction text generalizing word with
  | nil => exact begins
  | cons c text ih =>
      cases word with
      | nil => exact List.nil_prefix
      | cons w word =>
          obtain ⟨first, others⟩ := List.forall_mem_cons.mp solid
          by_cases blank : isBlank c
          · obtain ⟨mark, marked, _, shape⟩ := condense_blank blank
            rw [shape] at begins
            obtain ⟨rfl, _⟩ := List.cons_prefix_cons.mp begins
            exact (first marked).elim
          · rw [condense_solid blank] at begins
            obtain ⟨rfl, later⟩ := List.cons_prefix_cons.mp begins
            exact List.cons_prefix_cons.mpr ⟨rfl, ih others later⟩

theorem condense_run {blanks : List Char} (blank : ∀ c ∈ blanks, isBlank c) (rest : List Char) :
    condense true (blanks ++ rest) = condense true rest := by
  induction blanks with
  | nil => rfl
  | cons c blanks ih =>
      obtain ⟨first, others⟩ := List.forall_mem_cons.mp blank
      rw [List.cons_append, condense_running first, ih others]

end Condense

/-- Blanks, and others in their place: both begin with a space, or neither does. -/
structure Respacing (blanks others : List Char) : Prop where
  nonempty : blanks ≠ [] ∧ others ≠ []
  blank : (∀ c ∈ blanks, isBlank c) ∧ ∀ c ∈ others, isBlank c
  space : blanks.head? = some ' ' ↔ others.head? = some ' '

namespace Respacing

variable {blanks others : List Char}

theorem condense_eq (spacing : Respacing blanks others) (running : Bool) (rest : List Char) :
    condense running (blanks ++ rest) = condense running (others ++ rest) := by
  cases running with
  | true => rw [condense_run spacing.blank.1, condense_run spacing.blank.2]
  | false =>
      obtain ⟨c, blanks, rfl⟩ := List.exists_cons_of_ne_nil spacing.nonempty.1
      obtain ⟨d, others, rfl⟩ := List.exists_cons_of_ne_nil spacing.nonempty.2
      obtain ⟨blank, run⟩ := List.forall_mem_cons.mp spacing.blank.1
      obtain ⟨other, alike⟩ := List.forall_mem_cons.mp spacing.blank.2
      have space : c = ' ' ↔ d = ' ' := by simpa using spacing.space
      rw [List.cons_append, List.cons_append, condense, condense, if_pos blank, if_pos other,
        condense_run run, condense_run alike]
      simp only [space]

theorem condense_between (spacing : Respacing blanks others) (before after : List Char) :
    condense false (before ++ (blanks ++ after)) = condense false (before ++ (others ++ after)) := by
  rw [condense_append _ before, condense_append _ before, spacing.condense_eq]

end Respacing

/-- A word that is there once runs of blanks have been cut short exactly where it was before.  What follows
it stands in a run, or not. -/
structure Firm (word : List Char) (running : Bool) : Prop where
  first : ∃ c rest, word = c :: rest ∧ ¬ isBlank c
  kept : ∀ before rest, condense before (word ++ rest) = word ++ condense running rest
  unmade : ∀ rest, word <+: condense false rest → word <+: rest

namespace Firm

variable {word text skipped behind : List Char} {after : Bool}

theorem of_solid (nonempty : word ≠ []) (solid : ∀ c ∈ word, ¬ isBlank c) : Firm word false where
  first := by
    obtain ⟨c, rest, rfl⟩ := List.exists_cons_of_ne_nil nonempty
    exact ⟨c, rest, rfl, solid c List.mem_cons_self⟩
  kept := by
    intro before rest
    have still : runsOn before word = false := by
      rw [runsOn, List.getLast?_eq_some_getLast nonempty]
      simpa using solid _ (List.getLast_mem nonempty)
    rw [condense_append, condense_of_solid solid, still]
  unmade _ := prefix_of_condense solid

/-- A space behind a word begins a run. -/
theorem spaced (nonempty : word ≠ []) (solid : ∀ c ∈ word, ¬ isBlank c) : Firm (word ++ [' ']) true where
  first := by
    obtain ⟨c, rest, rfl⟩ := List.exists_cons_of_ne_nil nonempty
    exact ⟨c, rest ++ [' '], rfl, solid c List.mem_cons_self⟩
  kept := by
    intro before rest
    rw [List.append_assoc, (of_solid nonempty solid).kept, List.append_assoc]
    rfl
  unmade := by
    intro rest begins
    obtain ⟨more, rfl⟩ := prefix_of_condense solid ((List.prefix_append word [' ']).trans begins)
    rw [(of_solid nonempty solid).kept, List.prefix_append_right_inj] at begins
    rw [List.prefix_append_right_inj]
    cases more with
    | nil => exact begins
    | cons c more =>
        by_cases blank : isBlank c
        · obtain ⟨mark, _, space, shape⟩ := condense_blank blank
          rw [shape] at begins
          obtain ⟨same, _⟩ := List.cons_prefix_cons.mp begins
          rw [space.mp same.symm]
          exact List.cons_prefix_cons.mpr ⟨rfl, List.nil_prefix⟩
        · rw [condense_solid blank] at begins
          obtain ⟨rfl, _⟩ := List.cons_prefix_cons.mp begins
          exact (blank (by decide)).elim

theorem not_prefix_blank (firm : Firm word after) {c : Char} (blank : isBlank c) (rest : List Char) :
    ¬ word <+: c :: rest := by
  obtain ⟨first, letters, rfl, solid⟩ := firm.first
  intro begins
  obtain ⟨rfl, _⟩ := List.cons_prefix_cons.mp begins
  exact solid blank

theorem not_prefix_condense (firm : Firm word after) {c : Char} {rest : List Char} (solid : ¬ isBlank c)
    (missed : ¬ word <+: c :: rest) : ¬ word <+: c :: condense false rest := by
  rw [← condense_solid solid false rest]
  exact fun begins => missed (firm.unmade _ begins)

theorem found (firm : Firm word after) (found : Found word skipped behind text) (running : Bool) :
    Found word (condense running skipped) (condense after behind) (condense running text) := by
  induction found generalizing running with
  | here behind =>
      rw [firm.kept, condense_nil]
      exact .here _
  | @later c skipped behind rest missed _ ih =>
      by_cases blank : isBlank c
      · cases running with
        | true =>
            rw [condense_running blank, condense_running blank]
            exact ih true
        | false =>
            obtain ⟨mark, marked, _, shape⟩ := condense_blank blank
            rw [shape, shape]
            exact .later (firm.not_prefix_blank marked _) (ih true)
      · rw [condense_solid blank, condense_solid blank]
        exact .later (firm.not_prefix_condense blank missed) (ih false)

theorem infix_of_condense (firm : Firm word after) {running : Bool} (inside : word <:+: condense running text) :
    word <:+: text := by
  induction text generalizing running with
  | nil => rwa [condense_nil] at inside
  | cons c text ih =>
      rw [List.infix_cons_iff]
      by_cases blank : isBlank c
      · cases running with
        | true =>
            rw [condense_running blank] at inside
            exact .inr (ih inside)
        | false =>
            obtain ⟨mark, marked, _, shape⟩ := condense_blank blank
            rw [shape, List.infix_cons_iff, or_iff_right (firm.not_prefix_blank marked _)] at inside
            exact .inr (ih inside)
      · rw [condense_solid blank, List.infix_cons_iff] at inside
        refine inside.imp (fun begins => ?_) ih
        rw [← condense_solid blank false text] at begins
        exact firm.unmade _ begins

/-- Searches find the word at the same place, whatever the runs are. -/
theorem after?_condense (firm : Firm word after) (running : Bool) (text : List Char) :
    after? word (condense running text) = (after? word text).map (condense after) := by
  rcases found_or_missed word text with ⟨skipped, behind, found⟩ | ⟨missed, _⟩
  · rw [found.after?, (firm.found found running).after?, Option.map_some]
  · rw [missed, Option.map_none, after?_eq_none]
    exact fun inside => after?_eq_none.mp missed (firm.infix_of_condense inside)

theorem splitAtFirst?_condense (firm : Firm word after) (running : Bool) (text : List Char) :
    splitAtFirst? word (condense running text) =
      (splitAtFirst? word text).map fun found => (condense running found.1, condense after found.2) := by
  rcases found_or_missed word text with ⟨skipped, behind, found⟩ | ⟨missed, _⟩
  · rw [found.splitAtFirst?, (firm.found found running).splitAtFirst?, Option.map_some]
  · rw [splitAtFirst?, firm.after?_condense, splitAtFirst?, missed]
    rfl

end Firm

section Ends

variable {unwanted : Char}

/-- What is to be trimmed does not stand at the end of a run of blanks. -/
theorem trimEnd_running (solid : ¬ isBlank unwanted) {running : Bool} {text : List Char}
    (runs : runsOn running text) : trimEnd unwanted text = text := by
  rcases List.eq_nil_or_concat text with rfl | ⟨front, last, rfl⟩
  · exact trimEnd_nil unwanted
  · rw [List.concat_eq_append] at runs ⊢
    rw [runsOn, List.getLast?_concat] at runs
    apply trimEnd_other
    rintro rfl
    exact solid runs

theorem trimEnd_condense (solid : ¬ isBlank unwanted) (running : Bool) (text : List Char) :
    trimEnd unwanted (condense running text) = condense running (trimEnd unwanted text) := by
  induction text using List.reverseRecOn with
  | nil => rw [condense_nil, trimEnd_nil, condense_nil]
  | append_singleton text last ih =>
      by_cases same : last = unwanted
      · subst same
        rw [condense_append, condense_solid solid, condense_nil, trimEnd_same, trimEnd_same, ih]
      · rw [trimEnd_other same, condense_append]
        by_cases blank : isBlank last
        · cases runs : runsOn running text with
          | true =>
              rw [condense_running blank, condense_nil, List.append_nil, ih, trimEnd_running solid runs]
          | false =>
              obtain ⟨mark, marked, _, shape⟩ := condense_blank blank
              rw [shape, condense_nil]
              apply trimEnd_other
              rintro rfl
              exact solid marked
        · rw [condense_solid blank, condense_nil, trimEnd_other same]

end Ends

end Televisor.Text
