import Televisor.Text.Search

namespace Televisor.Text

/-! Where a search finds its word, and what trimming leaves. -/

theorem behind?_eq_some {word text rest : List Char} :
    behind? word text = some rest ↔ text = word ++ rest := by
  refine ⟨behind?_joined, ?_⟩
  rintro rfl
  induction word with
  | nil => rfl
  | cons w word ih => rw [List.cons_append, behind?, if_pos rfl, ih]

theorem behind?_eq_none {word text : List Char} : behind? word text = none ↔ ¬ word <+: text := by
  rw [Option.eq_none_iff_forall_ne_some]
  constructor
  · rintro missed ⟨rest, joined⟩
    exact missed rest (behind?_eq_some.mpr joined.symm)
  · intro missed rest found
    exact missed ⟨rest, (behind?_joined found).symm⟩

theorem after?_here (word rest : List Char) : after? word (word ++ rest) = some rest := by
  cases joined : word ++ rest with
  | nil =>
      obtain ⟨rfl, rfl⟩ := List.append_eq_nil_iff.mp joined
      rfl
  | cons c text => rw [after?, ← joined, behind?_eq_some.mpr rfl]

theorem after?_missed {word rest : List Char} {c : Char} (missed : ¬ word <+: c :: rest) :
    after? word (c :: rest) = after? word rest := by
  rw [after?, behind?_eq_none.mpr missed]

/-- A word is not found where its first character is not. -/
theorem after?_skip {first : Char} {passed : List Char} (free : first ∉ passed) (word text : List Char) :
    after? (first :: word) (passed ++ text) = after? (first :: word) text := by
  induction passed with
  | nil => rfl
  | cons c passed ih =>
      rw [List.mem_cons, not_or] at free
      rw [List.cons_append, after?_missed, ih free.2]
      exact fun begins => free.1 (List.cons_prefix_cons.mp begins).1

/-- A word found first where it stands is what the text is split at. -/
theorem splitAtFirst?_of_after? {word before rest : List Char}
    (found : after? word (before ++ (word ++ rest)) = some rest) :
    splitAtFirst? word (before ++ (word ++ rest)) = some (before, rest) := by
  have size : (before ++ (word ++ rest)).length - rest.length - word.length = before.length := by
    simp only [List.length_append]
    omega
  rw [splitAtFirst?, found, Option.map_some, size, List.take_left]

theorem contains_iff {word text : List Char} : contains word text ↔ word <:+: text := by
  unfold contains
  induction text with
  | nil => simp [after?, List.isEmpty_iff]
  | cons c text ih =>
      rw [List.infix_cons_iff]
      by_cases begins : word <+: c :: text
      · obtain ⟨rest, joined⟩ := begins
        rw [← joined, after?_here]
        exact iff_of_true rfl (.inl (List.prefix_append word rest))
      · rw [after?_missed begins, ih, or_iff_right begins]

theorem after?_eq_none {word text : List Char} : after? word text = none ↔ ¬ word <:+: text := by
  rw [← contains_iff, contains]
  cases after? word text <;> simp

/-- A word does not begin in what does not have its first character. -/
theorem infix_skip {first : Char} {passed : List Char} (free : first ∉ passed) (word text : List Char) :
    first :: word <:+: passed ++ text ↔ first :: word <:+: text := by
  rw [← contains_iff, ← contains_iff, contains, contains, after?_skip free]

/-- A word does not end in what does not have its last character. -/
theorem infix_skip_last {last : Char} {passed : List Char} (free : last ∉ passed)
    (word text : List Char) : word ++ [last] <:+: text ++ passed ↔ word ++ [last] <:+: text := by
  have reversed : last ∉ passed.reverse := fun inside => free (List.mem_reverse.mp inside)
  have skipped := infix_skip reversed word.reverse text.reverse
  rw [← List.reverse_append, ← List.reverse_concat, List.reverse_infix, List.reverse_infix] at skipped
  exact skipped

theorem takeWhile_until {stop : Char} {text : List Char} (free : stop ∉ text) (rest : List Char) :
    (text ++ stop :: rest).takeWhile (· != stop) = text := by
  have passed : ∀ c ∈ text, (c != stop) = true := fun c inside =>
    bne_iff_ne.mpr fun same => free (same ▸ inside)
  rw [List.takeWhile_append_of_pos passed, List.takeWhile_cons_of_neg (by simp), List.append_nil]

theorem dropWhile_until {stop : Char} {text : List Char} (free : stop ∉ text) (rest : List Char) :
    (text ++ stop :: rest).dropWhile (· != stop) = stop :: rest := by
  have passed : ∀ c ∈ text, (c != stop) = true := fun c inside =>
    bne_iff_ne.mpr fun same => free (same ▸ inside)
  rw [List.dropWhile_append_of_pos passed, List.dropWhile_cons_of_neg (by simp)]

theorem not_isBlank_of_all {text : List Char} (solid : text.all (!isBlank ·)) : ∀ c ∈ text, ¬ isBlank c := by
  simpa using solid

/-- No blank stands first or last. -/
structure Trimmed (text : List Char) : Prop where
  first : text.head?.all (!isBlank ·)
  last : text.getLast?.all (!isBlank ·)

theorem Trimmed.of_solid {text : List Char} (solid : ∀ c ∈ text, ¬ isBlank c) : Trimmed text where
  first := by
    simpa [Option.all_eq_true] using fun c first => solid c (List.mem_of_head? first)
  last := by
    simpa [Option.all_eq_true] using fun c last => solid c (List.mem_of_getLast? last)

theorem Trimmed.not_isBlank_first {text : List Char} (trimmed : Trimmed text) :
    ∀ c ∈ text.head?, ¬ isBlank c := by
  simpa [Option.all_eq_true] using trimmed.first

theorem Trimmed.not_isBlank_last {text : List Char} (trimmed : Trimmed text) :
    ∀ c ∈ text.getLast?, ¬ isBlank c := by
  simpa [Option.all_eq_true] using trimmed.last

theorem dropWhile_blanks {blanks text : List Char} (blank : ∀ c ∈ blanks, isBlank c)
    (first : ∀ c ∈ text.head?, ¬ isBlank c) :
    (blanks ++ text).dropWhile isBlank = text := by
  rw [List.dropWhile_append_of_pos blank]
  cases text with
  | nil => rfl
  | cons c text => exact List.dropWhile_cons_of_neg (first c rfl)

/-- Trimming takes away the blanks around a text, and nothing else. -/
theorem trimBlanks_padded {before text after : List Char} (leading : ∀ c ∈ before, isBlank c)
    (trailing : ∀ c ∈ after, isBlank c) (trimmed : Trimmed text) :
    trimBlanks (before ++ (text ++ after)) = text := by
  have reversed : ∀ c ∈ after.reverse, isBlank c := fun c inside => trailing c (List.mem_reverse.mp inside)
  unfold trimBlanks
  cases text with
  | nil =>
      have none : (before ++ after ++ []).dropWhile isBlank = [] :=
        dropWhile_blanks (List.forall_mem_append.mpr ⟨leading, trailing⟩) nofun
      rw [List.append_nil] at none
      rw [List.nil_append, none]
      rfl
  | cons c text =>
      have begun : (before ++ (c :: text ++ after)).dropWhile isBlank = c :: text ++ after :=
        dropWhile_blanks leading trimmed.not_isBlank_first
      rw [begun, List.reverse_append, dropWhile_blanks reversed, List.reverse_reverse]
      intro last final
      rw [List.head?_reverse] at final
      exact trimmed.not_isBlank_last last final

/-- What trimming takes away are blanks. -/
theorem trimBlanks_split (text : List Char) :
    ∃ before after, text = before ++ (trimBlanks text ++ after) ∧
      (∀ c ∈ before, isBlank c) ∧ ∀ c ∈ after, isBlank c := by
  have begun := List.takeWhile_append_dropWhile (p := isBlank) (l := text)
  have ended := congrArg List.reverse
    (List.takeWhile_append_dropWhile (p := isBlank) (l := (text.dropWhile isBlank).reverse))
  rw [List.reverse_append, List.reverse_reverse] at ended
  refine ⟨text.takeWhile isBlank, ((text.dropWhile isBlank).reverse.takeWhile isBlank).reverse, ?_,
    List.all_eq_true.mp List.all_takeWhile, fun c inside => ?_⟩
  · rw [trimBlanks, ended, begun]
  · exact List.all_eq_true.mp List.all_takeWhile c (List.mem_reverse.mp inside)

/-- Trimming the end does not go beyond a character that stays. -/
theorem trimEnd_append {unwanted c : Char} (stays : c ≠ unwanted) (text rest : List Char) :
    trimEnd unwanted (text ++ c :: rest) = text ++ c :: trimEnd unwanted rest := by
  have kept : ([c] ++ text.reverse).dropWhile (· == unwanted) = [c] ++ text.reverse :=
    List.dropWhile_cons_of_neg (by simpa using stays)
  have reversed : (text ++ c :: rest).reverse = rest.reverse ++ ([c] ++ text.reverse) := by simp
  rw [trimEnd, reversed, List.dropWhile_append, kept, trimEnd]
  split
  · rename_i nothing
    rw [List.isEmpty_iff.mp nothing]
    simp
  · simp

theorem trimEnd_nil (unwanted : Char) : trimEnd unwanted [] = [] :=
  rfl

theorem trimEnd_same (unwanted : Char) (text : List Char) :
    trimEnd unwanted (text ++ [unwanted]) = trimEnd unwanted text := by
  rw [trimEnd, List.reverse_append, List.reverse_singleton, List.singleton_append,
    List.dropWhile_cons_of_pos (by simp), trimEnd]

theorem trimEnd_other {unwanted last : Char} (stays : last ≠ unwanted) (text : List Char) :
    trimEnd unwanted (text ++ [last]) = text ++ [last] := by
  rw [trimEnd_append stays, trimEnd_nil]

theorem trimEnd_once {unwanted : Char} {text : List Char} (last : text.getLast? ≠ some unwanted) :
    trimEnd unwanted (text ++ [unwanted]) = text := by
  rw [trimEnd_same]
  rcases List.eq_nil_or_concat text with rfl | ⟨front, final, rfl⟩
  · exact trimEnd_nil unwanted
  · rw [List.concat_eq_append] at last ⊢
    rw [List.getLast?_concat, ne_eq, Option.some.injEq] at last
    exact trimEnd_other last front

end Televisor.Text
