import Mathlib.Data.List.Infix
import Televisor.Proofs.Text.Search
import Televisor.Text.Slice

namespace Televisor.Text

/-! Byte offsets as sizes of what stands before them, and where a search by offsets finds its word. -/

@[simp] theorem utf8Length_nil : utf8Length [] = 0 :=
  rfl

@[simp] theorem utf8Length_cons (c : Char) (text : List Char) :
    utf8Length (c :: text) = c.utf8Size + utf8Length text := by
  have shifted : ∀ (start : Nat) (text : List Char),
      text.foldl (fun size c => size + c.utf8Size) start = start + utf8Length text := by
    intro start text
    unfold utf8Length
    induction text generalizing start with
    | nil => rfl
    | cons c text ih => rw [List.foldl_cons, List.foldl_cons, ih, ih (0 + _), Nat.zero_add, Nat.add_assoc]
  exact (shifted (0 + c.utf8Size) text).trans (by rw [Nat.zero_add])

@[simp] theorem utf8Length_append (text more : List Char) :
    utf8Length (text ++ more) = utf8Length text + utf8Length more := by
  induction text with
  | nil => rw [List.nil_append, utf8Length_nil, Nat.zero_add]
  | cons c text ih => rw [List.cons_append, utf8Length_cons, utf8Length_cons, ih, Nat.add_assoc]

theorem length_le_utf8Length (text : List Char) : text.length ≤ utf8Length text := by
  induction text with
  | nil => exact Nat.le_refl 0
  | cons c text ih =>
      have positive := c.utf8Size_pos
      rw [List.length_cons, utf8Length_cons]
      omega

theorem utf8Length_pos {text : List Char} (nonempty : text ≠ []) : 0 < utf8Length text :=
  Nat.lt_of_lt_of_le (List.length_pos_iff.mpr nonempty) (length_le_utf8Length text)

/-- Offsets behind a part of a text are offsets in the rest. -/
theorem dropBytes?_behind (before text : List Char) (offset : Nat) :
    dropBytes? (utf8Length before + offset) (before ++ text) = dropBytes? offset text := by
  induction before with
  | nil => rw [utf8Length_nil, Nat.zero_add, List.nil_append]
  | cons c before ih =>
      have positive := c.utf8Size_pos
      rw [utf8Length_cons, List.cons_append, dropBytes?, if_neg (by omega), if_neg (by omega),
        Nat.add_assoc, Nat.add_sub_cancel_left, ih]

theorem dropBytes?_append (before after : List Char) :
    dropBytes? (utf8Length before) (before ++ after) = some after := by
  have start : dropBytes? 0 after = some after := by cases after <;> rfl
  exact (dropBytes?_behind before after 0).trans start

theorem takeBytes?_append (part after : List Char) :
    takeBytes? (utf8Length part) (part ++ after) = some part := by
  induction part with
  | nil => cases after <;> rfl
  | cons c part ih =>
      have positive := c.utf8Size_pos
      rw [utf8Length_cons, List.cons_append, takeBytes?, if_neg (by omega), if_neg (by omega),
        Nat.add_sub_cancel_left, ih, Option.map_some]

theorem sliceBytes?_behind (before text : List Char) (start stop : Nat) :
    sliceBytes? (utf8Length before + start) (utf8Length before + stop) (before ++ text) =
      sliceBytes? start stop text := by
  simp only [sliceBytes?, dropBytes?_behind, Nat.add_le_add_iff_left, Nat.add_sub_add_left]

theorem sliceBytes?_append (before part after : List Char) :
    sliceBytes? (utf8Length before) (utf8Length before + utf8Length part) (before ++ (part ++ after)) =
      some part := by
  rw [sliceBytes?, if_pos (Nat.le_add_right _ _), dropBytes?_append, Nat.add_sub_cancel_left,
    Option.bind_some, takeBytes?_append]

theorem IsBoundary.le {text : List Char} {offset : Nat} (boundary : IsBoundary text offset) :
    offset ≤ utf8Length text := by
  obtain ⟨before, after, rfl, rfl⟩ := boundary
  rw [utf8Length_append]
  exact Nat.le_add_right _ _

/-- Where a word is found: the text up to there, in which it does not begin, and the text behind it. -/
inductive Found (word : List Char) : (skipped behind text : List Char) → Prop where
  | here (behind : List Char) : Found word [] behind (word ++ behind)
  | later {c : Char} {skipped behind rest : List Char} (missed : ¬ word <+: c :: rest)
      (found : Found word skipped behind rest) : Found word (c :: skipped) behind (c :: rest)

namespace Found

variable {word skipped behind text : List Char}

theorem text_eq (found : Found word skipped behind text) : text = skipped ++ (word ++ behind) := by
  induction found with
  | here behind => rfl
  | later _ _ ih => rw [List.cons_append, ← ih]

theorem after? (found : Found word skipped behind text) : Text.after? word text = some behind := by
  induction found with
  | here behind => exact after?_here word behind
  | later missed _ ih => rw [after?_missed missed, ih]

theorem offsetOf? (found : Found word skipped behind text) :
    Text.offsetOf? word text = some (utf8Length skipped) := by
  induction found with
  | here behind =>
      cases shape : word ++ behind with
      | nil => rw [Text.offsetOf?, (List.append_eq_nil_iff.mp shape).1]; rfl
      | cons c rest =>
          have begins : word.isPrefixOf (c :: rest) = true :=
            List.isPrefixOf_iff_prefix.mpr ⟨behind, shape⟩
          rw [Text.offsetOf?, if_pos begins]
          rfl
  | later missed _ ih =>
      rw [← List.isPrefixOf_iff_prefix] at missed
      rw [Text.offsetOf?, if_neg missed, ih, Option.map_some, utf8Length_cons]

theorem splitAtFirst? (found : Found word skipped behind text) :
    Text.splitAtFirst? word text = some (skipped, behind) := by
  have first := found.after?
  rw [found.text_eq] at first ⊢
  exact splitAtFirst?_of_after? first

theorem absent (found : Found word skipped behind text) (nonempty : word ≠ []) : ¬ word <:+: skipped := by
  induction found with
  | here behind => exact fun inside => nonempty (List.infix_nil.mp inside)
  | later missed found ih =>
      rw [List.infix_cons_iff, not_or]
      refine ⟨fun begins => missed ?_, ih⟩
      rw [found.text_eq]
      exact begins.trans (List.prefix_append _ _)

theorem not_mem {stop : Char} (found : Found [stop] skipped behind text) : stop ∉ skipped := by
  generalize same : [stop] = word at found
  induction found with
  | here _ => exact List.not_mem_nil
  | @later c skipped behind rest missed _ ih =>
      subst same
      refine fun inside => (List.mem_cons.mp inside).elim (fun first => ?_) ih
      exact missed (List.cons_prefix_cons.mpr ⟨first, List.nil_prefix⟩)

theorem before {stop : Char} (free : stop ∉ skipped) (behind : List Char) :
    Found [stop] skipped behind (skipped ++ stop :: behind) := by
  induction skipped with
  | nil => exact .here behind
  | cons c skipped ih =>
      rw [List.mem_cons, not_or] at free
      exact .later (fun begins => free.1 (List.cons_prefix_cons.mp begins).1) (ih free.2)

end Found

/-- Both searches find the word at the same place, or neither finds it. -/
theorem found_or_missed (word text : List Char) :
    (∃ skipped behind, Found word skipped behind text) ∨
      after? word text = none ∧ offsetOf? word text = none := by
  induction text with
  | nil =>
      cases word with
      | nil => exact .inl ⟨[], [], .here []⟩
      | cons w word => exact .inr ⟨rfl, rfl⟩
  | cons c rest ih =>
      by_cases begins : word <+: c :: rest
      · obtain ⟨behind, joined⟩ := begins
        exact .inl ⟨[], behind, joined ▸ .here behind⟩
      · rcases ih with ⟨skipped, behind, found⟩ | ⟨missed, nowhere⟩
        · exact .inl ⟨c :: skipped, behind, .later begins found⟩
        · have unmatched := begins
          rw [← List.isPrefixOf_iff_prefix] at unmatched
          refine .inr ⟨(after?_missed begins).trans missed, ?_⟩
          rw [offsetOf?, if_neg unmatched, nowhere, Option.map_none]

theorem found_of_after? {word text behind : List Char} (first : after? word text = some behind) :
    ∃ skipped, Found word skipped behind text := by
  rcases found_or_missed word text with ⟨skipped, other, found⟩ | ⟨missed, _⟩
  · obtain rfl : other = behind := Option.some.inj (found.after?.symm.trans first)
    exact ⟨skipped, found⟩
  · rw [missed] at first
    cases first

theorem after?_of_not_mem {stop : Char} {text : List Char} (free : stop ∉ text) : after? [stop] text = none := by
  induction text with
  | nil => rfl
  | cons c text ih =>
      rw [List.mem_cons, not_or] at free
      rw [after?_missed, ih free.2]
      exact fun begins => free.1 (List.cons_prefix_cons.mp begins).1

theorem not_mem_of_missed {stop : Char} {text : List Char} (missed : after? [stop] text = none) :
    stop ∉ text := by
  rw [← List.singleton_infix_iff]
  exact after?_eq_none.mp missed

end Televisor.Text
