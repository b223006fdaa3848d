import Televisor.Proofs.Markup.Unescaping
import Televisor.Proofs.Text.Search

namespace Televisor.Markup

open Text

/-! What a document says of a text: it may escape any of the five characters, and has to escape two of
them. -/

theorem decode_entity {entity : Char × String} (known : entity ∈ entities) (rest : List Char) :
    decode (entity.2.toList ++ rest) = entity.1 :: decode rest := by
  obtain ⟨name, shape, _⟩ := entities_entity entity known
  have found : entityAt? entities ('&' :: (name ++ rest)) = some entity := by
    rw [← List.cons_append, ← shape]
    simp only [entities, List.mem_cons, List.not_mem_nil, or_false] at known
    rcases known with rfl | rfl | rfl | rfl | rfl <;> rfl
  rw [shape, List.cons_append, decode, decodeWith_found shape found]
  rfl

/-- The text, and what is written for it. -/
inductive Escapes : List Char → List Char → Prop where
  | nil : Escapes [] []
  | plain {text written : List Char} {c : Char} (noBracket : c ≠ '<') (noAmpersand : c ≠ '&')
      (rest : Escapes text written) : Escapes (c :: text) (c :: written)
  | entity {text written : List Char} {entity : Char × String} (known : entity ∈ entities)
      (rest : Escapes text written) : Escapes (entity.1 :: text) (entity.2.toList ++ written)

namespace Escapes

theorem escape (text : List Char) : Escapes text (escape text) := by
  induction text with
  | nil => exact .nil
  | cons c text ih =>
      rw [Markup.escape, List.flatMap_cons, escapeChar]
      split
      · rename_i entity found
        obtain rfl : entity.1 = c := by simpa using List.find?_some found
        exact .entity (List.mem_of_find?_eq_some found) ih
      · rename_i missed
        have unescaped : ∀ entity ∈ entities, entity.1 ≠ c := by simpa using missed
        exact .plain (unescaped ('<', "&lt;") (by decide)).symm
          (unescaped ('&', "&amp;") (by decide)).symm ih

variable {text written : List Char}

theorem decode (escapes : Escapes text written) : decode written = text := by
  induction escapes with
  | nil => rw [Markup.decode, decodeWith]
  | plain _ noAmpersand _ ih =>
      rw [Markup.decode, decodeWith_missed (entityAt?_plain entities_entity noAmpersand _)]
      exact congrArg (_ :: ·) ih
  | entity known _ ih => rw [decode_entity known, ih]

theorem unescape (escapes : Escapes text written) : unescape written = text := by
  rw [unescape_eq_decode, escapes.decode]

theorem not_mem_bracket (escapes : Escapes text written) : '<' ∉ written := by
  induction escapes with
  | nil => exact List.not_mem_nil
  | plain noBracket _ _ ih => exact fun inside => (List.mem_cons.mp inside).elim (noBracket ·.symm) ih
  | @entity text written entity known _ ih =>
      rw [List.mem_append, not_or]
      refine ⟨?_, ih⟩
      revert entity
      decide

theorem getLast? (escapes : Escapes text written) :
    written.getLast? = text.getLast? ∨ written.getLast? = some ';' := by
  induction escapes with
  | nil => exact .inl rfl
  | plain _ _ _ ih =>
      rw [List.getLast?_cons, List.getLast?_cons]
      rcases ih with same | semicolon
      · exact .inl (by rw [same])
      · exact .inr (by rw [semicolon, Option.getD_some])
  | @entity text written entity known _ ih =>
      have ends : entity.2.toList.getLast? = some ';' := by
        revert entity
        decide
      rw [List.getLast?_append, ends, List.getLast?_cons]
      rcases ih with same | semicolon
      · rw [same]
        cases text.getLast? with
        | none => exact .inr rfl
        | some last => exact .inl rfl
      · rw [semicolon]
        exact .inr rfl

theorem trimmed (escapes : Escapes text written) (trimmed : Trimmed text) : Trimmed written where
  first := by
    cases escapes with
    | nil => rfl
    | plain _ _ _ => exact trimmed.first
    | @entity _ _ entity known _ =>
        obtain ⟨name, shape, _⟩ := entities_entity entity known
        rw [shape]
        rfl
  last := by
    rcases escapes.getLast? with same | semicolon
    · rw [same]
      exact trimmed.last
    · rw [semicolon]
      decide

theorem prefix_iff {word : List Char} (escapes : Escapes text written)
    (unescaped : ∀ entity ∈ entities, entity.1 ∉ word) : word <+: written ↔ word <+: text := by
  induction escapes generalizing word with
  | nil => rfl
  | plain _ _ _ ih =>
      cases word with
      | nil => exact iff_of_true List.nil_prefix List.nil_prefix
      | cons w word =>
          rw [List.cons_prefix_cons, List.cons_prefix_cons, ih]
          exact fun entity known inside => unescaped entity known (List.mem_cons_of_mem _ inside)
  | @entity _ _ entity known _ ih =>
      cases word with
      | nil => exact iff_of_true List.nil_prefix List.nil_prefix
      | cons w word =>
          obtain ⟨name, shape, _⟩ := entities_entity entity known
          rw [shape, List.cons_append, List.cons_prefix_cons, List.cons_prefix_cons]
          refine iff_of_false ?_ ?_
          · rintro ⟨rfl, _⟩
            exact unescaped ('&', "&amp;") (by decide) List.mem_cons_self
          · rintro ⟨rfl, _⟩
            exact unescaped entity known List.mem_cons_self

/-- A word that no entity has a part in stands in what is written exactly if it stands in the text. -/
theorem infix_iff {first : Char} {word : List Char} (escapes : Escapes text written)
    (unescaped : ∀ entity ∈ entities, entity.1 ∉ first :: word)
    (unnamed : ∀ entity ∈ entities, first ∉ entity.2.toList) :
    first :: word <:+: written ↔ first :: word <:+: text := by
  induction escapes with
  | nil => rfl
  | plain noBracket noAmpersand rest ih =>
      have here := prefix_iff (.plain noBracket noAmpersand rest) unescaped
      rw [List.infix_cons_iff, List.infix_cons_iff, here, ih]
  | @entity _ _ entity known _ ih =>
      rw [infix_skip (unnamed entity known), ih, List.infix_cons_iff, or_iff_right]
      intro begins
      obtain ⟨rfl, _⟩ := List.cons_prefix_cons.mp begins
      exact unescaped entity known List.mem_cons_self

end Escapes

/-- What an element says, with blanks around it. -/
structure Content where
  text : List Char
  written : List Char
  before : List Char
  after : List Char
  escapes : Escapes text written
  trimmed : Trimmed text
  leading : ∀ c ∈ before, isBlank c
  trailing : ∀ c ∈ after, isBlank c

namespace Content

/-- A text that is written without blanks around it. -/
def escaped (text : List Char) (trimmed : Trimmed text) : Content where
  text := text
  written := escape text
  before := []
  after := []
  escapes := .escape text
  trimmed := trimmed
  leading := List.forall_mem_nil _
  trailing := List.forall_mem_nil _

/-- What stands in the document. -/
def raw (content : Content) : List Char :=
  content.before ++ (content.written ++ content.after)

theorem trimBlanks_raw (content : Content) : trimBlanks content.raw = content.written :=
  trimBlanks_padded content.leading content.trailing (content.escapes.trimmed content.trimmed)

theorem not_mem_raw (content : Content) : '<' ∉ content.raw := by
  rw [raw, List.mem_append, List.mem_append, not_or, not_or]
  refine ⟨fun inside => ?_, content.escapes.not_mem_bracket, fun inside => ?_⟩
  · exact absurd (content.leading _ inside) (by decide)
  · exact absurd (content.trailing _ inside) (by decide)

/-- A word that no entity and no blank has a part in stands in an element exactly if it stands in the
text. -/
theorem contains_raw {first last : Char} {word inner : List Char} (content : Content)
    (begins : word = first :: inner) (ends : ∃ inner, word = inner ++ [last])
    (unescaped : ∀ entity ∈ entities, entity.1 ∉ word)
    (unnamed : ∀ entity ∈ entities, first ∉ entity.2.toList)
    (solid : ¬ isBlank first ∧ ¬ isBlank last) :
    contains word content.raw ↔ contains word content.text := by
  obtain ⟨others, ends⟩ := ends
  have leading : first ∉ content.before := fun inside => solid.1 (content.leading _ inside)
  have trailing : last ∉ content.after := fun inside => solid.2 (content.trailing _ inside)
  subst begins
  rw [contains_iff, contains_iff, raw, infix_skip leading, ends, infix_skip_last trailing, ← ends,
    content.escapes.infix_iff unescaped unnamed]

end Content

end Televisor.Markup
