import Televisor.Markup.Escape
import Televisor.Text.Search

namespace Televisor.Markup

open Text

/-! Reading escaped characters back.  Replacing the entities one after another comes to the same as
one pass over the text that reads each of them where it stands and never looks at what it has read. -/

/-- The entity of `table` that a text begins with. -/
def entityAt? (table : List (Char × String)) (text : List Char) : Option (Char × String) :=
  table.find? fun entity => entity.2.toList.isPrefixOf text

/-- Every entity of `table` by its character, in one pass from left to right. -/
def decodeWith (table : List (Char × String)) : List Char → List Char
  | [] => []
  | c :: rest =>
    match entityAt? table (c :: rest) with
    | some entity => entity.1 :: decodeWith table (rest.drop (entity.2.toList.length - 1))
    | none => c :: decodeWith table rest
termination_by text => text.length
decreasing_by all_goals simp only [List.length_drop, List.length_cons]; omega

def decode (text : List Char) : List Char :=
  decodeWith entities text

/-- An entity begins with an ampersand, and none of its other characters is one. -/
def Entity (entity : Char × String) : Prop :=
  ∃ name, entity.2.toList = '&' :: name ∧ '&' ∉ name

/-- What is read of one entity cannot be part of the other. -/
def Apart (read entity : Char × String) : Prop :=
  read.1 ≠ '&' ∧ read.1 ∉ entity.2.toList

theorem entities_entity : ∀ entity ∈ entities, Entity entity := by
  intro entity member
  simp only [entities, List.mem_cons, List.not_mem_nil, or_false] at member
  rcases member with rfl | rfl | rfl | rfl | rfl <;> exact ⟨_, rfl, by decide⟩

theorem entities_apart : entities.Pairwise Apart := by
  unfold Apart
  decide

theorem replaceAll_found {word : List Char} (nonempty : word ≠ []) (replacement rest : List Char) :
    replaceAll word replacement (word ++ rest) = replacement ++ replaceAll word replacement rest := by
  cases word with
  | nil => exact (nonempty rfl).elim
  | cons w word =>
      have begins : (w :: word).isPrefixOf (w :: (word ++ rest)) = true :=
        List.isPrefixOf_iff_prefix.mpr (List.prefix_append (w :: word) rest)
      have left : (word ++ rest).drop ((w :: word).length - 1) = rest := List.drop_left
      rw [List.cons_append, replaceAll, begins, left]
      rfl

theorem replaceAll_missed {word rest : List Char} {c : Char} (missed : ¬ word <+: c :: rest)
    (replacement : List Char) :
    replaceAll word replacement (c :: rest) = c :: replaceAll word replacement rest := by
  rw [← List.isPrefixOf_iff_prefix] at missed
  rw [replaceAll, if_neg (by simp [missed])]

theorem not_prefix_of_ne {first c : Char} (other : c ≠ first) (name rest : List Char) :
    ¬ first :: name <+: c :: rest :=
  fun begins => other (List.cons_prefix_cons.mp begins).1.symm

theorem replaceAll_plain {name plain : List Char} (free : '&' ∉ plain) (replacement rest : List Char) :
    replaceAll ('&' :: name) replacement (plain ++ rest) =
      plain ++ replaceAll ('&' :: name) replacement rest := by
  induction plain with
  | nil => rfl
  | cons c plain ih =>
      rw [List.mem_cons, not_or] at free
      rw [List.cons_append, replaceAll_missed (not_prefix_of_ne (Ne.symm free.1) _ _), ih free.2,
        List.cons_append]

section Pass

variable {table : List (Char × String)}

theorem entityAt?_append (table more : List (Char × String)) (text : List Char) :
    entityAt? (table ++ more) text = (entityAt? table text).or (entityAt? more text) :=
  List.find?_append

theorem entityAt?_singleton {entity : Char × String} {text : List Char} :
    entityAt? [entity] text = if entity.2.toList <+: text then some entity else none := by
  rw [entityAt?, List.find?_singleton]
  simp only [List.isPrefixOf_iff_prefix]

theorem entityAt?_plain (shaped : ∀ entity ∈ table, Entity entity) {c : Char} (other : c ≠ '&')
    (rest : List Char) : entityAt? table (c :: rest) = none := by
  rw [entityAt?, List.find?_eq_none]
  intro entity member begins
  obtain ⟨name, shape, _⟩ := shaped entity member
  rw [shape, List.isPrefixOf_iff_prefix] at begins
  exact not_prefix_of_ne other name rest begins

theorem decodeWith_missed {c : Char} {rest : List Char} (missed : entityAt? table (c :: rest) = none) :
    decodeWith table (c :: rest) = c :: decodeWith table rest := by
  rw [decodeWith, missed]

theorem decodeWith_found {name rest : List Char} {entity : Char × String}
    (shape : entity.2.toList = '&' :: name)
    (found : entityAt? table ('&' :: (name ++ rest)) = some entity) :
    decodeWith table ('&' :: (name ++ rest)) = entity.1 :: decodeWith table rest := by
  have left : (name ++ rest).drop (entity.2.toList.length - 1) = rest := by
    rw [shape]
    exact List.drop_left
  rw [decodeWith, found]
  dsimp only
  rw [left]

theorem decodeWith_none (text : List Char) : decodeWith [] text = text := by
  induction text with
  | nil => rw [decodeWith]
  | cons c rest ih => rw [decodeWith_missed rfl, ih]

/-- Characters other than the ampersand are read as they stand. -/
theorem decodeWith_plain (shaped : ∀ entity ∈ table, Entity entity) {plain : List Char}
    (free : '&' ∉ plain) (rest : List Char) :
    decodeWith table (plain ++ rest) = plain ++ decodeWith table rest := by
  induction plain with
  | nil => rfl
  | cons c plain ih =>
      rw [List.mem_cons, not_or] at free
      rw [List.cons_append, decodeWith_missed (entityAt?_plain shaped (Ne.symm free.1) _), ih free.2,
        List.cons_append]

/-- What is found in a text that has been read, and is not read of any entity, stood there before. -/
theorem prefix_of_decodeWith {word text : List Char} (found : word <+: decodeWith table text)
    (unread : ∀ entity ∈ table, entity.1 ∉ word) : word <+: text := by
  induction word generalizing text with
  | nil => exact List.nil_prefix
  | cons w word ih =>
      cases text with
      | nil =>
          rw [decodeWith] at found
          exact found
      | cons c rest =>
          rw [decodeWith] at found
          split at found
          · rename_i entity some
            obtain ⟨rfl, _⟩ := List.cons_prefix_cons.mp found
            exact (unread entity (List.mem_of_find?_eq_some some) List.mem_cons_self).elim
          · obtain ⟨rfl, later⟩ := List.cons_prefix_cons.mp found
            refine List.cons_prefix_cons.mpr ⟨rfl, ih later fun entity member inside => ?_⟩
            exact unread entity member (List.mem_cons_of_mem _ inside)

/-- One more replacement over a text that has been read is one more entity read in the pass. -/
theorem replaceAll_decodeWith (shaped : ∀ entity ∈ table, Entity entity) {entity : Char × String}
    (shape : Entity entity) (apart : ∀ read ∈ table, Apart read entity) (text : List Char) :
    replaceAll entity.2.toList [entity.1] (decodeWith table text) =
      decodeWith (table ++ [entity]) text := by
  have all : ∀ read ∈ table ++ [entity], Entity read :=
    List.forall_mem_append.mpr ⟨shaped, List.forall_mem_singleton.mpr shape⟩
  obtain ⟨name, word, free⟩ := shape
  fun_induction decodeWith table text with
  | case1 => rw [replaceAll, decodeWith]
  | case2 c rest read found ih =>
      have other := (apart read (List.mem_of_find?_eq_some found)).1
      rw [decodeWith, entityAt?_append, found, word, replaceAll_missed (not_prefix_of_ne other _ _),
        ← word, ih]
      rfl
  | case3 c rest missed ih =>
      rw [word] at ih ⊢
      by_cases begins : '&' :: name <+: c :: rest
      · -- The entity's name is read as it stands, so it is still found behind the ampersand.
        obtain ⟨later, split⟩ := begins
        rw [List.cons_append, List.cons.injEq] at split
        obtain ⟨rfl, rfl⟩ := split
        have found : entityAt? (table ++ [entity]) ('&' :: (name ++ later)) = some entity := by
          rw [entityAt?_append, missed, Option.none_or, entityAt?_singleton, word, if_pos]
          exact List.prefix_append ('&' :: name) later
        rw [decodeWith_plain shaped free, decodeWith_plain all free, replaceAll_plain free,
          List.append_cancel_left_eq] at ih
        rw [decodeWith_found word found, decodeWith_plain shaped free, ← ih]
        exact replaceAll_found (List.cons_ne_nil _ _) _ _
      · have unread : ¬ '&' :: name <+: c :: decodeWith table rest := by
          intro found
          obtain ⟨rfl, later⟩ := List.cons_prefix_cons.mp found
          refine begins (List.cons_prefix_cons.mpr ⟨rfl, ?_⟩)
          refine prefix_of_decodeWith later fun read member inside => (apart read member).2 ?_
          rw [word]
          exact List.mem_cons_of_mem _ inside
        have still : entityAt? (table ++ [entity]) (c :: rest) = none := by
          rw [entityAt?_append, missed, Option.none_or, entityAt?_singleton, word, if_neg begins]
        rw [replaceAll_missed unread, decodeWith_missed still, ih]

/-- Replacing entities one after another is reading them all in one pass. -/
theorem foldl_replaceAll (read unread : List (Char × String))
    (shaped : ∀ entity ∈ read ++ unread, Entity entity) (apart : (read ++ unread).Pairwise Apart)
    (text : List Char) :
    unread.foldl (fun text entity => replaceAll entity.2.toList [entity.1] text)
      (decodeWith read text) = decodeWith (read ++ unread) text := by
  induction unread generalizing read with
  | nil => rw [List.append_nil, List.foldl_nil]
  | cons entity unread ih =>
      obtain ⟨shapes, shape, _⟩ := List.forall_mem_append.mp shaped |>.imp_right List.forall_mem_cons.mp
      have apartHere : ∀ other ∈ read, Apart other entity := fun other member =>
        (List.pairwise_append.mp apart).2.2 other member entity List.mem_cons_self
      rw [List.append_cons] at shaped apart ⊢
      rw [List.foldl_cons, replaceAll_decodeWith shapes shape apartHere, ih _ shaped apart]

end Pass

theorem unescape_eq_decode (text : List Char) : unescape text = decode text := by
  have pass := foldl_replaceAll [] entities entities_entity entities_apart text
  rw [decodeWith_none] at pass
  exact pass

end Televisor.Markup
