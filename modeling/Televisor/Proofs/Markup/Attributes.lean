import Televisor.Proofs.Markup.Scanning

namespace Televisor.Markup

open Text

/-! Attributes of elements, and looking one up among others whose names or values end like it. -/

/-- No equals sign and no quote. -/
def isPlain (c : Char) : Bool :=
  c != '=' && c != '"'

/-- A value without quotes, equals signs or brackets. -/
structure Value where
  letters : List Char
  plain : letters.all fun c => isPlain c && c != '<' && c != '>'

structure Pair where
  name : Name
  value : Value
  plain : name.letters.all isPlain

theorem ne_of_isPlain {c : Char} (plain : isPlain c) : c ≠ '=' ∧ c ≠ '"' := by
  simpa [isPlain] using plain

theorem Value.ne_of_mem (value : Value) {c : Char} (inside : c ∈ value.letters) :
    (c ≠ '=' ∧ c ≠ '"') ∧ c ≠ '<' ∧ c ≠ '>' := by
  have plain := List.all_eq_true.mp value.plain c inside
  simp only [Bool.and_eq_true, bne_iff_ne] at plain
  exact ⟨ne_of_isPlain plain.1.1, plain.1.2, plain.2⟩

theorem Pair.ne_of_mem (pair : Pair) {c : Char} (inside : c ∈ pair.name.letters) : c ≠ '=' ∧ c ≠ '"' :=
  ne_of_isPlain (List.all_eq_true.mp pair.plain c inside)

/-- An attribute. -/
def Pair.render (pair : Pair) : List Char :=
  pair.name.letters ++ '=' :: '"' :: (pair.value.letters ++ ['"'])

/-- Each attribute after one space. -/
def spaced (pairs : List Pair) : List Char :=
  pairs.flatMap fun pair => ' ' :: pair.render

section Search

variable {word rest skipped behind : List Char} {before : Option Char}

theorem attributeFrom?_missed {c : Char} (missed : ¬ word <+: c :: rest) (before : Option Char) :
    attributeFrom? word before (c :: rest) = attributeFrom? word (some c) rest := by
  rw [attributeFrom?]
  split
  · rfl
  · rename_i found
    exact (missed ⟨_, (behind?_joined found).symm⟩).elim

/-- Where the word is found, the value counts if the word stands first or after a blank, and is passed
over if not. -/
theorem attributeFrom?_found {value : List Char} (nonempty : word ≠ []) (plain : '"' ∉ value)
    (before : Option Char) (rest : List Char) :
    attributeFrom? word before (word ++ (value ++ '"' :: rest)) =
      if before.all isBlank then some value
      else attributeFrom? word (lastOr (some '"') value) ('"' :: rest) := by
  have shorter : (value ++ '"' :: rest).length < (word ++ (value ++ '"' :: rest)).length := by
    have positive := List.length_pos_iff.mpr nonempty
    simp only [List.length_append]
    omega
  have quoted : (value ++ '"' :: rest).contains '"' = true := by simp
  have found : behind? word (word ++ (value ++ '"' :: rest)) = some (value ++ '"' :: rest) :=
    behind?_eq_some.mpr rfl
  generalize word ++ (value ++ '"' :: rest) = text at shorter found
  cases text with
  | nil => cases shorter
  | cons c text =>
      rw [attributeFrom?]
      split
      · rename_i missed
        cases missed.symm.trans found
      · rename_i other
        obtain rfl := Option.some.inj (other.symm.trans found)
        rw [dif_pos shorter, if_pos quoted]
        dsimp only
        rw [takeWhile_until plain, dropWhile_until plain]

theorem lastOr_cons (last : Option Char) (c : Char) (text : List Char) :
    lastOr last (c :: text) = lastOr (some c) text := by
  rw [lastOr, lastOr, List.getLast?_cons]
  cases text.getLast? <;> rfl

theorem lastOr_getLast? (before text : List Char) :
    lastOr before.getLast? text = (before ++ text).getLast? := by
  rw [lastOr, List.getLast?_append]
  cases text.getLast? <;> rfl

/-- What stands before a word that is found is passed over, up to its last character. -/
theorem attributeFrom?_located (found : Found word skipped behind rest) (last : Option Char) :
    attributeFrom? word last rest = attributeFrom? word (lastOr last skipped) (word ++ behind) := by
  induction found generalizing last with
  | here behind => rfl
  | later missed _ ih => rw [attributeFrom?_missed missed, ih, lastOr_cons]

theorem attributeFrom?_nowhere (missed : after? word rest = none) (last : Option Char) :
    attributeFrom? word last rest = none := by
  induction rest generalizing last with
  | nil => rw [attributeFrom?]
  | cons c rest ih =>
      have begins : ¬ word <+: c :: rest := by
        rintro ⟨behind, joined⟩
        rw [← joined, after?_here] at missed
        cases missed
      rw [after?_missed begins] at missed
      rw [attributeFrom?_missed begins, ih missed]

/-- A value that is never closed is none. -/
theorem attributeFrom?_unquoted {value : List Char} (unquoted : '"' ∉ value) (last : Option Char) :
    attributeFrom? word last (word ++ value) = none := by
  cases shape : word ++ value with
  | nil => rw [attributeFrom?]
  | cons c text =>
      have found : behind? word (c :: text) = some value := behind?_eq_some.mpr shape.symm
      rw [attributeFrom?]
      split
      · rename_i missed
        rw [missed] at found
        cases found
      · rename_i other
        obtain rfl := Option.some.inj (other.symm.trans found)
        simp [unquoted]

section Place

variable (found : Found word skipped behind rest)

include found

theorem attributeFrom?_unclosed (unclosed : after? ['"'] behind = none) (last : Option Char) :
    attributeFrom? word last rest = none := by
  rw [attributeFrom?_located found, attributeFrom?_unquoted (not_mem_of_missed unclosed)]

theorem attributeFrom?_quoted {value after : List Char} (nonempty : word ≠ [])
    (closed : Found ['"'] value after behind) (last : Option Char) :
    attributeFrom? word last rest =
      if (lastOr last skipped).all isBlank then some value
      else attributeFrom? word (lastOr (some '"') value) ('"' :: after) := by
  have split : behind = value ++ '"' :: after := closed.text_eq
  rw [attributeFrom?_located found, split, attributeFrom?_found nonempty closed.not_mem]

end Place

end Search

/-- The word that is looked for where an attribute of that name is. -/
def attributeWord (name : Name) : List Char :=
  name.letters ++ ['=', '"']

section Lookup

variable {name : Name} {before : Option Char}

theorem not_mem_equals (plain : name.letters.all isPlain) : '=' ∉ name.letters :=
  fun inside => absurd (List.all_eq_true.mp plain _ inside) (by decide)

theorem not_mem_quote (plain : name.letters.all isPlain) : '"' ∉ name.letters :=
  fun inside => absurd (List.all_eq_true.mp plain _ inside) (by decide)

theorem not_attributeWord {c : Char} (foreign : c ∉ name.letters) (rest : List Char) :
    ¬ attributeWord name <+: c :: rest := by
  intro begins
  unfold attributeWord at begins
  cases shape : name.letters with
  | nil => exact name.nonempty shape
  | cons first letters =>
      rw [shape, List.cons_append] at begins
      refine foreign ?_
      rw [shape, ← (List.cons_prefix_cons.mp begins).1]
      exact List.mem_cons_self

/-- No attribute begins inside a value. -/
theorem attributeFrom?_value (plain : name.letters.all isPlain) {value : List Char}
    (unquoted : ∀ c ∈ value, c ≠ '=' ∧ c ≠ '"') (before : Option Char) (rest : List Char) :
    attributeFrom? (attributeWord name) before (value ++ '"' :: rest) =
      attributeFrom? (attributeWord name) (some '"') rest := by
  induction value generalizing before with
  | nil => exact attributeFrom?_missed (not_attributeWord (not_mem_quote plain) rest) _
  | cons c value ih =>
      obtain ⟨_, others⟩ := List.forall_mem_cons.mp unquoted
      rw [List.cons_append, attributeFrom?_missed, ih others]
      intro begins
      have word : name.letters ++ ['='] <+: c :: value ++ '"' :: rest :=
        List.IsPrefix.trans ⟨['"'], by simp [attributeWord]⟩ begins
      have free : '"' ∉ name.letters ++ ['='] := by
        rw [List.mem_append, not_or]
        exact ⟨not_mem_quote plain, by decide⟩
      have equals : '=' ∈ c :: value :=
        (prefix_before word free).subset (List.mem_append_right _ List.mem_cons_self)
      exact (unquoted _ equals).1 rfl

/-- What follows a name: its value, which is passed over. -/
theorem attributeFrom?_passed (plain : name.letters.all isPlain) (value : Value)
    (before : Option Char) (rest : List Char) :
    attributeFrom? (attributeWord name) before ('=' :: '"' :: (value.letters ++ '"' :: rest)) =
      attributeFrom? (attributeWord name) (some '"') rest := by
  have unquoted : ∀ c ∈ value.letters, c ≠ '=' ∧ c ≠ '"' := fun c inside =>
    (value.ne_of_mem inside).1
  rw [attributeFrom?_missed (not_attributeWord (not_mem_equals plain) _),
    attributeFrom?_missed (not_attributeWord (not_mem_quote plain) _),
    attributeFrom?_value plain unquoted]

theorem name_of_attributeWord (plain : name.letters.all isPlain) {letters rest : List Char}
    (other : '=' ∉ letters) (begins : attributeWord name <+: letters ++ '=' :: rest) :
    letters = name.letters := by
  have word : name.letters ++ ['='] <+: letters ++ '=' :: rest :=
    List.IsPrefix.trans ⟨['"'], by simp [attributeWord]⟩ begins
  exact (eq_before_stop word (not_mem_equals plain) other).symm

/-- An attribute whose name is longer is not taken for the one looked for. -/
theorem attributeFrom?_inside (plain : name.letters.all isPlain) {letters : List Char}
    (solid : ∀ c ∈ letters, c ≠ '=' ∧ ¬ isBlank c) (value : Value) {last : Char}
    (joined : ¬ isBlank last) (rest : List Char) :
    attributeFrom? (attributeWord name) (some last)
      (letters ++ '=' :: '"' :: (value.letters ++ '"' :: rest)) =
        attributeFrom? (attributeWord name) (some '"') rest := by
  have unquoted : '"' ∉ value.letters := fun inside => (value.ne_of_mem inside).1.2 rfl
  induction letters generalizing last with
  | nil => exact attributeFrom?_passed plain value _ rest
  | cons c letters ih =>
      by_cases same : c :: letters = name.letters
      · have nonempty : attributeWord name ≠ [] := by simp [attributeWord]
        have found := attributeFrom?_found nonempty unquoted (some last) rest
        have split : attributeWord name ++ (value.letters ++ '"' :: rest) =
            c :: letters ++ '=' :: '"' :: (value.letters ++ '"' :: rest) := by
          simp [attributeWord, same]
        rw [split] at found
        rw [found, if_neg (by simpa using joined)]
        exact attributeFrom?_missed (not_attributeWord (not_mem_quote plain) rest) _
      · obtain ⟨here, others⟩ := List.forall_mem_cons.mp solid
        rw [List.cons_append, attributeFrom?_missed, ih others here.2]
        intro begins
        exact same (name_of_attributeWord plain (fun inside => (solid _ inside).1 rfl) begins)

/-- At an attribute, after a blank or at the beginning. -/
theorem attributeFrom?_pair (plain : name.letters.all isPlain) (pair : Pair)
    (apart : before.all isBlank) (rest : List Char) :
    attributeFrom? (attributeWord name) before (pair.render ++ rest) =
      if pair.name = name then some pair.value.letters
      else attributeFrom? (attributeWord name) (some '"') rest := by
  have unquoted : '"' ∉ pair.value.letters := fun inside => (pair.value.ne_of_mem inside).1.2 rfl
  have text : pair.render ++ rest =
      pair.name.letters ++ '=' :: '"' :: (pair.value.letters ++ '"' :: rest) := by
    simp [Pair.render]
  rw [text]
  split
  · rename_i same
    have nonempty : attributeWord name ≠ [] := by simp [attributeWord]
    have found := attributeFrom?_found nonempty unquoted before rest
    have split : attributeWord name ++ (pair.value.letters ++ '"' :: rest) =
        pair.name.letters ++ '=' :: '"' :: (pair.value.letters ++ '"' :: rest) := by
      simp [attributeWord, same]
    rw [split] at found
    rw [found, if_pos apart]
  · rename_i other
    have solid : ∀ c ∈ pair.name.letters, c ≠ '=' ∧ ¬ isBlank c := fun c inside =>
      ⟨(pair.ne_of_mem inside).1, pair.name.not_isBlank inside⟩
    have differs : pair.name.letters ≠ name.letters := fun letters => other (Name.ext letters)
    cases shape : pair.name.letters with
    | nil => exact (pair.name.nonempty shape).elim
    | cons c letters =>
        rw [shape] at solid differs
        obtain ⟨here, others⟩ := List.forall_mem_cons.mp solid
        rw [List.cons_append, attributeFrom?_missed, attributeFrom?_inside plain others _ here.2]
        intro begins
        exact differs (name_of_attributeWord plain (fun inside => (solid _ inside).1 rfl) begins)

theorem attributeFrom?_spaced (plain : name.letters.all isPlain) (pairs : List Pair)
    (before : Option Char) :
    attributeFrom? (attributeWord name) before (spaced pairs) =
      (pairs.find? (·.name = name)).map (·.value.letters) := by
  induction pairs generalizing before with
  | nil =>
      rw [spaced, List.flatMap_nil, attributeFrom?]
      rfl
  | cons pair pairs ih =>
      rw [spaced, List.flatMap_cons, List.cons_append, attributeFrom?_missed,
        attributeFrom?_pair plain pair rfl, List.find?_cons]
      · by_cases same : pair.name = name
        · rw [if_pos same, decide_eq_true same]
          rfl
        · rw [if_neg same, decide_eq_false same]
          exact ih _
      · refine not_attributeWord (fun inside => ?_) _
        exact name.not_isBlank inside (by decide)

/-- The value of an attribute is the first one of its name. -/
theorem attribute?_spaced (plain : name.letters.all isPlain) (pairs : List Pair) :
    attribute? ((spaced pairs).drop 1) name.letters =
      (pairs.find? (·.name = name)).map (·.value.letters) := by
  rw [attribute?]
  change attributeFrom? (attributeWord name) none _ = _
  cases pairs with
  | nil =>
      rw [spaced, List.flatMap_nil, List.drop_nil, attributeFrom?]
      rfl
  | cons pair pairs =>
      change attributeFrom? _ none (pair.render ++ spaced pairs) = _
      rw [attributeFrom?_pair plain pair rfl, List.find?_cons]
      by_cases same : pair.name = name
      · rw [if_pos same, decide_eq_true same]
        rfl
      · rw [if_neg same, decide_eq_false same]
        exact attributeFrom?_spaced plain pairs _

end Lookup

section Ends

theorem spaced_getLast? {pairs : List Pair} (nonempty : pairs ≠ []) :
    (spaced pairs).getLast? = some '"' := by
  induction pairs with
  | nil => exact (nonempty rfl).elim
  | cons pair pairs ih =>
      have ends : (' ' :: pair.render).getLast? = some '"' := by
        rw [Pair.render, ← List.cons_append, ← List.cons_append, ← List.cons_append,
          ← List.append_assoc, List.getLast?_concat]
      rw [spaced, List.flatMap_cons, List.getLast?_append, ends]
      cases pairs with
      | nil => rfl
      | cons other pairs =>
          have last := ih (List.cons_ne_nil other pairs)
          rw [spaced] at last
          rw [last]
          rfl

/-- The slash of an empty element does not belong to its attributes. -/
theorem trimEnd_spaced {pairs : List Pair} (nonempty : pairs ≠ []) :
    trimEnd '/' ((spaced pairs).drop 1 ++ ['/']) = (spaced pairs).drop 1 := by
  have last := spaced_getLast? nonempty
  cases shape : spaced pairs with
  | nil =>
      rw [shape] at last
      cases last
  | cons space text =>
      rw [shape, List.getLast?_cons, Option.some.injEq] at last
      refine trimEnd_once fun slash => ?_
      rw [List.drop_succ_cons, List.drop_zero] at slash
      rw [slash] at last
      cases last

theorem mem_spaced {pairs : List Pair} {c : Char} (inside : c ∈ spaced pairs) : c ≠ '<' ∧ c ≠ '>' := by
  obtain ⟨pair, _, inside⟩ := List.mem_flatMap.mp inside
  simp only [Pair.render, List.mem_cons, List.mem_append, List.not_mem_nil, or_false] at inside
  rcases inside with rfl | letter | rfl | rfl | value | rfl
  · decide
  · exact ⟨fun same => pair.name.not_mem_bracket (same ▸ letter),
      fun same => pair.name.not_mem_closing (same ▸ letter)⟩
  · decide
  · decide
  · exact (pair.value.ne_of_mem value).2
  · decide

end Ends

/-- The attributes of an empty element. -/
def Attributes.ofPairs (pairs : List Pair) (nonempty : pairs ≠ []) : Attributes where
  written := spaced pairs ++ ['/']
  inside := by
    rw [List.mem_append, List.mem_append, not_or, not_or]
    exact ⟨⟨fun inside => (mem_spaced inside).1 rfl, by decide⟩,
      fun inside => (mem_spaced inside).2 rfl, by decide⟩
  apart := by
    cases pairs with
    | nil => exact (nonempty rfl).elim
    | cons pair pairs => rfl

/-- What is told of an empty element are its attributes. -/
theorem emptyElements_ofPairs {tag : Name} {pairs : List Pair} (nonempty : pairs ≠ [])
    (rest : List Char) :
    emptyElements ((Piece.opening tag (.ofPairs pairs nonempty)).render ++ rest) tag.letters =
      (spaced pairs).drop 1 :: emptyElements rest tag.letters := by
  have shape : (Attributes.ofPairs pairs nonempty).written = ' ' :: ((spaced pairs).drop 1 ++ ['/']) := by
    cases pairs with
    | nil => exact (nonempty rfl).elim
    | cons pair pairs => rfl
  rw [emptyElements_opening shape, trimEnd_spaced nonempty]

end Televisor.Markup
