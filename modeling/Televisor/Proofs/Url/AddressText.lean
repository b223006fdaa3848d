import Televisor.Proofs.Text.Number
import Televisor.Proofs.Text.Search
import Televisor.Url.Address

namespace Televisor.Url

open Text

/-! An address that is written out reads back as what it is.  So each address has a text of its own,
and whoever reads it reaches no other. -/

/-- An address has as many bits as its kind. -/
def Address.Proper : Address → Prop
  | .v4 value => value < Nat.pow 2 32
  | .v6 words => words.length = 8 ∧ ∀ word ∈ words, word < Nat.pow 2 16

instance : (address : Address) → Decidable address.Proper
  | .v4 value => inferInstanceAs (Decidable (value < Nat.pow 2 32))
  | .v6 words =>
    inferInstanceAs (Decidable (words.length = 8 ∧ ∀ word ∈ words, word < Nat.pow 2 16))

theorem splitAll_eq_splitOn (separator : Char) (text : List Char) :
    splitAll separator text = text.splitOn separator := by
  induction text with
  | nil => rfl
  | cons first rest ih =>
      rw [splitAll, List.foldr_cons, ← splitAll, ih, List.splitOn_cons_eq_if_modifyHead]
      by_cases same : first = separator
      · simp [same]
      · obtain ⟨part, parts, split⟩ := List.exists_cons_of_ne_nil (List.splitOn_ne_nil separator rest)
        simp [same, split]

theorem mapM_eq_some {α β : Type} {read : α → Option β} {write : β → α} {values : List β}
    (back : ∀ value ∈ values, read (write value) = some value) :
    (values.map write).mapM read = some values := by
  induction values with
  | nil => rfl
  | cons first rest ih =>
      obtain ⟨head, tail⟩ := List.forall_mem_cons.mp back
      rw [List.map_cons, List.mapM_cons, head, ih tail]
      rfl

theorem mem_of_mapM {α β : Type} {read : α → Option β} {items : List α} {results : List β}
    (found : items.mapM read = some results) :
    ∀ result ∈ results, ∃ item ∈ items, read item = some result := by
  induction items generalizing results with
  | nil => simp_all
  | cons first rest ih =>
      rw [List.mapM_cons] at found
      simp only [Option.pure_def, Option.bind_eq_bind, Option.bind_eq_some_iff] at found
      obtain ⟨head, firstRead, tail, restRead, same⟩ := found
      cases same
      intro result inside
      rcases List.mem_cons.mp inside with rfl | later
      · exact ⟨first, List.mem_cons_self, firstRead⟩
      · obtain ⟨item, member, itemRead⟩ := ih restRead result later
        exact ⟨item, List.mem_cons_of_mem _ member, itemRead⟩

theorem length_of_mapM {α β : Type} {read : α → Option β} {items : List α} {results : List β}
    (found : items.mapM read = some results) : results.length = items.length := by
  induction items generalizing results with
  | nil => simp_all
  | cons first rest ih =>
      rw [List.mapM_cons] at found
      simp only [Option.pure_def, Option.bind_eq_bind, Option.bind_eq_some_iff] at found
      obtain ⟨head, _, tail, restRead, same⟩ := found
      cases same
      rw [List.length_cons, List.length_cons, ih restRead]

theorem mem_intercalate {c : Char} {separator : List Char} {parts : List (List Char)}
    (inside : c ∈ separator.intercalate parts) : c ∈ separator ∨ ∃ part ∈ parts, c ∈ part := by
  induction parts with
  | nil => contradiction
  | cons first rest ih =>
      cases rest with
      | nil => exact .inr ⟨first, List.mem_cons_self, by simpa using inside⟩
      | cons second rest =>
          rw [List.intercalate_cons_cons, List.mem_append, List.mem_append] at inside
          rcases inside with (first | between) | later
          · exact .inr ⟨_, List.mem_cons_self, first⟩
          · exact .inl between
          · refine (ih later).imp_right ?_
            rintro ⟨part, member, inside⟩
            exact ⟨part, List.mem_cons_of_mem _ member, inside⟩

section Digits

variable {radix acc value word : Nat} {text front back : List Char}

theorem radixValue?_append (radix acc : Nat) (front back : List Char) :
    radixValue? radix acc (front ++ back) =
      (radixValue? radix acc front).bind (radixValue? radix · back) := by
  induction front generalizing acc with
  | nil => rfl
  | cons c front ih =>
      rw [List.cons_append, radixValue?, radixValue?]
      cases hexValue? c with
      | none => rfl
      | some digit =>
          simp only
          split
          · exact ih _
          · rfl

theorem hexValue?_digitChar (small : value < 16) : hexValue? value.digitChar = some value := by
  have all : ∀ value : Fin 16, hexValue? (Nat.digitChar value) = some value.val := by decide
  exact all ⟨value, small⟩

theorem radixValue?_hexNumber (word : Nat) : radixValue? 16 0 (hexNumber word) = some word := by
  unfold hexNumber
  induction word using Nat.strongRecOn with
  | ind word ih =>
      by_cases small : word < 16
      · simp [Nat.toDigits_of_lt_base small, radixValue?, hexValue?_digitChar small, small]
      · have lesser := ih (word / 16) (by omega)
        have digit : word % 16 < 16 := Nat.mod_lt word (by decide)
        rw [Nat.toDigits_of_base_le (by decide) (by omega), radixValue?_append, lesser,
          Option.bind_some, radixValue?, hexValue?_digitChar digit]
        simp only [digit, if_true, radixValue?]
        congr 1
        omega

theorem hexValue?_of_radixValue? (read : radixValue? radix acc text = some value) :
    ∀ c ∈ text, hexValue? c ≠ none := by
  induction text generalizing acc with
  | nil => nofun
  | cons first rest ih =>
      rw [radixValue?] at read
      split at read
      · rename_i digit known
        split at read
        · exact List.forall_mem_cons.mpr ⟨by simp [known], ih read⟩
        · contradiction
      · contradiction

theorem not_mem_hexNumber {c : Char} (other : hexValue? c = none) (word : Nat) :
    c ∉ hexNumber word :=
  fun inside => hexValue?_of_radixValue? (radixValue?_hexNumber word) c inside other

theorem readWord?_hexNumber (small : word < Nat.pow 2 16) : readWord? (hexNumber word) = some word := by
  have short : ¬ 4 < (hexNumber word).length := by
    have length := (Nat.length_toDigits_le_iff (b := 16) (k := 4) (by decide) (by decide)).mpr small
    exact Nat.not_lt.mpr length
  have nonempty : (hexNumber word).isEmpty = false :=
    List.isEmpty_eq_false_iff.mpr Nat.toDigits_ne_nil
  simp [readWord?, nonempty, short, radixValue?_hexNumber]

/-- No zero is written first, but for zero itself. -/
theorem toDigits_head? (positive : 0 < value) : (Nat.toDigits 10 value).head? ≠ some '0' := by
  induction value using Nat.strongRecOn with
  | ind value ih =>
      by_cases small : value < 10
      · simpa [Nat.toDigits_of_lt_base small] using Nat.pos_iff_ne_zero.mp positive
      · have begun := ih (value / 10) (by omega) (by omega)
        rw [Nat.toDigits_of_base_le (by decide) (by omega)]
        cases written : Nat.toDigits 10 (value / 10) with
        | nil => exact absurd written Nat.toDigits_ne_nil
        | cons first rest => rwa [written] at begun

theorem readByte?_repr (small : value < 256) : readByte? (Nat.repr value).toList = some value := by
  have plain : ∀ c ∈ Nat.toDigits 10 value, c.isDigit := fun c =>
    Nat.isDigit_of_mem_toDigits (by decide) (by decide)
  have read : digitsValue? 0 (Nat.toDigits 10 value) = some value := by
    rw [digitsValue?_digits plain, Nat.ofDigitChars_toDigits (by decide) (by decide)]
  have proper : ((Nat.toDigits 10 value).isEmpty || ((Nat.toDigits 10 value).head? = some '0' &&
      (Nat.toDigits 10 value).length != 1)) = false := by
    rcases Nat.eq_zero_or_pos value with rfl | positive
    · rfl
    · simp [toDigits_head? positive, Nat.toDigits_ne_nil]
  rw [Nat.toList_repr, readByte?, proper, read]
  simp [small]

end Digits

/-! ### Four bytes -/

theorem v4Text_toList (value : Nat) : (v4Text value).toList = ['.'].intercalate
    (([24, 16, 8, 0].map fun shift => value / Nat.pow 2 shift % 256).map fun byte =>
      (Nat.repr byte).toList) := by
  rw [v4Text, String.toList_intercalate]
  rfl

theorem plainV4?_v4Text {value : Nat} (small : value < Nat.pow 2 32) :
    plainV4? (v4Text value).toList = some value := by
  have read : (splitAll '.' (v4Text value).toList).mapM readByte? =
      some ([24, 16, 8, 0].map fun shift => value / Nat.pow 2 shift % 256) := by
    rw [v4Text_toList, splitAll_eq_splitOn, List.splitOn_intercalate]
    · refine mapM_eq_some fun byte member => readByte?_repr ?_
      obtain ⟨shift, _, rfl⟩ := List.mem_map.mp member
      exact Nat.mod_lt _ (by decide)
    · intro part member dotted
      obtain ⟨byte, _, rfl⟩ := List.mem_map.mp member
      exact absurd (isDigit_of_mem_repr dotted) (by decide)
    · nofun
  rw [plainV4?, readDotted?, read]
  simp only [List.map_cons, List.map_nil, Option.map_some, List.getD_cons_zero,
    List.getD_cons_succ, Nat.pow_eq, Nat.reducePow, Option.some.injEq] at small ⊢
  omega

theorem not_mem_v4Text {c : Char} (other : c.isDigit = false) (apart : c ≠ '.') (value : Nat) :
    c ∉ (v4Text value).toList := by
  rw [v4Text_toList]
  intro inside
  rcases mem_intercalate inside with dot | ⟨part, member, inside⟩
  · exact apart (List.mem_singleton.mp dot)
  · obtain ⟨byte, _, rfl⟩ := List.mem_map.mp member
    have digit := isDigit_of_mem_repr inside
    simp [other] at digit

theorem plainV4?_undotted {text : List Char} (free : '.' ∉ text) : plainV4? text = none := by
  rw [plainV4?, readDotted?, splitAll_eq_splitOn, List.splitOn_eq_singleton free]
  cases found : readByte? text <;> simp [found]

/-! ### Eight words -/

theorem colons : "::".toList = [':', ':'] :=
  rfl

theorem wordsText_toList (words : Words) :
    (wordsText words).toList = [':'].intercalate (words.map hexNumber) := by
  rw [wordsText, String.toList_intercalate, List.map_map]
  congr 1
  exact List.map_congr_left fun word _ => String.toList_ofList

theorem not_mem_wordsText {c : Char} (other : hexValue? c = none) (apart : c ≠ ':') (words : Words) :
    c ∉ (wordsText words).toList := by
  rw [wordsText_toList]
  intro inside
  rcases mem_intercalate inside with colon | ⟨part, member, inside⟩
  · exact apart (List.mem_singleton.mp colon)
  · obtain ⟨word, _, rfl⟩ := List.mem_map.mp member
    exact not_mem_hexNumber other word inside

theorem hexNumber_cons (word : Nat) : ∃ digit digits, hexNumber word = digit :: digits ∧ digit ≠ ':' := by
  obtain ⟨digit, digits, written⟩ : ∃ digit digits, hexNumber word = digit :: digits :=
    List.exists_cons_of_ne_nil Nat.toDigits_ne_nil
  refine ⟨digit, digits, written, ?_⟩
  rintro rfl
  exact not_mem_hexNumber rfl word (written ▸ List.mem_cons_self)

/-- Two colons are not found in the words, nor where they end. -/
theorem after?_wordsText (words : Words) (rest : List Char) :
    after? [':', ':'] ((wordsText words).toList ++ rest) = after? [':', ':'] rest := by
  rw [wordsText_toList]
  induction words with
  | nil => rfl
  | cons word words ih =>
      have skipped (text : List Char) :
          after? [':', ':'] (hexNumber word ++ text) = after? [':', ':'] text :=
        after?_skip (not_mem_hexNumber rfl word) [':'] text
      cases words with
      | nil => rw [List.map_singleton, List.intercalate_singleton, skipped]
      | cons second words =>
          obtain ⟨digit, digits, written, apart⟩ := hexNumber_cons second
          obtain ⟨others, begun⟩ : ∃ others,
              [':'].intercalate ((second :: words).map hexNumber) ++ rest = digit :: others := by
            cases words <;> simp [List.intercalate_cons_cons, written]
          have missed : ¬ [':', ':'] <+: ':' :: digit :: others := by
            simp [Ne.symm apart]
          rw [List.map_cons, List.map_cons, List.intercalate_cons_cons, ← List.map_cons,
            List.append_assoc, List.append_assoc, skipped, List.singleton_append, begun,
            after?_missed missed, ← begun, ih]

theorem readWords?_wordsText {words : Words} (small : ∀ word ∈ words, word < Nat.pow 2 16)
    (dotted : Bool) : readWords? dotted (wordsText words).toList = some words := by
  cases words with
  | nil => rfl
  | cons word rest =>
      have parts : splitAll ':' (wordsText (word :: rest)).toList = (word :: rest).map hexNumber := by
        rw [wordsText_toList, splitAll_eq_splitOn]
        refine List.splitOn_intercalate ':' (fun part member => ?_) (by simp)
        obtain ⟨word, _, rfl⟩ := List.mem_map.mp member
        exact not_mem_hexNumber rfl word
      have nonempty : (wordsText (word :: rest)).toList.isEmpty = false := by
        refine List.isEmpty_eq_false_iff.mpr fun empty => ?_
        rw [empty] at parts
        cases rest with
        | nil => simp [splitAll, hexNumber] at parts
        | cons => simp [splitAll] at parts
      unfold readWords?
      rw [nonempty, if_neg (by decide)]
      simp only [parts]
      cases reversed : ((word :: rest).map hexNumber).reverse with
      | nil => simp at reversed
      | cons last front =>
          have undotted : last.contains '.' = false := by
            have member : last ∈ (word :: rest).map hexNumber := by
              rw [← List.mem_reverse, reversed]
              exact List.mem_cons_self
            obtain ⟨word, _, rfl⟩ := List.mem_map.mp member
            simpa using not_mem_hexNumber (c := '.') rfl word
          simp only [undotted, Bool.and_false, Bool.false_eq_true, if_false]
          exact mapM_eq_some fun word member => readWord?_hexNumber (small word member)

/-- All words in the range are zero. -/
def Zeros (words : Words) (range : Nat × Nat) : Prop :=
  ∃ front back, words = front ++ List.replicate range.2 0 ++ back ∧ front.length = range.1

/-- A run that has ended is zero, and so is the longest before it. -/
theorem Zeros.longer {front back : Words} {place run : Nat} {best : Nat × Nat}
    (known : Zeros (front ++ List.replicate run 0 ++ back) best) (here : place = front.length + run) :
    Zeros (front ++ List.replicate run 0 ++ back)
      (if best.2 < run then (place - run, run) else best) := by
  split
  · exact ⟨front, back, rfl, by simp [here]⟩
  · exact known

theorem Zeros.longest {front words : Words} {place run : Nat} {best : Nat × Nat}
    (known : Zeros (front ++ List.replicate run 0 ++ words) best) (here : place = front.length + run) :
    Zeros (front ++ List.replicate run 0 ++ words) (longestZeros place run best words) := by
  induction words generalizing front place run best with
  | nil => exact known.longer here
  | cons word rest ih =>
      rw [longestZeros]
      split
      · rename_i zero
        have more : front ++ List.replicate run 0 ++ word :: rest =
            front ++ List.replicate (run + 1) 0 ++ rest := by
          simp [zero, List.replicate_succ']
        rw [more] at known ⊢
        exact ih known (by omega)
      · have passed : front ++ List.replicate run 0 ++ word :: rest =
            front ++ List.replicate run 0 ++ [word] ++ List.replicate 0 0 ++ rest := by
          simp
        have known := known.longer here
        rw [passed] at known ⊢
        refine ih known ?_
        simp only [List.length_append, List.length_replicate, List.length_singleton, here, Nat.add_zero]

theorem readV6?_wordsText {words : Words} (length : words.length = 8)
    (small : ∀ word ∈ words, word < Nat.pow 2 16) :
    readV6? (wordsText words).toList = some words := by
  have whole : splitAtFirst? "::".toList (wordsText words).toList = none := by
    have missed := after?_wordsText words []
    rw [List.append_nil] at missed
    rw [splitAtFirst?, colons, missed]
    rfl
  rw [readV6?, whole]
  simp only
  rw [readWords?_wordsText small true, Option.filter_some, length]
  rfl

/-- What is left out between two colons is zero. -/
theorem readV6?_shortened {front back : Words} (frontSmall : ∀ word ∈ front, word < Nat.pow 2 16)
    (backSmall : ∀ word ∈ back, word < Nat.pow 2 16) (fewer : front.length + back.length < 8) :
    readV6? (wordsText front ++ "::" ++ wordsText back).toList =
      some (front ++ List.replicate (8 - front.length - back.length) 0 ++ back) := by
  have parted : splitAtFirst? "::".toList (wordsText front ++ "::" ++ wordsText back).toList =
      some ((wordsText front).toList, (wordsText back).toList) := by
    rw [String.toList_append, String.toList_append, List.append_assoc, colons]
    refine splitAtFirst?_of_after? ?_
    rw [after?_wordsText, after?_here]
  rw [readV6?, parted]
  simp only [readWords?_wordsText frontSmall, readWords?_wordsText backSmall, Option.bind_eq_bind,
    Option.bind_some, fewer, if_true]
  rfl

theorem readV6?_v6Text {words : Words} (length : words.length = 8)
    (small : ∀ word ∈ words, word < Nat.pow 2 16) :
    readV6? (v6Text words).toList = some words := by
  have empty : Zeros ([] ++ List.replicate 0 0 ++ words) (0, 0) := ⟨[], words, rfl, rfl⟩
  have zeros : Zeros words (longestZeros 0 0 (0, 0) words) := empty.longest rfl
  unfold v6Text
  generalize longestZeros 0 0 (0, 0) words = range at zeros ⊢
  obtain ⟨start, size⟩ := range
  obtain ⟨front, back, rfl, place⟩ := zeros
  simp only at place small length ⊢
  split
  · exact readV6?_wordsText length small
  · rename_i long
    have taken : (front ++ List.replicate size 0 ++ back).take start = front := by
      rw [List.append_assoc, ← place, List.take_left]
    have dropped : (front ++ List.replicate size 0 ++ back).drop (start + size) = back := by
      have passed : start + size = (front ++ List.replicate size 0).length := by simp [place]
      rw [passed, List.drop_left]
    simp only [List.length_append, List.length_replicate] at length
    have rest : 8 - front.length - back.length = size := by omega
    rw [taken, dropped, readV6?_shortened (fun word member => small word (by simp [member]))
      (fun word member => small word (by simp [member])) (by omega), rest]

theorem not_mem_v6Text {c : Char} (other : hexValue? c = none) (apart : c ≠ ':') (words : Words) :
    c ∉ (v6Text words).toList := by
  have unwritten := not_mem_wordsText other apart
  unfold v6Text
  simp only
  split
  · exact unwritten words
  · simp [String.toList_append, unwritten, apart]

/-- Every address reads back from its text. -/
theorem Address.ofText?_text {address : Address} (proper : address.Proper) :
    ofText? address.text.toList = some address := by
  cases address with
  | v4 value => rw [ofText?, text, plainV4?_v4Text proper]
  | v6 words =>
      have undotted : plainV4? (v6Text words).toList = none :=
        plainV4?_undotted (not_mem_v6Text rfl (by decide) words)
      rw [ofText?, text, undotted, readV6?_v6Text proper.1 proper.2]
      rfl

theorem Address.text_injective {first second : Address} (proper : first.Proper)
    (otherProper : second.Proper) (same : first.text = second.text) : first = second := by
  have read := ofText?_text proper
  rw [same, ofText?_text otherProper] at read
  exact (Option.some.inj read).symm

/-! ### What is read -/

/-- All parts but the last are bytes, and the last fits into the bytes that are left. -/
theorem joinParts?_eq_some {parts : List Nat} {value : Nat} (joined : joinParts? parts = some value) :
    ∃ front last, parts = front ++ [last] ∧ last < Nat.pow 256 (4 - front.length) ∧
      (∀ part ∈ front, part ≤ 255) ∧
      front.zipIdx.foldr (fun (part, place) sum => part * Nat.pow 256 (3 - place) + sum) last =
        value := by
  unfold joinParts? at joined
  cases reversed : parts.reverse with
  | nil => simp [reversed] at joined
  | cons last back =>
      have whole : parts = back.reverse ++ [last] := by
        rw [← List.reverse_reverse parts, reversed, List.reverse_cons]
      rw [reversed] at joined
      simp only at joined
      split at joined
      · contradiction
      · rename_i room
        split at joined
        · contradiction
        · rename_i bytes
          exact ⟨back.reverse, last, whole, Nat.not_le.mp room, by simpa using bytes,
            Option.some.inj joined⟩

/-- Bytes from some place on, and what fits behind them, fit from that place on. -/
theorem foldr_bytes_lt {front : List Nat} {place last : Nat} (few : place + front.length ≤ 3)
    (bytes : ∀ part ∈ front, part ≤ 255)
    (room : last < Nat.pow 256 (4 - (place + front.length))) :
    (front.zipIdx place).foldr (fun (part, place) sum => part * Nat.pow 256 (3 - place) + sum) last <
      Nat.pow 256 (4 - place) := by
  induction front generalizing place with
  | nil => exact room
  | cons part front ih =>
      obtain ⟨byte, bytes⟩ := List.forall_mem_cons.mp bytes
      rw [List.length_cons] at few room
      have next : place + 1 + front.length = place + (front.length + 1) := by omega
      have behind := ih (by omega) bytes (next ▸ room)
      have left : 4 - place = 3 - place + 1 := by omega
      rw [show 4 - (place + 1) = 3 - place by omega] at behind
      rw [List.zipIdx_cons, List.foldr_cons, left]
      calc
        part * Nat.pow 256 (3 - place) + _ < part * Nat.pow 256 (3 - place) +
            Nat.pow 256 (3 - place) := Nat.add_lt_add_left behind _
        _ = (part + 1) * Nat.pow 256 (3 - place) := (Nat.succ_mul _ _).symm
        _ ≤ 256 * Nat.pow 256 (3 - place) := Nat.mul_le_mul_right _ (by omega)
        _ = Nat.pow 256 (3 - place + 1) := Nat.mul_comm _ _

theorem joinParts?_lt {parts : List Nat} {value : Nat} (few : parts.length ≤ 4)
    (joined : joinParts? parts = some value) : value < Nat.pow 2 32 := by
  obtain ⟨front, last, rfl, room, bytes, rfl⟩ := joinParts?_eq_some joined
  have short : 0 + front.length ≤ 3 := by
    rw [List.length_append, List.length_singleton] at few
    omega
  exact foldr_bytes_lt short bytes (by rwa [Nat.zero_add])

theorem readV4?_lt {host : List Char} {value : Nat} (found : readV4? host = some value) :
    value < Nat.pow 2 32 := by
  unfold readV4? at found
  generalize splitAll '.' host = pieces at found
  simp only at found
  generalize (if pieces.getLast? = some [] then pieces.dropLast else pieces) = parts at found
  by_cases few : 4 < parts.length
  · rw [if_pos few] at found
    contradiction
  · rw [if_neg few] at found
    obtain ⟨numbers, read, joined⟩ := Option.bind_eq_some_iff.mp found
    refine joinParts?_lt ?_ joined
    rw [length_of_mapM read]
    exact Nat.not_lt.mp few

theorem radixValue?_lt {acc value : Nat} {text : List Char}
    (read : radixValue? 16 acc text = some value) :
    value < (acc + 1) * Nat.pow 16 text.length := by
  induction text generalizing acc with
  | nil =>
      cases read
      exact Nat.lt_of_lt_of_eq (Nat.lt_succ_self _) (Nat.mul_one _).symm
  | cons c text ih =>
      rw [radixValue?] at read
      split at read
      · split at read
        · rename_i digit _ small
          calc
            value < (acc * 16 + digit + 1) * Nat.pow 16 text.length := ih read
            _ ≤ ((acc + 1) * 16) * Nat.pow 16 text.length := Nat.mul_le_mul_right _ (by omega)
            _ = (acc + 1) * (Nat.pow 16 text.length * 16) := by
              rw [Nat.mul_assoc, Nat.mul_comm 16]
        · contradiction
      · contradiction

theorem readWord?_lt {text : List Char} {word : Nat} (read : readWord? text = some word) :
    word < Nat.pow 2 16 := by
  unfold readWord? at read
  split at read
  · contradiction
  · rename_i short
    have few : text.length ≤ 4 := by
      simp only [Bool.or_eq_true, decide_eq_true_eq, not_or] at short
      exact Nat.not_lt.mp short.2
    calc
      word < (0 + 1) * Nat.pow 16 text.length := radixValue?_lt read
      _ ≤ (0 + 1) * Nat.pow 16 4 := Nat.mul_le_mul_left _ (Nat.pow_le_pow_right (by decide) few)
      _ = Nat.pow 2 16 := rfl

theorem readByte?_lt {text : List Char} {byte : Nat} (read : readByte? text = some byte) :
    byte < 256 := by
  unfold readByte? at read
  split at read
  · contradiction
  · simpa using (Option.filter_eq_some_iff.mp read).2

theorem readDotted?_lt {text : List Char} {words : Words} (read : readDotted? text = some words) :
    ∀ word ∈ words, word < Nat.pow 2 16 := by
  unfold readDotted? at read
  split at read
  · rename_i a b c d bytes
    have small : ∀ byte ∈ [a, b, c, d], byte < 256 := by
      intro byte member
      obtain ⟨part, _, found⟩ := mem_of_mapM bytes byte member
      exact readByte?_lt found
    cases read
    simp only [List.forall_mem_cons, Nat.pow_eq, Nat.reducePow] at small ⊢
    obtain ⟨_, _, _, _, _⟩ := small
    exact ⟨by omega, by omega, nofun⟩
  · contradiction

theorem readWords?_lt {dotted : Bool} {text : List Char} {words : Words}
    (read : readWords? dotted text = some words) : ∀ word ∈ words, word < Nat.pow 2 16 := by
  have plain {pieces : List (List Char)} {words : Words} (read : pieces.mapM readWord? = some words) :
      ∀ word ∈ words, word < Nat.pow 2 16 := by
    intro word member
    obtain ⟨part, _, found⟩ := mem_of_mapM read word member
    exact readWord?_lt found
  unfold readWords? at read
  split at read
  · cases read
    nofun
  · simp only at read
    split at read
    · split at read
      · simp only [Option.bind_eq_bind, Option.bind_eq_some_iff] at read
        obtain ⟨front, frontRead, tail, tailRead, same⟩ := read
        cases same
        exact List.forall_mem_append.mpr ⟨plain frontRead, readDotted?_lt tailRead⟩
      · exact plain read
    · contradiction

theorem readV6?_proper {text : List Char} {words : Words} (read : readV6? text = some words) :
    (Address.v6 words).Proper := by
  unfold readV6? at read
  split at read
  · obtain ⟨found, eight⟩ := Option.filter_eq_some_iff.mp read
    exact ⟨by simpa using eight, readWords?_lt found⟩
  · simp only [Option.bind_eq_bind, Option.bind_eq_some_iff] at read
    obtain ⟨front, frontRead, back, backRead, read⟩ := read
    split at read
    · rename_i fewer
      cases read
      refine ⟨?_, List.forall_mem_append.mpr ⟨List.forall_mem_append.mpr
        ⟨readWords?_lt frontRead, ?_⟩, readWords?_lt backRead⟩⟩
      · simp only [List.length_append, List.length_replicate]
        omega
      · intro word member
        rw [List.eq_of_mem_replicate member]
        decide
    · contradiction

end Televisor.Url
