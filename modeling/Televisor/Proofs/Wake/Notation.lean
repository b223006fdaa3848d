import Mathlib.Data.List.Forall2
import Mathlib.Tactic.SplitIfs
import Televisor.Proofs.Text.Slice
import Televisor.Proofs.Wake.Attempts

namespace Televisor.Wake

open Text

/-! How hardware addresses may be written.  Their twelve digits in order, in either case, with separators
anywhere and blanks around them are read; everything else is refused, and told as it was given. -/

def IsDigit (value : Nat) (c : Char) : Prop :=
  "0123456789abcdef".toList[value]? = some c ∨ "0123456789ABCDEF".toList[value]? = some c

/-- The values of the digits, and the digits with separators between them. -/
inductive Spells : List Nat → List Char → Prop where
  | nil : Spells [] []
  | separator {mark : Char} {values : List Nat} {text : List Char} (known : mark ∈ [':', '-', '.'])
      (rest : Spells values text) : Spells values (mark :: text)
  | digit {c : Char} {value : Nat} {values : List Nat} {text : List Char} (digit : IsDigit value c)
      (rest : Spells values text) : Spells (value :: values) (c :: text)

/-- Two digits for each byte, the high one first. -/
def nibbles (bytes : List UInt8) : List Nat :=
  bytes.flatMap fun byte => [byte.toNat / 16, byte.toNat % 16]

inductive MacAddress.Writes (mac : MacAddress) : String → Prop where
  | padded {before body after : List Char} (leading : ∀ c ∈ before, isBlank c)
      (spelled : Spells (nibbles mac.toList) body) (trailing : ∀ c ∈ after, isBlank c) :
      mac.Writes (String.ofList (before ++ (body ++ after)))

section Digits

theorem isDigit_iff {value : Nat} {c : Char} : IsDigit value c ↔ hexValue? c = some value := by
  constructor
  · intro digit
    have known : ∀ v ∈ List.range 16, ("0123456789abcdef".toList[v]?).bind hexValue? = some v ∧
        ("0123456789ABCDEF".toList[v]?).bind hexValue? = some v := by
      decide
    rcases digit with lower | upper
    · have small := (List.getElem?_eq_some_iff.mp lower).1
      have read := (known value (List.mem_range.mpr small)).1
      rwa [lower] at read
    · have small := (List.getElem?_eq_some_iff.mp upper).1
      have read := (known value (List.mem_range.mpr small)).2
      rwa [upper] at read
  · intro found
    have small : c.toNat < 0x67 := by
      simp only [hexValue?, Bool.and_eq_true, decide_eq_true_eq] at found
      split_ifs at found <;> omega
    have known : ∀ point ∈ List.range 0x67, ∀ v ∈ hexValue? (Char.ofNat point),
        "0123456789abcdef".toList[v]? = some (Char.ofNat point) ∨
          "0123456789ABCDEF".toList[v]? = some (Char.ofNat point) := by
      decide
    have digit := known c.toNat (List.mem_range.mpr small)
    rw [Char.ofNat_toNat] at digit
    exact digit value found

theorem hexValue?_lt {c : Char} {value : Nat} (found : hexValue? c = some value) : value < 16 := by
  rcases isDigit_iff.mpr found with digit | digit <;> exact (List.getElem?_eq_some_iff.mp digit).1

theorem IsDigit.plain {value : Nat} {c : Char} (digit : IsDigit value c) :
    c.utf8Size = 1 ∧ ¬ isBlank c := by
  have known : ∀ digits ∈ ["0123456789abcdef", "0123456789ABCDEF"],
      digits.toList.all fun c => c.utf8Size = 1 && !isBlank c := by
    decide
  have plain : (c.utf8Size = 1 && !isBlank c) = true := by
    rcases digit with lower | upper
    · exact List.all_eq_true.mp (known _ (by decide)) c (List.mem_of_getElem? lower)
    · exact List.all_eq_true.mp (known _ (by decide)) c (List.mem_of_getElem? upper)
  simpa using plain

theorem nibbles_cons (byte : UInt8) (bytes : List UInt8) :
    nibbles (byte :: bytes) = byte.toNat / 16 :: byte.toNat % 16 :: nibbles bytes :=
  rfl

/-- Two digits are read as a byte exactly if they are its digits. -/
theorem ofNat_eq_iff {h l : Nat} (high : h < 16) (low : l < 16) {byte : UInt8} :
    UInt8.ofNat (h * 16 + l) = byte ↔ h = byte.toNat / 16 ∧ l = byte.toNat % 16 := by
  have size := byte.toNat_lt
  rw [← UInt8.toNat_inj, UInt8.toNat_ofNat']
  omega

theorem bytesOfHex?_eq_some {acc bytes : List UInt8} {digits : List Char} :
    bytesOfHex? acc digits = some bytes ↔
      ∃ more, bytes = acc.reverse ++ more ∧ List.Forall₂ IsDigit (nibbles more) digits := by
  fun_induction bytesOfHex? acc digits with
  | case1 acc =>
      constructor
      · rintro ⟨⟩
        exact ⟨[], (List.append_nil _).symm, .nil⟩
      · rintro ⟨more, rfl, written⟩
        cases more with
        | nil => rw [List.append_nil]
        | cons byte more => cases written
  | case2 acc c =>
      refine iff_of_false nofun ?_
      rintro ⟨more, _, written⟩
      cases more with
      | nil => cases written
      | cons byte more =>
          cases written with
          | cons _ rest => cases rest
  | case3 acc high low rest h l lowFound highFound ih =>
      rw [ih]
      constructor
      · rintro ⟨more, rfl, written⟩
        refine ⟨UInt8.ofNat (h * 16 + l) :: more, by simp, ?_⟩
        obtain ⟨first, second⟩ := (ofNat_eq_iff (hexValue?_lt highFound) (hexValue?_lt lowFound)).mp rfl
        exact .cons (isDigit_iff.mpr (first ▸ highFound)) (.cons (isDigit_iff.mpr (second ▸ lowFound)) written)
      · rintro ⟨more, rfl, written⟩
        cases more with
        | nil => cases written
        | cons byte more =>
            obtain ⟨first, written⟩ := List.forall₂_cons.mp written
            obtain ⟨second, written⟩ := List.forall₂_cons.mp written
            have sameHigh : h = byte.toNat / 16 :=
              Option.some.inj (highFound.symm.trans (isDigit_iff.mp first))
            have sameLow : l = byte.toNat % 16 :=
              Option.some.inj (lowFound.symm.trans (isDigit_iff.mp second))
            have same : UInt8.ofNat (h * 16 + l) = byte :=
              (ofNat_eq_iff (hexValue?_lt highFound) (hexValue?_lt lowFound)).mpr ⟨sameHigh, sameLow⟩
            exact ⟨more, by simp [same], written⟩
  | case4 acc high low rest unread =>
      refine iff_of_false nofun ?_
      rintro ⟨more, _, written⟩
      cases more with
      | nil => cases written
      | cons byte more =>
          obtain ⟨first, written⟩ := List.forall₂_cons.mp written
          obtain ⟨second, _⟩ := List.forall₂_cons.mp written
          exact unread _ _ (isDigit_iff.mp first) (isDigit_iff.mp second)

end Digits

section Separators

theorem isSeparator_iff {c : Char} : MacAddress.isSeparator c ↔ c ∈ [':', '-', '.'] := by
  simp [MacAddress.isSeparator, or_assoc]

theorem not_isSeparator {value : Nat} {c : Char} (digit : IsDigit value c) : ¬ MacAddress.isSeparator c := by
  intro separator
  have found := isDigit_iff.mp digit
  rw [isSeparator_iff] at separator
  simp only [List.mem_cons, List.not_mem_nil, or_false] at separator
  rcases separator with rfl | rfl | rfl <;> cases found

/-- The digits are what is left once the separators are gone. -/
theorem spells_iff {values : List Nat} {text : List Char} :
    Spells values text ↔ List.Forall₂ IsDigit values (text.filter (!MacAddress.isSeparator ·)) := by
  induction text generalizing values with
  | nil =>
      rw [List.filter_nil, List.forall₂_nil_right_iff]
      constructor
      · rintro ⟨⟩
        rfl
      · rintro rfl
        exact .nil
  | cons c text ih =>
      by_cases separator : MacAddress.isSeparator c
      · rw [List.filter_cons_of_neg (by simpa using separator), ← ih]
        constructor
        · intro spelled
          cases spelled with
          | separator _ rest => exact rest
          | digit digit _ => exact (not_isSeparator digit separator).elim
        · exact .separator (isSeparator_iff.mp separator)
      · rw [List.filter_cons_of_pos (by simpa using separator)]
        constructor
        · intro spelled
          cases spelled with
          | separator known _ => exact (separator (isSeparator_iff.mpr known)).elim
          | digit digit rest => exact .cons digit (ih.mp rest)
        · intro written
          cases written with
          | cons digit rest => exact .digit digit (ih.mpr rest)

theorem Spells.not_isBlank {values : List Nat} {text : List Char} (spelled : Spells values text) :
    ∀ c ∈ text, ¬ isBlank c := by
  induction spelled with
  | nil => exact List.forall_mem_nil _
  | separator known _ ih =>
      have solid : ∀ mark ∈ [':', '-', '.'], ¬ isBlank mark := not_isBlank_of_all (by decide)
      exact List.forall_mem_cons.mpr ⟨solid _ known, ih⟩
  | digit digit _ ih => exact List.forall_mem_cons.mpr ⟨digit.plain.2, ih⟩

end Separators

namespace MacAddress

variable {mac : MacAddress} {text : String}

theorem writes_iff : mac.Writes text ↔ List.Forall₂ IsDigit (nibbles mac.toList) (digits text) := by
  constructor
  · rintro ⟨leading, spelled, trailing⟩
    rw [digits, String.toList_ofList, trimBlanks_padded leading trailing (.of_solid spelled.not_isBlank)]
    exact spells_iff.mp spelled
  · intro written
    obtain ⟨before, after, split, leading, trailing⟩ := trimBlanks_split text.toList
    have spelled := spells_iff.mpr written
    have padded := Writes.padded leading spelled trailing
    rwa [← split, String.ofList_toList] at padded

theorem ofString?_eq_some : ofString? text = some mac ↔ mac.Writes text := by
  have read : bytesOfHex? [] (digits text) = some mac.toList ↔ mac.Writes text := by
    rw [bytesOfHex?_eq_some, writes_iff]
    simp
  rw [← read, ofString?]
  cases bytesOfHex? [] (digits text) with
  | none => exact iff_of_false nofun nofun
  | some bytes =>
      dsimp only
      split
      · rw [Option.some.injEq, Option.some.injEq]
        constructor
        · rintro rfl
          rfl
        · rintro rfl
          rfl
      · rename_i size
        refine iff_of_false nofun ?_
        rintro ⟨⟩
        exact size mac.octets.length_toList

theorem parse_eq_ok : parse text = .ok mac ↔ mac.Writes text := by
  rw [← ofString?_eq_some, parse]
  cases ofString? text <;> simp

theorem parse_eq_error {failure : Failure} :
    parse text = .error failure ↔ failure = .invalidMac text ∧ ∀ mac : MacAddress, ¬ mac.Writes text := by
  simp only [← ofString?_eq_some, parse]
  cases ofString? text <;> simp [eq_comm]

/-- What is shown of an address: its digits in lower case, a colon after every other one. -/
theorem spells_text (bytes : List UInt8) :
    Spells (nibbles bytes) ([':'].intercalate (bytes.map hexByte)) := by
  have digit {value : Nat} (small : value < 16) : IsDigit value (hexDigit value) :=
    isDigit_iff.mpr (hexValue?_hexDigit small)
  induction bytes with
  | nil => exact .nil
  | cons byte bytes ih =>
      have size := byte.toNat_lt
      have high : IsDigit (byte.toNat / 16) (hexDigit (byte.toNat / 16)) := digit (by omega)
      have low : IsDigit (byte.toNat % 16) (hexDigit (byte.toNat % 16)) := digit (by omega)
      cases bytes with
      | nil => exact .digit high (.digit low .nil)
      | cons second bytes => exact .digit high (.digit low (.separator (by decide) ih))

theorem writes_text (mac : MacAddress) : mac.Writes mac.text := by
  have shown : mac.text = String.ofList ([] ++ ([':'].intercalate (mac.toList.map hexByte) ++ [])) := by
    rw [List.nil_append, List.append_nil, ← String.toList_inj, String.toList_ofList, text,
      String.toList_intercalate]
    simp [List.map_map, Function.comp_def]
  rw [shown]
  exact .padded (List.forall_mem_nil _) (spells_text mac.toList) (List.forall_mem_nil _)

end MacAddress

section Measure

/-- As many bytes as an address has digits, and nothing but digits. -/
def Measured (digits : List Char) : Prop :=
  utf8Length digits = 12 ∧ ∀ c ∈ digits, ∃ value, IsDigit value c

variable {values : List Nat} {bytes : List UInt8} {digits : List Char}

theorem utf8Length_digits (plain : ∀ c ∈ digits, ∃ value, IsDigit value c) :
    utf8Length digits = digits.length := by
  induction digits with
  | nil => rfl
  | cons c digits ih =>
      obtain ⟨⟨value, digit⟩, others⟩ := List.forall_mem_cons.mp plain
      rw [utf8Length_cons, digit.plain.1, ih others, List.length_cons, Nat.add_comm]

theorem digits_of_forall₂ (written : List.Forall₂ IsDigit values digits) :
    ∀ c ∈ digits, ∃ value, IsDigit value c := by
  induction written with
  | nil => exact List.forall_mem_nil _
  | cons digit _ ih => exact List.forall_mem_cons.mpr ⟨⟨_, digit⟩, ih⟩

theorem nibbles_length (bytes : List UInt8) : (nibbles bytes).length = 2 * bytes.length := by
  induction bytes with
  | nil => rfl
  | cons byte bytes ih =>
      rw [nibbles_cons, List.length_cons, List.length_cons, ih, List.length_cons]
      omega

theorem exists_bytes {count : Nat} (size : digits.length = 2 * count)
    (plain : ∀ c ∈ digits, ∃ value, IsDigit value c) :
    ∃ bytes, bytes.length = count ∧ List.Forall₂ IsDigit (nibbles bytes) digits := by
  induction count generalizing digits with
  | zero =>
      obtain rfl := List.eq_nil_of_length_eq_zero size
      exact ⟨[], rfl, .nil⟩
  | succ count ih =>
      obtain ⟨high, digits, rfl⟩ := List.exists_cons_of_length_pos (l := digits) (by omega)
      rw [List.length_cons] at size
      obtain ⟨low, digits, rfl⟩ := List.exists_cons_of_length_pos (l := digits) (by omega)
      rw [List.length_cons] at size
      obtain ⟨⟨h, first⟩, others⟩ := List.forall_mem_cons.mp plain
      obtain ⟨⟨l, second⟩, others⟩ := List.forall_mem_cons.mp others
      obtain ⟨bytes, counted, written⟩ := ih (by omega) others
      obtain ⟨upper, lower⟩ :=
        (ofNat_eq_iff (hexValue?_lt (isDigit_iff.mp first)) (hexValue?_lt (isDigit_iff.mp second))).mp rfl
      exact ⟨UInt8.ofNat (h * 16 + l) :: bytes, congrArg Nat.succ counted,
        .cons (upper ▸ first) (.cons (lower ▸ second) written)⟩

/-- Cutting the digits by byte offsets, two bytes at a time, gives the two digits of each byte. -/
theorem sliceBytes?_digits (written : List.Forall₂ IsDigit (nibbles bytes) digits) {index : Nat}
    {byte : UInt8} (stands : bytes[index]? = some byte) :
    ∃ high low, sliceBytes? (index * 2) (index * 2 + 2) digits = some [high, low] ∧
      IsDigit (byte.toNat / 16) high ∧ IsDigit (byte.toNat % 16) low := by
  induction bytes generalizing digits index with
  | nil => cases stands
  | cons first bytes ih =>
      rw [nibbles_cons] at written
      obtain ⟨high, digits, upper, behindHigh, rfl⟩ := List.forall₂_cons_left_iff.mp written
      obtain ⟨low, digits, lower, behindLow, rfl⟩ := List.forall₂_cons_left_iff.mp behindHigh
      have size : utf8Length [high, low] = 2 := by
        rw [utf8Length_cons, utf8Length_cons, upper.plain.1, lower.plain.1, utf8Length_nil]
      cases index with
      | zero =>
          obtain rfl : first = byte := Option.some.inj stands
          have cut := sliceBytes?_append [] [high, low] digits
          rw [size] at cut
          exact ⟨high, low, cut, upper, lower⟩
      | succ index =>
          obtain ⟨h, l, cut, values⟩ := ih behindLow stands
          have behind := sliceBytes?_behind [high, low] digits (index * 2) (index * 2 + 2)
          rw [size] at behind
          refine ⟨h, l, ?_, values⟩
          rw [← cut, ← behind]
          congr 1 <;> omega

theorem MacAddress.exists_writes {text : String} :
    (∃ mac : MacAddress, mac.Writes text) ↔ Measured (MacAddress.digits text) := by
  constructor
  · rintro ⟨mac, written⟩
    rw [MacAddress.writes_iff] at written
    have plain := digits_of_forall₂ written
    have octets : mac.toList.length = 6 := mac.octets.length_toList
    exact ⟨by rw [utf8Length_digits plain, ← written.length_eq, nibbles_length, octets], plain⟩
  · rintro ⟨size, plain⟩
    rw [utf8Length_digits plain] at size
    obtain ⟨bytes, six, written⟩ := exists_bytes (show _ = 2 * 6 from size) plain
    exact ⟨⟨⟨bytes.toArray, six⟩⟩, MacAddress.writes_iff.mpr written⟩

end Measure

section Packet

variable {α : Type} {block : List α}

theorem getElem?_repeated {count index : Nat} (inside : index < count * block.length) :
    (List.replicate count block).flatten[index]? = block[index % block.length]? := by
  induction count generalizing index with
  | zero => omega
  | succ count ih =>
      rw [List.replicate_succ, List.flatten_cons]
      by_cases first : index < block.length
      · rw [List.getElem?_append_left first, Nat.mod_eq_of_lt first]
      · rw [Nat.succ_mul] at inside
        rw [List.getElem?_append_right (by omega), ih (by omega), ← Nat.mod_eq_sub_mod (by omega)]

theorem MacAddress.magicPacket_getElem? (mac : MacAddress) (index : Fin 102) :
    mac.magicPacket[index]? = if index.val < 6 then some 0xFF else mac.toList[index.val % 6]? := by
  have octets : mac.toList.length = 6 := mac.octets.length_toList
  have ones : (List.replicate 6 (0xFF : UInt8)).length = 6 := List.length_replicate
  have inside := index.isLt
  show (List.replicate 6 0xFF ++ (List.replicate 16 mac.toList).flatten)[index.val]? = _
  split_ifs with first
  · rw [List.getElem?_append_left (by omega), List.getElem?_replicate_of_lt first]
  · rw [List.getElem?_append_right (by omega), ones, getElem?_repeated (by omega), octets,
      ← Nat.mod_eq_sub_mod (by omega)]

end Packet

/-- An address is read from the texts that write it and from no others, and what is refused is told as
it was given.  What is shown of an address writes it, and the packet repeats the bytes written.  The
digits are measured and cut in bytes: twelve bytes of digits is all that is asked for, and every cut
then lies between two characters. -/
theorem addresses_read_as_written :
    (∀ text mac, MacAddress.parse text = .ok mac ↔ mac.Writes text) ∧
    (∀ text failure, MacAddress.parse text = .error failure ↔
      failure = .invalidMac text ∧ ∀ mac : MacAddress, ¬ mac.Writes text) ∧
    (∀ mac : MacAddress, MacAddress.parse mac.text = .ok mac) ∧
    (∀ mac : MacAddress, mac.magicPacket.length = 102 ∧ ∀ index : Fin 102,
      mac.magicPacket[index]? = if index.val < 6 then some 0xFF else mac.toList[index.val % 6]?) ∧
    (∀ text, (∃ mac, MacAddress.parse text = .ok mac) ↔ Measured (MacAddress.digits text)) ∧
    ∀ text mac, MacAddress.parse text = .ok mac → ∀ index : Fin 6, ∃ high low,
      sliceBytes? (index * 2) (index * 2 + 2) (MacAddress.digits text) = some [high, low] ∧
        IsDigit (mac.octets[index].toNat / 16) high ∧ IsDigit (mac.octets[index].toNat % 16) low := by
  refine ⟨fun _ _ => MacAddress.parse_eq_ok, fun _ _ => MacAddress.parse_eq_error,
    fun mac => MacAddress.parse_eq_ok.mpr mac.writes_text,
    fun mac => ⟨mac.magicPacket_length, mac.magicPacket_getElem?⟩, fun text => ?_,
    fun text mac read index => ?_⟩
  · simp only [MacAddress.parse_eq_ok]
    exact MacAddress.exists_writes
  · have written := MacAddress.writes_iff.mp (MacAddress.parse_eq_ok.mp read)
    have stands : mac.toList[index.val]? = some mac.octets[index] := by
      simp [MacAddress.toList]
    exact sliceBytes?_digits written stands

def mixedNotation : String :=
  "\t01-23:4.56789aB\n"

theorem mixedNotation_read :
    MacAddress.parse mixedNotation = .ok ⟨#v[0x01, 0x23, 0x45, 0x67, 0x89, 0xAB]⟩ ∧
      MacAddress.Writes ⟨#v[0x01, 0x23, 0x45, 0x67, 0x89, 0xAB]⟩ mixedNotation ∧
      ∃ high low, sliceBytes? 10 12 (MacAddress.digits mixedNotation) = some [high, low] ∧
        IsDigit 10 high ∧ IsDigit 11 low := by
  have read : MacAddress.parse mixedNotation = .ok ⟨#v[0x01, 0x23, 0x45, 0x67, 0x89, 0xAB]⟩ := by decide
  obtain ⟨reads, _, _, _, _, cuts⟩ := addresses_read_as_written
  exact ⟨read, (reads _ _).mp read, cuts _ _ read 5⟩

end Televisor.Wake
