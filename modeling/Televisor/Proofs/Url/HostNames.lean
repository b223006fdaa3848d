import Televisor.Proofs.Url.AddressText
import Televisor.Rendering.Source

namespace Televisor.Url.Punycode

/-! Punycode is written with letters, digits and hyphens, but for the characters that stand in the
label as they are. -/

variable {c : Char} {value : Nat}

theorem isAlphanum_of_valueOf? (found : valueOf? c = some value) : c.isAlphanum = true := by
  have kinds : c.isAlphanum = (c.isUpper || c.isLower || c.isDigit) := rfl
  unfold valueOf? at found
  simp only [kinds, Bool.or_eq_true]
  split at found
  · rename_i lower
    exact .inl (.inr lower)
  · split at found
    · rename_i upper
      exact .inl (.inl upper)
    · split at found
      · rename_i digit
        exact .inr digit
      · contradiction

theorem digitOf_isAlphanum (small : value < 36) : (digitOf value).isAlphanum = true := by
  have all : ∀ value : Fin 36, (digitOf value).isAlphanum = true := by decide
  exact all ⟨value, small⟩

theorem readDistance?_isAlphanum {bias place weight total distance : Nat} {text rest : List Char}
    (found : readDistance? bias place weight total text = some (distance, rest)) :
    ∃ digits, text = digits ++ rest ∧ ∀ c ∈ digits, c.isAlphanum = true := by
  induction text generalizing place weight total with
  | nil => simp [readDistance?] at found
  | cons first tail ih =>
      simp only [readDistance?, Option.bind_eq_bind, Option.bind_eq_some_iff] at found
      obtain ⟨value, digit, found⟩ := found
      have alphanum := isAlphanum_of_valueOf? digit
      split at found
      · cases found
        exact ⟨[first], rfl, by simpa using alphanum⟩
      · obtain ⟨digits, rfl, all⟩ := ih found
        exact ⟨first :: digits, rfl, by simpa [alphanum] using all⟩

/-- Inserting keeps the characters that are there, and everything else is digits. -/
theorem insertAll?_cases {label letters text : List Char} {last start bias : Nat}
    (found : insertAll? label last start bias text = some letters) :
    (∀ c ∈ label, c ∈ letters) ∧ ∀ c ∈ text, c.isAlphanum = true := by
  fun_induction insertAll? label last start bias text with
  | case1 label => simp_all
  | case2 => contradiction
  | case3 label last start bias text _ distance rest written size code place valid ih =>
      obtain ⟨kept, plain⟩ := ih found
      obtain ⟨digits, rfl, alphanum⟩ := readDistance?_isAlphanum written
      refine ⟨fun c inside => kept c ?_, fun c inside => ?_⟩
      · rw [← List.take_append_drop place label, List.mem_append] at inside
        rw [List.mem_append, List.mem_cons]
        exact inside.imp_right .inr
      · exact (List.mem_append.mp inside).elim (alphanum c) (plain c)
  | case4 => contradiction

theorem mem_splitWritten (text : List Char) : ∀ c ∈ text,
    c ∈ (splitWritten text).1 ∨ c = '-' ∨ c ∈ (splitWritten text).2 := by
  intro c inside
  unfold splitWritten
  generalize hidden : text.reverse.dropWhile (· != '-') = back
  have joined := List.takeWhile_append_dropWhile (p := (· != '-')) (l := text.reverse)
  rw [hidden] at joined
  generalize text.reverse.takeWhile (· != '-') = digits at joined ⊢
  have whole : text = back.reverse ++ digits.reverse := by
    rw [← List.reverse_append, joined, List.reverse_reverse]
  simp only
  split
  · exact .inr (.inr inside)
  · rename_i nonempty
    cases back with
    | nil => simp [whole] at nonempty
    | cons hyphen before =>
        have stops : hyphen = '-' := by
          have head := List.head?_dropWhile_not (· != '-') text.reverse
          simpa [hidden] using head
        have parts : text = before.reverse ++ '-' :: digits.reverse := by
          simp [whole, stops]
        have size : text.length - digits.reverse.length - 1 = before.reverse.length := by
          simp only [parts, List.length_append, List.length_cons, List.length_reverse]
          omega
        have front : text.take (text.length - digits.reverse.length - 1) = before.reverse := by
          rw [size, parts, List.take_left]
        rw [front]
        rw [parts, List.mem_append, List.mem_cons] at inside
        exact inside

/-- A label that is decoded has all the characters of its text, but for what tells the others. -/
theorem decode?_cases {letters text : List Char} (found : decode? text = some letters) :
    ∀ c ∈ text, c ∈ letters ∨ c = '-' ∨ c.isAlphanum = true := by
  obtain ⟨kept, plain⟩ := insertAll?_cases found
  intro c inside
  rcases mem_splitWritten text c inside with front | hyphen | digit
  · exact .inl (kept c front)
  · exact .inr (.inl hyphen)
  · exact .inr (.inr (plain c digit))

theorem writeDistance_isAlphanum (bias place distance : Nat) :
    ∀ c ∈ writeDistance bias place distance, c.isAlphanum = true := by
  fun_induction writeDistance bias place distance with
  | case1 place distance limit small =>
      have low : limit ≤ 26 := by
        simp only [limit, threshold]
        omega
      simpa using digitOf_isAlphanum (Nat.lt_of_lt_of_le small (by omega))
  | case2 place distance limit large ih =>
      have low : limit ≤ 26 := by
        simp only [limit, threshold]
        omega
      have digit : limit + (distance - limit) % (36 - limit) < 36 := by
        have rest := Nat.mod_lt (distance - limit) (show 0 < 36 - limit by omega)
        omega
      intro c inside
      rcases List.mem_cons.mp inside with rfl | later
      · exact digitOf_isAlphanum digit
      · exact ih c later

theorem Progress.pass_isAlphanum {ascii code : Nat} {progress : Progress} (letter : Char)
    (written : ∀ c ∈ progress.digits, c.isAlphanum = true) :
    ∀ c ∈ (progress.pass ascii code letter).digits, c.isAlphanum = true := by
  intro c inside
  unfold pass at inside
  split at inside
  · exact written c inside
  · split at inside
    · exact (List.mem_append.mp inside).elim (written c) (writeDistance_isAlphanum _ _ _ c)
    · exact written c inside

theorem foldl_pass_isAlphanum {ascii code : Nat} (label : List Char) {progress : Progress}
    (written : ∀ c ∈ progress.digits, c.isAlphanum = true) :
    ∀ c ∈ (label.foldl (Progress.pass ascii code) progress).digits, c.isAlphanum = true := by
  induction label generalizing progress with
  | nil => exact written
  | cons first rest ih => exact ih (Progress.pass_isAlphanum first written)

theorem writeCodes_isAlphanum (label : List Char) (ascii : Nat) (codes : List Nat) {next : Nat}
    {progress : Progress} (written : ∀ c ∈ progress.digits, c.isAlphanum = true) :
    ∀ c ∈ writeCodes label ascii next progress codes, c.isAlphanum = true := by
  induction codes generalizing next progress with
  | nil => exact written
  | cons code codes ih =>
      rw [writeCodes]
      exact ih (foldl_pass_isAlphanum label written)

theorem encode_cases (label : List Char) :
    ∀ c ∈ encode label, c ∈ label ∨ c = '-' ∨ c.isAlphanum = true := by
  intro c inside
  unfold encode at inside
  rcases List.mem_append.mp inside with plain | digit
  · rcases List.mem_append.mp plain with front | hyphen
    · exact .inl (List.mem_filter.mp front).1
    · split at hyphen
      · contradiction
      · exact .inr (.inl (List.mem_singleton.mp hyphen))
  · exact .inr (.inr (writeCodes_isAlphanum label _ _ (by simp) c digit))

end Televisor.Url.Punycode

namespace Televisor.Url

open Text

/-! A host that is kept as a name holds none of the characters that are forbidden in one, whatever it
was written as, and does not read as an address. -/

variable {c : Char}

theorem allowed_of_isAlphanum (alphanum : c.isAlphanum = true) : isForbiddenInDomain c = false := by
  have ranges : (65 ≤ c.toNat ∧ c.toNat ≤ 90 ∨ 97 ≤ c.toNat ∧ c.toNat ≤ 122) ∨
      48 ≤ c.toNat ∧ c.toNat ≤ 57 := by
    have spelled : ((decide (65 ≤ c.val ∧ c.val ≤ 90) ||
        decide (97 ≤ c.val) && decide (c.val ≤ 122)) ||
        decide (48 ≤ c.val) && decide (c.val ≤ 57)) = true := alphanum
    simp only [Bool.or_eq_true, Bool.and_eq_true, decide_eq_true_eq, UInt32.le_iff_toNat_le]
      at spelled
    exact spelled
  refine Bool.eq_false_iff.mpr fun forbidden => ?_
  simp only [isForbiddenInDomain, Bool.or_eq_true, decide_eq_true_eq, List.contains_iff_mem]
    at forbidden
  rcases forbidden with (low | delete) | mark
  · omega
  · omega
  · have marks : ['#', '%', '/', ':', '<', '>', '?', '@', '[', '\\', ']', '^', '|'].all
        (!·.isAlphanum) = true := by decide
    simpa [alphanum] using List.all_eq_true.mp marks c mark

theorem plain_of_mem_punycodeMark (inside : c ∈ punycodeMark) : c = '-' ∨ c.isAlphanum = true := by
  have all : punycodeMark.all (fun c => c == '-' || c.isAlphanum) = true := by decide
  simpa using List.all_eq_true.mp all c inside

theorem readLabel?_cases {text : List Char} {label : Label} (found : readLabel? text = some label) :
    ∀ c ∈ label.ascii, c ∈ label.letters ∨ c = '-' ∨ c.isAlphanum = true := by
  unfold readLabel? at found
  split at found
  · rename_i digits written
    split at found
    · rename_i letters decoded
      split at decoded
      · split at found
        · cases found
          intro c inside
          rw [behind?_joined written, List.mem_append] at inside
          rcases inside with prefixed | digit
          · exact .inr (plain_of_mem_punycodeMark prefixed)
          · exact Punycode.decode?_cases decoded c digit
        · contradiction
      · contradiction
    · contradiction
  · split at found
    · cases found
      exact fun c inside => .inl inside
    · cases found
      intro c inside
      rcases List.mem_append.mp inside with prefixed | written
      · exact .inr (plain_of_mem_punycodeMark prefixed)
      · exact Punycode.encode_cases text c written

theorem internationalToAscii?_allowed {name ascii : List Char}
    (found : internationalToAscii? name = some ascii) : ∀ c ∈ ascii, isForbiddenInDomain c = false := by
  unfold internationalToAscii? at found
  simp only [Option.bind_eq_bind, Option.bind_eq_some_iff] at found
  obtain ⟨folded, _, labels, read, found⟩ := found
  split at found
  · rename_i valid
    cases found
    have letters : ∀ label ∈ labels, ∀ c ∈ label.letters, isForbiddenInDomain c = false := by
      simpa using (Bool.and_eq_true_iff.mp valid).2
    intro c inside
    rcases mem_intercalate inside with dot | ⟨part, member, inside⟩
    · rw [List.mem_singleton.mp dot]
      decide
    · obtain ⟨label, isLabel, rfl⟩ := List.mem_map.mp member
      obtain ⟨text, _, found⟩ := mem_of_mapM read label isLabel
      rcases readLabel?_cases found c inside with letter | rfl | alphanum
      · exact letters label isLabel c letter
      · decide
      · exact allowed_of_isAlphanum alphanum
  · contradiction

theorem readDomain?_allowed {text name : List Char} (found : readDomain? text = some name) :
    ∀ c ∈ name, isForbiddenInDomain c = false := by
  unfold readDomain? at found
  obtain ⟨decoded, _, found⟩ := Option.bind_eq_some_iff.mp found
  unfold domainToAscii? at found
  split at found
  · simp only at found
    split at found
    · contradiction
    · rename_i allowed
      cases found
      simpa using allowed
  · exact internationalToAscii?_allowed found

/-- What a host is if it is kept as a name. -/
structure IsHostName (name : List Char) : Prop where
  nonempty : name ≠ []
  allowed : ∀ c ∈ name, isForbiddenInDomain c = false
  worded : endsInNumber name = false

/-- What the host of a web address is. -/
def Host.Valid : Host → Prop
  | .domain name => IsHostName name
  | .address numeric => numeric.Proper

theorem isDigit_of_readByte? {text : List Char} {value : Nat} (found : readByte? text = some value) :
    text ≠ [] ∧ ∀ c ∈ text, c.isDigit = true := by
  unfold readByte? at found
  split at found
  · contradiction
  · rename_i proper
    refine ⟨?_, isDigit_of_digitsValue? (Option.filter_eq_some_iff.mp found).1⟩
    rintro rfl
    simp at proper

theorem endsInNumber_of_plainV4? {text : List Char} {value : Nat}
    (found : plainV4? text = some value) : endsInNumber text = true := by
  obtain ⟨words, dotted, _⟩ := Option.map_eq_some_iff.mp found
  unfold readDotted? at dotted
  split at dotted
  · rename_i bytes
    unfold endsInNumber
    cases reversed : (splitAll '.' text).reverse with
    | nil => simp [List.reverse_eq_nil_iff.mp reversed] at bytes
    | cons last front =>
        have parts : splitAll '.' text = front.reverse ++ [last] := by
          rw [← List.reverse_reverse (splitAll '.' text), reversed, List.reverse_cons]
        rw [parts, List.mapM_append, List.mapM_cons] at bytes
        simp only [Option.bind_eq_bind, Option.bind_eq_some_iff] at bytes
        obtain ⟨_, _, _, ⟨byte, lastRead, _⟩, _⟩ := bytes
        obtain ⟨nonempty, digits⟩ := isDigit_of_readByte? lastRead
        have numeric : (!last.isEmpty && last.all Char.isDigit) = true := by
          simpa [nonempty] using digits
        cases last with
        | nil => contradiction
        | cons c rest => exact Bool.or_eq_true_iff.mpr (.inl numeric)
  · contradiction

theorem readV6?_free {text : List Char} (free : ':' ∉ text) : readV6? text = none := by
  have whole : splitAtFirst? "::".toList text = none := by
    have missed : ¬ contains "::".toList text = true := by
      rw [contains_iff]
      exact fun inside => free (inside.subset (by decide))
    rw [splitAtFirst?, Option.not_isSome_iff_eq_none.mp missed]
    rfl
  rw [readV6?, whole]
  simp only
  unfold readWords?
  split
  · rfl
  · rw [splitAll_eq_splitOn, List.splitOn_eq_singleton free]
    simp only [List.reverse_singleton, List.reverse_nil]
    split
    · -- What is written with dots makes up two words.
      unfold readDotted?
      split <;> rfl
    · cases found : readWord? text <;> simp [found]

theorem IsHostName.ofText? {name : List Char} (isName : IsHostName name) :
    Address.ofText? name = none := by
  have free : ':' ∉ name := fun inside => by
    have allowed := isName.allowed ':' inside
    contradiction
  have undotted : plainV4? name = none := by
    cases found : plainV4? name with
    | none => rfl
    | some value => exact absurd (endsInNumber_of_plainV4? found) (by simp [isName.worded])
  rw [Address.ofText?, undotted, readV6?_free free]
  rfl

theorem readHost_valid {text : List Char} {host : Host} (read : readHost text = .ok host) :
    host.Valid := by
  unfold readHost at read
  split at read
  · unfold readBracketed at read
    split at read
    · split at read
      · rename_i found
        cases read
        exact readV6?_proper found
      · contradiction
    · contradiction
  · split at read
    · contradiction
    · rename_i domain found
      split at read
      · contradiction
      · rename_i nonempty
        split at read
        · split at read
          · rename_i value
            cases read
            exact readV4?_lt value
          · contradiction
        · rename_i worded
          cases read
          exact ⟨by simpa using nonempty, readDomain?_allowed found, Bool.eq_false_iff.mpr worded⟩

theorem bind_eq_ok {ε α β : Type} {first : Except ε α} {next : α → Except ε β} {result : β}
    (told : (first >>= next) = .ok result) :
    ∃ value, first = .ok value ∧ next value = .ok result := by
  cases first with
  | error failure => cases told
  | ok value => exact ⟨value, rfl, told⟩

variable {scheme : String} {text : List Char} {url : Url}

theorem readHostAndPort_valid {host? : Option Host} {port : Option Nat} {rest : List Char}
    (special : isSpecialScheme scheme = true)
    (read : readHostAndPort scheme text = .ok (host?, port, rest)) :
    ∃ host, host? = some host ∧ host.Valid := by
  unfold readHostAndPort at read
  simp only [special, if_true] at read
  split at read
  · cases read
  · obtain ⟨host, hostRead, read⟩ := bind_eq_ok read
    have valid := readHost_valid hostRead
    have kept : (if host = .domain [] then none else some host) = some host := by
      rw [if_neg]
      rintro rfl
      exact valid.nonempty rfl
    rw [kept] at read
    refine ⟨host, ?_, valid⟩
    split at read
    · split at read
      · cases read
      · obtain ⟨_, _, read⟩ := bind_eq_ok read
        exact (Prod.mk.inj (Except.ok.inj read)).1.symm
    · exact (Prod.mk.inj (Except.ok.inj read)).1.symm

/-- A URL that is read from its authority on has the scheme and the host that were read. -/
theorem readAuthority_cases (read : readAuthority scheme text = .ok url) :
    url.scheme = scheme ∧
      ∃ after port rest, readHostAndPort scheme after = .ok (url.host?, port, rest) := by
  unfold readAuthority at read
  obtain ⟨⟨user, after⟩, _, read⟩ := bind_eq_ok read
  obtain ⟨⟨host, port, rest⟩, hostRead, read⟩ := bind_eq_ok read
  simp only at read
  split at read
  · cases read
  · split at read
    all_goals
      split at read <;> cases read <;> exact ⟨rfl, after, port, _, hostRead⟩

theorem fileUrl_scheme (host : Option Host) (before : List (List Char)) (text : List Char) :
    (fileUrl host before text).scheme = "file" := by
  unfold fileUrl
  simp only
  split <;> rfl

theorem readFile_scheme (read : readFile none text = .ok url) : url.scheme = "file" := by
  have rooted (rest : List Char) : (fileFromRoot none rest).scheme = "file" := by
    unfold fileFromRoot
    split
    · exact fileUrl_scheme _ _ _
    · exact fileUrl_scheme _ _ _
  unfold readFile at read
  split at read
  · split at read
    · split at read
      · split at read
        · simp only at read
          split at read
          · cases read
            exact fileUrl_scheme _ _ _
          · obtain ⟨host, _, read⟩ := bind_eq_ok read
            cases read
            exact fileUrl_scheme _ _ _
        · cases read
          exact rooted _
      · cases read
        exact rooted _
    · cases read
      exact fileUrl_scheme _ _ _
  · cases read
    exact fileUrl_scheme _ _ _

theorem readGeneral_scheme (read : readGeneral scheme text = .ok url) : url.scheme = scheme := by
  unfold readGeneral at read
  split at read
  · exact (readAuthority_cases read).1
  · cases read
    rfl
  · cases read
    rfl

/-- A web address has a host, which is an internet address or a name, and a port. -/
theorem parse_web {location : String} (parsed : Url.parse location = .ok url)
    (web : url.isHttp = true) :
    (∃ host, url.host? = some host ∧ host.Valid) ∧ ∃ port, url.effectivePort? = some port := by
  have schemes : url.scheme = "http" ∨ url.scheme = "https" := by
    simpa [isHttp] using web
  have port : ∃ port, url.effectivePort? = some port := by
    unfold effectivePort?
    split
    · exact ⟨_, rfl⟩
    · rcases schemes with http | https
      · exact ⟨80, by rw [http]; rfl⟩
      · exact ⟨443, by rw [https]; rfl⟩
  refine ⟨?_, port⟩
  unfold Url.parse read at parsed
  simp only at parsed
  split at parsed
  · unfold readAfterScheme at parsed
    split at parsed
    · have file := readFile_scheme parsed
      simp [file] at schemes
    · split at parsed
      · rename_i special
        obtain ⟨_, after, port, rest, hostRead⟩ := readAuthority_cases parsed
        exact readHostAndPort_valid special hostRead
      · rename_i general
        rw [← readGeneral_scheme parsed] at general
        rcases schemes with http | https
        · simp [http, isSpecialScheme] at general
        · simp [https, isSpecialScheme] at general
  · contradiction

/-- The address that a host is. -/
def Host.address? : Host → Option Address
  | .domain _ => none
  | .address numeric => some numeric

/-- The brackets around some addresses are no part of them. -/
theorem Host.Valid.ofText? {host : Host} (valid : host.Valid) :
    Address.ofText? (host.text.toList.filter fun c => c != '[' && c != ']') = host.address? := by
  have unbracketed {text : List Char} (opened : '[' ∉ text) (closed : ']' ∉ text) :
      text.filter (fun c => c != '[' && c != ']') = text := by
    refine List.filter_eq_self.mpr fun c inside => ?_
    have plain : c ≠ '[' ∧ c ≠ ']' := by
      constructor <;> (rintro rfl; contradiction)
    simpa using plain
  match host, valid with
  | .domain name, isName =>
      have free {c : Char} (forbidden : isForbiddenInDomain c = true) : c ∉ name := fun inside =>
        absurd (isName.allowed c inside) (by simp [forbidden])
      rw [Host.text, String.toList_ofList, unbracketed (free rfl) (free rfl)]
      exact IsHostName.ofText? isName
  | .address (.v4 value), proper =>
      have opened := not_mem_v4Text (c := '[') rfl (by decide) value
      have closed := not_mem_v4Text (c := ']') rfl (by decide) value
      have read : Address.ofText? (Address.v4 value).text.toList = some (.v4 value) :=
        Address.ofText?_text proper
      rw [Host.text, unbracketed opened closed]
      exact read
  | .address (.v6 words), proper =>
      have opened := not_mem_v6Text (c := '[') rfl (by decide) words
      have closed := not_mem_v6Text (c := ']') rfl (by decide) words
      have written : (Host.address (.v6 words)).text.toList =
          '[' :: ((v6Text words).toList ++ [']']) := by
        simp [Host.text, String.toList_append]
      have read : Address.ofText? (Address.v6 words).text.toList = some (.v6 words) :=
        Address.ofText?_text proper
      rw [written, List.filter_cons_of_neg (by decide), List.filter_append,
        unbracketed opened closed, List.filter_cons_of_neg (by decide), List.filter_nil,
        List.append_nil]
      exact read

end Televisor.Url

namespace Televisor.Rendering

open Url

/-- The address of ours is the one a route leads from, if the location of a renderer has an internet
address as its host.  A name is not looked up: no address of ours is found for it, whatever routes the
system knows. -/
theorem sourceAddress?_eq {location : String} {url : Url} (parsed : Url.parse location = .ok url)
    (web : url.isHttp = true) : ∃ host port, url.host? = some host ∧ url.effectivePort? = some port ∧
      ∀ route, sourceAddress? route location = host.address?.bind (route · port) := by
  obtain ⟨⟨host, named, valid⟩, port, effective⟩ := parse_web parsed web
  refine ⟨host, port, named, effective, fun route => ?_⟩
  have remote : remoteEnd? location = host.address?.map (·, port) := by
    simp only [remoteEnd?, parsed, Except.toOption, named, effective, Option.bind_eq_bind,
      Option.bind_some, valid.ofText?]
    cases host.address? <;> rfl
  rw [sourceAddress?, remote]
  cases host.address? <;> rfl

end Televisor.Rendering
