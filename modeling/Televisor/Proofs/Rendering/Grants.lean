import Televisor.Proofs.Text.Number
import Televisor.Proofs.Text.Search
import Televisor.Rendering.Exchange

namespace Televisor.Network

/-! What an answer grants, by its status and its headers.  A subscription lasts as long as the header
says, or half an hour where no header says how long. -/

/-- It has a header of that name, in any case, and the first one has this value, in plain
characters. -/
structure Reply.Carries (reply : Reply) (name value : String) : Prop where
  first : ∃ before spelled after, reply.headers = before ++ (spelled, value) :: after ∧
    spelled.toList.map Char.toLower = name.toList ∧
    ∀ header ∈ before, header.1.toList.map Char.toLower ≠ name.toList
  readable : isReadable value = true

theorem Reply.header?_eq_some {reply : Reply} {name value : String} :
    reply.header? name = some value ↔ reply.Carries name value := by
  unfold Reply.header?
  simp only [Option.filter_eq_some_iff, Option.map_eq_some_iff, List.find?_eq_some_iff_append]
  constructor
  · rintro ⟨⟨⟨spelled, _⟩, ⟨named, before, after, split, others⟩, rfl⟩, readable⟩
    exact ⟨⟨before, spelled, after, split, by simpa using named, by simpa using others⟩, readable⟩
  · rintro ⟨⟨before, spelled, after, split, named, others⟩, readable⟩
    exact ⟨⟨(spelled, value), ⟨by simpa using named, before, after, split, by simpa using others⟩,
      rfl⟩, readable⟩

end Televisor.Network

namespace Televisor.Rendering

open Network Text

/-- A number of seconds, as a header writes it; blanks may stand around it. -/
def IsPeriod (value : String) (seconds : Nat) : Prop :=
  ∃ before number after,
    value.toList = before ++ ("Second-".toList ++ String.toList number ++ after) ∧
    (∀ c ∈ before, isBlank c) ∧ (∀ c ∈ after, isBlank c) ∧
    IsNumeral number seconds ∧ seconds < Nat.pow 2 64

/-- Nothing is trimmed off a period that stands by itself. -/
theorem trimmed_period {number : String} {value : Nat} (numeral : IsNumeral number value) :
    Trimmed ("Second-".toList ++ number.toList) where
  first := rfl
  last := by
    obtain ⟨front, last, shape, digit⟩ := numeral.last
    rw [shape, ← List.append_assoc, List.getLast?_concat]
    simpa using not_isBlank_of_isDigit digit

theorem parseGrant?_eq_some {value : String} {seconds : Nat} :
    parseGrant? value = some seconds ↔ IsPeriod value seconds := by
  unfold parseGrant?
  constructor
  · intro read
    split at read
    · rename_i rest behind
      obtain ⟨before, after, split, leading, trailing⟩ := trimBlanks_split value.toList
      rw [← String.toList_ofList (l := rest), readUnsigned?_eq_some] at read
      refine ⟨before, String.ofList rest, after, ?_, leading, trailing, read⟩
      have whole := behind?_joined behind
      rw [whole] at split
      rw [split, String.toList_ofList (l := rest)]
    · contradiction
  · rintro ⟨before, number, after, split, leading, trailing, numeral, small⟩
    rw [split, trimBlanks_padded leading trailing (trimmed_period numeral),
      behind?_eq_some.mpr rfl]
    exact readUnsigned?_eq_some.mpr ⟨numeral, small⟩

/-- The answer grants a subscription. -/
inductive Grants : Answer → Grant → Prop where
  | timed {reply sid value seconds} (accepted : 200 ≤ reply.status ∧ reply.status < 300)
      (named : reply.Carries "sid" sid) (timed : reply.Carries "timeout" value)
      (lasts : IsPeriod value seconds) : Grants (.reply reply) ⟨sid, seconds * 1000⟩
  | untimed {reply sid} (accepted : 200 ≤ reply.status ∧ reply.status < 300)
      (named : reply.Carries "sid" sid)
      (untimed : ∀ value seconds, reply.Carries "timeout" value → ¬ IsPeriod value seconds) :
      Grants (.reply reply) ⟨sid, 1800 * 1000⟩

theorem isSuccess_iff {reply : Reply} :
    reply.isSuccess = true ↔ 200 ≤ reply.status ∧ reply.status < 300 := by
  simp [Reply.isSuccess]

/-- The period that the first header of an answer tells, if it can be read. -/
theorem period_eq_some {reply : Reply} {seconds : Nat} :
    (reply.header? "timeout").bind parseGrant? = some seconds ↔
      ∃ value, reply.Carries "timeout" value ∧ IsPeriod value seconds := by
  simp only [Option.bind_eq_some_iff, Reply.header?_eq_some, parseGrant?_eq_some]

theorem readGrant_eq_ok {url : String} {answer : Answer} {grant : Grant} :
    readGrant url answer = .ok grant ↔ Grants answer grant := by
  constructor
  · intro granted
    unfold readGrant at granted
    split at granted
    · contradiction
    · rename_i reply
      split at granted
      · contradiction
      · rename_i success
        have accepted := isSuccess_iff.mp (by simpa using success)
        split at granted
        · contradiction
        · rename_i sid found
          have named := Reply.header?_eq_some.mp found
          cases granted
          cases period : (reply.header? "timeout").bind parseGrant? with
          | some seconds =>
              obtain ⟨value, carried, lasts⟩ := period_eq_some.mp period
              exact .timed accepted named carried lasts
          | none =>
              refine .untimed accepted named fun value seconds carried lasts => ?_
              cases period.symm.trans (period_eq_some.mpr ⟨value, carried, lasts⟩)
  · rintro (⟨accepted, named, carried, lasts⟩ | ⟨accepted, named, untimed⟩)
    · have period := period_eq_some.mpr ⟨_, carried, lasts⟩
      simp [readGrant, isSuccess_iff.mpr accepted, Reply.header?_eq_some.mpr named, period]
    · rename_i reply sid
      have period : (reply.header? "timeout").bind parseGrant? = none := by
        refine Option.eq_none_iff_forall_ne_some.mpr fun seconds found => ?_
        obtain ⟨value, carried, lasts⟩ := period_eq_some.mp found
        exact untimed value seconds carried lasts
      simp [readGrant, isSuccess_iff.mpr accepted, Reply.header?_eq_some.mpr named, period,
        requestedSeconds]

/-- No more than one subscription is granted by an answer, and if none is, reading it fails. -/
theorem readGrant_failed {url : String} {answer : Answer} :
    (∃ failure, readGrant url answer = .error failure) ↔ ∀ grant, ¬ Grants answer grant := by
  have granted (grant : Grant) : Grants answer grant ↔ readGrant url answer = .ok grant :=
    readGrant_eq_ok.symm
  simp only [granted]
  cases readGrant url answer with
  | ok grant => simp
  | error failure => simp

end Televisor.Rendering
