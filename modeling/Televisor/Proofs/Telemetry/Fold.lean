import Televisor.Telemetry.Session

namespace Televisor.Media.Level

open Decimal

/-- The level is the given number of hundredths to 24 binary digits. -/
def approximates (level : Level) (percent : Nat) : Bool :=
  match level with
  | .finite false mantissa exponent _ =>
    exponent ≤ 0 && mantissa < Nat.pow 2 precision &&
      (percent = 0 || Nat.pow 2 (precision - 1) ≤ mantissa) &&
      2 * ((100 * mantissa : Nat) - (percent * Nat.pow 2 (-exponent).toNat : Nat) : Int).natAbs ≤ 100
  | _ => false

theorem ofPercent_approximates (percent : Nat) :
    (ofPercent percent).approximates (min percent 100) = true := by
  have small : ∀ percent : Fin 100, (ofPercent percent).approximates percent = true := by
    decide +kernel
  by_cases large : 100 ≤ percent
  · have one : (rounded false 1 0).approximates 100 = true := by decide +kernel
    rw [ofPercent, if_pos large, Nat.min_eq_right large]
    exact one
  · have bound : percent < 100 := by omega
    rw [Nat.min_eq_left (by omega)]
    exact small ⟨percent, bound⟩

end Televisor.Media.Level

namespace Televisor.Telemetry

open Media Rendering

/-! What a sequence of event bodies tells, and what a session makes of one more. -/

section Told

variable {α : Type} (read : Update → Option α)

/-- What the last body tells that tells anything. -/
def lastTold (bodies : List String) : Option α :=
  bodies.reverse.findSome? fun body => read (parseLastChange body)

theorem lastTold_concat (bodies : List String) (body : String) :
    lastTold read (bodies ++ [body]) = (read (parseLastChange body)).or (lastTold read bodies) := by
  rw [lastTold, List.reverse_concat, List.findSome?_cons]
  cases read (parseLastChange body) <;> rfl

theorem lastTold_append (bodies more : List String) :
    lastTold read (bodies ++ more) = (lastTold read more).or (lastTold read bodies) := by
  simp [lastTold, List.findSome?_append]

theorem lastTold_eq_none {bodies : List String} :
    lastTold read bodies = none ↔ ∀ body ∈ bodies, read (parseLastChange body) = none := by
  simp [lastTold, List.findSome?_eq_none_iff]

theorem lastTold_eq_some {bodies : List String} {value : α} :
    lastTold read bodies = some value ↔
      ∃ before body after, bodies = before ++ body :: after ∧
        read (parseLastChange body) = some value ∧
        ∀ later ∈ after, read (parseLastChange later) = none := by
  constructor
  · intro told
    obtain ⟨after, body, before, same, tells, silent⟩ := List.findSome?_eq_some_iff.mp told
    refine ⟨before.reverse, body, after.reverse, ?_, tells, fun later member => ?_⟩
    · simpa using congrArg List.reverse same
    · exact silent later (List.mem_reverse.mp member)
  · rintro ⟨before, body, after, rfl, tells, silent⟩
    have rest : lastTold read after = none := (lastTold_eq_none read).mpr silent
    rw [List.append_cons, lastTold_append, lastTold_concat, rest, tells]
    rfl

end Told

/-- The values that the bodies tell, each by the last body that tells it. -/
def Snapshot.told (bodies : List String) : Snapshot where
  volume := (lastTold (·.volume) bodies).map Level.ofPercent
  muted := lastTold (·.muted) bodies

/-- What one more body leaves of the values known before. -/
def Snapshot.updated (snapshot : Snapshot) (update : Update) : Snapshot where
  volume := (update.volume.map Level.ofPercent).or snapshot.volume
  muted := update.muted.or snapshot.muted

theorem Snapshot.told_concat (bodies : List String) (body : String) :
    told (bodies ++ [body]) = (told bodies).updated (parseLastChange body) := by
  simp only [told, updated, lastTold_concat]
  cases (parseLastChange body).volume <;> rfl

theorem Snapshot.updated_known (snapshot : Snapshot) (update : Update) :
    (snapshot.volume.isSome → (snapshot.updated update).volume.isSome) ∧
      (snapshot.muted.isSome → (snapshot.updated update).muted.isSome) := by
  simp only [updated, Option.isSome_or, Bool.or_eq_true]
  exact ⟨.inr, .inr⟩

namespace Session

/-- Whether what comes is passed on. -/
def hears (session : Session) : Bool :=
  session.control.attached && session.status != .rejected

/-- The handle knows what the session knows. -/
structure InStep (session : Session) : Prop where
  volume : session.control.level? = session.snapshot.volume
  muted : session.control.muted = session.snapshot.muted

variable (session : Session) (body : String)

theorem receive_eq : session.receive body =
    ({ session with
      control := session.control.absorb (parseLastChange body)
      snapshot := if session.hears then
        remember session.snapshot (session.control.absorb (parseLastChange body))
        else session.snapshot }, session.hears) := by
  have attached : (session.control.absorb (parseLastChange body)).attached =
      session.control.attached := rfl
  unfold receive
  simp only [attached]
  cases hears : session.hears with
  | true => exact if_pos hears
  | false => exact if_neg (Bool.eq_false_iff.mp hears)

theorem receive_reports : (session.receive body).2 = session.hears := by
  rw [receive_eq]

theorem receive_receiver : (session.receive body).1.receiver = session.receiver := by
  rw [receive_eq]

theorem receive_alive : (session.receive body).1.alive = session.alive := by
  rw [receive_eq]

theorem receive_status : (session.receive body).1.status = session.status := by
  rw [receive_eq]

theorem receive_attached :
    (session.receive body).1.control.attached = session.control.attached := by
  rw [receive_eq]
  rfl

theorem receive_hears : (session.receive body).1.hears = session.hears := by
  rw [receive_eq]
  rfl

theorem receive_unheard (deaf : session.hears = false) :
    (session.receive body).1.snapshot = session.snapshot := by
  rw [receive_eq, deaf]
  rfl

/-- A session in step takes over what the body tells, and stays in step. -/
theorem receive_heard (hears : session.hears = true) (inStep : session.InStep) :
    (session.receive body).1.snapshot = session.snapshot.updated (parseLastChange body) ∧
      (session.receive body).1.InStep := by
  have level : (session.control.absorb (parseLastChange body)).level? =
      ((parseLastChange body).volume.map Level.ofPercent).or session.snapshot.volume := by
    rw [← inStep.volume]
    unfold Control.level? Control.absorb
    cases (parseLastChange body).volume <;> rfl
  have muted : (session.control.absorb (parseLastChange body)).muted =
      (parseLastChange body).muted.or session.snapshot.muted := by
    rw [← inStep.muted]
    rfl
  have remembered : remember session.snapshot (session.control.absorb (parseLastChange body)) =
      session.snapshot.updated (parseLastChange body) := by
    unfold remember Snapshot.updated
    rw [level, muted, Option.or_assoc, Option.or_self, Option.or_assoc, Option.or_self]
  rw [receive_eq, hears, if_pos rfl, remembered]
  exact ⟨rfl, level, muted⟩

theorem fresh_inStep (device : Device) (callback : Option String) (receiver : Nat) :
    (fresh (.ofDevice device callback) receiver).InStep :=
  ⟨rfl, rfl⟩

end Session

end Televisor.Telemetry
