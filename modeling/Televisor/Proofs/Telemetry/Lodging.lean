import Televisor.Proofs.Run.Advance
import Televisor.Run.Session

namespace Televisor.Run

/-! One receiver at a time.  A trace is orderly if a receiver begins to listen only while none does,
under a number no receiver had before it, and only the receiver that listens is stopped. -/

/-- No receiver begins to listen or is stopped. -/
def Record.Calm (record : Record) : Prop :=
  record.listening? = none ∧ record.stopped? = none

theorem Record.Apart.calm {record : Record} (apart : record.Apart) : record.Calm :=
  apart.2.2

/-- The second argument is the receiver that listens in the end. -/
inductive Orderly : List Record → Option Nat → Prop where
  | empty : Orderly [] none
  | other {record trace lodger} (begins : record.listening? = none)
      (ends : record.stopped? = none) (rest : Orderly trace lodger) :
      Orderly (record :: trace) lodger
  | listening {time number trace} (fresh : number ∉ begunIn trace) (rest : Orderly trace none) :
      Orderly (⟨time, .listening number⟩ :: trace) (some number)
  | stopped {time number trace} (rest : Orderly trace (some number)) :
      Orderly (⟨time, .stopped number⟩ :: trace) none

namespace Orderly

variable {trace seen : List Record} {lodger : Option Nat}

theorem append (orderly : Orderly trace lodger)
    (calm : ∀ record ∈ seen, record.Calm) :
    Orderly (seen ++ trace) lodger := by
  induction seen with
  | nil => exact orderly
  | cons record rest ih =>
      obtain ⟨begins, ends⟩ := calm record (by simp)
      exact .other begins ends (ih fun other member => calm other (by simp [member]))

theorem begunIn_cons {record : Record} (begins : record.listening? = none) :
    begunIn (record :: trace) = begunIn trace := by
  simp [begunIn, begins]

theorem stoppedIn_cons {record : Record} (ends : record.stopped? = none) :
    stoppedIn (record :: trace) = stoppedIn trace := by
  simp [stoppedIn, ends]

/-- Of the receivers that have begun to listen, the lodger is the one that has not been stopped. -/
theorem begun_iff (orderly : Orderly trace lodger) {number : Nat} :
    number ∈ begunIn trace ↔ number ∈ stoppedIn trace ∨ lodger = some number := by
  induction orderly with
  | empty => simp [begunIn, stoppedIn]
  | other begins ends _ ih => rw [begunIn_cons begins, stoppedIn_cons ends, ih]
  | @listening time guest trace fresh rest ih =>
      have begun : begunIn (⟨time, .listening guest⟩ :: trace) = guest :: begunIn trace := rfl
      have stopped : stoppedIn (⟨time, .listening guest⟩ :: trace) = stoppedIn trace := rfl
      rw [begun, stopped, List.mem_cons, ih, Option.some.injEq, or_comm, eq_comm (a := number)]
      simp
  | @stopped time guest trace rest ih =>
      have begun : begunIn (⟨time, .stopped guest⟩ :: trace) = begunIn trace := rfl
      have stopped : stoppedIn (⟨time, .stopped guest⟩ :: trace) = guest :: stoppedIn trace := rfl
      rw [begun, stopped, List.mem_cons, ih, Option.some.injEq, or_comm, eq_comm (a := number)]
      simp

theorem lodger_listens (orderly : Orderly trace lodger) {number : Nat}
    (lodges : lodger = some number) : number ∉ stoppedIn trace := by
  induction orderly with
  | empty => simp at lodges
  | other begins ends _ ih =>
      rw [stoppedIn_cons ends]
      exact ih lodges
  | @listening time guest trace fresh rest ih =>
      obtain rfl : guest = number := Option.some.inj lodges
      intro stopped
      exact fresh (rest.begun_iff.mpr (.inl stopped))
  | stopped rest ih => contradiction

theorem begun_nodup (orderly : Orderly trace lodger) : (begunIn trace).Nodup := by
  induction orderly with
  | empty => exact List.nodup_nil
  | other begins _ _ ih =>
      rw [begunIn_cons begins]
      exact ih
  | listening fresh _ ih => exact List.nodup_cons.mpr ⟨fresh, ih⟩
  | stopped _ ih => exact ih

theorem stopped_nodup (orderly : Orderly trace lodger) : (stoppedIn trace).Nodup := by
  induction orderly with
  | empty => exact List.nodup_nil
  | other _ ends _ ih =>
      rw [stoppedIn_cons ends]
      exact ih
  | listening _ _ ih => exact ih
  | stopped rest ih => exact List.nodup_cons.mpr ⟨rest.lodger_listens rfl, ih⟩

theorem listeners (orderly : Orderly trace lodger) : listenersIn trace = lodger.toList := by
  have nodup : (listenersIn trace).Nodup := orderly.begun_nodup.filter _
  have member (number : Nat) : number ∈ listenersIn trace ↔ lodger = some number := by
    rw [listenersIn, List.mem_filter, decide_eq_true_eq, orderly.begun_iff]
    constructor
    · rintro ⟨stopped | lodges, still⟩
      · contradiction
      · exact lodges
    · intro lodges
      exact ⟨.inr lodges, orderly.lodger_listens lodges⟩
  cases lodger with
  | none => exact List.eq_nil_iff_forall_not_mem.mpr fun number => by simp [member]
  | some guest =>
      refine List.perm_singleton.mp ((List.perm_ext_iff_of_nodup nodup (by simp)).mpr ?_)
      intro number
      rw [member, Option.some.injEq, List.mem_singleton, eq_comm]

/-- What has been orderly so far was so at every moment. -/
theorem at_moment {moment : List Record} (orderly : Orderly trace lodger)
    (earlier : moment <:+ trace) :
    ∃ guest, Orderly moment guest := by
  induction orderly with
  | empty => exact ⟨none, List.suffix_nil.mp earlier ▸ .empty⟩
  | other begins ends rest ih =>
      rcases List.suffix_cons_iff.mp earlier with rfl | earlier
      · exact ⟨_, .other begins ends rest⟩
      · exact ih earlier
  | listening fresh rest ih =>
      rcases List.suffix_cons_iff.mp earlier with rfl | earlier
      · exact ⟨_, .listening fresh rest⟩
      · exact ih earlier
  | stopped rest ih =>
      rcases List.suffix_cons_iff.mp earlier with rfl | earlier
      · exact ⟨_, .stopped rest⟩
      · exact ih earlier

theorem listeners_le_one (orderly : Orderly trace lodger) : (listenersIn trace).length ≤ 1 := by
  rw [orderly.listeners]
  cases lodger <;> simp

end Orderly

/-- A receiver after a change to one of them is what it was, or what the change made of it. -/
theorem State.updateReceiver_found {state : State} {number other : Nat}
    {change : Receiver → Receiver} {receiver : Receiver}
    (found : (state.updateReceiver number change).receivers[other]? = some receiver) :
    ∃ old, state.receivers[other]? = some old ∧
      (if number = other then change old else old) = receiver := by
  simpa [State.updateReceiver, List.getElem?_modify, Option.map_eq_some_iff] using found

/-- The receiver that listens is the given one, by the trace and by the receivers themselves. -/
structure Lodged (state : State) (lodger : Option Nat) : Prop where
  orderly : Orderly state.trace lodger
  numbered : ∀ number ∈ begunIn state.trace, number < state.receivers.length
  listening : ∀ number receiver, state.receivers[number]? = some receiver →
    (receiver.listening = true ↔ lodger = some number)

namespace Lodged

variable {before after : State} {seen : List Record} {lodger : Option Nat} {number : Nat}

theorem initial {state : State} (blank : state.trace = []) (none : state.receivers = []) :
    Lodged state .none where
  orderly := blank ▸ .empty
  numbered := by simp [blank, begunIn]
  listening := by simp [none]

/-- Nothing is seen or done that touches who listens. -/
theorem calm (lodged : Lodged before lodger) (trace : after.trace = seen ++ before.trace)
    (calm : ∀ record ∈ seen, record.Calm) (receivers : after.receivers = before.receivers) :
    Lodged after lodger where
  orderly := by
    rw [trace]
    exact lodged.orderly.append calm
  numbered := by
    have none : begunIn seen = [] :=
      List.filterMap_eq_nil_iff.mpr fun record member => (calm record member).1
    rw [trace, begunIn_append, none, List.nil_append, receivers]
    exact lodged.numbered
  listening := by
    rw [receivers]
    exact lodged.listening

theorem drift (lodged : Lodged before lodger) (drift : Drift before seen after) :
    Lodged after lodger :=
  lodged.calm drift.trace (fun record member => (drift.apart record member).calm) drift.receivers

theorem unchanged (lodged : Lodged before lodger) (trace : after.trace = before.trace)
    (receivers : after.receivers = before.receivers) : Lodged after lodger := by
  have same : after.trace = [] ++ before.trace := trace
  exact lodged.calm same (by simp) receivers

/-- Something is seen that is about no receiver. -/
theorem note (lodged : Lodged before lodger) (what : Occurrence)
    (calm : Record.Calm ⟨before.now, what⟩) : Lodged (before.note what) lodger := by
  have noted : (before.note what).trace = [⟨before.now, what⟩] ++ before.trace := rfl
  exact lodged.calm noted (by simpa using calm) rfl

theorem addReceiver (lodged : Lodged before lodger) : Lodged before.addReceiver.1 lodger where
  orderly := .other rfl rfl lodged.orderly
  numbered := by
    intro number begun
    have bound := lodged.numbered number begun
    simp only [State.addReceiver, List.length_append, List.length_singleton]
    omega
  listening := by
    intro number receiver found
    simp only [State.addReceiver] at found
    by_cases old : number < before.receivers.length
    · rw [List.getElem?_append_left old] at found
      exact lodged.listening number receiver found
    · have lodgerOld : lodger ≠ some number := by
        intro lodges
        exact old (lodged.numbered number (lodged.orderly.begun_iff.mpr (.inr lodges)))
      have isNew : receiver = Receiver.new before.host := by
        rw [List.getElem?_append_right (by omega)] at found
        exact (List.mem_singleton.mp (List.mem_of_getElem? found))
      simp [isNew, lodgerOld]

/-- A change to one receiver that leaves alone whether it listens. -/
theorem updateReceiver (lodged : Lodged before lodger) (change : Receiver → Receiver)
    (same : ∀ receiver, (change receiver).listening = receiver.listening) :
    Lodged (before.updateReceiver number change) lodger where
  orderly := lodged.orderly
  numbered := by simpa [State.updateReceiver] using lodged.numbered
  listening := by
    intro other receiver found
    obtain ⟨old, foundOld, rfl⟩ := State.updateReceiver_found found
    have listens := lodged.listening other old foundOld
    split
    · rw [same]; exact listens
    · exact listens

theorem listen (lodged : Lodged before none) (fresh : number ∉ begunIn before.trace)
    (present : number < before.receivers.length) :
    Lodged ((before.updateReceiver number Receiver.listen).note
      (.listening number)) (some number) where
  orderly := .listening fresh lodged.orderly
  numbered := by
    intro other begun
    have isBegun : other = number ∨ other ∈ begunIn before.trace := List.mem_cons.mp begun
    have bound : other < before.receivers.length := by
      rcases isBegun with rfl | old
      · exact present
      · exact lodged.numbered other old
    simpa [State.note, State.updateReceiver] using bound
  listening := by
    intro other receiver found
    have changed : (before.updateReceiver number _).receivers[other]? = some receiver := found
    obtain ⟨old, foundOld, rfl⟩ := State.updateReceiver_found changed
    have silent := lodged.listening other old foundOld
    split
    · rename_i same
      simp [same]
    · rename_i different
      simpa [different] using silent

theorem stop (lodged : Lodged before (some number)) :
    Lodged ((before.updateReceiver number Receiver.stop).note
      (.stopped number)) none where
  orderly := .stopped lodged.orderly
  numbered := by
    intro other begun
    have bound : other < before.receivers.length := lodged.numbered other begun
    simpa [State.note, State.updateReceiver] using bound
  listening := by
    intro other receiver found
    have changed : (before.updateReceiver number _).receivers[other]? = some receiver := found
    obtain ⟨old, foundOld, rfl⟩ := State.updateReceiver_found changed
    have listens := lodged.listening other old foundOld
    split
    · simp
    · rename_i different
      simpa [different] using listens

end Lodged

end Televisor.Run
