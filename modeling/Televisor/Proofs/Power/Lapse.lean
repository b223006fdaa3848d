import Mathlib.Data.List.Basic
import Televisor.Power.Window

namespace Televisor.Power

open Media

/-! The power-off window by itself, through any calls.  Its deadline is dropped only by a call that looks
for it, long after it has been reached or never, and no answer tells when. -/

/-- What the window is asked or told. -/
inductive Call where
  | arm (interval : Nat)
  | isOpen
  | clearIfExpired
  | lifecycle (power : Power)
deriving Repr, DecidableEq

inductive Answer where
  | isOpen (yes : Bool)
  | lifecycle (shown : Lifecycle)
deriving Repr, DecidableEq

/-- A call with the instant at which it is made. -/
structure Timed where
  time : Nat
  call : Call
deriving Repr, DecidableEq

/-- The deadline that a call sets. -/
def Timed.deadline? (timed : Timed) : Option Nat :=
  match timed.call with
  | .arm interval => some (timed.time + interval + slack)
  | _ => none

/-- The deadline that was set last. -/
def lastDeadline? (calls : List Timed) : Option Nat :=
  calls.reverse.findSome? Timed.deadline?

def InOrder (calls : List Timed) : Prop :=
  calls.Pairwise fun earlier later => earlier.time ≤ later.time

instance (calls : List Timed) : Decidable (InOrder calls) :=
  inferInstanceAs (Decidable (calls.Pairwise _))

/-- All but the calls that would drop an expired deadline. -/
def uncleared (calls : List Timed) : List Timed :=
  calls.filter (·.call ≠ .clearIfExpired)

namespace Window

def after (window : Window) (timed : Timed) : Window :=
  match timed.call with
  | .arm interval => window.arm timed.time interval
  | .clearIfExpired => window.clearIfExpired timed.time
  | .isOpen | .lifecycle _ => window

def answer? (window : Window) (timed : Timed) : Option Answer :=
  match timed.call with
  | .isOpen => some (.isOpen (window.isOpen timed.time))
  | .lifecycle power => some (.lifecycle (window.lifecycle power timed.time))
  | .arm _ | .clearIfExpired => none

def run (window : Window) (calls : List Timed) : Window :=
  calls.foldl after window

/-- The answers to all calls that have one, in order. -/
def answers (window : Window) : List Timed → List Answer
  | [] => []
  | timed :: rest => (window.answer? timed).toList ++ (window.after timed).answers rest

variable {window first second : Window} {timed : Timed} {calls : List Timed} {now deadline : Nat}

theorem run_cons (window : Window) (timed : Timed) (calls : List Timed) :
    window.run (timed :: calls) = (window.after timed).run calls :=
  rfl

theorem run_append (window : Window) (before later : List Timed) :
    window.run (before ++ later) = (window.run before).run later :=
  List.foldl_append

theorem isOpen_iff : window.isOpen now = true ↔ ∃ deadline, window.deadline = some deadline ∧ now < deadline := by
  simp [isOpen, Option.any_eq_true]

theorem clearIfExpired_cases (window : Window) (time : Nat) :
    window.clearIfExpired time = window ∨ window.clearIfExpired time = closed := by
  unfold clearIfExpired
  split
  · exact .inl rfl
  · exact .inr rfl

theorem isOpen_clearIfExpired {time : Nat} (past : time ≤ now) :
    (window.clearIfExpired time).isOpen now = window.isOpen now := by
  cases still : window.isOpen time with
  | true => rw [clearIfExpired, if_pos still]
  | false => rw [clearIfExpired_closed still, closed_later still past]; rfl

/-- From its own instant on, a call changes the window at most by the deadline that it sets. -/
theorem isOpen_after (window : Window) (past : timed.time ≤ now) :
    (window.after timed).isOpen now = isOpen ⟨timed.deadline?.or window.deadline⟩ now := by
  obtain ⟨time, call⟩ := timed
  cases call with
  | arm interval => rfl
  | clearIfExpired => exact isOpen_clearIfExpired past
  | isOpen => rfl
  | lifecycle power => rfl

theorem lastDeadline?_cons (timed : Timed) (calls : List Timed) :
    lastDeadline? (timed :: calls) = (lastDeadline? calls).or timed.deadline? := by
  simp [lastDeadline?, List.findSome?_append]

/-- Whatever has been dropped on the way, the last deadline decides. -/
theorem isOpen_run (past : ∀ timed ∈ calls, timed.time ≤ now) :
    (window.run calls).isOpen now = isOpen ⟨(lastDeadline? calls).or window.deadline⟩ now := by
  induction calls generalizing window with
  | nil => rfl
  | cons timed calls ih =>
      obtain ⟨first, rest⟩ := List.forall_mem_cons.mp past
      rw [run_cons, ih rest, lastDeadline?_cons]
      cases lastDeadline? calls with
      | some deadline => rfl
      | none => exact isOpen_after window first

theorem answer?_congr (same : first.isOpen timed.time = second.isOpen timed.time) :
    first.answer? timed = second.answer? timed := by
  simp only [answer?, lifecycle, same]

/-- Two windows that are open at the same instants give the same answers, even if only one of them is told
to drop expired deadlines. -/
theorem answers_uncleared (ordered : InOrder calls)
    (same : ∀ timed ∈ calls, first.isOpen timed.time = second.isOpen timed.time) :
    first.answers calls = second.answers (uncleared calls) := by
  induction calls generalizing first second with
  | nil => rfl
  | cons timed calls ih =>
      obtain ⟨now, rest⟩ := List.forall_mem_cons.mp same
      obtain ⟨next, ordered⟩ := List.pairwise_cons.mp ordered
      by_cases clears : timed.call = .clearIfExpired
      · have dropped : uncleared (timed :: calls) = uncleared calls :=
          List.filter_cons_of_neg (by simpa using clears)
        have silent : first.answer? timed = none := by
          rw [answer?, clears]
        -- Only the first window is given this call, and from now on that makes no difference.
        have left : ∀ other ∈ calls, (first.after timed).isOpen other.time = second.isOpen other.time := by
          intro other member
          rw [after, clears]
          exact (isOpen_clearIfExpired (next other member)).trans (rest other member)
        rw [answers, silent, dropped]
        exact ih ordered left
      · have kept : uncleared (timed :: calls) = timed :: uncleared calls :=
          List.filter_cons_of_pos (by simpa using clears)
        have left : ∀ other ∈ calls,
            (first.after timed).isOpen other.time = (second.after timed).isOpen other.time := by
          intro other member
          rw [isOpen_after first (next other member), isOpen_after second (next other member)]
          cases timed.deadline? with
          | some deadline => rfl
          | none => exact rest other member
        rw [kept, answers, answers, answer?_congr now, ih ordered left]

theorem deadline_after (found : (window.after timed).deadline = some deadline) :
    timed.deadline? = some deadline ∨ window.deadline = some deadline := by
  obtain ⟨time, call⟩ := timed
  cases call with
  | arm interval => exact .inl found
  | clearIfExpired =>
      change (window.clearIfExpired time).deadline = some deadline at found
      rcases clearIfExpired_cases window time with kept | dropped
      · exact .inr (kept ▸ found)
      · rw [dropped] at found
        cases found
  | isOpen => exact .inr found
  | lifecycle power => exact .inr found

/-- A deadline is that of the beginning or of a call. -/
theorem deadline_run (found : (window.run calls).deadline = some deadline) :
    window.deadline = some deadline ∨ ∃ timed ∈ calls, timed.deadline? = some deadline := by
  induction calls generalizing window with
  | nil => exact .inl found
  | cons timed calls ih =>
      rcases ih found with changed | ⟨other, member, sets⟩
      · rcases deadline_after changed with sets | kept
        · exact .inr ⟨timed, List.mem_cons_self, sets⟩
        · exact .inl kept
      · exact .inr ⟨other, List.mem_cons_of_mem _ member, sets⟩

/-- A deadline that no call sets back only moves on, and it is dropped only once it has been reached. -/
theorem deadline_run_ge (held : window.deadline = some deadline) (positive : 0 < deadline)
    (onward : ∀ timed ∈ calls, ∀ moved, timed.deadline? = some moved → deadline ≤ moved) :
    match (window.run calls).deadline with
    | some moved => deadline ≤ moved
    | none => ∃ timed ∈ calls, deadline ≤ timed.time := by
  split
  · rename_i moved found
    rcases deadline_run found with kept | ⟨timed, member, sets⟩
    · rw [held, Option.some.injEq] at kept
      exact Nat.le_of_eq kept
    · exact onward timed member moved sets
  · rename_i dropped
    by_contra unreached
    -- Then at the last instant before the deadline the window is still open, whoever has dropped it.
    have past : ∀ timed ∈ calls, timed.time ≤ deadline - 1 := by
      intro timed member
      have early : ¬ deadline ≤ timed.time := fun reached => unreached ⟨timed, member, reached⟩
      omega
    have shut : (window.run calls).isOpen (deadline - 1) = false := by
      rw [isOpen_eq_false, dropped]
      nofun
    have still : isOpen ⟨(lastDeadline? calls).or window.deadline⟩ (deadline - 1) = true := by
      cases last : lastDeadline? calls with
      | none => exact isOpen_of_le held (Nat.le_refl deadline) (by omega)
      | some moved =>
          obtain ⟨timed, member, sets⟩ := List.exists_of_findSome?_eq_some last
          exact isOpen_of_le rfl (onward timed (List.mem_reverse.mp member) moved sets) (by omega)
    rw [← isOpen_run past, shut] at still
    contradiction

end Window

theorem Timed.deadline?_eq_some {timed : Timed} {deadline : Nat} : timed.deadline? = some deadline ↔
    ∃ interval, timed.call = .arm interval ∧ deadline = timed.time + interval + slack := by
  obtain ⟨time, call⟩ := timed
  cases call <;> simp [deadline?, eq_comm]

theorem Timed.deadline?_eq_none {timed : Timed} :
    timed.deadline? = none ↔ ∀ interval, timed.call ≠ .arm interval := by
  obtain ⟨time, call⟩ := timed
  cases call <;> simp [deadline?]

theorem lastDeadline?_eq_some {calls : List Timed} {deadline : Nat} :
    lastDeadline? calls = some deadline ↔ ∃ before time interval later,
      calls = before ++ ⟨time, .arm interval⟩ :: later ∧
      (∀ timed ∈ later, ∀ interval, timed.call ≠ .arm interval) ∧ deadline = time + interval + slack := by
  rw [lastDeadline?, List.findSome?_eq_some_iff]
  constructor
  · rintro ⟨later, ⟨time, call⟩, before, split, sets, unset⟩
    obtain ⟨interval, rfl, same⟩ := Timed.deadline?_eq_some.mp sets
    refine ⟨before.reverse, time, interval, later.reverse, ?_, fun timed member => ?_, same⟩
    · rw [← List.reverse_reverse calls, split]
      simp
    · exact Timed.deadline?_eq_none.mp (unset timed (List.mem_reverse.mp member))
  · rintro ⟨before, time, interval, later, rfl, unset, rfl⟩
    refine ⟨later.reverse, ⟨time, .arm interval⟩, before.reverse, by simp, rfl, fun timed member => ?_⟩
    exact Timed.deadline?_eq_none.mpr (unset timed (List.mem_reverse.mp member))

namespace Window

/-- The window is open up to the last arming's deadline, whatever has dropped an expired one on the way;
no answer depends on what does so; and with one interval the deadline never moves back. -/
theorem lapse_unnoticed (calls : List Timed) (ordered : InOrder calls) :
    (∀ now, (∀ timed ∈ calls, timed.time ≤ now) →
      ((closed.run calls).isOpen now = true ↔ ∃ before time interval later,
        calls = before ++ ⟨time, .arm interval⟩ :: later ∧
        (∀ timed ∈ later, ∀ interval, timed.call ≠ .arm interval) ∧ now < time + interval + 5000)) ∧
    (∀ other, InOrder other → uncleared other = uncleared calls →
      closed.answers other = closed.answers calls) ∧
    ∀ interval, (∀ timed ∈ calls, ∀ own, timed.call = .arm own → own = interval) →
      ∀ before later, calls = before ++ later → ∀ deadline,
        (closed.run before).deadline = some deadline →
        match (closed.run calls).deadline with
        | some moved => deadline ≤ moved
        | none => ∃ timed ∈ later, deadline ≤ timed.time := by
  refine ⟨fun now past => ?_, fun other inOrder same => ?_, ?_⟩
  · rw [isOpen_run past, isOpen_iff]
    change (∃ deadline, (lastDeadline? calls).or none = some deadline ∧ now < deadline) ↔ _
    rw [Option.or_none]
    constructor
    · rintro ⟨deadline, last, early⟩
      obtain ⟨before, time, interval, later, split, unset, rfl⟩ := lastDeadline?_eq_some.mp last
      exact ⟨before, time, interval, later, split, unset, early⟩
    · rintro ⟨before, time, interval, later, split, unset, early⟩
      exact ⟨_, lastDeadline?_eq_some.mpr ⟨before, time, interval, later, split, unset, rfl⟩, early⟩
  · rw [answers_uncleared inOrder fun _ _ => rfl, answers_uncleared ordered fun _ _ => rfl, same]
  · rintro interval constant before later rfl deadline held
    rcases deadline_run held with nothing | ⟨first, earlier, sets⟩
    · cases nothing
    obtain ⟨own, arms, rfl⟩ := Timed.deadline?_eq_some.mp sets
    obtain rfl := constant first (List.mem_append_left _ earlier) own arms
    rw [run_append]
    refine deadline_run_ge held (by simp [slack]) fun second member moved sets => ?_
    obtain ⟨again, arms, rfl⟩ := Timed.deadline?_eq_some.mp sets
    obtain rfl := constant second (List.mem_append_right _ member) again arms
    have times := (List.pairwise_append.mp ordered).2.2 first earlier second member
    omega

/-- The first deadline is dropped at the instant at which it is reached, and the second one is looked for
just before it is. -/
def twiceArmed : List Timed :=
  [⟨0, .arm 10000⟩, ⟨14999, .isOpen⟩, ⟨15000, .clearIfExpired⟩, ⟨15000, .lifecycle .off⟩,
    ⟨20000, .arm 10000⟩, ⟨34999, .clearIfExpired⟩, ⟨34999, .lifecycle .on⟩]

theorem twiceArmed_unnoticed :
    InOrder twiceArmed ∧ (closed.run twiceArmed).isOpen 34999 = true ∧
      closed.answers (uncleared twiceArmed) = closed.answers twiceArmed ∧
      (closed.run (twiceArmed.take 2)).deadline = some 15000 ∧
      (closed.run twiceArmed).deadline = some 35000 ∧ 15000 ≤ 35000 := by
  have ordered : InOrder twiceArmed := by decide
  obtain ⟨opens, answers, moves⟩ := lapse_unnoticed twiceArmed ordered
  have constant : ∀ timed ∈ twiceArmed, ∀ own, timed.call = .arm own → own = 10000 := by
    simp [twiceArmed]
  refine ⟨ordered, ?_, answers _ (by decide) (by decide), rfl, rfl, ?_⟩
  · exact (opens 34999 (by decide)).mpr
      ⟨twiceArmed.take 4, 20000, 10000, twiceArmed.drop 5, rfl, by simp [twiceArmed], by decide⟩
  · exact moves 10000 constant (twiceArmed.take 2) (twiceArmed.drop 2) rfl 15000 rfl

end Window

end Televisor.Power
