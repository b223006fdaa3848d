import Mathlib.Algebra.Ring.Nat
import Televisor.Proofs.Run.Execution
import Televisor.Run.Loop

namespace Televisor.Run

open Controller

/-! Which clients still wait for an answer when the API is told to end.  Their commands lie in a queue
that is kept and not read any more, so neither the clients nor the program get any further. -/

namespace Turn

/-- The command that is sent in a turn, if one is. -/
def posts : Turn → List Waiting
  | .post waiting => [waiting]
  | _ => []

/-- How many commands are served in a turn. -/
def serves : Turn → Nat
  | .serve => 1
  | _ => 0

end Turn

def postsIn (list : List Turn) : List Waiting :=
  list.flatMap Turn.posts

def servesIn (list : List Turn) : Nat :=
  (list.map Turn.serves).sum

/-- The clients that have been answered, the first of them first. -/
def Loop.answered (loop : Loop) : List Nat :=
  (loop.told.map (·.client)).reverse

/-- What becomes of those who wait: whoever sends a command joins them, and the first of them are
served. -/
structure Progress (before : Loop) (posted : List Waiting) (served : Nat) (after : Loop) : Prop where
  enough : served ≤ (before.waiting ++ posted).length
  waiting : after.waiting = (before.waiting ++ posted).drop served
  answered : after.answered =
    before.answered ++ ((before.waiting ++ posted).take served).map (·.client)

namespace Progress

variable {before middle after : Loop} {posted more : List Waiting} {served also : Nat}

theorem idle (waiting : after.waiting = before.waiting) (told : after.told = before.told) :
    Progress before [] 0 after where
  enough := Nat.zero_le _
  waiting := by simp [waiting]
  answered := by simp [Loop.answered, told]

theorem trans (first : Progress before posted served middle)
    (second : Progress middle more also after) :
    Progress before (posted ++ more) (served + also) after := by
  have joined : middle.waiting ++ more = (before.waiting ++ (posted ++ more)).drop served := by
    rw [first.waiting, ← List.append_assoc, List.drop_append_of_le_length first.enough]
  have taken : (before.waiting ++ posted).take served =
      (before.waiting ++ (posted ++ more)).take served := by
    rw [← List.append_assoc, List.take_append_of_le_length first.enough]
  have enough := second.enough
  have enoughFirst := first.enough
  rw [joined, List.length_drop] at enough
  rw [List.length_append] at enoughFirst
  refine ⟨?_, ?_, ?_⟩
  · simp only [List.length_append] at enough enoughFirst ⊢
    omega
  · rw [second.waiting, joined, List.drop_drop]
  · rw [second.answered, joined, first.answered, taken, List.take_add, List.map_append,
      List.append_assoc]

end Progress

namespace Loop

variable {loop after : Loop}

theorem turns_cons (loop : Loop) (turn : Turn) (rest : List Turn) :
    loop.turns (turn :: rest) = (loop.turn turn).bind (·.turns rest) := rfl

theorem serveFirst_progress (served : loop.serveFirst = some after) :
    Progress loop [] 1 after := by
  unfold serveFirst at served
  cases waiting : loop.waiting with
  | nil => simp [waiting] at served
  | cons first rest =>
      simp only [waiting, Option.some.injEq] at served
      subst served
      exact ⟨by simp [waiting], by simp [waiting], by simp [answered, waiting]⟩

theorem handleFirst_progress (handled : loop.handleFirst = some after) :
    Progress loop [] 0 after := by
  unfold handleFirst at handled
  split at handled
  · contradiction
  · cases handled
    exact .idle rfl rfl

theorem turn_progress {turn : Turn} (turned : loop.turn turn = some after) :
    Progress loop turn.posts turn.serves after := by
  cases turn with
  | serve =>
      obtain ⟨_, served⟩ := Option.ite_none_right_eq_some.mp turned
      exact serveFirst_progress served
  | event =>
      obtain ⟨_, handled⟩ := Option.ite_none_right_eq_some.mp turned
      exact handleFirst_progress handled
  | post waiting =>
      obtain ⟨_, joined⟩ := Option.ite_none_right_eq_some.mp turned
      cases joined
      exact ⟨Nat.zero_le _, rfl, by simp [answered, Turn.serves]⟩
  | pass duration =>
      cases turned
      exact .idle rfl rfl
  | _ =>
      obtain ⟨_, same⟩ := Option.ite_none_right_eq_some.mp turned
      cases same
      exact .idle rfl rfl

theorem turns_progress {list : List Turn} (turned : loop.turns list = some after) :
    Progress loop (postsIn list) (servesIn list) after := by
  induction list generalizing loop with
  | nil =>
      cases turned
      exact .idle rfl rfl
  | cons turn rest ih =>
      rw [turns_cons] at turned
      obtain ⟨middle, first, others⟩ := Option.bind_eq_some_iff.mp turned
      exact (turn_progress first).trans (ih others)

/-- From a loop that drains with a client waiting, the program only gets on by letting time pass and
by letting further clients in. -/
structure Stuck (before : Loop) (after : Loop) : Prop where
  draining : after.stage = .draining
  waiting : before.waiting <+: after.waiting
  told : after.told = before.told

theorem turn_stuck {turn : Turn} (draining : loop.stage = .draining) (stranded : loop.waiting ≠ [])
    (turned : loop.turn turn = some after) : Stuck loop after := by
  cases turn with
  | post waiting =>
      obtain ⟨_, joined⟩ := Option.ite_none_right_eq_some.mp turned
      cases joined
      exact ⟨draining, List.prefix_append _ _, rfl⟩
  | pass duration =>
      cases turned
      exact ⟨draining, List.prefix_refl _, rfl⟩
  | finish =>
      obtain ⟨ended, _⟩ := Option.ite_none_right_eq_some.mp turned
      simp [stranded] at ended
  | _ =>
      obtain ⟨serving, _⟩ := Option.ite_none_right_eq_some.mp turned
      simp [readsQueue, draining] at serving

theorem turns_stuck {list : List Turn} (draining : loop.stage = .draining)
    (stranded : loop.waiting ≠ []) (turned : loop.turns list = some after) : Stuck loop after := by
  induction list generalizing loop with
  | nil =>
      cases turned
      exact ⟨draining, List.prefix_refl _, rfl⟩
  | cons turn rest ih =>
      rw [turns_cons] at turned
      obtain ⟨middle, first, others⟩ := Option.bind_eq_some_iff.mp turned
      have stuck := turn_stuck draining stranded first
      have still : middle.waiting ≠ [] := fun none =>
        stranded (List.prefix_nil.mp (none ▸ stuck.waiting))
      have stays := ih stuck.draining still others
      exact ⟨stays.draining, stuck.waiting.trans stays.waiting, stays.told.trans stuck.told⟩

/-- When the API is told to end, those are left waiting whose commands have not been served; nobody
waits exactly if as many commands were served as were sent, and only then does the program end.
Otherwise the first of them is never answered, whatever comes after. -/
theorem stranded_for_good (state : State) (list : List Turn) (loop : Loop)
    (reached : (start state).turns list = some loop) (draining : loop.stage = .draining) :
    loop.answered = ((postsIn list).take (servesIn list)).map (·.client) ∧
    loop.queued = ((postsIn list).drop (servesIn list)).take queueRoom ∧
    (loop.queued = [] ↔ servesIn list = (postsIn list).length) ∧
    (loop.queued = [] ↔ ∃ ended, loop.turn .finish = some ended) ∧
    ∀ stranded, loop.stranded? = some stranded → ∀ later after, loop.turns later = some after →
      after.stage = .draining ∧ after.stranded? = some stranded ∧ after.answered = loop.answered := by
  have progress := turns_progress reached
  have blank : (start state).waiting = [] := rfl
  have enough := progress.enough
  have waiting := progress.waiting
  have answered := progress.answered
  rw [blank, List.nil_append] at enough waiting answered
  have room : loop.queued = [] ↔ loop.waiting = [] := by
    rw [queued, List.take_eq_nil_iff]
    exact or_iff_right (by decide)
  refine ⟨answered, by rw [queued, waiting], ?_, ?_, ?_⟩
  · rw [room, waiting, List.drop_eq_nil_iff]
    omega
  · rw [room]
    simp [turn, draining]
  · intro stranded first later after turned
    have isFirst : loop.waiting.head? = some stranded := by
      rwa [stranded?, if_pos draining] at first
    have waits : loop.waiting ≠ [] := by
      intro none
      simp [none] at isFirst
    have stuck := turns_stuck draining waits turned
    refine ⟨stuck.draining, ?_, by rw [Loop.answered, Loop.answered, stuck.told]⟩
    obtain ⟨more, same⟩ := stuck.waiting
    rw [stranded?, if_pos stuck.draining, ← same, List.head?_append, isFirst]
    rfl

/-- A command that is sent just before the interrupt. -/
theorem stranded_by_interrupt :
    (start .plain).turns [.post ⟨7, .muteVolume⟩, .interrupt, .stop] =
      some ⟨.draining, State.plain.shutdown, [⟨7, .muteVolume⟩], []⟩ ∧
    ∀ later after,
      (Loop.mk .draining State.plain.shutdown [⟨7, .muteVolume⟩] []).turns later = some after →
      after.stage = .draining ∧ after.stranded? = some ⟨7, .muteVolume⟩ ∧ after.answered = [] :=
  have reached : (start .plain).turns [.post ⟨7, .muteVolume⟩, .interrupt, .stop] =
      some ⟨.draining, State.plain.shutdown, [⟨7, .muteVolume⟩], []⟩ := rfl
  ⟨reached, (stranded_for_good .plain _ _ reached rfl).2.2.2.2 _ rfl⟩

theorem queue_left_unread : ¬ ∀ (state : State) (list : List Turn) (loop : Loop),
    (start state).turns list = some loop → loop.stage = .draining → loop.queued = [] := by
  intro served
  have none := served .plain [.post ⟨7, .muteVolume⟩, .interrupt, .stop]
    ⟨.draining, State.plain.shutdown, [⟨7, .muteVolume⟩], []⟩ rfl rfl
  contradiction

end Loop

end Televisor.Run
