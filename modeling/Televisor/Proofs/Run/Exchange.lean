import Televisor.Proofs.Run.Passage
import Televisor.Run.Operation

namespace Televisor.Run

open Controller Network

/-! Calls that are waited for.  Besides the call itself only what happens by itself is seen, so the
calls made meanwhile are requests of a renewal. -/

variable {before after : State} {seen : List Record}

theorem mem_callsIn {call : Call} : call ∈ callsIn seen ↔ ∃ time, ⟨time, .called call⟩ ∈ seen := by
  constructor
  · intro member
    obtain ⟨⟨time, what⟩, found, called⟩ := List.mem_filterMap.mp member
    cases what <;> simp only [Record.call?, Option.some.injEq, reduceCtorEq] at called
    exact ⟨time, called ▸ found⟩
  · rintro ⟨time, found⟩
    exact List.mem_filterMap.mpr ⟨_, found, rfl⟩

/-- Every call that was seen is of one kind. -/
def Calls (kind : Call → Prop) (seen : List Record) : Prop :=
  ∀ call ∈ callsIn seen, kind call

namespace Calls

variable {kind other : Call → Prop} {later : List Record}

theorem nil : Calls kind [] := by
  simp [Calls, callsIn]

theorem one {call : Call} {time : Nat} (isKind : kind call) :
    Calls kind [⟨time, .called call⟩] := by
  intro made member
  obtain rfl : made = call := List.mem_singleton.mp member
  exact isKind

theorem append (second : Calls kind later) (first : Calls kind seen) :
    Calls kind (later ++ seen) := by
  intro call member
  rw [callsIn_append, List.mem_append] at member
  rcases member with member | member
  · exact second call member
  · exact first call member

theorem imp (calls : Calls kind seen) (weaker : ∀ call, kind call → other call) :
    Calls other seen :=
  fun call member => weaker call (calls call member)

end Calls

def Call.Requests (method : String) (call : Call) : Prop :=
  ∃ request, call = .http request ∧ request.method = method

theorem Passage.calls (passage : Passage before seen after) :
    Calls (Call.Requests "SUBSCRIBE") seen := by
  intro call member
  obtain ⟨time, found⟩ := mem_callsIn.mp member
  have spontaneous := passage.spontaneous _ found
  cases call with
  | http request => exact ⟨request, rfl, spontaneous⟩
  | _ => exact spontaneous.elim

namespace State

variable (state : State)

theorem wait_passage (duration : Nat) : ∃ seen, Passage state seen (state.wait duration) :=
  state.passTo_passage _

theorem requested_calls (request : Request) :
    Calls (Call.Requests request.method) (state.requested request) := by
  cases found : request.built? with
  | none =>
      rw [requested, found]
      exact .nil
  | some built =>
      rw [requested, found]
      exact .one ⟨built, rfl, Request.built?_method found⟩

theorem requested_built {request built : Request} (found : request.built? = some built) :
    Call.http built ∈ callsIn (state.requested request) := by
  rw [requested, found]
  exact List.mem_singleton_self _

theorem exchange_drift (request : Request) :
    ∃ seen, Drift state seen (state.exchange request).1 ∧
      Calls (fun call => call.Requests request.method ∨ call.Requests "SUBSCRIBE") seen ∧
      ∀ built, request.built? = some built → Call.http built ∈ callsIn seen := by
  have sent := state.send_drift request
  obtain ⟨meanwhile, passage⟩ := (state.send request).1.passTo_passage (state.send request).2.due
  refine ⟨_, sent.trans passage.toDrift, .append ?_ ?_, fun built found => ?_⟩
  · exact passage.calls.imp fun _ renews => .inr renews
  · exact (state.requested_calls request).imp fun _ requests => .inl requests
  · rw [callsIn_append]
    exact List.mem_append_right _ (state.requested_built found)

end State

end Televisor.Run
