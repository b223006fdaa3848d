import Televisor.Rendering.Exchange

namespace Televisor.Rendering

open Network

/-! Which answers come to which outcome. -/

/-- If this fails it is not because the renderer could not be reached. -/
def Reached {α : Type} (outcome : Except Failure α) : Prop :=
  ∀ failure, outcome = .error failure → failure.isConnection = false

theorem Reached.ok {α : Type} (value : α) : Reached (.ok value : Except Failure α) :=
  nofun

theorem Reached.error {α : Type} {failure : Failure} (reached : failure.isConnection = false) :
    Reached (.error failure : Except Failure α) := by
  rintro other same
  cases same
  exact reached

theorem Reached.bind {α β : Type} {first : Except Failure α} {next : α → Except Failure β}
    (reached : Reached first) (further : ∀ value, Reached (next value)) :
    Reached (first >>= next) := by
  cases first with
  | ok value => exact further value
  | error failure => exact .error (reached failure rfl)

theorem parseUrl_reached (text : String) : Reached (parseUrl text) := by
  unfold parseUrl
  cases Url.parse text with
  | ok url => exact .ok url
  | error failure => exact .error rfl

theorem serviceField_reached (service : List Char) (tag : String) :
    Reached (serviceField service tag) := by
  unfold serviceField
  split
  · exact .ok _
  · exact .error rfl

theorem resolve_reached (base : Url) (reference : List Char) : Reached (resolve base reference) := by
  unfold resolve
  split
  · exact .ok _
  · exact .error rfl

theorem parseDescription_reached (location xml : String) :
    Reached (parseDescription location xml) := by
  unfold parseDescription
  refine .bind (parseUrl_reached _) fun base => ?_
  split
  · exact .error rfl
  · refine .bind (serviceField_reached _ _) fun serviceType => ?_
    refine .bind (serviceField_reached _ _) fun control => ?_
    refine .bind (resolve_reached _ _) fun controlUrl => ?_
    refine .bind (serviceField_reached _ _) fun event => ?_
    exact .bind (resolve_reached _ _) fun eventUrl => .ok _

/-- A renderer counts as not reachable exactly when no connection came about, or no answer in time. -/
theorem readDevice_unreached (location : String) (answer : Answer) :
    (∃ failure, readDevice location answer = .error failure ∧ failure.isConnection = true) ↔
      ∃ message, answer = .breakdown (.connect message) ∨ answer = .breakdown (.timeout message) := by
  constructor
  · rintro ⟨failure, failed, connection⟩
    cases answer with
    | breakdown reason =>
        cases reason with
        | connect message => exact ⟨message, .inl rfl⟩
        | timeout message => exact ⟨message, .inr rfl⟩
        | other message =>
            cases failed
            contradiction
    | reply reply =>
        have reached : Reached (readDevice location (.reply reply)) := by
          simp only [readDevice]
          split
          · exact .error rfl
          · split
            · exact .error rfl
            · exact parseDescription_reached _ _
        rw [reached failure failed] at connection
        contradiction
  · rintro ⟨message, rfl | rfl⟩
    · exact ⟨_, rfl, rfl⟩
    · exact ⟨_, rfl, rfl⟩

end Televisor.Rendering
