namespace Televisor.Discovery

/-! The list of applications, which the television delivers when it likes.  The gate is waited for
once; a list that arrives later still takes the place of what there was. -/

/-- Names of applications and their ids; each name occurs once. -/
structure Apps where
  pairs : List (String × String)
  distinct : (pairs.map Prod.fst).Nodup
deriving Repr, DecidableEq

namespace Apps

def empty : Apps := ⟨[], List.nodup_nil⟩

theorem distinct_put (apps : Apps) (pair : String × String) :
    ((apps.pairs.filter (·.1 != pair.1) ++ [pair]).map Prod.fst).Nodup := by
  have rest : ((apps.pairs.filter (·.1 != pair.1)).map Prod.fst).Nodup :=
    apps.distinct.sublist (List.filter_sublist.map _)
  rw [List.map_append]
  refine List.nodup_append.mpr ⟨rest, by simp, ?_⟩
  intro name member other isNew same
  obtain ⟨old, isOld, rfl⟩ := List.mem_map.mp member
  have different := (List.mem_filter.mp isOld).2
  simp_all

/-- Takes the place of what has the same name. -/
def put (apps : Apps) (pair : String × String) : Apps :=
  ⟨apps.pairs.filter (·.1 != pair.1) ++ [pair], apps.distinct_put pair⟩

/-- Of pairs that share a name the last counts. -/
def ofPairs (pairs : List (String × String)) : Apps :=
  pairs.foldl put empty

def names (apps : Apps) : List String :=
  (apps.pairs.map Prod.fst).mergeSort fun a b => decide (a ≤ b)

def id? (apps : Apps) (name : String) : Option String :=
  (apps.pairs.find? (·.1 == name)).map (·.2)

end Apps

inductive Gate where
  | unresolved
  | data (apps : Apps)
  /-- The deadline passed without a list. -/
  | empty
deriving Repr, DecidableEq

namespace Gate

def isResolved : Gate → Bool
  | .unresolved => false
  | _ => true

def apps? : Gate → Option Apps
  | .data apps => some apps
  | _ => none

def deliver (_ : Gate) (apps : Apps) : Gate :=
  .data apps

def expire (gate : Gate) : Gate :=
  if gate.isResolved then gate else .empty

end Gate

/-- What waiting for the list is about: the request's return, or the list itself. -/
inductive Phase where
  | requesting (due : Nat)
  | waiting (deadline : Nat)
deriving Repr, DecidableEq

namespace Phase

def due : Phase → Nat
  | .requesting due => due
  | .waiting deadline => deadline

/-- What is still waited for when the list has been delivered. -/
def delivered? : Phase → Option Phase
  | .requesting due => some (.requesting due)
  | .waiting _ => none

/-- The latest instant at which waiting ends, with the given patience after the request. -/
def latest (patience : Nat) : Phase → Nat
  | .requesting due => due + patience
  | .waiting deadline => deadline

theorem due_le_latest (phase : Phase) (patience : Nat) : phase.due ≤ phase.latest patience := by
  cases phase with
  | requesting due => exact Nat.le_add_right _ _
  | waiting deadline => exact Nat.le_refl _

end Phase

end Televisor.Discovery
