import Mathlib.Data.List.Nodup
import Televisor.Proofs.Run.Dispatch
import Televisor.Proofs.Text.ByteOrder

namespace Televisor.Discovery.Apps

/-! The names of a list of applications, in their order. -/

theorem mem_put {apps : Apps} {pair : String × String} {name : String} :
    name ∈ (apps.put pair).pairs.map Prod.fst ↔ name ∈ apps.pairs.map Prod.fst ∨ name = pair.1 := by
  by_cases same : name = pair.1
  · simp [put, same]
  · simp [put, same]

theorem mem_ofPairs {pairs : List (String × String)} {name : String} :
    name ∈ (ofPairs pairs).pairs.map Prod.fst ↔ name ∈ pairs.map Prod.fst := by
  suffices ∀ apps : Apps, name ∈ (pairs.foldl put apps).pairs.map Prod.fst ↔
      name ∈ apps.pairs.map Prod.fst ∨ name ∈ pairs.map Prod.fst from
    (this empty).trans (or_iff_right List.not_mem_nil)
  induction pairs with
  | nil => simp
  | cons pair rest ih =>
      intro apps
      rw [List.foldl_cons, ih, mem_put, List.map_cons, List.mem_cons, or_assoc]

theorem names_perm (apps : Apps) : apps.names.Perm (apps.pairs.map Prod.fst) :=
  List.mergeSort_perm _ _

theorem mem_names {apps : Apps} {name : String} : name ∈ apps.names ↔ ∃ id, (name, id) ∈ apps.pairs := by
  rw [apps.names_perm.mem_iff, List.mem_map]
  constructor
  · rintro ⟨⟨_, id⟩, member, rfl⟩
    exact ⟨id, member⟩
  · rintro ⟨id, member⟩
    exact ⟨_, member, rfl⟩

theorem names_le (apps : Apps) : apps.names.Pairwise (· ≤ ·) := by
  have transitive (a b c : String) (first : decide (a ≤ b) = true)
      (second : decide (b ≤ c) = true) : decide (a ≤ c) = true :=
    decide_eq_true (le_trans (of_decide_eq_true first) (of_decide_eq_true second))
  have total (a b : String) : (decide (a ≤ b) || decide (b ≤ a)) = true := by
    simpa using le_total a b
  have sorted := List.pairwise_mergeSort transitive total (apps.pairs.map Prod.fst)
  exact sorted.imp of_decide_eq_true

/-- The names are listed in the order of their bytes, each once. -/
theorem names_bytes (apps : Apps) :
    apps.names.Pairwise fun a b => Text.utf8Bytes a.toList < Text.utf8Bytes b.toList := by
  have nodup : apps.names.Nodup := apps.names_perm.nodup_iff.mpr apps.distinct
  refine (apps.names_le.and nodup).imp fun ordered => ?_
  exact Text.utf8Bytes_lt (String.lt_iff_toList_lt.mp (lt_of_le_of_ne ordered.1 ordered.2))

/-- The list depends on nothing but which names there are. -/
theorem names_congr {apps other : Apps}
    (same : ∀ name, name ∈ apps.pairs.map Prod.fst ↔ name ∈ other.pairs.map Prod.fst) :
    apps.names = other.names := by
  have perm : apps.names.Perm other.names :=
    (apps.names_perm.trans ((List.perm_ext_iff_of_nodup apps.distinct other.distinct).mpr same)).trans
      other.names_perm.symm
  exact perm.eq_of_pairwise (fun _ _ _ _ => le_antisymm) apps.names_le other.names_le

theorem id?_eq_some {apps : Apps} {name id : String} :
    apps.id? name = some id ↔ (name, id) ∈ apps.pairs := by
  rw [id?, Option.map_eq_some_iff]
  constructor
  · rintro ⟨⟨other, _⟩, found, rfl⟩
    have named := List.find?_some found
    obtain rfl : other = name := eq_of_beq named
    exact List.mem_of_find?_eq_some found
  · intro member
    obtain ⟨pair, found⟩ : ∃ pair, apps.pairs.find? (·.1 == name) = some pair :=
      Option.isSome_iff_exists.mp (List.find?_isSome.mpr ⟨_, member, beq_self_eq_true name⟩)
    have named := List.find?_some found
    have same : pair = (name, id) :=
      List.inj_on_of_nodup_map apps.distinct (List.mem_of_find?_eq_some found) member (eq_of_beq named)
    exact ⟨pair, found, congrArg Prod.snd same⟩

theorem id?_eq_none {apps : Apps} {name : String} : apps.id? name = none ↔ name ∉ apps.names := by
  rw [mem_names, id?, Option.map_eq_none_iff, List.find?_eq_none]
  constructor
  · rintro absent ⟨id, member⟩
    exact absent _ member (beq_self_eq_true name)
  · rintro absent ⟨other, id⟩ member same
    exact absent ⟨id, eq_of_beq same ▸ member⟩

end Televisor.Discovery.Apps

namespace Televisor.Controller

open Discovery Media Remote

/-! Which sources are listed, and which can be selected. -/

theorem sourceKey?_eq_none {name : String} : sourceKey? name = none ↔ name ∉ builtinNames := by
  rw [sourceKey?, Option.map_eq_none_iff, List.find?_eq_none, builtinNames, List.mem_map]
  simp

theorem sourceKey?_eq_some {name key : String} :
    sourceKey? name = some key ↔ ⟨name, key⟩ ∈ builtinSources := by
  have distinct : (builtinSources.map Source.name).Nodup := by decide
  rw [sourceKey?, Option.map_eq_some_iff]
  constructor
  · rintro ⟨⟨other, _⟩, found, rfl⟩
    have named := List.find?_some found
    obtain rfl : other = name := eq_of_beq named
    exact List.mem_of_find?_eq_some found
  · intro member
    obtain ⟨source, found⟩ : ∃ source, builtinSources.find? (·.name == name) = some source :=
      Option.isSome_iff_exists.mp (List.find?_isSome.mpr ⟨_, member, beq_self_eq_true name⟩)
    have named := List.find?_some found
    have same : source = ⟨name, key⟩ :=
      List.inj_on_of_nodup_map distinct (List.mem_of_find?_eq_some found) member (eq_of_beq named)
    exact ⟨source, found, congrArg Source.key same⟩

/-- The names of the applications that have been discovered, in the order they are listed. -/
def discoveredNames (gate : Gate) : List String :=
  (gate.apps?.map Apps.names).getD []

theorem sourceList_eq (gate : Gate) :
    Controller.sourceList gate = builtinNames ++ discoveredNames gate :=
  rfl

/-- The id that was delivered for a name. -/
def discoveredId? (gate : Gate) (name : String) : Option String :=
  gate.apps?.bind (·.id? name)

theorem discoveredId?_eq_none {gate : Gate} {name : String} :
    discoveredId? gate name = none ↔ name ∉ discoveredNames gate := by
  unfold discoveredId? discoveredNames
  cases gate.apps? with
  | none => simp
  | some apps => exact Apps.id?_eq_none

variable {controller : Controller} {at_ : Circumstances} {name : String}

/-- Exactly what is listed can be selected. -/
theorem decideSource_refuse (fault : Misuse) :
    decideSource controller at_ name = .refuse (.misuse fault) ↔
      name ∉ Controller.sourceList at_.gate ∧ fault = .source name := by
  have listed : name ∉ Controller.sourceList at_.gate ↔
      discoveredId? at_.gate name = none ∧ sourceKey? name = none := by
    rw [sourceList_eq, List.mem_append, not_or, discoveredId?_eq_none, sourceKey?_eq_none, and_comm]
  rw [listed, decideSource, ← discoveredId?]
  cases discoveredId? at_.gate name with
  | some id =>
      simp only
      refine iff_of_false (fun refused => ?_) nofun
      unfold decideLaunch at refused
      split at refused
      · cases refused
      · split at refused <;> cases refused
  | none =>
      cases sourceKey? name with
      | some key =>
          simp only
          refine iff_of_false (fun refused => ?_) nofun
          rcases decideKeys_cons controller key [] with held | sent
          · cases held.symm.trans refused
          · cases sent.symm.trans refused
      | none => simp [eq_comm]

end Televisor.Controller

namespace Televisor.Run

open Controller Discovery Media

/-! Selecting a source. -/

/-- The list of sources is told by the names that have been discovered. -/
structure Listed (gate : Gate) : Prop where
  sources : Controller.sourceList gate = builtinNames ++ discoveredNames gate
  discovered : ∀ name, name ∈ discoveredNames gate ↔
    ∃ apps id, gate.apps? = some apps ∧ (name, id) ∈ apps.pairs
  ordered : (discoveredNames gate).Pairwise fun a b =>
    Text.utf8Bytes a.toList < Text.utf8Bytes b.toList

/-- The calls that selecting a source comes to. -/
def State.selecting (state : State) (name : String) : List Call :=
  dispatchesIn (state.since (state.execute (.selectSource name)).1)

/-- What becomes of a name that is to be selected. -/
structure Selected (state : State) (name : String) : Prop where
  refused : ∀ fault, (state.execute (.selectSource name)).2 = .error (.misuse fault) ↔
    name ∉ Controller.sourceList state.gate ∧ fault = .source name
  launched : state.controller.isPoweringOff state.now = false →
    state.television.hasLauncher = true →
    ∀ apps id, state.gate.apps? = some apps → (name, id) ∈ apps.pairs →
      state.selecting name = [.launchApp id]
  unsupported : state.controller.isPoweringOff state.now = false →
    state.television.hasLauncher = false → name ∈ discoveredNames state.gate →
    state.selecting name = [] ∧
      (state.execute (.selectSource name)).2 = .error (.unsupported "launch_app")
  sent : state.controller.isPoweringOff state.now = false → name ∉ discoveredNames state.gate →
    ∀ key, ⟨name, key⟩ ∈ builtinSources → state.selecting name = [.sendKeys [key]]

theorem listed (gate : Gate) : Listed gate := by
  refine ⟨rfl, fun name => ?_, ?_⟩
  · unfold discoveredNames
    cases isGate : gate.apps? with
    | none => simp
    | some apps => simp [Apps.mem_names]
  · unfold discoveredNames
    cases isGate : gate.apps? with
    | none => exact .nil
    | some apps => exact apps.names_bytes

namespace State

variable {state : State} {name : String}

theorem selecting_eq : state.selecting name =
    (callOf (decideSource state.controller state.circumstances name)).toList := by
  obtain ⟨seen, trace, dispatched, _⟩ := state.execute_seen (.selectSource name)
  rw [selecting, since_eq trace, dispatched]
  rfl

section Closed

variable (closed : state.controller.isPoweringOff state.now = false)
include closed

theorem decideSource_discovered {id : String}
    (discovered : discoveredId? state.gate name = some id) :
    decideSource state.controller state.circumstances name =
      if state.television.hasLauncher then .act (.launchApp id)
      else .refuse (.unsupported "launch_app") := by
  have found : state.circumstances.gate.apps?.bind (·.id? name) = some id := discovered
  have isClosed : state.controller.isPoweringOff state.circumstances.now = false := closed
  rw [decideSource, found]
  simp only [decideLaunch, isClosed]
  rfl

theorem decideSource_builtin {key : String} (undiscovered : discoveredId? state.gate name = none)
    (builtin : sourceKey? name = some key) :
    decideSource state.controller state.circumstances name = .act (.sendKeys [key]) := by
  have notFound : state.circumstances.gate.apps?.bind (·.id? name) = none := undiscovered
  have isClosed : state.controller.isPoweringOff state.circumstances.now = false := closed
  rw [decideSource, notFound, builtin]
  simp [decideKeys, isClosed]

end Closed

theorem selected (state : State) (name : String) : Selected state name where
  refused := by
    intro fault
    have listed : decideSource state.controller state.circumstances name = .refuse (.misuse fault) ↔
        name ∉ Controller.sourceList state.gate ∧ fault = .source name :=
      decideSource_refuse fault
    exact (execute_callerError_iff rfl).trans listed
  launched := by
    intro closed launches apps id isGate member
    have discovered : discoveredId? state.gate name = some id := by
      rw [discoveredId?, isGate]
      exact Apps.id?_eq_some.mpr member
    rw [selecting_eq, decideSource_discovered closed discovered, if_pos launches]
    rfl
  unsupported := by
    intro closed lacks member
    obtain ⟨id, discovered⟩ : ∃ id, discoveredId? state.gate name = some id :=
      Option.ne_none_iff_exists'.mp fun absent => discoveredId?_eq_none.mp absent member
    have refused := decideSource_discovered closed discovered
    rw [lacks] at refused
    refine ⟨?_, (execute_callerError_iff rfl).mpr refused⟩
    rw [selecting_eq, refused]
    rfl
  sent := by
    intro closed undiscovered key builtin
    rw [selecting_eq, decideSource_builtin closed (discoveredId?_eq_none.mpr undiscovered)
      (sourceKey?_eq_some.mpr builtin)]
    rfl

/-- What is listed as a source is exactly what can be selected, an application before a built-in
source of its name; and it does not matter how the map of the applications was built. -/
theorem sources_selectable (state : State) :
    Listed state.gate ∧ (∀ name, Selected state name) ∧
    ∀ pairs others : List (String × String),
      (∀ name, name ∈ pairs.map Prod.fst ↔ name ∈ others.map Prod.fst) →
      ((Apps.ofPairs pairs).pairs.map Prod.fst).Nodup ∧
        Controller.sourceList (.data (.ofPairs pairs)) =
          Controller.sourceList (.data (.ofPairs others)) := by
  refine ⟨listed state.gate, state.selected, fun pairs others same =>
    ⟨(Apps.ofPairs pairs).distinct, ?_⟩⟩
  have names : (Apps.ofPairs pairs).names = (Apps.ofPairs others).names :=
    Apps.names_congr fun name => by rw [Apps.mem_ofPairs, Apps.mem_ofPairs, same]
  exact congrArg (builtinNames ++ ·) names

/-- Two applications, one of which has the name of a built-in source. -/
def twoApps : Apps :=
  .ofPairs [("YouTube", "111299001912"), ("TV", "3201710014866")]

/-- An application that has the name of a built-in source is selected in its place. -/
theorem application_named_television :
    let state := plain.run [.happen (.apps twoApps)]
    state.selecting "TV" = [.launchApp "3201710014866"] ∧
      state.selecting "HDMI" = [.sendKeys ["KEY_HDMI"]] := by
  intro state
  have gate : state.gate.apps? = some twoApps := rfl
  obtain ⟨listed, selects, _⟩ := sources_selectable state
  have closed : state.controller.isPoweringOff state.now = false := by decide +kernel
  have undiscovered : "HDMI" ∉ discoveredNames state.gate := by
    have absent : "HDMI" ∉ twoApps.pairs.map Prod.fst := by decide
    rw [listed.discovered, gate]
    rintro ⟨apps, id, same, member⟩
    cases same
    exact absent (List.mem_map.mpr ⟨_, member, rfl⟩)
  exact ⟨(selects "TV").launched closed rfl _ _ gate (by decide),
    (selects "HDMI").sent closed undiscovered _ (by decide)⟩

end State

end Televisor.Run
