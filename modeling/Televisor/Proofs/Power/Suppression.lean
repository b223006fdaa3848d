import Televisor.Proofs.Power.Deadline

namespace Televisor.Controller

open Media Remote

/-! What a command comes to while the television powers off. -/

theorem sourceKey?_ne_powerOff {name key : String} (found : sourceKey? name = some key) :
    key ≠ Key.powerOff := by
  obtain ⟨source, among, rfl⟩ := Option.map_eq_some_iff.mp found
  have member := List.mem_of_find?_eq_some among
  have all : ∀ source ∈ builtinSources, source.key ≠ Key.powerOff := by decide
  exact all source member

theorem digit_ne_powerOff (digit : Char) : Key.digit digit ≠ Key.powerOff := by
  intro same
  have length := congrArg String.length same
  simp only [Key.digit, Key.powerOff, String.length_append, String.length_singleton] at length
  exact absurd length (by decide)

theorem channelKeys?_first {mediaId : String} {keys : List String}
    (found : channelKeys? mediaId = some keys) :
    ∃ first rest, keys = first :: rest ∧ first ≠ Key.powerOff := by
  unfold channelKeys? at found
  simp only at found
  split at found
  · contradiction
  · rename_i channel
    cases digits : Text.trimBlanks mediaId.toList with
    | nil => simp [digits] at channel
    | cons digit rest =>
        rw [digits] at found
        exact ⟨_, _, (Option.some.inj found).symm, digit_ne_powerOff digit⟩

variable {controller : Controller} {at_ : Circumstances}

theorem decideLaunch_held (isOpen : controller.isPoweringOff at_.now = true) (id : String) :
    decideLaunch controller at_ id = .hold := by
  rw [decideLaunch, if_pos isOpen]

theorem decideKeys_held {now : Nat} (isOpen : controller.isPoweringOff now = true)
    {first : String} (other : first ≠ Key.powerOff) (rest : List String) :
    decideKeys controller now (first :: rest) = .hold := by
  simp [decideKeys, isOpen, other]

/-- Nothing comes of a single key, unless it turns the television off. -/
theorem decideKeys_idle {now : Nat} (isOpen : controller.isPoweringOff now = true) {first : String}
    (other : first ≠ Key.powerOff) {rest : List String} {action : Action} :
    decideKeys controller now (first :: rest) ≠ .act action := by
  rw [decideKeys_held isOpen other]
  exact Decision.noConfusion

theorem decideMedia_idle (isOpen : controller.isPoweringOff at_.now = true) {kind mediaId : String}
    {action : Action} : decideMedia controller at_ kind mediaId ≠ .act action := by
  unfold decideMedia
  split
  · rw [decideLaunch_held isOpen]
    exact Decision.noConfusion
  · split
    · split
      · rename_i keys found
        obtain ⟨first, rest, rfl, other⟩ := channelKeys?_first found
        exact decideKeys_idle isOpen other
      · exact Decision.noConfusion
    · exact Decision.noConfusion

theorem decideSource_idle (isOpen : controller.isPoweringOff at_.now = true) {name : String}
    {action : Action} : decideSource controller at_ name ≠ .act action := by
  unfold decideSource
  split
  · rw [decideLaunch_held isOpen]
    exact Decision.noConfusion
  · split
    · rename_i key found
      exact decideKeys_idle isOpen (sourceKey?_ne_powerOff found)
    · exact Decision.noConfusion

theorem decideTurnOn_act {action : Action} (decided : decideTurnOn controller = .act action) :
    (∃ arguments, action = .runProgram arguments) ∨ ∃ mac, action = .wake mac := by
  unfold decideTurnOn at decided
  split at decided
  · exact .inl ⟨_, (Decision.act.inj decided).symm⟩
  · exact .inr ⟨_, (Decision.act.inj decided).symm⟩
  · contradiction

theorem decideVolume_act {level : Level} {action : Action}
    (decided : decideVolume at_ level = .act action) : action = .setVolume level := by
  unfold decideVolume at decided
  split at decided
  · contradiction
  · split at decided
    · exact (Decision.act.inj decided).symm
    · contradiction

/-- Of all that reaches the television through keys or its launcher, only a list of keys that begins
with the key for turning off gets through. -/
theorem decide_in_window (isOpen : controller.isPoweringOff at_.now = true) {command : Command}
    {action : Action} (decided : decide controller at_ command = .act action) :
    ((∀ keys, action ≠ .sendKeys keys) ∧ ∀ id, action ≠ .launchApp id) ∨
      ∃ rest, command = .sendKeys (Key.powerOff :: rest) ∧
        action = .sendKeys (Key.powerOff :: rest) := by
  cases command with
  | turnOn =>
      left
      rcases decideTurnOn_act decided with ⟨arguments, rfl⟩ | ⟨mac, rfl⟩ <;> simp
  | turnOff =>
      left
      obtain rfl : Action.powerOff = action := Decision.act.inj decided
      simp
  | sendKeys keys =>
      cases keys with
      | nil => contradiction
      | cons first rest =>
          by_cases off : first = Key.powerOff
          · subst off
            have through : decideKeys controller at_.now (Key.powerOff :: rest) =
                .act (.sendKeys (Key.powerOff :: rest)) := by
              simp [decideKeys]
            exact .inr ⟨rest, rfl, Decision.act.inj (decided.symm.trans through)⟩
          · exact absurd decided (decideKeys_idle isOpen off)
  | launchApp id =>
      exact absurd (decided.symm.trans (decideLaunch_held isOpen id)) Decision.noConfusion
  | setVolume level =>
      left
      obtain rfl := decideVolume_act decided
      simp
  | playMedia kind mediaId => exact absurd decided (decideMedia_idle isOpen)
  | selectSource name => exact absurd decided (decideSource_idle isOpen)
  | mediaPlayPause =>
      have other : (if controller.playing then Key.pause else Key.play) ≠ Key.powerOff := by
        split <;> decide
      exact absurd decided (decideKeys_idle isOpen other)
  | volumeUp => exact absurd decided (decideKeys_idle isOpen (by decide))
  | volumeDown => exact absurd decided (decideKeys_idle isOpen (by decide))
  | muteVolume => exact absurd decided (decideKeys_idle isOpen (by decide))
  | mediaPlay => exact absurd decided (decideKeys_idle isOpen (by decide))
  | mediaPause => exact absurd decided (decideKeys_idle isOpen (by decide))
  | mediaNextTrack => exact absurd decided (decideKeys_idle isOpen (by decide))
  | mediaPreviousTrack => exact absurd decided (decideKeys_idle isOpen (by decide))

end Televisor.Controller

namespace Televisor.Run

open Controller Remote

theorem actionCall_sendKeys {action : Action} {keys : List String}
    (same : Call.sendKeys keys = actionCall action) : action = .sendKeys keys := by
  cases action <;> cases same
  rfl

theorem actionCall_launchApp {action : Action} {id : String}
    (same : Call.launchApp id = actionCall action) : action = .launchApp id := by
  cases action <;> cases same
  rfl

namespace State

variable {state : State}

/-- While the television powers off no application is launched, and of all commands only a list of
keys that begins with the key for turning off is handed over, whatever keys follow it.  So another key
is handed over exactly behind that one. -/
theorem commands_in_window (isOpen : state.controller.isPoweringOff state.now = true)
    (command : Command) :
    ∃ fresh, (state.execute command).1.trace = fresh ++ state.trace ∧
      (∀ id, Call.launchApp id ∉ callsIn fresh) ∧
      (∀ keys, Call.sendKeys keys ∈ callsIn fresh ↔
        command = .sendKeys keys ∧ keys.head? = some Key.powerOff) ∧
      ((∃ keys, Call.sendKeys keys ∈ callsIn fresh ∧ ∃ key ∈ keys, key ≠ Key.powerOff) ↔
        ∃ rest, command = .sendKeys (Key.powerOff :: rest) ∧
          ∃ key ∈ rest, key ≠ Key.powerOff) := by
  obtain ⟨seen, drift, calls, own⟩ := state.execute_drift command
  have window : state.controller.isPoweringOff state.circumstances.now = true := isOpen
  obtain ⟨shown, prepared, quiet, _⟩ := state.setController_trace
    (prepare state.controller state.gate state.now command)
  have launches (id : String) : Call.launchApp id ∉ callsIn seen := by
    intro member
    rcases calls _ member with ⟨_, _, same, _⟩ | ⟨action, decided, same⟩
    · contradiction
    · rcases decide_in_window window decided with ⟨_, other⟩ | ⟨rest, _, through⟩
      · exact other id (actionCall_launchApp same)
      · rw [actionCall_launchApp same] at through
        contradiction
  have sends (keys : List String) : Call.sendKeys keys ∈ callsIn seen ↔
      command = .sendKeys keys ∧ keys.head? = some Key.powerOff := by
    constructor
    · intro member
      rcases calls _ member with ⟨_, _, same, _⟩ | ⟨action, decided, same⟩
      · contradiction
      · obtain rfl := actionCall_sendKeys same
        rcases decide_in_window window decided with ⟨other, _⟩ | ⟨rest, isCommand, through⟩
        · exact absurd rfl (other keys)
        · obtain rfl : keys = Key.powerOff :: rest := by simpa using through
          exact ⟨isCommand, rfl⟩
    · rintro ⟨rfl, head⟩
      have decided : Controller.decide state.controller state.circumstances (.sendKeys keys) =
          .act (.sendKeys keys) := by
        obtain ⟨rest, rfl⟩ : ∃ rest, keys = Key.powerOff :: rest := List.head?_eq_some_iff.mp head
        simp [Controller.decide, decideKeys]
      exact own _ decided (by simp)
  have trace : (state.execute command).1.trace = (seen ++ shown) ++ state.trace := by
    rw [drift.trace, State.prepared, prepared, List.append_assoc]
  refine ⟨_, trace, ?_⟩
  rw [callsIn_append, quiet, List.append_nil]
  refine ⟨launches, sends, ?_, ?_⟩
  · rintro ⟨keys, member, key, isKey, other⟩
    obtain ⟨rfl, head⟩ := (sends keys).mp member
    obtain ⟨rest, rfl⟩ := List.head?_eq_some_iff.mp head
    have behind : key ∈ rest := (List.mem_cons.mp isKey).resolve_left other
    exact ⟨rest, rfl, key, behind, other⟩
  · rintro ⟨rest, rfl, key, isKey, other⟩
    exact ⟨_, (sends _).mpr ⟨rfl, rfl⟩, key, List.mem_cons_of_mem _ isKey, other⟩

theorem power_off_key_in_window :
    (plain.run [.command .turnOff]).controller.isPoweringOff
      (plain.run [.command .turnOff]).now = true ∧
    ∃ fresh, ((plain.run [.command .turnOff]).execute (.sendKeys [Key.powerOff])).1.trace =
        fresh ++ (plain.run [.command .turnOff]).trace ∧
      Call.sendKeys [Key.powerOff] ∈ callsIn fresh := by
  have isOpen : (plain.run [.command .turnOff]).controller.isPoweringOff
      (plain.run [.command .turnOff]).now = true := by
    decide +kernel
  obtain ⟨fresh, trace, _, sends, _⟩ := commands_in_window isOpen (.sendKeys [Key.powerOff])
  exact ⟨isOpen, fresh, trace, (sends _).mpr ⟨rfl, rfl⟩⟩

/-- Behind it any other key reaches the television, though the window is open. -/
theorem other_key_in_window :
    (plain.run [.command .turnOff]).controller.isPoweringOff
      (plain.run [.command .turnOff]).now = true ∧
    Call.sendKeys [Key.powerOff, Key.volumeUp] ∉ callsIn (plain.run [.command .turnOff]).trace ∧
    Call.sendKeys [Key.powerOff, Key.volumeUp] ∈
      callsIn ((plain.run [.command .turnOff]).execute
        (.sendKeys [Key.powerOff, Key.volumeUp])).1.trace := by
  decide +kernel

end State

end Televisor.Run
