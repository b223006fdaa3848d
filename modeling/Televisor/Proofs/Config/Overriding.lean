import Mathlib.Algebra.Ring.Nat
import Televisor.Proofs.Config.Filing
import Televisor.Proofs.Text.Number

namespace Televisor.Config

open Text (IsNumeral readUnsigned? readUnsigned?_eq_some readBool?_eq_some)

/-! Which settings the program starts with.  A file gives some and leaves the others at their defaults;
then every variable of the environment is looked at for a setting of its own. -/

/-- A setting when the variable that may override it has been looked at: what the variable's text
means, if it means anything, and otherwise what it was before. -/
inductive Overridden (text? : Option String) (means : String → α → Prop) (before : α) : α → Prop
  | decided {text value} (given : text? = some text) (meant : means text value) :
      Overridden text? means before value
  | kept (meaningless : ∀ text value, text? = some text → ¬ means text value) :
      Overridden text? means before before

/-- The variable's text means nothing. -/
def Meaningless (text? : Option String) (means : String → α → Prop) : Prop :=
  ∃ text, text? = some text ∧ ∀ value, ¬ means text value

def IsWord (bits : Nat) (text : String) (number : Nat) : Prop :=
  IsNumeral text number ∧ number < 2 ^ bits

def IsText (text value : String) : Prop :=
  text = value

/-- A text for a setting that may be left out. -/
def IsGiven (text : String) (value : Option String) : Prop :=
  value = some text

def IsSwitch (text : String) (value : Bool) : Prop :=
  text = toString value

/-- The settings that no variable overrides. -/
structure Fixed where
  name : String
  onAction : Option (List String)
  clientName : String
  clientDescription : String
  clientId : String
  timeout : Nat
  appListTimeout : Nat

def Settings.fixed (settings : Settings) : Fixed where
  name := settings.tv.name
  onAction := settings.tv.onAction
  clientName := settings.tv.clientName
  clientDescription := settings.tv.clientDescription
  clientId := settings.tv.clientId
  timeout := settings.tv.timeout
  appListTimeout := settings.poll.appListTimeout

/-- Every setting that a variable can override, but for the switch of the server, has been overridden
by its own variable or by none, and the settings without a variable are as they were. -/
structure Overriding (environment : Environment) (before after : Settings) : Prop where
  host : Overridden (environment.own? "HOST") IsText before.tv.host after.tv.host
  port : Overridden (environment.own? "PORT") (IsWord 16) before.tv.port after.tv.port
  mac : Overridden (environment.own? "MAC") IsGiven before.tv.mac after.tv.mac
  location : Overridden (environment.own? "RENDERING_CONTROL_LOCATION") IsGiven before.tv.location
    after.tv.location
  interval : Overridden (environment.own? "POLL_INTERVAL_MS") (IsWord 64) before.poll.interval
    after.poll.interval
  serverPort : Overridden (environment.own? "SERVER_PORT") (IsWord 16) before.server.port
    after.server.port
  token : Overridden (environment.own? "SERVER_TOKEN") IsGiven before.server.token after.server.token
  fixed : after.fixed = before.fixed

/-- The switch of the server too. -/
structure Heeded (environment : Environment) (before after : Settings) : Prop
    extends Overriding environment before after where
  enabled : Overridden (environment.own? "SERVER_ENABLED") IsSwitch before.server.enabled
    after.server.enabled

section Overridden

variable {text? : Option String} {means : String → α → Prop} {before : α}

/-- What a reader that reads exactly the meaningful texts makes of a setting. -/
theorem overridden_read {read : String → Option α}
    (reads : ∀ text value, read text = some value ↔ means text value) :
    Overridden text? means before ((text?.bind read).getD before) := by
  cases found : text?.bind read with
  | some value =>
      obtain ⟨text, given, meant⟩ := Option.bind_eq_some_iff.mp found
      exact .decided given ((reads text value).mp meant)
  | none =>
      refine .kept fun text value given meant => ?_
      have unread := Option.bind_eq_none_iff.mp found text given
      rw [(reads text value).mpr meant] at unread
      contradiction

theorem overridden_word {before : Nat} {bits : Nat} {read : String → Option Nat}
    (reads : ∀ text, read text = readUnsigned? (2 ^ bits) text.toList) :
    Overridden text? (IsWord bits) before ((text?.bind read).getD before) :=
  overridden_read fun text value => by rw [reads, readUnsigned?_eq_some, IsWord]

theorem overridden_text {before : String} : Overridden text? IsText before (text?.getD before) := by
  have read : Overridden text? IsText before ((text?.bind some).getD before) :=
    overridden_read fun text value => by rw [IsText, Option.some.injEq]
  rwa [Option.bind_fun_some] at read

theorem overridden_given {before : Option String} :
    Overridden text? IsGiven before (text?.or before) := by
  have read : Overridden text? IsGiven before ((text?.bind (some ∘ some)).getD before) :=
    overridden_read fun text value => by
      rw [IsGiven, Function.comp_apply, Option.some.injEq, eq_comm]
  cases text? with
  | none => exact read
  | some text => exact read

/-- A setting whose variable means nothing was kept. -/
theorem Overridden.eq_before {after : α} (overridden : Overridden text? means before after)
    (meaningless : Meaningless text? means) : after = before := by
  obtain ⟨text, given, nothing⟩ := meaningless
  cases overridden with
  | decided found meant =>
      cases given.symm.trans found
      exact absurd meant (nothing _)
  | kept _ => rfl

end Overridden

namespace Settings

variable (settings : Settings) (environment : Environment)

theorem override_overriding : Overriding environment settings (settings.override environment) where
  host := overridden_text
  port := overridden_word fun _ => rfl
  mac := overridden_given
  location := overridden_given
  interval := overridden_word fun _ => rfl
  serverPort := overridden_word fun _ => rfl
  token := overridden_given
  fixed := rfl

/-- The switch of the server: a text that means nothing turns the server on. -/
theorem override_enabled : (settings.override environment).server.enabled =
    match environment.own? "SERVER_ENABLED" with
    | none => settings.server.enabled
    | some text => (Text.readBool? text).getD true := by
  simp only [override]
  cases environment.own? "SERVER_ENABLED" <;> rfl

theorem override_meaningless (meaningless : Meaningless (environment.own? "SERVER_ENABLED") IsSwitch) :
    (settings.override environment).server.enabled = true := by
  obtain ⟨text, given, nothing⟩ := meaningless
  rw [override_enabled, given]
  dsimp only
  cases read : Text.readBool? text with
  | none => rfl
  | some value => exact absurd (readBool?_eq_some.mp read) (nothing value)

theorem override_meaningful
    (meaningful : ¬ Meaningless (environment.own? "SERVER_ENABLED") IsSwitch) :
    Overridden (environment.own? "SERVER_ENABLED") IsSwitch settings.server.enabled
      (settings.override environment).server.enabled := by
  rw [override_enabled]
  cases given : environment.own? "SERVER_ENABLED" with
  | none => exact .kept nofun
  | some text =>
      dsimp only
      cases read : Text.readBool? text with
      | some value => exact .decided rfl (readBool?_eq_some.mp read)
      | none =>
          refine absurd ⟨text, given, fun value meant => ?_⟩ meaningful
          rw [readBool?_eq_some.mpr meant] at read
          contradiction

/-- All variables are heeded, unless the one for the switch means nothing while the server is to be
off: then it is on. -/
theorem override_heeded : Heeded environment settings (settings.override environment) ↔
    ¬ (Meaningless (environment.own? "SERVER_ENABLED") IsSwitch ∧ settings.server.enabled = false) := by
  have others := settings.override_overriding environment
  constructor
  · rintro heeded ⟨meaningless, off⟩
    have kept := heeded.enabled.eq_before meaningless
    rw [settings.override_meaningless environment meaningless, off] at kept
    contradiction
  · intro safe
    by_cases meaningless : Meaningless (environment.own? "SERVER_ENABLED") IsSwitch
    · have on : settings.server.enabled = true := by
        simpa [meaningless] using safe
      refine ⟨others, ?_⟩
      rw [settings.override_meaningless environment meaningless, on]
      refine .kept fun text value given meant => ?_
      obtain ⟨found, same, nothing⟩ := meaningless
      cases given.symm.trans same
      exact nothing value meant
    · exact ⟨others, settings.override_meaningful environment meaningless⟩

theorem load_eq (tree : Host.FileTree) : load environment tree =
    (gather environment tree).validate.map fun _ => gather environment tree := by
  change ((gather environment tree).validate >>= fun _ => .ok (gather environment tree)) = _
  cases (gather environment tree).validate <;> rfl

/-- The settings that are checked before the program runs are those of the file, or the defaults if
there is no readable file, with every variable heeded by itself: a text that means nothing to a
setting leaves it alone.  Only the switch of the server is turned on by such a text, so one variable
is not heeded exactly if it means nothing and the file turns the server off. -/
theorem overridden_one_by_one (environment : Environment) (tree : Host.FileTree) :
    let content := tree.read? (activePath environment tree)
    let file := ofFile content
    let checked := gather environment tree
    FromFile content file ∧
    Overriding environment file checked ∧
    (Meaningless (environment.own? "SERVER_ENABLED") IsSwitch → checked.server.enabled = true) ∧
    (Heeded environment file checked ↔
      ¬ (Meaningless (environment.own? "SERVER_ENABLED") IsSwitch ∧ file.server.enabled = false)) ∧
    (∀ loaded, load environment tree = .ok loaded ↔ checked.validate = .ok () ∧ checked = loaded) ∧
    ∀ fault, load environment tree = .error fault ↔ checked.validate = .error fault := by
  intro content file checked
  refine ⟨ofFile_provided content, file.override_overriding environment,
    file.override_meaningless environment, file.override_heeded environment, fun loaded => ?_,
    fun fault => ?_⟩
  · rw [load_eq]
    cases (gather environment tree).validate <;> simp [checked, Except.map]
  · rw [load_eq]
    cases (gather environment tree).validate <;> simp [Except.map]

/-- A file that turns the server off. -/
def switchedOff : Host.FileTree :=
  ⟨[(["config.toml"], .file (Text.utf8Bytes "[server]\nenabled = false\n".toList))]⟩

/-- A word that is not known for a switch. -/
def saysNo : Environment :=
  [("TVBRIDGE_SERVER_ENABLED", some "no")]

theorem switchedOff_read : switchedOff.read? (activePath saysNo switchedOff) =
    some (Text.utf8Bytes "[server]\nenabled = false\n".toList) := by
  have steps : Host.steps fileName = [fileName] := by decide +kernel
  have located : switchedOff.locate (Host.steps fileName) = .ok (.found [fileName]
      (.file (Text.utf8Bytes "[server]\nenabled = false\n".toList))) := by
    rw [steps]
    simp [Host.FileTree.locate, Host.FileTree.walk, Host.FileTree.lookup?, switchedOff, fileName]
    decide
  have isThere : switchedOff.exists? fileName = true := by
    rw [Host.FileTree.exists?, located]
  rw [activePath, if_pos isThere, Host.FileTree.read?, located]

theorem unknown_word_turns_on :
    (ofFile (switchedOff.read? (activePath saysNo switchedOff))).server.enabled = false ∧
    (gather saysNo switchedOff).server.enabled = true ∧
    ¬ Heeded saysNo (ofFile (switchedOff.read? (activePath saysNo switchedOff)))
      (gather saysNo switchedOff) := by
  have off : (ofFile (switchedOff.read? (activePath saysNo switchedOff))).server.enabled = false := by
    rw [switchedOff_read]
    decide +kernel
  have meaningless : Meaningless (saysNo.own? "SERVER_ENABLED") IsSwitch := by
    have unknown : ∀ value : Bool, "no" ≠ toString value := by decide
    exact ⟨"no", by decide +kernel, unknown⟩
  refine ⟨off, override_meaningless _ _ meaningless, fun heeded => ?_⟩
  exact (override_heeded _ _).mp heeded ⟨meaningless, off⟩

end Settings

end Televisor.Config
