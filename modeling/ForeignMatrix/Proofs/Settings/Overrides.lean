import ForeignMatrix.Proofs.Settings.Single
import ForeignMatrix.Settings.Environment
import Mathlib

/-!
# What the environment overrides

Each setting has a variable of its own and its own idea of which texts it accepts.
A text that is accepted takes the place of what the setting was, and any other one
leaves it. The element kind alone makes overriding fail: a text that names none is
not passed over.
-/

namespace ForeignMatrix

namespace Setting

/-- Variable that overrides the setting. -/
def variableName : Setting → String
  | path => "MATBIND_LIBRARY_PATH"
  | name => "MATBIND_LIBRARY_NAME"
  | kind => "MATBIND_DEFAULT_DTYPE"
  | ownership => "MATBIND_OWNS_WRAPPED"
  | level => "MATBIND_LOG_LEVEL"

/-- No setting shares its variable with another one. -/
theorem variableName_injective {setting other : Setting}
    (h : setting.variableName = other.variableName) : setting = other := by
  cases setting <;> cases other <;> first | rfl | exact absurd h (by decide)

/-- Nor is it the variable that names the file. -/
theorem variableName_ne_file (setting : Setting) : "MATBIND_CONFIG" ≠ setting.variableName := by
  cases setting <;> decide

/-- What a text of the variable sets the setting to, if it is accepted. An empty path is none,
and an empty name says nothing. -/
def accepted? : (setting : Setting) → String → Option setting.Value
  | path, text => some (if text = "" then none else some text)
  | name, text => if text = "" then none else some text
  | kind, text => ElementKind.ofName? text
  | ownership, text => Settings.flagOf? text
  | level, text => Settings.levelOf? text

/-- What the environment sets the setting to. -/
def heard? (setting : Setting) (environment : Environment) : Option setting.Value :=
  (environment setting.variableName).bind setting.accepted?

end Setting

namespace Settings

/-- Whether the environment names an element kind that does not exist. -/
def NamesNoKind (environment : Environment) : Prop :=
  ∃ text, environment "MATBIND_DEFAULT_DTYPE" = some text ∧ ElementKind.ofName? text = none

/-- The path that the environment leaves is the one that is heard, or else what it was. -/
theorem overridePath_eq (environment : Environment) (path : Option String) :
    overridePath environment path = (Setting.path.heard? environment).getD path := by
  rw [overridePath, Setting.heard?, Setting.variableName]
  cases environment "MATBIND_LIBRARY_PATH" with
  | none => rfl
  | some text =>
    by_cases hempty : text = ""
    · subst hempty
      rfl
    · change _ = if text = "" then none else some text
      rw [if_neg hempty]
      simp

/-- The name that the environment leaves is the one that is heard, or else what it was. -/
theorem overrideName_eq (environment : Environment) (name : String) :
    overrideName environment name = (Setting.name.heard? environment).getD name := by
  rw [overrideName, Setting.heard?, Setting.variableName]
  cases environment "MATBIND_LIBRARY_NAME" with
  | none => rfl
  | some text =>
    by_cases hempty : text = ""
    · subst hempty
      rfl
    · change _ = Option.getD (if text = "" then none else some text) name
      rw [if_neg hempty]
      simp

/-- An element kind that is overridden is the one that is heard, or else what it was. -/
theorem overrideKind_ok_iff {environment : Environment} {kind result : ElementKind} :
    overrideKind environment kind = .ok result ↔
      ¬ NamesNoKind environment ∧ (Setting.kind.heard? environment).getD kind = result := by
  rw [overrideKind, NamesNoKind, Setting.heard?, Setting.variableName]
  cases environment "MATBIND_DEFAULT_DTYPE" with
  | none => exact ⟨fun h => ⟨nofun, Except.ok.inj h⟩, fun h => congrArg _ h.2⟩
  | some text =>
    change (ElementKind.ofName text).mapError (SettingsFault.badKind text) = .ok result ↔
      _ ∧ (ElementKind.ofName? text).getD kind = result
    rw [ElementKind.ofName]
    cases hkind : ElementKind.ofName? text with
    | none => exact ⟨nofun, fun h => absurd ⟨text, rfl, hkind⟩ h.1⟩
    | some named =>
      refine ⟨fun h => ⟨?_, Except.ok.inj h⟩, fun h => congrArg _ h.2⟩
      rintro ⟨other, hother, hnone⟩
      rw [← Option.some.inj hother, hkind] at hnone
      contradiction

/-- Settings are overridden unless the environment names an element kind that does not exist;
each is then what is heard, or else what it was. -/
theorem override_ok_iff {environment : Environment} {settings result : Settings} :
    settings.override environment = .ok result ↔
      ¬ NamesNoKind environment ∧ ∀ setting : Setting, setting.value result =
        (setting.heard? environment).getD (setting.value settings) := by
  constructor
  · intro h
    rw [override] at h
    cases hkind : overrideKind environment settings.views.kind with
    | error fault =>
      rw [hkind] at h
      contradiction
    | ok kind =>
      rw [hkind] at h
      obtain rfl := Except.ok.inj h
      obtain ⟨hnames, hkind⟩ := overrideKind_ok_iff.mp hkind
      refine ⟨hnames, fun setting => ?_⟩
      cases setting with
      | path => exact overridePath_eq environment _
      | name => exact overrideName_eq environment _
      | kind => exact hkind.symm
      | ownership => rfl
      | level => rfl
  · rintro ⟨hnames, hvalues⟩
    have hkind : overrideKind environment settings.views.kind = .ok result.views.kind :=
      overrideKind_ok_iff.mpr ⟨hnames, (hvalues .kind).symm⟩
    rw [override, hkind]
    refine congrArg Except.ok (Setting.ext fun setting => ?_)
    cases setting with
    | path => exact (overridePath_eq environment _).trans (hvalues .path).symm
    | name => exact (overrideName_eq environment _).trans (hvalues .name).symm
    | kind => rfl
    | ownership => exact (hvalues .ownership).symm
    | level => exact (hvalues .level).symm

/-- Whatever they were, settings are overridden unless such a kind is named. -/
theorem override_total {environment : Environment} (hkind : ¬ NamesNoKind environment)
    (settings : Settings) : ∃ result, settings.override environment = .ok result := by
  cases hresult : settings.override environment with
  | ok result => exact ⟨result, rfl⟩
  | error fault =>
    have hheard := (@overrideKind_ok_iff environment settings.views.kind _).mpr ⟨hkind, rfl⟩
    rw [override, hheard] at hresult
    contradiction

end Settings

end ForeignMatrix
