import CodexKeyboard.Keyboard.ConfigPayload
import CodexKeyboard.Lib.Run
/-!
# The configuration state has no memory

Two places resolve what the platform decides, the parser and `set_target_platform`; both are
`resolve`, and only the last platform counts (`resolve_resolve`). The state after a run is therefore
that of a fresh `ConfigState` that is given the last accepted configuration and the platform
(`config_state_restored`).
-/

namespace CodexKeyboard.Keyboard

open Lib

inductive ConfigEvent where
  | applyJson (json : List UInt8)
  | setTargetPlatform (platform : HostPlatform)
deriving DecidableEq, Repr

/-- One call, and the status that it returns, if it returns one. -/
def ConfigState.step (s : ConfigState) : ConfigEvent → Option (Except ConfigParseStatus Unit) × ConfigState
  | .applyJson json => (some (s.applyJson json).1, (s.applyJson json).2)
  | .setTargetPlatform platform => (none, s.setTargetPlatform platform)

namespace ParsedKeyboardConfig

/-- What the platform decides is that of the current platform. -/
structure Resolved (config : ParsedKeyboardConfig) : Prop where
  pttHotkey : config.pttHotkeySource = .platformDefault →
    config.pttHotkey = defaultPttHotkey config.targetPlatform
  editPttHotkey :
    config.editPttHotkeySource = .platformDefault →
    config.editPttHotkey = defaultEditPttHotkey config.targetPlatform
  reverseVertical : config.encoderScroll.reverseVertical =
    if config.targetPlatform = .windows then config.encoderScroll.windowsReverseVertical
    else config.encoderScroll.macosReverseVertical
  reverseHorizontal : config.encoderScroll.reverseHorizontal =
    if config.targetPlatform = .windows then config.encoderScroll.windowsReverseHorizontal
    else config.encoderScroll.macosReverseHorizontal

theorem resolved_resolve (config : ParsedKeyboardConfig) (platform : HostPlatform) :
    (config.resolve platform).Resolved := by
  constructor
  · intro hsource
    exact if_pos hsource
  · intro hsource
    exact if_pos hsource
  · rfl
  · rfl

/-- Only the last platform counts. -/
theorem resolve_resolve (config : ParsedKeyboardConfig) (first last : HostPlatform) :
    (config.resolve first).resolve last = config.resolve last := by
  obtain ⟨ptt, edit, pttSource, editSource, _, _, _, _, _, _, _, _, _, _, _, _, scroll⟩ := config
  have hhotkey : ∀ (source : HotkeySource) (hotkey default : List UInt8) (default' : List UInt8),
      (if source = .platformDefault then default else
        if source = .platformDefault then default' else hotkey) =
        if source = .platformDefault then default else hotkey := by
    intro source hotkey default default'
    by_cases hsource : source = .platformDefault
    · rw [if_pos hsource, if_pos hsource]
    · rw [if_neg hsource, if_neg hsource, if_neg hsource]
  simp only [resolve, hhotkey]

end ParsedKeyboardConfig

/-! ## Runs -/

namespace ConfigState

/-- The state is that of its own configuration text and platform. -/
def Restored (s : ConfigState) : Prop :=
  ∃ config, parseConfigPayload s.lastAppliedJson = .ok config ∧
  s.current = config.resolve s.current.targetPlatform

theorem applyJson_error {s : ConfigState} {json : List UInt8} {status : ConfigParseStatus}
    (h : parseConfigPayload json = .error status) : s.applyJson json = (.error status, s) := by
  rw [applyJson, h]

theorem applyJson_ok {s : ConfigState} {json : List UInt8} {config : ParsedKeyboardConfig}
    (h : parseConfigPayload json = .ok config) :
    s.applyJson json = (.ok (), ⟨config.resolve (if config.targetPlatformExplicit then config.targetPlatform
      else s.current.targetPlatform), json⟩) := by
  rw [applyJson, h]
  rfl

/-- What one call preserves. -/
theorem step_resolved (s : ConfigState) (event : ConfigEvent) (h : s.current.Resolved) :
    (s.step event).2.current.Resolved := by
  cases event with
  | setTargetPlatform platform => exact s.current.resolved_resolve platform
  | applyJson json =>
    show (s.applyJson json).2.current.Resolved
    cases hparse : parseConfigPayload json with
    | error status =>
      rw [applyJson_error hparse]
      exact h
    | ok config =>
      rw [applyJson_ok hparse]
      exact config.resolved_resolve _

/-- A state is restored once a configuration was accepted, and stays so. -/
theorem step_restored (s : ConfigState) (event : ConfigEvent)
    (h : s.Restored ∨ (s.step event).1 = some (.ok ())) : (s.step event).2.Restored := by
  cases event with
  | setTargetPlatform platform =>
    obtain ⟨config, hparse, hcurrent⟩ := h.resolve_right (by intro hanswer; cases hanswer)
    refine ⟨config, hparse, ?_⟩
    show s.current.resolve platform = config.resolve platform
    rw [hcurrent, ParsedKeyboardConfig.resolve_resolve]
  | applyJson json =>
    show (s.applyJson json).2.Restored
    cases hparse : parseConfigPayload json with
    | error status =>
      have hanswer : (s.step (.applyJson json)).1 = some (.error status) := by
        rw [step, applyJson_error hparse]
      rw [hanswer] at h
      rw [applyJson_error hparse]
      exact h.resolve_right (by intro heq; cases heq)
    | ok config =>
      rw [applyJson_ok hparse]
      exact ⟨config, hparse, rfl⟩

theorem resolved_init : ({} : ConfigState).current.Resolved := ⟨fun _ => rfl, fun _ => rfl, rfl, rfl⟩

theorem restored_of_answers {s : ConfigState} (events : List ConfigEvent)
    (h : s.Restored ∨ some (.ok ()) ∈ answers step s events) : (after step s events).Restored := by
  induction events generalizing s with
  | nil => exact h.resolve_right List.not_mem_nil
  | cons event events ih =>
    apply ih
    rw [answers, List.mem_cons] at h
    rcases h with hs | hanswer | hrest
    · exact .inl (s.step_restored event (.inl hs))
    · exact .inl (s.step_restored event (.inr hanswer.symm))
    · exact .inr hrest

/-- A restored state is what a fresh state makes of its text and its platform. -/
theorem Restored.eq {s : ConfigState} (h : s.Restored) :
    (({} : ConfigState).applyJson s.lastAppliedJson).1 = .ok () ∧
      (({} : ConfigState).applyJson s.lastAppliedJson).2.setTargetPlatform s.current.targetPlatform =
        s := by
  obtain ⟨config, hparse, hcurrent⟩ := h
  rw [applyJson_ok hparse]
  refine ⟨rfl, ?_⟩
  rw [setTargetPlatform, ParsedKeyboardConfig.resolve_resolve, ← hcurrent]

/-- Applied again, a configuration changes nothing. -/
theorem applyJson_again {s : ConfigState} {json : List UInt8} (h : (s.applyJson json).1 = .ok ()) :
    (s.applyJson json).2.lastAppliedJson = json ∧
      (s.applyJson json).2.applyJson json = (.ok (), (s.applyJson json).2) := by
  cases hparse : parseConfigPayload json with
  | error status =>
    rw [applyJson_error hparse] at h
    cases h
  | ok config =>
    rw [applyJson_ok hparse, applyJson_ok hparse]
    refine ⟨rfl, ?_⟩
    by_cases hexplicit : config.targetPlatformExplicit = true
    · rw [if_pos hexplicit, if_pos hexplicit]
    · rw [if_neg hexplicit, if_neg hexplicit]
      rfl

end ConfigState

/-- **The state is that of the last accepted text and the platform.** In every run that accepted
one: a fresh state that is given both agrees with it; a refused text changes nothing, an accepted
one applied again changes nothing, and what the platform decides is that of the current platform. -/
theorem config_state_restored (events : List ConfigEvent)
    (h : some (.ok ()) ∈ answers ConfigState.step {} events) :
    ((({} : ConfigState).applyJson (after ConfigState.step {} events).lastAppliedJson).1 = .ok () ∧
        (({} : ConfigState).applyJson
          (after ConfigState.step {} events).lastAppliedJson).2.setTargetPlatform
          (after ConfigState.step {} events).current.targetPlatform = after ConfigState.step {} events) ∧
      (∀ json, ((after ConfigState.step {} events).applyJson json).1 ≠ .ok () →
        ((after ConfigState.step {} events).applyJson json).2 = after ConfigState.step {} events) ∧
      (∀ json, ((after ConfigState.step {} events).applyJson json).1 = .ok () →
        ((after ConfigState.step {} events).applyJson json).2.lastAppliedJson = json ∧
          ((after ConfigState.step {} events).applyJson json).2.applyJson json =
            (.ok (), ((after ConfigState.step {} events).applyJson json).2)) ∧
      (after ConfigState.step {} events).current.Resolved := by
  refine ⟨(ConfigState.restored_of_answers events (.inr h)).eq, ?_, fun json => ConfigState.applyJson_again,
    after_induction ConfigState.step_resolved events ConfigState.resolved_init⟩
  intro json hrefused
  cases hparse : parseConfigPayload json with
  | error status => rw [ConfigState.applyJson_error hparse]
  | ok config =>
    rw [ConfigState.applyJson_ok hparse] at hrefused
    exact absurd rfl hrefused

/-- A key with an action. -/
def keyText (name : String) : List UInt8 :=
  ascii "\"" ++ ascii name ++ ascii "\":\x7b\"press\":\"copy\"\x7d"

/-- A configuration with nothing but what it must have. -/
def smallestConfig : List UInt8 :=
  ascii "\x7b\"schema\":\"ai_keyboard.v1\"" ++ ascii ",\"profiles\":[\x7b\"keys\":\x7b" ++
    keyText "KEY1" ++ ascii "," ++
    keyText "KEY2" ++ ascii "," ++ keyText "KEY3" ++ ascii "," ++ keyText "KEY4" ++ ascii "," ++
      keyText "KEY5" ++ ascii "," ++
    keyText "KEY6" ++ ascii "," ++ keyText "KEY7" ++ ascii "," ++ keyText "KEY8" ++
      ascii "\x7d,\"encoder\":\x7b" ++
    ascii "\"left\":\"undo\",\"right\":\"undo\"," ++ ascii "\"press\":\"undo\"\x7d\x7d]\x7d"

theorem smallestConfig_ok : (parseConfigPayload smallestConfig).isOk = true := by decide +kernel

/-- The platform is set, the configuration applied, the platform set back. -/
theorem config_state_restored_smallest :
    (({} : ConfigState).applyJson
        (after ConfigState.step {} [.setTargetPlatform .windows, .applyJson smallestConfig,
          .setTargetPlatform .macOS]).lastAppliedJson).1 =
      .ok () := by
  refine (config_state_restored [.setTargetPlatform .windows, .applyJson smallestConfig,
    .setTargetPlatform .macOS] ?_).1.1
  cases hparse : parseConfigPayload smallestConfig with
  | error status =>
    have hok := smallestConfig_ok
    rw [hparse] at hok
    cases hok
  | ok config =>
    have hanswer : ∀ s : ConfigState, (s.step (.applyJson smallestConfig)).1 = some (.ok ()) := by
      intro s
      rw [ConfigState.step, ConfigState.applyJson_ok hparse]
    rw [answers, answers, hanswer]
    exact List.mem_cons_of_mem _ List.mem_cons_self

end CodexKeyboard.Keyboard
