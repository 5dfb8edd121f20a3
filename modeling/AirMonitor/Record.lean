import AirMonitor.Settings

/-!
The panel of settings when nothing fails: six values, each read and written by
its own calls and by no others.
-/

namespace AirMonitor.Settings
open Bytes Bmp280 Sensor Setup Bmp280Api Machine

variable (fail : Fail)

abbrev Record := Setting → UInt8

/-- What the API is for: six values, each read and written by its own calls. -/
def Record.serve (record : Record) : Request → (Int8 × UInt8) × Record
  | .get setting => ((success, record setting), record)
  | .set .powerMode mode =>
      if mode ≤ normalMode then ((success, 0), Function.update record .powerMode mode)
      else ((outOfRange, 0), record)
  | .set setting value => ((success, 0), Function.update record setting (clip setting value))
  | .setWorkMode mode =>
      match workModes[mode.toNat]? with
      | some (temperature, pressure) =>
          ((success, 0), Function.update (Function.update record
            .oversampTemperature temperature) .oversampPressure pressure)
      | none => ((outOfRange, 0), record)
  | .setSoftRst => ((success, 0), fun _ => 0)

/-- Shadow fields as the register has them, every transaction done and every write
taken. -/
structure Sound (panel : Panel) : Prop where
  temperature : panel.temperature = panel.settings .oversampTemperature
  pressure : panel.pressure = panel.settings .oversampPressure
  small : panel.settings .oversampTemperature < 8 ∧ panel.settings .oversampPressure < 8
  done : ∀ i, panel.outcomes i = .done
  taken : ∀ i, panel.ignores i = false

def Plain (request : Request) : Prop := Documented request ∧ request ≠ .setSoftRst

theorem sound_next (panel : Panel) (sound : Sound panel) : Sound panel.next :=
  ⟨sound.temperature, sound.pressure, sound.small, fun i => sound.done (i + 1), sound.taken⟩

/-- A write that is taken. -/
structure Turned (before after : Panel) (setting : Setting) (value : UInt8) : Prop where
  settings : after.settings = Function.update before.settings setting (clip setting value)
  others : after.others = before.others
  temperature : after.temperature = before.temperature
  pressure : after.pressure = before.pressure
  done : ∀ i, after.outcomes i = .done
  taken : ∀ i, after.ignores i = false

theorem sound_turn (panel : Panel) (sound : Sound panel) (setting : Setting) (value : UInt8) :
    Turned panel (panel.turn setting value) setting value := by
  have heeded : (panel.ignores 0 && panel.settings .powerMode == normalMode) = false := by
    rw [sound.taken 0, Bool.false_and]
  rw [Panel.turn, heeded]
  split
  · exact ⟨rfl, rfl, rfl, rfl, sound.done, fun i => sound.taken (i + 1)⟩
  · exact ⟨rfl, rfl, rfl, rfl, sound.done, sound.taken⟩

/-- The shadow field follows the setting. -/
theorem turned_sound (before after : Panel) (sound : Sound before) (setting : Setting)
    (value : UInt8) (turned : Turned before after setting value)
    (fits : Documented (.set setting value)) : Sound (after.remember setting value) := by
  obtain ⟨settings, _, temperature, pressure, done, taken⟩ := turned
  have one : setting ≠ .oversampTemperature →
      after.settings .oversampTemperature = before.settings .oversampTemperature := by
    intro other
    rw [settings, Function.update_of_ne other.symm]
  have two : setting ≠ .oversampPressure →
      after.settings .oversampPressure = before.settings .oversampPressure := by
    intro other
    rw [settings, Function.update_of_ne other.symm]
  have still (first : setting ≠ .oversampTemperature) (second : setting ≠ .oversampPressure) :
      Sound after :=
    ⟨by rw [temperature, one first]; exact sound.temperature,
      by rw [pressure, two second]; exact sound.pressure,
      by rw [one first, two second]; exact sound.small, done, taken⟩
  cases setting with
  | oversampTemperature =>
      have own : after.settings .oversampTemperature = value := by
        rw [settings, Function.update_self, clip_small _ (.inl rfl) value fits]
      refine ⟨own.symm, ?_, ⟨?_, ?_⟩, done, taken⟩
      · exact (pressure.trans sound.pressure).trans (two (by decide)).symm
      · exact own.symm ▸ fits
      · exact (two (by decide)).symm ▸ sound.small.2
  | oversampPressure =>
      have own : after.settings .oversampPressure = value := by
        rw [settings, Function.update_self, clip_small _ (.inr rfl) value fits]
      refine ⟨?_, own.symm, ⟨?_, ?_⟩, done, taken⟩
      · exact (temperature.trans sound.temperature).trans (one (by decide)).symm
      · exact (one (by decide)).symm ▸ sound.small.1
      · exact own.symm ▸ fits
  | powerMode | standbyDurn | filter | spi3 => exact still (by decide) (by decide)

theorem remember_keeps (panel : Panel) (setting : Setting) (value : UInt8) :
    (panel.remember setting value).settings = panel.settings ∧
      (panel.remember setting value).others = panel.others := by
  cases setting <;> exact ⟨rfl, rfl⟩

/-- One call on a sound panel is one on the record, and leaves a sound panel. -/
structure Plainly (panel : Panel) (done : (Int8 × UInt8) × Panel)
    (wanted : (Int8 × UInt8) × Record) : Prop where
  same : (done.1, done.2.settings) = wanted
  sound : Sound done.2
  others : done.2.others = panel.others

theorem adjust_plainly (panel : Panel) (sound : Sound panel) (setting : Setting) (value : UInt8)
    (fits : Documented (.set setting value)) :
    Plainly panel (panel.adjust fail setting value)
      ((success, 0), Function.update panel.settings setting (clip setting value)) := by
  have ready := sound_next _ (sound_next _ sound)
  have turned := sound_turn _ ready setting value
  obtain ⟨settings, others⟩ := remember_keeps (panel.next.next.turn setting value) setting value
  have whole : panel.adjust fail setting value =
      ((success, 0), (panel.next.next.turn setting value).remember setting value) := by
    have again : panel.next.outcomes 0 = .done := sound.done 1
    simp only [Panel.adjust, sound.done 0, again, Panel.status, Outcome.ok, Outcome.writes, if_true]
  rw [whole]
  refine ⟨?_, turned_sound _ _ ready setting value turned fits, others.trans turned.others⟩
  rw [settings, turned.settings]
  rfl

theorem tell_plainly (panel : Panel) (sound : Sound panel) (setting : Setting) :
    Plainly panel (panel.tell fail setting)
      ((success, panel.settings setting), panel.settings) := by
  have whole : panel.tell fail setting =
      ((success, panel.settings setting), panel.next.remember setting (panel.settings setting)) := by
    simp only [Panel.tell, sound.done 0, Panel.status, Outcome.ok, if_true]
  obtain ⟨settings, others⟩ :=
    remember_keeps panel.next setting (panel.settings setting)
  have next := sound_next panel sound
  rw [whole]
  refine ⟨by rw [settings]; rfl, ?_, others⟩
  -- a shadow field is set to what it was
  cases setting with
  | oversampTemperature =>
      exact ⟨rfl, next.pressure, next.small, next.done, next.taken⟩
  | oversampPressure =>
      exact ⟨next.temperature, rfl, next.small, next.done, next.taken⟩
  | powerMode | standbyDurn | filter | spi3 => exact next

theorem power_mode_plainly (panel : Panel) (sound : Sound panel) (mode : UInt8) :
    Plainly panel (panel.setPowerMode fail mode)
      (Record.serve panel.settings (.set .powerMode mode)) := by
  have next := sound_next panel sound
  have same : Function.update (Function.update panel.settings .oversampTemperature
      panel.temperature) .oversampPressure panel.pressure = panel.settings := by
    rw [sound.temperature, Function.update_eq_self, sound.pressure, Function.update_eq_self]
  simp only [Panel.setPowerMode, Record.serve, same]
  by_cases known : mode ≤ normalMode
  · rw [if_pos known, if_pos known, sound.done 0]
    exact ⟨rfl, ⟨next.temperature, next.pressure, next.small, next.done, next.taken⟩, rfl⟩
  · rw [if_neg known, if_neg known]
    exact ⟨rfl, sound, rfl⟩

theorem work_mode_plainly (panel : Panel) (sound : Sound panel) (mode : UInt8) :
    Plainly panel (panel.setWorkMode fail mode) (Record.serve panel.settings (.setWorkMode mode)) := by
  have again : panel.next.outcomes 0 = .done := sound.done 1
  have next := sound_next _ (sound_next _ sound)
  simp only [Panel.setWorkMode, Record.serve]
  by_cases known : mode ≤ ultraHighResolutionMode
  · obtain ⟨temperature, pressure, listed, warm, dense, _⟩ := work_mode_values mode known
    simp only [listed, sound.done 0, again, Panel.status, Outcome.ok, Outcome.writes, if_true]
    refine ⟨rfl, ⟨?_, ?_, ⟨?_, ?_⟩, next.done, next.taken⟩, rfl⟩
    · simp [Panel.next]
    · simp [Panel.next]
    · simpa using warm
    · simpa using dense
  · rw [work_mode_unknown mode known]
    exact ⟨rfl, sound, rfl⟩

theorem serve_plainly (panel : Panel) (sound : Sound panel) (request : Request)
    (plain : Plain request) :
    Plainly panel (panel.serve fail request) (Record.serve panel.settings request) := by
  obtain ⟨documented, quiet⟩ := plain
  cases request with
  | get setting => exact tell_plainly fail panel sound setting
  | set setting value =>
      by_cases mode : setting = .powerMode
      · subst mode
        exact power_mode_plainly fail panel sound value
      · have adjusted := adjust_plainly fail panel sound setting value documented
        cases setting with
        | powerMode => exact absurd rfl mode
        | oversampTemperature | oversampPressure | standbyDurn | filter | spi3 => exact adjusted
  | setWorkMode mode => exact work_mode_plainly fail panel sound mode
  | setSoftRst => exact absurd rfl quiet

def poweredUp : Driver RegisterFile :=
  ⟨Bmp280T.zero, true, ⟨fun _ => 0, fun _ => .done, fun _ => false⟩⟩

theorem powered_up_sound : Sound (panel poweredUp) where
  temperature := rfl
  pressure := rfl
  small := ⟨by decide, by decide⟩
  done _ := rfl
  taken _ := rfl

end AirMonitor.Settings
