import Mathlib.Data.Rat.Defs

/-! The record of `main.h`, which every acquisition function writes its part of. -/

namespace AirMonitor

/-- `struct climateData`; `none` is the indeterminate content of a field that no
statement has assigned. Doubles are taken as exact rationals. -/
structure ClimateData where
  temperature : Option ℚ
  humidity : Option ℚ
  pressure : Option ℚ
  co2 : Option Int
  deriving DecidableEq

/-- `struct climateData data;` on the stack, before any assignment. -/
def ClimateData.indeterminate : ClimateData := ⟨none, none, none, none⟩

/-- The one assignment to `data->pressure`, when a pass executes it. -/
def ClimateData.store (data : ClimateData) : Option ℚ → ClimateData
  | some value => { data with pressure := some value }
  | none => data

end AirMonitor
