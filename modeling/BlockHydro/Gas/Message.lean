import BlockHydro.Decimal.Scientific
import BlockHydro.Decimal.Shortest
import BlockHydro.Gas.EquationOfState

/-!
# Wording of gas errors

One function words each kind of failure.  Measured values are written with four
decimal places, settings with the digits that read back.
-/

namespace BlockHydro

/-- A failed recovery, with the zone it failed in. -/
structure ZoneFailure (R : Type) where
  cause : RecoveryFailure R
  zone : Zone

/-- The number of decimal places of a measured value. -/
def measuredPlaces : Nat := 4

/-- The wording of a failed recovery. -/
def RecoveryFailure.message : RecoveryFailure Float → String
  | .negativeMassDensity density =>
    s!"negative mass density: {scientificText measuredPlaces density}"
  | .negativeGasPressure pressure =>
    s!"negative gas pressure: {scientificText measuredPlaces pressure}"
  | .rootFinderFailed iterations =>
    s!"primitive recovery failed to converge after {iterations} iterations"

/-- The wording of a failed recovery, with its place. -/
def ZoneFailure.message (failure : ZoneFailure Float) : String :=
  s!"{failure.cause.message} in block {failure.zone.block} at zone {failure.zone.index.text}"

/-- What is wrong with an equation of state. -/
def EquationOfStateDefect.detail : EquationOfStateDefect Float → String
  | .relativisticIsothermal => "relativistic flow requires an adiabatic closure"
  | .gammaLawIndex index => s!"gamma-law index {shortestText index} must exceed one"
  | .soundSpeed speed => s!"negative sound speed {shortestText speed}"
  | .baryonMass mass => s!"baryon mass {shortestText mass} must be positive"
  | .floors => "floors must be positive"

/-- The wording of a defect of an equation of state. -/
def EquationOfStateDefect.message (defect : EquationOfStateDefect Float) : String :=
  s!"invalid equation of state: {defect.detail}"

end BlockHydro
