import BlockHydro.Gas.State

/-!
# Newtonian gas

The closure of a Newtonian gas is a gamma law or a fixed sound speed.  This file
has the pressure and sound speed of a primitive state, the conserved state and
the flux that belong to it, and the way back: `Conserved.toPrimitive` refuses a
density that is not above zero and, for a gamma law, a pressure below zero.

The refusals are comparisons that have to hold, so values that are not numbers
pass through.
-/

namespace BlockHydro

/-- The relation between pressure and density. -/
inductive Thermodynamics (R : Type) where
  /-- Pressure is proportional to internal energy. -/
  | adiabatic (gammaLawIndex : R)
  /-- Pressure is proportional to density. -/
  | isothermal (soundSpeed : R)
  deriving BEq

/-- Why a conserved state has no primitive counterpart. -/
inductive RecoveryFailure (R : Type) where
  | negativeMassDensity (density : R)
  | negativeGasPressure (pressure : R)
  | rootFinderFailed (iterations : Nat)

variable {R : Type} [Scalar R]

namespace Primitive

/-- The pressure in the momentum flux. -/
def pressureTerm (state : Primitive R) : Thermodynamics R → R
  | .adiabatic _ => state.pressure
  | .isothermal soundSpeed => soundSpeed * soundSpeed * state.density

/-- The square of the sound speed. -/
def soundSpeedSquared (state : Primitive R) : Thermodynamics R → R
  | .adiabatic gammaLawIndex => gammaLawIndex * state.pressure / state.density
  | .isothermal soundSpeed => soundSpeed * soundSpeed

/-- The sound speed. -/
def soundSpeed (state : Primitive R) (thermodynamics : Thermodynamics R) : R :=
  Scalar.sqrt (state.soundSpeedSquared thermodynamics)

/-- The speed of the gas plus the speed of sound in it. -/
def maxSignalSpeed (state : Primitive R) (thermodynamics : Thermodynamics R) : R :=
  Scalar.sqrt state.velocitySquared + state.soundSpeed thermodynamics

/-- Kinetic plus internal energy per volume; an isothermal gas stores none. -/
def energyDensity (state : Primitive R) : Thermodynamics R → R
  | .adiabatic gammaLawIndex =>
    state.density * state.velocitySquared * 0.5 + state.pressure / (gammaLawIndex - 1)
  | .isothermal _ => 0

/-- The conserved state of a primitive one. -/
def toConserved (state : Primitive R) (thermodynamics : Thermodynamics R) : Conserved R where
  density := state.density
  momentum := state.velocity.map (state.density * ·)
  energy := state.energyDensity thermodynamics

/-- The work done by the pressure per unit area and time; an isothermal gas counts none. -/
def pressureWork (state : Primitive R) (axis : Axis) (thermodynamics : Thermodynamics R) : R :=
  match thermodynamics with
  | .adiabatic _ => state.pressureTerm thermodynamics * state.velocity.get axis
  | .isothermal _ => 0

/-- The flux of the conserved state through a face normal to `axis`. -/
def fluxVector (state : Primitive R) (axis : Axis) (thermodynamics : Thermodynamics R) :
    Conserved R :=
  let carried := state.toConserved thermodynamics
  let normal := state.velocity.get axis
  let pressure := state.pressureTerm thermodynamics
  { density := carried.density * normal
    momentum := PerAxis.ofFn fun other =>
      carried.momentum.get other * normal + pressure * axis.along other
    energy := carried.energy * normal + state.pressureWork axis thermodynamics }

end Primitive

namespace Conserved

/-- The primitive state of a conserved one, if it has one. -/
def toPrimitive (state : Conserved R) (thermodynamics : Thermodynamics R) :
    Except (RecoveryFailure R) (Primitive R) :=
  if state.density ≤ 0 then
    .error (.negativeMassDensity state.density)
  else
    let velocity := state.momentum.map (· / state.density)
    match thermodynamics with
    | .adiabatic gammaLawIndex =>
      let kinetic := 0.5 * state.momentumSquared / state.density
      let pressure := (state.energy - kinetic) * (gammaLawIndex - 1)
      if pressure < 0 then
        .error (.negativeGasPressure pressure)
      else
        .ok ⟨state.density, velocity, pressure⟩
    | .isothermal _ => .ok ⟨state.density, velocity, 0⟩

end Conserved

end BlockHydro
