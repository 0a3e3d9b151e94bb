import BlockHydro.Gas.Newtonian
import BlockHydro.Gas.PressureRoot
import BlockHydro.Gas.Relativistic

/-!
# Equations of state

A `Fluid` is a Newtonian gas with its closure, or a relativistic gamma-law gas;
the fourth combination, a relativistic isothermal gas, cannot be built.  An
`EquationOfState` adds the floors and the search settings that recovery needs.

`recover` finds the primitive state behind a conserved one.  In diagnostic mode
it reports why there is none; in floored mode it answers with `floored`, so it
always succeeds.
-/

namespace BlockHydro

/-- Whether velocities may approach the speed of light. -/
inductive Dynamics (R : Type) where
  | newtonian
  /-- Densities count baryons of the given rest mass. -/
  | relativistic (baryonMass : R)
  deriving BEq

/-- What a recovery does with a state that has no primitive counterpart. -/
inductive RecoveryMode where
  /-- Report why. -/
  | diagnostic
  /-- Reset the offending quantities to their floors. -/
  | floored
  deriving DecidableEq, Repr

/-- Why a combination of settings is no equation of state. -/
inductive EquationOfStateDefect (R : Type) where
  | relativisticIsothermal
  | gammaLawIndex (index : R)
  | soundSpeed (speed : R)
  | baryonMass (mass : R)
  | floors

/-- A gas: its closure, and whether it is relativistic. -/
inductive Fluid (R : Type) where
  | newtonian (thermodynamics : Thermodynamics R)
  | relativistic (gammaLawIndex baryonMass : R)

/-- The least density and pressure that floored recovery leaves. -/
structure Floors (R : Type) where
  density : R
  pressure : R
  deriving BEq

/-- A gas with its floors and the settings of its pressure search. -/
structure EquationOfState (R : Type) where
  fluid : Fluid R
  floors : Floors R
  search : RootSearch R

variable {R : Type} [Scalar R]

namespace Fluid

/-- Join a closure with a dynamics. -/
def combine (thermodynamics : Thermodynamics R) (dynamics : Dynamics R) :
    Except (EquationOfStateDefect R) (Fluid R) :=
  match thermodynamics, dynamics with
  | .isothermal _, .relativistic _ => .error .relativisticIsothermal
  | .adiabatic gammaLawIndex, .relativistic baryonMass =>
    .ok (.relativistic gammaLawIndex baryonMass)
  | thermodynamics, .newtonian => .ok (.newtonian thermodynamics)

/-- The first parameter out of range: the gamma-law index or sound speed, then the baryon mass. -/
def defect? : Fluid R → Option (EquationOfStateDefect R)
  | .newtonian (.adiabatic gammaLawIndex) =>
    if 1 < gammaLawIndex then none else some (.gammaLawIndex gammaLawIndex)
  | .newtonian (.isothermal soundSpeed) =>
    if 0 ≤ soundSpeed then none else some (.soundSpeed soundSpeed)
  | .relativistic gammaLawIndex baryonMass =>
    if 1 < gammaLawIndex then
      if 0 < baryonMass then none else some (.baryonMass baryonMass)
    else
      some (.gammaLawIndex gammaLawIndex)

/-- The closure of the gas. -/
def thermodynamics : Fluid R → Thermodynamics R
  | .newtonian thermodynamics => thermodynamics
  | .relativistic gammaLawIndex _ => .adiabatic gammaLawIndex

/-- The dynamics of the gas. -/
def dynamics : Fluid R → Dynamics R
  | .newtonian _ => .newtonian
  | .relativistic _ baryonMass => .relativistic baryonMass

end Fluid

/-- The floors in use unless others are set. -/
def Floors.standard : Floors R := ⟨1e-10, 1e-12⟩

/-- The search settings in use unless others are set. -/
def RootSearch.standard : RootSearch R := ⟨1e-12, 100⟩

namespace EquationOfState

/-- The first setting out of range: a parameter of the gas, then a floor. -/
def defect? (eos : EquationOfState R) : Option (EquationOfStateDefect R) :=
  match eos.fluid.defect? with
  | some defect => some defect
  | none =>
    if 0 < eos.floors.density ∧ 0 < eos.floors.pressure then none else some .floors

/-- Accept an equation of state whose settings are all in range. -/
def validate (eos : EquationOfState R) : Except (EquationOfStateDefect R) Unit :=
  match eos.defect? with
  | some defect => .error defect
  | none => .ok ()

/-- A gas in range with positive floors is accepted. -/
theorem validate_eq_ok {eos : EquationOfState R} (inRange : eos.fluid.defect? = none)
    (floors : 0 < eos.floors.density ∧ 0 < eos.floors.pressure) : eos.validate = .ok () := by
  unfold validate defect?
  rw [inRange]
  dsimp only
  rw [if_pos floors]

/-- The equation of state of a closure and a dynamics, with standard floors and search. -/
def ofFluid (thermodynamics : Thermodynamics R) (dynamics : Dynamics R) :
    Except (EquationOfStateDefect R) (EquationOfState R) := do
  let fluid ← Fluid.combine thermodynamics dynamics
  let eos : EquationOfState R := ⟨fluid, .standard, .standard⟩
  eos.validate
  return eos

/-- Set the floors, unchecked. -/
def withFloors (eos : EquationOfState R) (floors : Floors R) : EquationOfState R :=
  { eos with floors }

/-- Set the search settings, unchecked. -/
def withSearch (eos : EquationOfState R) (search : RootSearch R) : EquationOfState R :=
  { eos with search }

/-- Whether the closure is a gamma law. -/
def isAdiabatic (eos : EquationOfState R) : Bool :=
  match eos.fluid.thermodynamics with
  | .adiabatic _ => true
  | .isothermal _ => false

/-- Whether the gas is relativistic. -/
def isRelativistic (eos : EquationOfState R) : Bool :=
  match eos.fluid with
  | .newtonian _ => false
  | .relativistic _ _ => true

/-- The number of fields that states of the gas use. -/
def numFields (eos : EquationOfState R) : Nat :=
  if eos.isAdiabatic then 5 else 4

/-- The sound speed of a state; it does not depend on the metric. -/
def soundSpeed (eos : EquationOfState R) (state : Primitive R) : R :=
  match eos.fluid with
  | .newtonian thermodynamics => state.soundSpeed thermodynamics
  | .relativistic gammaLawIndex baryonMass =>
    Scalar.sqrt (state.flow .minkowski gammaLawIndex baryonMass).soundSpeedSquared

/-- A bound on the speed of every wave of a state, over all axes. -/
def maxSignalSpeed (eos : EquationOfState R) (metric : Metric R) (state : Primitive R) : R :=
  match eos.fluid with
  | .newtonian thermodynamics => state.maxSignalSpeed thermodynamics
  | .relativistic gammaLawIndex baryonMass =>
    let flow := state.flow metric gammaLawIndex baryonMass
    Axis.all.foldl (fun fastest axis =>
      let speeds := flow.characteristicSpeeds metric axis
      Scalar.max fastest (Scalar.max (Scalar.abs speeds.slowest) (Scalar.abs speeds.fastest))) 0

/-- The conserved state of a primitive one; a Newtonian gas ignores the metric. -/
def encode (eos : EquationOfState R) (metric : Metric R) (state : Primitive R) : Conserved R :=
  match eos.fluid with
  | .newtonian thermodynamics => state.toConserved thermodynamics
  | .relativistic gammaLawIndex baryonMass =>
    (state.flow metric gammaLawIndex baryonMass).toConserved metric

/-- The primitive state of a conserved one, if it has one; a Newtonian gas ignores the metric. -/
def decode (eos : EquationOfState R) (metric : Metric R) (state : Conserved R) :
    Except (RecoveryFailure R) (Primitive R) :=
  match eos.fluid with
  | .newtonian thermodynamics => state.toPrimitive thermodynamics
  | .relativistic gammaLawIndex baryonMass =>
    state.toRelativisticPrimitive metric gammaLawIndex baryonMass eos.floors.pressure eos.search

/-- The floored pressure of a Newtonian gas of given density and velocity. -/
def flooredPressure (eos : EquationOfState R) (thermodynamics : Thermodynamics R)
    (energy density : R) (velocity : PerAxis R) : R :=
  match thermodynamics with
  | .adiabatic gammaLawIndex =>
    let kinetic := 0.5 * density * velocity.dot velocity
    Scalar.max ((energy - kinetic) * (gammaLawIndex - 1)) eos.floors.pressure
  | .isothermal _ => 0

/-- A primitive state for any conserved one: a Newtonian gas keeps its momentum, a relativistic gas is put at rest. -/
def floored (eos : EquationOfState R) (metric : Metric R) (state : Conserved R) : Primitive R :=
  match eos.fluid with
  | .newtonian thermodynamics =>
    let density := Scalar.max state.density eos.floors.density
    let velocity := state.momentum.map (· / density)
    ⟨density, velocity, eos.flooredPressure thermodynamics state.energy density velocity⟩
  | .relativistic _ baryonMass =>
    let density := state.density / metric.sqrtDeterminant
    ⟨Scalar.max density eos.floors.density / baryonMass, .replicate 0, eos.floors.pressure⟩

/-- The primitive state of a conserved one, with failures treated as the mode asks. -/
def recover (eos : EquationOfState R) (mode : RecoveryMode) (metric : Metric R)
    (state : Conserved R) : Except (RecoveryFailure R) (Primitive R) :=
  match eos.decode metric state, mode with
  | .ok primitive, _ => .ok primitive
  | .error failure, .diagnostic => .error failure
  | .error _, .floored => .ok (eos.floored metric state)

/-- Diagnostic recovery reports what decoding finds. -/
theorem recover_diagnostic (eos : EquationOfState R) (metric : Metric R) (state : Conserved R) :
    eos.recover .diagnostic metric state = eos.decode metric state := by
  unfold recover
  cases eos.decode metric state <;> rfl

end EquationOfState

end BlockHydro
