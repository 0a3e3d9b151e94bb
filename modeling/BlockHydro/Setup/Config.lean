import BlockHydro.Gas.Message
import BlockHydro.Setup.Integrator

/-!
# Run settings

A `Config` says which gas a run simulates, how states are recovered, whether
fluxes are corrected, and which scheme advances time.  `validate` accepts a
configuration exactly when its search settings and its equation of state are in
range, in that order.
-/

namespace BlockHydro

/-- The physics and numerics of a run. -/
structure Config (R : Type) where
  thermodynamics : Thermodynamics R
  dynamics : Dynamics R
  floors : Floors R
  search : RootSearch R
  /-- Replace fluxes that lead to bad states. -/
  fluxCorrection : Bool
  integrator : Integrator
  deriving BEq

/-- Why a configuration cannot be run. -/
inductive ConfigDefect (R : Type) where
  | tolerance
  | noIterations
  | unknownIntegrator (name : String)
  | equationOfState (defect : EquationOfStateDefect R)

/-- The wording of a defect of a configuration. -/
def ConfigDefect.message : ConfigDefect Float → String
  | .tolerance => "invalid configuration: recovery tolerance must be positive"
  | .noIterations => "invalid configuration: recovery needs at least one iteration"
  | .unknownIntegrator name => s!"invalid configuration: unknown time integrator '{name}'"
  | .equationOfState defect => defect.message

namespace Config

variable {R : Type} [Scalar R]

/-- A Newtonian gas of index five thirds, corrected fluxes, and two stages per step. -/
def standard : Config R where
  thermodynamics := .adiabatic (5.0 / 3.0)
  dynamics := .newtonian
  floors := .standard
  search := .standard
  fluxCorrection := true
  integrator := .rk2

/-- The equation of state of a configuration. -/
def equationOfState (config : Config R) :
    Except (EquationOfStateDefect R) (EquationOfState R) := do
  let gas ← EquationOfState.ofFluid config.thermodynamics config.dynamics
  let eos := (gas.withFloors config.floors).withSearch config.search
  eos.validate
  return eos

/-- The equation of state of a configuration whose search settings are in range too. -/
def validate (config : Config R) : Except (ConfigDefect R) (EquationOfState R) :=
  if 0 < config.search.tolerance then
    if config.search.maxIterations = 0 then
      .error .noIterations
    else
      config.equationOfState.mapError .equationOfState
  else
    .error .tolerance

/-- A configuration whose settings are all in range is valid. -/
theorem validate_eq_ok {config : Config R} {fluid : Fluid R} (tolerance : 0 < config.search.tolerance)
    (iterations : config.search.maxIterations ≠ 0)
    (combined : Fluid.combine config.thermodynamics config.dynamics = .ok fluid)
    (inRange : fluid.defect? = none)
    (standard : (0 : R) < Floors.standard.density ∧ (0 : R) < Floors.standard.pressure)
    (floors : 0 < config.floors.density ∧ 0 < config.floors.pressure) :
    config.validate = .ok ⟨fluid, config.floors, config.search⟩ := by
  have gas : EquationOfState.ofFluid config.thermodynamics config.dynamics =
      .ok ⟨fluid, .standard, .standard⟩ := by
    have accepted : EquationOfState.validate ⟨fluid, .standard, .standard⟩ = .ok () :=
      EquationOfState.validate_eq_ok inRange standard
    unfold EquationOfState.ofFluid
    rw [combined]
    dsimp only [bind, Except.bind]
    rw [accepted]
    rfl
  have accepted : EquationOfState.validate ⟨fluid, config.floors, config.search⟩ = .ok () :=
    EquationOfState.validate_eq_ok inRange floors
  unfold validate equationOfState
  rw [if_pos tolerance, if_neg iterations, gas]
  dsimp only [bind, Except.bind, EquationOfState.withFloors, EquationOfState.withSearch]
  rw [accepted]
  rfl

end Config

end BlockHydro
