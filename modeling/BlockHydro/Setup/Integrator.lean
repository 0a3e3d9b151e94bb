import BlockHydro.Scalar

/-!
# Time integrators

The integrators are strong-stability-preserving Runge-Kutta schemes.  Each stage
blends the state being advanced, the state at the start of the step and the flux
divergence with three weights.
-/

namespace BlockHydro

/-- The weights of one stage: `state ← current * state + start * startState - rate * dt * divergence`. -/
structure StageWeights (R : Type) where
  /-- The weight of the state being advanced. -/
  current : R
  /-- The weight of the state at the start of the step. -/
  start : R
  /-- The weight of the flux divergence. -/
  rate : R

/-- A strong-stability-preserving Runge-Kutta scheme, named by its order. -/
inductive Integrator where
  | rk1
  | rk2
  | rk3
  deriving DecidableEq, Repr

namespace Integrator

/-- The stages of one step, in order. -/
def stages {R : Type} [Scalar R] : Integrator → List (StageWeights R)
  | .rk1 => [⟨0, 1, 1⟩]
  | .rk2 => [⟨0, 1, 1⟩, ⟨0.5, 0.5, 0.5⟩]
  | .rk3 => [⟨0, 1, 1⟩, ⟨0.25, 0.75, 0.25⟩, ⟨2.0 / 3.0, 1 / 3.0, 2.0 / 3.0⟩]

/-- The name of a scheme. -/
def name : Integrator → String
  | .rk1 => "rk1"
  | .rk2 => "rk2"
  | .rk3 => "rk3"

/-- The scheme of a name. -/
def ofName? (name : String) : Option Integrator :=
  if name = "rk1" then some .rk1
  else if name = "rk2" then some .rk2
  else if name = "rk3" then some .rk3
  else none

@[simp] theorem ofName?_name (integrator : Integrator) :
    ofName? integrator.name = some integrator := by
  cases integrator <;> rfl

end Integrator

end BlockHydro
