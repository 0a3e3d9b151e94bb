import BlockHydro.Gas.Newtonian
import BlockHydro.Geometry.Metric

/-!
# Relativistic recovery by a pressure root

The pressure of a relativistic conserved state is the root of a residual: the
pressure that density and internal energy would give at a trial pressure, less
that trial pressure.  The search doubles an upper end until the residual is
below zero there, then halves the bracket until it is as narrow as asked.

Both loops draw on one budget of iterations.  A search that needs one more than
the budget allows fails, and says how many it had begun.
-/

namespace BlockHydro

/-- When the search for the pressure ends. -/
structure RootSearch (R : Type) where
  /-- The width of the final bracket, relative to its upper end. -/
  tolerance : R
  maxIterations : Nat
  deriving BEq

/-- A conserved state freed of the volume element, with its momentum in both index positions. -/
structure Undensitized (R : Type) where
  density : R
  energy : R
  momentumDown : PerAxis R
  momentumUp : PerAxis R

variable {R : Type} [Scalar R]

/-- Divide a densitized conserved state by the volume element. -/
def Conserved.undensitize (state : Conserved R) (metric : Metric R) : Undensitized R :=
  let volume := metric.sqrtDeterminant
  let momentumDown := state.momentum.map (· / volume)
  { density := state.density / volume
    energy := state.energy / volume
    momentumDown
    momentumUp := metric.raise momentumDown }

namespace Undensitized

/-- The square of the momentum. -/
def momentumSquared (state : Undensitized R) : R :=
  state.momentumDown.dot state.momentumUp

/-- Energy, rest mass and pressure together. -/
def inertia (state : Undensitized R) (pressure : R) : R :=
  state.energy + state.density + pressure

/-- The pressure that follows from a trial pressure, less the trial; nothing if the gas would outrun light. -/
def residual (state : Undensitized R) (gammaLawIndex pressure : R) : Option R :=
  let inertia := state.inertia pressure
  let slack := inertia * inertia - state.momentumSquared
  if 0 < slack ∧ 0 < inertia then
    let internal := (slack - state.density * Scalar.sqrt slack) / inertia - pressure
    some ((gammaLawIndex - 1) * internal - pressure)
  else
    none

/-- The primitive state once its pressure is known. -/
def atPressure (state : Undensitized R) (baryonMass pressure : R) : Primitive R :=
  let inertia := state.inertia pressure
  let lorentzFactor := inertia / Scalar.sqrt (inertia * inertia - state.momentumSquared)
  { density := state.density / lorentzFactor / baryonMass
    velocity := state.momentumUp.map fun component => lorentzFactor * (component / inertia)
    pressure }

end Undensitized

/-- A pressure interval, with the iterations left to narrow it. -/
structure Bracket (R : Type) where
  low : R
  high : R
  budget : Nat

namespace Bracket

/-- Double the upper end while it lies below the root; nothing if the budget runs out. -/
def expand (below : R → Bool) : Nat → R → R → Option (Bracket R)
  | budget, low, high =>
    if below high then
      match budget with
      | 0 => none
      | budget + 1 => expand below budget high (high * 2.0)
    else
      some ⟨low, high, budget⟩

/-- Halve the interval until it is narrow; nothing if the budget runs out. -/
def narrow (belowOrAt : R → Bool) (tolerance : R) : Nat → R → R → Option (Bracket R)
  | budget, low, high =>
    if tolerance * high < high - low then
      match budget with
      | 0 => none
      | budget + 1 =>
        let middle := 0.5 * (low + high)
        if belowOrAt middle then narrow belowOrAt tolerance budget middle high
        else narrow belowOrAt tolerance budget low middle
    else
      some ⟨low, high, budget⟩

/-- The middle of the interval. -/
def middle (bracket : Bracket R) : R := 0.5 * (bracket.low + bracket.high)

end Bracket

namespace Undensitized

/-- Whether the root lies at or above a trial pressure, counting superluminal trials as below it. -/
def rootAboveOrSuperluminal (state : Undensitized R) (gammaLawIndex pressure : R) : Bool :=
  match state.residual gammaLawIndex pressure with
  | some excess => decide (0 ≤ excess)
  | none => true

/-- Whether the root lies at or above a trial pressure. -/
def rootAbove (state : Undensitized R) (gammaLawIndex pressure : R) : Bool :=
  match state.residual gammaLawIndex pressure with
  | some excess => decide (0 ≤ excess)
  | none => false

/-- The final bracket of the search that starts between zero and `high`. -/
def bracketRoot (state : Undensitized R) (gammaLawIndex : R) (search : RootSearch R) (high : R) :
    Option (Bracket R) := do
  let wide ← Bracket.expand (state.rootAboveOrSuperluminal gammaLawIndex) search.maxIterations 0 high
  Bracket.narrow (state.rootAbove gammaLawIndex) search.tolerance wide.budget wide.low wide.high

/-- The residual at zero pressure, which a physical state has and has not below zero. -/
def excessAtZero (state : Undensitized R) (gammaLawIndex : R) : Except (RecoveryFailure R) R :=
  match state.residual gammaLawIndex 0 with
  | some excess =>
    if 0 ≤ excess then .ok excess else .error (.negativeGasPressure excess)
  | none =>
    .error (.negativeGasPressure
      (state.energy + state.density - Scalar.sqrt state.momentumSquared))

end Undensitized

/-- The relativistic primitive state of a densitized conserved one, if it has one. -/
def Conserved.toRelativisticPrimitive (state : Conserved R) (metric : Metric R)
    (gammaLawIndex baryonMass pressureFloor : R) (search : RootSearch R) :
    Except (RecoveryFailure R) (Primitive R) := do
  let bare := state.undensitize metric
  if 0 < bare.density then
    let excess ← bare.excessAtZero gammaLawIndex
    match bare.bracketRoot gammaLawIndex search (Scalar.max excess pressureFloor) with
    | some bracket => return bare.atPressure baryonMass bracket.middle
    | none => .error (.rootFinderFailed (search.maxIterations + 1))
  else
    .error (.negativeMassDensity bare.density)

end BlockHydro
