import BlockHydro.Flux.TwoWave
import BlockHydro.Gas.EquationOfState

/-!
# Fluxes between two gas states

A face separates a left and a right primitive state.  Both are turned into the
frame in which the normal of the face comes first, the flux is found there, and
its momentum is turned back.

* `twoWaveFlux` bounds the waves from both sides: a Newtonian gas by the speeds
  of the two states and of their density-weighted mean, a relativistic gas by
  the extreme characteristic speeds of the two states.
* `lowOrderFlux` uses the single largest speed of the two states.  It is far
  more diffusive, and serves where the two-wave flux leads to a bad state.
-/

namespace BlockHydro

variable {R : Type} [Scalar R]

/-- The mean of two gas states weighted by the roots of their densities. -/
structure MeanFlow (R : Type) where
  velocity : PerAxis R
  soundSpeed : R
  /-- A negative radicand of the sound speed was taken as zero. -/
  clipped : Bool

/-- The weighted mean of two Newtonian states: velocity and specific enthalpy are averaged. -/
def MeanFlow.between (thermodynamics : Thermodynamics R) (left right : Primitive R) :
    MeanFlow R :=
  let leftWeight := Scalar.sqrt left.density
  let rightWeight := Scalar.sqrt right.density
  let scale := 1 / (leftWeight + rightWeight)
  let velocity := left.velocity.zipWith
    (fun leftComponent rightComponent =>
      (leftWeight * leftComponent + rightWeight * rightComponent) * scale) right.velocity
  match thermodynamics with
  | .adiabatic gammaLawIndex =>
    let leftEnergy := (left.toConserved thermodynamics).energy
    let rightEnergy := (right.toConserved thermodynamics).energy
    let enthalpy :=
      ((leftEnergy + left.pressure) / leftWeight + (rightEnergy + right.pressure) / rightWeight)
        * scale
    let radicand := enthalpy - 0.5 * velocity.dot velocity
    let clipped := decide (radicand < 0)
    let soundSpeed := if clipped then 0 else Scalar.sqrt ((gammaLawIndex - 1) * radicand)
    { velocity, soundSpeed, clipped }
  | .isothermal soundSpeed => { velocity, soundSpeed, clipped := false }

namespace Thermodynamics

/-- The two-wave flux of a Newtonian gas along the first axis. -/
def twoWaveFlux (thermodynamics : Thermodynamics R) (left right : Primitive R) : TwoWaveFlux R :=
  let mean := MeanFlow.between thermodynamics left right
  let slowest := Scalar.min (mean.velocity.i - mean.soundSpeed)
    (left.velocity.i - left.soundSpeed thermodynamics)
  let fastest := Scalar.max (mean.velocity.i + mean.soundSpeed)
    (right.velocity.i + right.soundSpeed thermodynamics)
  .ofSides (.clamp slowest fastest) mean.clipped
    (left.toConserved thermodynamics) (right.toConserved thermodynamics)
    (left.fluxVector .i thermodynamics) (right.fluxVector .i thermodynamics)

/-- The one-wave flux of a Newtonian gas along the first axis. -/
def lowOrderFlux (thermodynamics : Thermodynamics R) (left right : Primitive R) : Conserved R :=
  let speed := Scalar.max
    (Scalar.abs left.velocity.i + left.soundSpeed thermodynamics)
    (Scalar.abs right.velocity.i + right.soundSpeed thermodynamics)
  oneWaveFlux speed
    (left.toConserved thermodynamics) (right.toConserved thermodynamics)
    (left.fluxVector .i thermodynamics) (right.fluxVector .i thermodynamics)

end Thermodynamics

namespace RelativisticFlow

/-- The two-wave flux of a relativistic gas along the first axis. -/
def twoWaveFlux (metric : Metric R) (left right : RelativisticFlow R) : TwoWaveFlux R :=
  let leftSpeeds := left.characteristicSpeeds metric .i
  let rightSpeeds := right.characteristicSpeeds metric .i
  .ofSides
    (.clamp (Scalar.min leftSpeeds.slowest rightSpeeds.slowest)
      (Scalar.max leftSpeeds.fastest rightSpeeds.fastest))
    (leftSpeeds.clipped || rightSpeeds.clipped)
    (left.toConserved metric) (right.toConserved metric)
    (left.fluxVector metric .i) (right.fluxVector metric .i)

/-- The one-wave flux of a relativistic gas along the first axis. -/
def lowOrderFlux (metric : Metric R) (left right : RelativisticFlow R) : Conserved R :=
  let leftSpeeds := left.characteristicSpeeds metric .i
  let rightSpeeds := right.characteristicSpeeds metric .i
  let speed := Scalar.max (Scalar.max (Scalar.max
    (Scalar.abs leftSpeeds.slowest) (Scalar.abs leftSpeeds.fastest))
    (Scalar.abs rightSpeeds.slowest)) (Scalar.abs rightSpeeds.fastest)
  oneWaveFlux speed (left.toConserved metric) (right.toConserved metric)
    (left.fluxVector metric .i) (right.fluxVector metric .i)

end RelativisticFlow

namespace EquationOfState

/-- The two-wave flux through a face normal to `axis`; a Newtonian gas ignores the metric. -/
def twoWaveFlux (eos : EquationOfState R) (axis : Axis) (metric : Metric R)
    (left right : Primitive R) : TwoWaveFlux R :=
  let left := left.rotate axis
  let right := right.rotate axis
  match eos.fluid with
  | .newtonian thermodynamics => (thermodynamics.twoWaveFlux left right).unrotate axis
  | .relativistic gammaLawIndex baryonMass =>
    let metric := metric.rotate axis
    (RelativisticFlow.twoWaveFlux metric (left.flow metric gammaLawIndex baryonMass)
      (right.flow metric gammaLawIndex baryonMass)).unrotate axis

/-- The one-wave flux through a face normal to `axis`; a Newtonian gas ignores the metric. -/
def lowOrderFlux (eos : EquationOfState R) (axis : Axis) (metric : Metric R)
    (left right : Primitive R) : Conserved R :=
  let left := left.rotate axis
  let right := right.rotate axis
  match eos.fluid with
  | .newtonian thermodynamics => (thermodynamics.lowOrderFlux left right).unrotate axis
  | .relativistic gammaLawIndex baryonMass =>
    let metric := metric.rotate axis
    (RelativisticFlow.lowOrderFlux metric (left.flow metric gammaLawIndex baryonMass)
      (right.flow metric gammaLawIndex baryonMass)).unrotate axis

end EquationOfState

end BlockHydro
