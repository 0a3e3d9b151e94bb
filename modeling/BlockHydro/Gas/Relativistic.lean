import BlockHydro.Gas.State
import BlockHydro.Geometry.Metric

/-!
# Relativistic gas

A relativistic primitive state counts baryons of a given rest mass in its
density, and its velocity slots hold the Lorentz factor times the Eulerian
velocity.  `RelativisticFlow` is what follows from such a state and a metric for
a gamma-law gas; from it come the densitized conserved state, its flux, and the
speeds of the sound waves along an axis.
-/

namespace BlockHydro

/-- The derived quantities of a relativistic primitive state in a metric. -/
structure RelativisticFlow (R : Type) where
  restMassDensity : R
  pressure : R
  lorentzFactor : R
  velocityUp : PerAxis R
  velocityDown : PerAxis R
  specificEnthalpy : R
  soundSpeedSquared : R

/-- The slowest and fastest sound wave along an axis, as seen by the coordinates. -/
structure CharacteristicSpeeds (R : Type) where
  slowest : R
  fastest : R
  /-- A negative radicand was taken as zero. -/
  clipped : Bool

variable {R : Type} [Scalar R]

/-- The flow of a primitive state in a metric, for a gamma-law gas of massive baryons. -/
def Primitive.flow (state : Primitive R) (metric : Metric R) (gammaLawIndex baryonMass : R) :
    RelativisticFlow R :=
  let restMassDensity := baryonMass * state.density
  let lowered := metric.lower state.velocity
  let lorentzFactor := Scalar.sqrt (1 + state.velocity.dot lowered)
  let specificEnthalpy :=
    1 + gammaLawIndex / (gammaLawIndex - 1) * state.pressure / restMassDensity
  { restMassDensity
    pressure := state.pressure
    lorentzFactor
    velocityUp := state.velocity.map (· / lorentzFactor)
    velocityDown := lowered.map (· / lorentzFactor)
    specificEnthalpy
    soundSpeedSquared := gammaLawIndex * state.pressure / (restMassDensity * specificEnthalpy) }

namespace RelativisticFlow

/-- The square of the velocity. -/
def velocitySquared (flow : RelativisticFlow R) : R :=
  flow.velocityUp.dot flow.velocityDown

/-- The conserved state times the volume element. -/
def toConserved (flow : RelativisticFlow R) (metric : Metric R) : Conserved R :=
  let volume := metric.sqrtDeterminant
  let inertia :=
    flow.restMassDensity * flow.specificEnthalpy * flow.lorentzFactor * flow.lorentzFactor
  let density := volume * flow.restMassDensity * flow.lorentzFactor
  { density
    momentum := flow.velocityDown.map (volume * inertia * ·)
    energy := volume * (inertia - flow.pressure) - density }

/-- The flux of the densitized conserved state through a face normal to `axis`. -/
def fluxVector (flow : RelativisticFlow R) (metric : Metric R) (axis : Axis) : Conserved R :=
  let carried := flow.toConserved metric
  let transport := metric.lapse * flow.velocityUp.get axis - metric.shift.get axis
  let pressure := metric.lapse * metric.sqrtDeterminant * flow.pressure
  { density := carried.density * transport
    momentum := PerAxis.ofFn fun other =>
      carried.momentum.get other * transport + pressure * axis.along other
    energy := carried.energy * transport + pressure * flow.velocityUp.get axis }

/-- The radicand of the wave speeds; it measures how far the flow stays inside the light cone. -/
def waveRadicand (flow : RelativisticFlow R) (metric : Metric R) (axis : Axis) : R :=
  let velocity := flow.velocityUp.get axis
  let vSquared := flow.velocitySquared
  let soundSquared := flow.soundSpeedSquared
  (1 - vSquared) *
    (metric.inverse.component axis axis * (1 - vSquared * soundSquared)
      - velocity * velocity * (1 - soundSquared))

/-- The slowest and fastest sound wave along `axis`. -/
def characteristicSpeeds (flow : RelativisticFlow R) (metric : Metric R) (axis : Axis) :
    CharacteristicSpeeds R :=
  let velocity := flow.velocityUp.get axis
  let vSquared := flow.velocitySquared
  let soundSquared := flow.soundSpeedSquared
  let sound := Scalar.sqrt soundSquared
  let radicand := flow.waveRadicand metric axis
  let clipped := decide (radicand < 0)
  let root := if clipped then 0 else Scalar.sqrt radicand
  let factor := metric.lapse / (1 - vSquared * soundSquared)
  { slowest := factor * (velocity * (1 - soundSquared) - sound * root) - metric.shift.get axis
    fastest := factor * (velocity * (1 - soundSquared) + sound * root) - metric.shift.get axis
    clipped }

end RelativisticFlow

end BlockHydro
