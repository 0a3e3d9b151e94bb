import BlockHydro.Gas.State

/-!
# The two-wave flux

Two waves bound the solution between a left and a right state at a face.  With
the flux on either side seen from a frame that moves with the wave of that side,
`TwoWave.blend` is the flux of the state between the waves.

A bound on the wrong side of zero is moved to zero.  If one bound is zero the
whole solution moves away from it and the flux is that of the other side; if
both are, the face lies still and the flux is the mean.
-/

namespace BlockHydro

/-- Bounds on the wave speeds at a face: `slowest ≤ 0 ≤ fastest`. -/
structure WaveBounds (R : Type) where
  slowest : R
  fastest : R

/-- The flux through a face, with the bounds and the one-sided fluxes it was blended from. -/
structure TwoWaveFlux (R : Type) where
  flux : Conserved R
  /-- The left flux in the frame of the slowest wave. -/
  leftFlux : Conserved R
  /-- The right flux in the frame of the fastest wave. -/
  rightFlux : Conserved R
  bounds : WaveBounds R
  /-- A negative radicand of a sound speed was taken as zero. -/
  clipped : Bool

variable {R : Type} [Scalar R]

/-- Move a bound on the wrong side of zero to zero. -/
def WaveBounds.clamp (slowest fastest : R) : WaveBounds R where
  slowest := if slowest < 0 then slowest else 0
  fastest := if 0 < fastest then fastest else 0

/-- The flux between the waves, from the fluxes in the frames of the waves. -/
def WaveBounds.blend (bounds : WaveBounds R) (left right : Conserved R) : Conserved R :=
  if bounds.fastest == bounds.slowest then
    (left + right) * (0.5 : R)
  else if bounds.slowest == 0 then
    left
  else if bounds.fastest == 0 then
    right
  else
    let skew := 0.5 * (bounds.fastest + bounds.slowest) / (bounds.fastest - bounds.slowest)
    (left + right) * (0.5 : R) + (left - right) * skew

namespace TwoWaveFlux

/-- The flux between two states of known flux, for given wave bounds. -/
def ofSides (bounds : WaveBounds R) (clipped : Bool)
    (leftState rightState leftFlux rightFlux : Conserved R) : TwoWaveFlux R :=
  let left := leftFlux - leftState * bounds.slowest
  let right := rightFlux - rightState * bounds.fastest
  ⟨bounds.blend left right, left, right, bounds, clipped⟩

/-- Return from the frame whose first axis is `axis`. -/
def unrotate (solution : TwoWaveFlux R) (axis : Axis) : TwoWaveFlux R :=
  { solution with
    flux := solution.flux.unrotate axis
    leftFlux := solution.leftFlux.unrotate axis
    rightFlux := solution.rightFlux.unrotate axis }

end TwoWaveFlux

/-- The flux between two states that are joined by one wave speed in either direction. -/
def oneWaveFlux (speed : R) (leftState rightState leftFlux rightFlux : Conserved R) :
    Conserved R :=
  (leftFlux + rightFlux) * (0.5 : R) - (rightState - leftState) * (0.5 * speed)

end BlockHydro
