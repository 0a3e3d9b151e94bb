import Mathlib.Analysis.Real.Sqrt
import Mathlib.Tactic.NormNum
import BlockHydro.Proofs.Flux.SignalBound
import BlockHydro.Proofs.Stage.Positivity

/-!
# Fluxes whose sound speed is never clipped

A clipped sound speed is the sign of an unphysical state.  For a Newtonian gamma-law
gas this is so because of `MeanFlow.radicand_eq`: in exact arithmetic the mean of two
states of positive density never has a negative enthalpy of its own, whatever their
velocities.  So the bounds on the waves between such states take in the sound of
either side and of the mean (`TwoWaveFlux.Encloses`), and a flux pass over physical
face states counts no clipped sound speed (`EquationOfState.nothing_clipped`).
-/

namespace BlockHydro

/-- A solution that clipped nothing and whose waves take in the sound of both sides; if there is any
pressure they are apart. -/
structure TwoWaveFlux.Encloses (solution : TwoWaveFlux ℝ) (axis : Axis) (index : ℝ)
    (left right : Primitive ℝ) : Prop where
  unclipped : solution.clipped = false
  slowest_le :
    solution.bounds.slowest ≤ left.velocity.get axis - left.soundSpeed (.adiabatic index)
  le_fastest :
    right.velocity.get axis + right.soundSpeed (.adiabatic index) ≤ solution.bounds.fastest
  apart : 0 < left.pressure ∨ 0 < right.pressure →
    solution.bounds.slowest < solution.bounds.fastest

section Faces

variable {left right : Primitive ℝ} {index : ℝ}

/-- Between physical states of a gamma-law gas the waves along the first axis take in all sound. -/
theorem Thermodynamics.twoWaveFlux_encloses (proper : 1 < index)
    (leftPhysical : left.Physical (.adiabatic index))
    (rightPhysical : right.Physical (.adiabatic index)) :
    ((Thermodynamics.adiabatic index).twoWaveFlux left right).Encloses .i index left right := by
  have slower := (Thermodynamics.adiabatic index).twoWaveFlux_slowest_le left right
  have faster := (Thermodynamics.adiabatic index).le_twoWaveFlux_fastest left right
  simp only [le_min_iff, max_le_iff] at slower faster
  obtain ⟨⟨slowerMean, slowerLeft⟩, _⟩ := slower
  obtain ⟨⟨fasterMean, fasterRight⟩, _⟩ := faster
  constructor
  case unclipped => exact MeanFlow.clipped_eq_false proper leftPhysical rightPhysical
  case slowest_le => exact slowerLeft
  case le_fastest => exact fasterRight
  case apart =>
    intro warm
    have sound := MeanFlow.soundSpeed_pos proper leftPhysical rightPhysical warm
    linarith

/-- Between physical states of a gamma-law gas the waves along any axis take in all sound. -/
theorem EquationOfState.twoWaveFlux_encloses {eos : EquationOfState ℝ}
    (fluid : eos.fluid = .newtonian (.adiabatic index)) (proper : 1 < index) (axis : Axis)
    (metric : Metric ℝ) (leftPhysical : left.Physical (.adiabatic index))
    (rightPhysical : right.Physical (.adiabatic index)) :
    (eos.twoWaveFlux axis metric left right).Encloses axis index left right := by
  obtain ⟨unclipped, slower, faster, apart⟩ := Thermodynamics.twoWaveFlux_encloses proper
    (leftPhysical.rotate axis) (rightPhysical.rotate axis)
  have turned : eos.twoWaveFlux axis metric left right =
      ((Thermodynamics.adiabatic index).twoWaveFlux (left.rotate axis)
        (right.rotate axis)).unrotate axis := by
    unfold twoWaveFlux
    rw [fluid]
  rw [turned]
  exact ⟨unclipped, slower, faster, apart⟩

end Faces

/-- Physical states of a gas on both sides of every face of an axis. -/
structure FaceStates.PhysicalOn (states : FaceStates ℝ) (mesh : Mesh ℝ)
    (thermo : Thermodynamics ℝ) : Prop where
  left_grid : states.left.grid = mesh.faceGrid states.axis
  right_grid : states.right.grid = mesh.faceGrid states.axis
  left_fields : 4 ≤ states.left.numFields
  right_fields : 4 ≤ states.right.numFields
  physical : ∀ face ∈ mesh.faceGrid states.axis,
    (states.left.primitiveOf face).Physical thermo ∧
      (states.right.primitiveOf face).Physical thermo

section Passes

variable {setting : Setting ℝ} {index : ℝ} {numFields : Nat} {states : FaceStates ℝ}

/-- A face between physical states is solved without clipping. -/
theorem FaceStates.PhysicalOn.solveFace_unclipped
    (stated : states.PhysicalOn setting.mesh (.adiabatic index))
    (fluid : setting.eos.fluid = .newtonian (.adiabatic index)) (proper : 1 < index)
    (covered : setting.Covered) (active : setting.mesh.isActive states.axis = true) {face : Zone}
    (inside : face ∈ setting.mesh.faceGrid states.axis) :
    ∃ solution, states.solveFace setting face = .ok solution ∧ solution.clipped = false := by
  obtain ⟨left, leftFound⟩ := Patch.Spans.fields_eq_ok ⟨stated.left_grid, rfl⟩ inside
  obtain ⟨right, rightFound⟩ := Patch.Spans.fields_eq_ok ⟨stated.right_grid, rfl⟩ inside
  obtain ⟨leftPhysical, rightPhysical⟩ := stated.physical face inside
  unfold Patch.primitiveOf at leftPhysical rightPhysical
  rw [leftFound] at leftPhysical
  rw [rightFound] at rightPhysical
  have solved := solveFace_eq_ok states stated.left_fields stated.right_fields leftFound rightFound
    (Setting.faceMetric_eq_ok covered (Mesh.lowerCell_mem active inside)
      (Mesh.upperCell_mem active inside))
  exact ⟨_, solved,
    (EquationOfState.twoWaveFlux_encloses fluid proper _ _ leftPhysical rightPhysical).unclipped⟩

/-- Solving an axis between physical states counts no clipped sound speed. -/
theorem Fluxes.Spans.solveAxis_unclipped {fluxes : Fluxes ℝ}
    (spans : fluxes.Spans setting.mesh numFields) (someField : numFields ≠ 0)
    (stated : states.PhysicalOn setting.mesh (.adiabatic index))
    (fluid : setting.eos.fluid = .newtonian (.adiabatic index)) (proper : 1 < index)
    (covered : setting.Covered) :
    ∃ after tally, fluxes.solveAxis setting states = .ok (after, tally) ∧
      after.Spans setting.mesh numFields ∧ tally.clipped = 0 := by
  by_cases active : setting.mesh.isActive states.axis = true
  · obtain ⟨after, solved, kept⟩ := spans.solveAxis_of_faces someField active (fun _ => false)
      fun face inside => stated.solveFace_unclipped fluid proper covered active inside
    exact ⟨after, _, solved, kept, Grid.countP_zones_eq_zero.mpr fun _ _ => rfl⟩
  · have missing := spans.inactive states.axis (Bool.eq_false_iff.mpr active)
    exact ⟨fluxes, .zero, solveAxis_of_inactive missing, spans, rfl⟩

/-- A flux pass over physical face states counts no clipped sound speed. -/
theorem Fluxes.Spans.solve_unclipped {fluxes : Fluxes ℝ}
    (spans : fluxes.Spans setting.mesh numFields) (someField : numFields ≠ 0)
    {given : List (FaceStates ℝ)}
    (stated : ∀ states ∈ given, states.PhysicalOn setting.mesh (.adiabatic index))
    (fluid : setting.eos.fluid = .newtonian (.adiabatic index)) (proper : 1 < index)
    (covered : setting.Covered) :
    ∃ after tally, fluxes.solve setting given = .ok (after, tally) ∧
      after.Spans setting.mesh numFields ∧ tally.clipped = 0 := by
  refine solve_preserves
    (fun after tally => after.Spans setting.mesh numFields ∧ tally.clipped = 0) ?_ ⟨spans, rfl⟩
  rintro before tally ⟨beforeSpans, unclipped⟩ states member
  obtain ⟨next, counted, solved, nextSpans, countedNone⟩ :=
    beforeSpans.solveAxis_unclipped someField (stated states member) fluid proper covered
  refine ⟨next, counted, solved, nextSpans, ?_⟩
  rw [FluxTally.clipped_add, unclipped, countedNone]

end Passes

/-- Between physical states a Newtonian gamma-law gas clips no sound speed: every face between two
of them encloses their waves, and every flux pass over them answers with a tally without one. -/
theorem EquationOfState.nothing_clipped {index : ℝ} (proper : 1 < index) :
    (∀ eos : EquationOfState ℝ, eos.fluid = .newtonian (.adiabatic index) →
      ∀ (axis : Axis) (metric : Metric ℝ) (left right : Primitive ℝ),
        left.Physical (.adiabatic index) → right.Physical (.adiabatic index) →
          (eos.twoWaveFlux axis metric left right).Encloses axis index left right) ∧
    ∀ setting : Setting ℝ, setting.eos.fluid = .newtonian (.adiabatic index) → setting.Covered →
      ∀ (numFields : Nat) (fluxes : Fluxes ℝ), numFields ≠ 0 →
        fluxes.Spans setting.mesh numFields → ∀ given : List (FaceStates ℝ),
          (∀ states ∈ given, states.PhysicalOn setting.mesh (.adiabatic index)) →
            ∃ after tally, fluxes.solve setting given = .ok (after, tally) ∧ tally.clipped = 0 := by
  refine ⟨fun eos fluid axis metric left right leftPhysical rightPhysical => ?face, ?pass⟩
  case face => exact twoWaveFlux_encloses fluid proper axis metric leftPhysical rightPhysical
  case pass =>
    intro setting fluid covered numFields fluxes someField spans given stated
    obtain ⟨after, tally, solved, _, unclipped⟩ :=
      spans.solve_unclipped someField stated fluid proper covered
    exact ⟨after, tally, solved, unclipped⟩

/-- A cold gust. -/
noncomputable def coldGust : Primitive ℝ := ⟨0.5, ⟨-1.5, 1, 0⟩, 0⟩

/-- Gas at rest on one side of every face, and on the other the cold gust, stored without its
pressure. -/
noncomputable def gustFront : FaceStates ℝ where
  axis := .i
  left := .ofFn (gasRow.faceGrid .i) 5 fun _ => restFields
  right := .ofFn (gasRow.faceGrid .i) 4 fun _ => #v[0.5, -1.5, 1, 0]

theorem physical_coldGust : coldGust.Physical (.adiabatic 2.0) :=
  ⟨by norm_num [coldGust], le_rfl⟩

theorem gustFront_physical : gustFront.PhysicalOn gasRow (.adiabatic 2.0) where
  left_grid := rfl
  right_grid := rfl
  left_fields := by decide
  right_fields := by decide
  physical face inside := by
    have left : gustFront.left.primitiveOf face = restState := Patch.primitiveOf_ofFn _ inside
    have right : gustFront.right.primitiveOf face = coldGust := Patch.primitiveOf_ofFn _ inside
    rw [left, right]
    exact ⟨physical_restState, physical_coldGust⟩

theorem EquationOfState.nothing_clipped_gustFront :
    (warmRow.eos.twoWaveFlux .j .minkowski restState coldGust).Encloses .j 2.0 restState coldGust ∧
      ∃ after tally, (Fluxes.zeros gasRow 5).solve warmRow [gustFront, gustFront] =
        .ok (after, tally) ∧ tally.clipped = 0 := by
  obtain ⟨faces, passes⟩ := nothing_clipped (show (1 : ℝ) < 2.0 by norm_num)
  refine ⟨faces warmRow.eos rfl .j .minkowski _ _ physical_restState physical_coldGust,
    passes warmRow rfl warmRow_covered 5 (.zeros gasRow 5) (by decide)
      (Fluxes.spans_zeros gasRow 5) _ ?_⟩
  intro states member
  obtain rfl : states = gustFront := by simpa using member
  exact gustFront_physical

end BlockHydro
