import Mathlib.Tactic.IntervalCases
import BlockHydro.Proofs.Geometry.Turning
import BlockHydro.Proofs.Stage.Tables

/-!
# The gas under new names of the axes

Renaming the axes of a mesh renames the components of every vector in a zone.  A
state, a flux or a metric is then seen in the frame whose first axis was the
second one, and turning into the frame of a face goes one step further along the
cyclic order than it did.  So the flux through a face is renamed with the states,
bit for bit: the arithmetic takes place in the frame of the face, and that frame
is the same under both names.

Recovery works in the frame of the mesh and adds up over the axes from the first.
In exact arithmetic it finds the turned state, or refuses for the same reason
(`EquationOfState.decode_rotate`).
-/

namespace BlockHydro

section Frames

variable {R : Type}

theorem Primitive.rotate_next (state : Primitive R) (axis : Axis) :
    (state.rotate .j).rotate axis = state.rotate axis.next := by
  cases axis <;> rfl

theorem Metric.rotate_next (metric : Metric R) (axis : Axis) :
    (metric.rotate .j).rotate axis = metric.rotate axis.next := by
  cases axis <;> rfl

theorem Conserved.unrotate_next (state : Conserved R) (axis : Axis) :
    (state.unrotate axis.next).rotate .j = state.unrotate axis := by
  cases axis <;> rfl

end Frames

section Faces

variable {R : Type} [Scalar R]

theorem Metric.minkowski_relabel : (minkowski : Metric R).rotate .j = minkowski := rfl

theorem Metric.average_relabel (before after : Metric R) :
    (before.rotate .j).average (after.rotate .j) = (before.average after).rotate .j := rfl

namespace EquationOfState

variable (eos : EquationOfState R) (axis : Axis) (metric : Metric R) (left right : Primitive R)

/-- The two-wave flux is renamed with the states and the metric. -/
theorem flux_twoWaveFlux_relabel :
    (eos.twoWaveFlux axis (metric.rotate .j) (left.rotate .j) (right.rotate .j)).flux =
      (eos.twoWaveFlux axis.next metric left right).flux.rotate .j := by
  unfold twoWaveFlux
  dsimp only
  rw [left.rotate_next, right.rotate_next, metric.rotate_next]
  cases eos.fluid with
  | newtonian thermodynamics => exact (Conserved.unrotate_next _ axis).symm
  | relativistic gammaLawIndex baryonMass => exact (Conserved.unrotate_next _ axis).symm

/-- Under new names a sound speed is clipped where it was under the old ones. -/
theorem clipped_twoWaveFlux_relabel :
    (eos.twoWaveFlux axis (metric.rotate .j) (left.rotate .j) (right.rotate .j)).clipped =
      (eos.twoWaveFlux axis.next metric left right).clipped := by
  unfold twoWaveFlux
  dsimp only
  rw [left.rotate_next, right.rotate_next, metric.rotate_next]
  cases eos.fluid <;> rfl

/-- The one-wave flux is renamed with the states and the metric. -/
theorem lowOrderFlux_relabel :
    eos.lowOrderFlux axis (metric.rotate .j) (left.rotate .j) (right.rotate .j) =
      (eos.lowOrderFlux axis.next metric left right).rotate .j := by
  unfold lowOrderFlux
  dsimp only
  rw [left.rotate_next, right.rotate_next, metric.rotate_next]
  cases eos.fluid with
  | newtonian thermodynamics => exact (Conserved.unrotate_next _ axis).symm
  | relativistic gammaLawIndex baryonMass => exact (Conserved.unrotate_next _ axis).symm

end EquationOfState

end Faces

section Recovery

namespace Undensitized

/-- The same state in the frame whose first axis is `axis`. -/
def rotate {R : Type} (state : Undensitized R) (axis : Axis) : Undensitized R :=
  { state with
    momentumDown := state.momentumDown.rotate axis
    momentumUp := state.momentumUp.rotate axis }

variable (state : Undensitized ℝ) (axis : Axis)

theorem residual_rotate : (state.rotate axis).residual = state.residual := by
  have square : (state.rotate axis).momentumSquared = state.momentumSquared :=
    PerAxis.dot_rotate _ _ axis
  funext gammaLawIndex pressure
  unfold residual
  rw [square]
  rfl

theorem bracketRoot_rotate : (state.rotate axis).bracketRoot = state.bracketRoot := by
  unfold bracketRoot rootAbove rootAboveOrSuperluminal
  rw [residual_rotate]

theorem excessAtZero_rotate : (state.rotate axis).excessAtZero = state.excessAtZero := by
  have square : (state.rotate axis).momentumSquared = state.momentumSquared :=
    PerAxis.dot_rotate _ _ axis
  funext gammaLawIndex
  unfold excessAtZero
  rw [residual_rotate, square]
  rfl

theorem atPressure_rotate (baryonMass pressure : ℝ) :
    (state.rotate axis).atPressure baryonMass pressure =
      (state.atPressure baryonMass pressure).rotate axis := by
  have square : (state.rotate axis).momentumSquared = state.momentumSquared :=
    PerAxis.dot_rotate _ _ axis
  unfold atPressure
  rw [square]
  exact congrArg (Primitive.mk _ · _) (PerAxis.rotate_map _ _ axis).symm

end Undensitized

namespace Conserved

variable (state : Conserved ℝ) (metric : Metric ℝ) (axis : Axis)

theorem momentumSquared_rotate : (state.rotate axis).momentumSquared = state.momentumSquared :=
  PerAxis.dot_rotate _ _ axis

theorem undensitize_rotate :
    (state.rotate axis).undensitize (metric.rotate axis) =
      (state.undensitize metric).rotate axis := by
  unfold undensitize Undensitized.rotate rotate
  dsimp only
  rw [Metric.sqrtDeterminant_rotate, ← PerAxis.rotate_map, Metric.raise_rotate]

theorem toPrimitive_rotate (thermodynamics : Thermodynamics ℝ) :
    (state.rotate axis).toPrimitive thermodynamics =
      (state.toPrimitive thermodynamics).map (·.rotate axis) := by
  unfold toPrimitive
  simp only [momentumSquared_rotate, density_rotate, momentum_rotate, energy_rotate,
    ← PerAxis.rotate_map]
  split
  next => rfl
  next =>
    cases thermodynamics with
    | isothermal soundSpeed => rfl
    | adiabatic gammaLawIndex =>
      dsimp only
      split <;> rfl

theorem toRelativisticPrimitive_rotate (gammaLawIndex baryonMass pressureFloor : ℝ)
    (search : RootSearch ℝ) :
    (state.rotate axis).toRelativisticPrimitive (metric.rotate axis) gammaLawIndex baryonMass
        pressureFloor search =
      (state.toRelativisticPrimitive metric gammaLawIndex baryonMass pressureFloor search).map
        (·.rotate axis) := by
  unfold toRelativisticPrimitive
  dsimp only
  rw [undensitize_rotate, Undensitized.excessAtZero_rotate, Undensitized.bracketRoot_rotate]
  generalize state.undensitize metric = bare
  change (if 0 < bare.density then _ else _) = _
  split
  next =>
    cases bare.excessAtZero gammaLawIndex with
    | error cause => rfl
    | ok excess =>
      dsimp only [bind, Except.bind]
      cases bare.bracketRoot gammaLawIndex search (Scalar.max excess pressureFloor) with
      | none => rfl
      | some bracket => exact congrArg Except.ok (bare.atPressure_rotate axis _ _)
  next => rfl

end Conserved

namespace EquationOfState

variable (eos : EquationOfState ℝ) (metric : Metric ℝ) (state : Conserved ℝ) (axis : Axis)

/-- Recovery of a turned state finds the turned primitive state, or fails as before. -/
theorem decode_rotate :
    eos.decode (metric.rotate axis) (state.rotate axis) =
      (eos.decode metric state).map (·.rotate axis) := by
  unfold decode
  cases eos.fluid with
  | newtonian thermodynamics => exact state.toPrimitive_rotate axis thermodynamics
  | relativistic gammaLawIndex baryonMass =>
    exact state.toRelativisticPrimitive_rotate metric axis _ _ _ _

/-- A turned state is refused exactly when the state is. -/
theorem rejects_rotate :
    eos.rejects (metric.rotate axis) (state.rotate axis) = eos.rejects metric state := by
  unfold rejects
  rw [recover_diagnostic, recover_diagnostic, decode_rotate]
  cases eos.decode metric state <;> rfl

end EquationOfState

end Recovery

section Fields

variable {R : Type} {numFields : Nat}

/-- The old place of a field: the three after the density are the components of a vector, and all
others stay. -/
def relabelledField : Nat → Nat
  | 1 => 2
  | 2 => 3
  | 3 => 1
  | field => field

theorem relabelledField_of_le {field : Nat} (large : 4 ≤ field) : relabelledField field = field := by
  unfold relabelledField
  split <;> omega

theorem relabelledField_lt (enough : 4 ≤ numFields) {field : Nat} (stored : field < numFields) :
    relabelledField field < numFields := by
  unfold relabelledField
  split <;> omega

/-- The fields of a zone under the new names of the axes. -/
def relabelFields (fields : Vector R numFields) : Vector R numFields :=
  Vector.ofFn fun field : Fin numFields => fields[relabelledField field]?.getD (fields.get field)

theorem getElem?_relabelFields (enough : 4 ≤ numFields) (fields : Vector R numFields)
    (field : Nat) : (relabelFields fields)[field]? = fields[relabelledField field]? := by
  by_cases stored : field < numFields
  · have named := relabelledField_lt enough stored
    simp [relabelFields, stored, named]
  · rw [relabelledField_of_le (by omega), Vector.getElem?_eq_none (by omega),
      Vector.getElem?_eq_none (by omega)]

/-- Fields are renamed if each of them is. -/
theorem eq_relabelFields (enough : 4 ≤ numFields) {fields named : Vector R numFields}
    (same : ∀ field < numFields, named[field]? = fields[relabelledField field]?) :
    named = relabelFields fields := by
  ext field stored
  have value := (same field stored).trans (getElem?_relabelFields enough fields field).symm
  simpa [stored] using value

variable [Zero R]

/-- Fields are renamed if each of them is; a field that is not stored counts as zero. -/
theorem eq_relabelFields_of_getD (enough : 4 ≤ numFields) {fields named : Vector R numFields}
    (same : ∀ field < numFields, named[field]?.getD 0 = fields[relabelledField field]?.getD 0) :
    named = relabelFields fields := by
  refine eq_relabelFields enough fun field stored => ?_
  have place := relabelledField_lt enough stored
  have value := same field stored
  simpa [stored, place] using value

theorem Primitive.read_relabelFields (enough : 4 ≤ numFields) (fields : Vector R numFields) :
    Primitive.read (relabelFields fields) = (Primitive.read fields).rotate .j := by
  simp only [read, getElem?_relabelFields enough]
  rfl

theorem Conserved.read_relabelFields (enough : 4 ≤ numFields) (fields : Vector R numFields) :
    Conserved.read (relabelFields fields) = (Conserved.read fields).rotate .j := by
  simp only [read, getElem?_relabelFields enough]
  rfl

omit [Zero R] in
/-- A renamed state fills all fields of a zone with the renamed values, whatever they held. -/
theorem Conserved.writeTo_relabel (enough : 4 ≤ numFields) (small : numFields ≤ 5)
    (state : Conserved R) (before other : Vector R numFields) :
    (state.rotate .j).writeTo other = relabelFields (state.writeTo before) := by
  refine eq_relabelFields enough fun field stored => ?_
  have named := relabelledField_lt enough stored
  unfold writeTo
  rw [Vector.getElem?_eq_getElem stored, Vector.getElem?_eq_getElem named,
    getElem_overwrite _ _ stored (by omega), getElem_overwrite _ _ named (by omega)]
  have five : field < 5 := by omega
  interval_cases field <;> rfl

end Fields

end BlockHydro
