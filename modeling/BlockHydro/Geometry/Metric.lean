import BlockHydro.Geometry.Symmetric
import BlockHydro.Space.ZoneArray

/-!
# Metrics

A `Metric` is the 3+1 geometry at one point: the spatial metric with lower
indexes, the shift vector with an upper index, and the lapse.  A `MetricField`
has one metric per cell, and the metric of a face is the mean of the metrics of
the two cells that share it.  Where no field is given, space is flat.
-/

namespace BlockHydro

/-- The spatial metric, shift and lapse at one point. -/
structure Metric (R : Type) where
  spatial : Symmetric R
  shift : PerAxis R
  lapse : R

namespace Metric

variable {R : Type} [Scalar R]

/-- Flat space. -/
def minkowski : Metric R where
  spatial := .identity
  shift := .replicate 0
  lapse := 1

/-- The number of values that determine a metric. -/
def numFields : Nat := 10

/-- Read the spatial components row by row, then the shift, then the lapse; further values are ignored. -/
def ofFields (values : List R) : Except Fault (Metric R) :=
  match values with
  | ii :: ij :: ik :: jj :: jk :: kk :: shiftI :: shiftJ :: shiftK :: lapse :: _ =>
    .ok ⟨⟨ii, ij, ik, jj, jk, kk⟩, ⟨shiftI, shiftJ, shiftK⟩, lapse⟩
  | _ => .error (.tooFewFields numFields values.length)

/-- The ten values of a metric in the order of `ofFields`. -/
def toList (metric : Metric R) : List R :=
  metric.spatial.toList ++ metric.shift.toList ++ [metric.lapse]

/-- The determinant of the spatial metric. -/
def determinant (metric : Metric R) : R := metric.spatial.determinant

/-- The volume element. -/
def sqrtDeterminant (metric : Metric R) : R := Scalar.sqrt metric.determinant

/-- The inverse of the spatial metric. -/
def inverse (metric : Metric R) : Symmetric R := metric.spatial.inverse

/-- Turn an upper index into a lower one. -/
def lower (metric : Metric R) (v : PerAxis R) : PerAxis R := metric.spatial.mulVec v

/-- Turn a lower index into an upper one. -/
def raise (metric : Metric R) (w : PerAxis R) : PerAxis R := metric.inverse.mulVec w

/-- The metric in the frame whose first axis is `axis`. -/
def rotate (metric : Metric R) (axis : Axis) : Metric R where
  spatial := metric.spatial.rotate axis
  shift := metric.shift.rotate axis
  lapse := metric.lapse

/-- The mean of two metrics, value by value. -/
def average (left right : Metric R) : Metric R :=
  let mean (a b : R) : R := 0.5 * (a + b)
  { spatial := left.spatial.zipWith mean right.spatial
    shift := left.shift.zipWith mean right.shift
    lapse := mean left.lapse right.lapse }

end Metric

/-- A metric in every cell of a grid. -/
structure MetricField (R : Type) where
  cells : ZoneArray (Metric R)

namespace MetricField

variable {R : Type} [Scalar R]

/-- Flat space in every cell. -/
def minkowski (grid : Grid) : MetricField R := ⟨.replicate grid .minkowski⟩

/-- The field of any shape that fits, whose cells a function fills. -/
def generate (grid : Grid) (f : Zone → Except Fault (Metric R)) :
    Except Fault (MetricField R) := do
  requireAddressable (grid.size * Metric.numFields)
  return ⟨← ZoneArray.ofFnM grid f⟩

/-- The metric of a cell. -/
def atCell (field : MetricField R) (zone : Zone) : Except Fault (Metric R) :=
  field.cells.get zone

/-- The metric of the face between a cell and the one before it along `axis`. -/
def atFace (field : MetricField R) (axis : Axis) (zone : Zone) : Except Fault (Metric R) := do
  let before ← field.atCell (zone.shift (-1) axis)
  let after ← field.atCell zone
  return before.average after

/-- The metric of a cell, flat where no field is given. -/
def cellMetric (field : Option (MetricField R)) (zone : Zone) : Except Fault (Metric R) :=
  match field with
  | some field => field.atCell zone
  | none => .ok .minkowski

/-- The metric of a face, flat where no field is given. -/
def faceMetric (field : Option (MetricField R)) (axis : Axis) (zone : Zone) :
    Except Fault (Metric R) :=
  match field with
  | some field => field.atFace axis zone
  | none => .ok .minkowski

end MetricField

end BlockHydro
