import BlockHydro.Scalar
import BlockHydro.Space.Axis

/-!
# Symmetric matrices over the axes

A `Symmetric` stores each off-diagonal pair once.  It has the determinant, the
inverse through cofactors, the product with a vector, and the view in the frame
of another axis.
-/

namespace BlockHydro

/-- A symmetric matrix with one row and one column per axis. -/
structure Symmetric (R : Type) where
  ii : R
  ij : R
  ik : R
  jj : R
  jk : R
  kk : R

namespace Symmetric

variable {R : Type}

/-- The component of a row and a column. -/
def component (g : Symmetric R) : Axis → Axis → R
  | .i, .i => g.ii
  | .i, .j => g.ij
  | .i, .k => g.ik
  | .j, .i => g.ij
  | .j, .j => g.jj
  | .j, .k => g.jk
  | .k, .i => g.ik
  | .k, .j => g.jk
  | .k, .k => g.kk

theorem component_comm (g : Symmetric R) (row column : Axis) :
    g.component row column = g.component column row := by
  cases row <;> cases column <;> rfl

/-- One row of the matrix. -/
def row (g : Symmetric R) (axis : Axis) : PerAxis R :=
  PerAxis.ofFn (g.component axis)

/-- The six independent components, row by row. -/
def toList (g : Symmetric R) : List R := [g.ii, g.ij, g.ik, g.jj, g.jk, g.kk]

/-- Combine two matrices component by component. -/
def zipWith (f : R → R → R) (left right : Symmetric R) : Symmetric R where
  ii := f left.ii right.ii
  ij := f left.ij right.ij
  ik := f left.ik right.ik
  jj := f left.jj right.jj
  jk := f left.jk right.jk
  kk := f left.kk right.kk

/-- The matrix in the frame whose first axis is `axis`. -/
def rotate (g : Symmetric R) (axis : Axis) : Symmetric R where
  ii := g.component axis axis
  ij := g.component axis axis.next
  ik := g.component axis axis.next.next
  jj := g.component axis.next axis.next
  jk := g.component axis.next axis.next.next
  kk := g.component axis.next.next axis.next.next

variable [Scalar R]

/-- The unit matrix. -/
def identity : Symmetric R := ⟨1, 0, 0, 1, 0, 1⟩

/-- The determinant, expanded along the first row. -/
def determinant (g : Symmetric R) : R :=
  g.ii * (g.jj * g.kk - g.jk * g.jk)
    - g.ij * (g.ij * g.kk - g.jk * g.ik)
    + g.ik * (g.ij * g.jk - g.jj * g.ik)

/-- The cofactors scaled by the reciprocal of the determinant. -/
def inverse (g : Symmetric R) : Symmetric R :=
  let scale := 1 / g.determinant
  { ii := (g.jj * g.kk - g.jk * g.jk) * scale
    ij := (g.ik * g.jk - g.ij * g.kk) * scale
    ik := (g.ij * g.jk - g.ik * g.jj) * scale
    jj := (g.ii * g.kk - g.ik * g.ik) * scale
    jk := (g.ij * g.ik - g.ii * g.jk) * scale
    kk := (g.ii * g.jj - g.ij * g.ij) * scale }

/-- The product of the matrix with a vector.  Each component is added up from zero, so that a
component that vanishes is the positive zero. -/
def mulVec (g : Symmetric R) (v : PerAxis R) : PerAxis R :=
  PerAxis.ofFn fun axis =>
    let row := g.row axis
    0 + row.i * v.i + row.j * v.j + row.k * v.k

end Symmetric

end BlockHydro
