/-!
# Rows of values

`Rows` is a sequence of `count` rows of `width` values each.  Only rows that have
values are kept, so rows of width zero take no room, however many there are.

`toVector` is the plain sequence of all rows.  Every operation is described by
what it does to that sequence, and `ofVector` goes back, so two `Rows` are equal
exactly when their sequences are.
-/

namespace BlockHydro

/-- A sequence of `count` rows of `width` values. -/
structure Rows (R : Type) (count width : Nat) where
  /-- The rows, unless they have no values. -/
  kept : Vector (Vector R width) (if width = 0 then 0 else count)

namespace Rows

variable {R : Type} {count width : Nat}

/-- The only row of width zero. -/
def bare (narrow : width = 0) : Vector R width :=
  ⟨#[], narrow.symm⟩

theorem eq_bare (narrow : width = 0) (row : Vector R width) : row = bare narrow := by
  subst narrow
  exact Vector.eq_empty

/-- All rows in turn. -/
def toVector (rows : Rows R count width) : Vector (Vector R width) count :=
  if narrow : width = 0 then .replicate count (bare narrow)
  else rows.kept.cast (if_neg narrow)

/-- The rows of a sequence. -/
def ofVector (rows : Vector (Vector R width) count) : Rows R count width :=
  if narrow : width = 0 then ⟨(#v[] : Vector (Vector R width) 0).cast (if_pos narrow).symm⟩
  else ⟨rows.cast (if_neg narrow).symm⟩

/-- The same value throughout. -/
def fill (count width : Nat) (value : R) : Rows R count width :=
  if empty : count = 0 then ⟨(#v[] : Vector (Vector R width) 0).cast (by simp [empty])⟩
  else ⟨.replicate _ (.replicate width value)⟩

/-- One row. -/
def get (rows : Rows R count width) (place : Fin count) : Vector R width :=
  if narrow : width = 0 then bare narrow
  else rows.kept.get (place.cast (if_neg narrow).symm)

/-- Replace one row. -/
def set (rows : Rows R count width) (place : Fin count) (row : Vector R width) :
    Rows R count width :=
  if narrow : width = 0 then rows
  else ⟨rows.kept.set place row (by simp [narrow])⟩

/-- All values, row by row. -/
def values (rows : Rows R count width) : List R :=
  rows.kept.toList.flatMap Vector.toList

@[simp] theorem toVector_ofVector (rows : Vector (Vector R width) count) :
    (ofVector rows).toVector = rows := by
  unfold toVector ofVector
  split
  next narrow =>
    ext place
    simp [eq_bare narrow]
  next => rfl

@[simp] theorem ofVector_toVector (rows : Rows R count width) : ofVector rows.toVector = rows := by
  unfold toVector ofVector
  split
  next narrow =>
    subst narrow
    congr 1
    exact Vector.eq_empty.symm
  next => rfl

theorem get_eq_getElem (rows : Rows R count width) (place : Fin count) :
    rows.get place = rows.toVector[place] := by
  unfold get toVector
  split
  next => simp
  next => rfl

theorem toVector_set (rows : Rows R count width) (place : Fin count) (row : Vector R width) :
    (rows.set place row).toVector = rows.toVector.set place row := by
  unfold set toVector
  split
  next narrow =>
    ext other
    simp [eq_bare narrow]
  next => rfl

theorem toVector_fill (value : R) :
    (fill count width value).toVector = .replicate count (.replicate width value) := by
  unfold fill toVector
  split
  next narrow =>
    ext place
    simp [eq_bare narrow]
  next =>
    split
    next empty =>
      subst empty
      rfl
    next => ext; simp

theorem values_eq_flatMap (rows : Rows R count width) :
    rows.values = rows.toVector.toList.flatMap Vector.toList := by
  unfold values toVector
  split
  next narrow =>
    subst narrow
    simp [bare, Vector.eq_empty]
  next => rfl

end Rows

end BlockHydro
