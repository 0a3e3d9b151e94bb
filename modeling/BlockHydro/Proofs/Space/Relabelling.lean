import BlockHydro.Proofs.Space.MeshShape
import BlockHydro.Proofs.Stage.Tables

/-!
# Relabelled axes

The axes of a mesh may be renamed along their cyclic order: what was said of the
second axis is then said of the first, of the third of the second, and of the
first of the third.  `PerAxis.relabel` renames the axes of an index or a vector,
and zones, boxes and grids follow.

A direction keeps its meaning under two names: what is called `axis` after the
renaming was called `axis.next` before (`Zone.relabel_shift`).  The relations
`Relabels` say that two meshes, patches or fluxes are one under two namings.  The
fields of a zone that form a vector are renamed too; the others stay in place.
-/

namespace BlockHydro

namespace PerAxis

variable {α : Type}

/-- The values under the new names of the axes. -/
def relabel (values : PerAxis α) : PerAxis α := values.rotate .j

@[simp] theorem get_relabel (values : PerAxis α) (axis : Axis) :
    values.relabel.get axis = values.get axis.next := by
  cases axis <;> rfl

theorem relabel_injective : Function.Injective (relabel (α := α)) := by
  intro first second same
  have back := congrArg (fun values => values.unrotate .j) same
  simpa [relabel] using back

theorem relabel_shift (index : Index) (delta : Int) (axis : Axis) :
    (index.shift delta axis.next).relabel = index.relabel.shift delta axis := by
  cases axis <;> rfl

end PerAxis

/-- A property holds of every axis under the new names exactly when it does under the old ones. -/
theorem Axis.forall_next {p : Axis → Prop} : (∀ axis : Axis, p axis.next) ↔ ∀ axis, p axis := by
  refine ⟨fun all axis => ?_, fun all axis => all axis.next⟩
  have named := all axis.next.next
  rwa [next_next_next] at named

namespace Zone

/-- The zone under the new names of the axes, in the same block. -/
def relabel (zone : Zone) : Zone := ⟨zone.block, zone.index.relabel⟩

@[simp] theorem block_relabel (zone : Zone) : zone.relabel.block = zone.block := rfl

@[simp] theorem index_relabel (zone : Zone) : zone.relabel.index = zone.index.relabel := rfl

theorem relabel_injective : Function.Injective relabel := by
  intro first second same
  obtain ⟨sameBlock, sameIndex⟩ := Zone.mk.injEq .. ▸ same
  have sameIndex := PerAxis.relabel_injective sameIndex
  cases first
  cases second
  simp_all

/-- Every zone has an old name. -/
theorem exists_relabel (zone : Zone) : ∃ origin : Zone, origin.relabel = zone :=
  ⟨⟨zone.block, zone.index.unrotate .j⟩, by simp [relabel, PerAxis.relabel]⟩

theorem relabel_shift (zone : Zone) (delta : Int) (axis : Axis) :
    (zone.shift delta axis.next).relabel = zone.relabel.shift delta axis :=
  congrArg (Zone.mk zone.block) (zone.index.relabel_shift delta axis)

end Zone

namespace IndexSpace

/-- The box under the new names of the axes. -/
def relabel (space : IndexSpace) : IndexSpace where
  lower := space.lower.relabel
  upper := space.upper.relabel
  nonempty axis := by
    rw [PerAxis.get_relabel, PerAxis.get_relabel]
    exact space.nonempty axis.next

/-- Boxes with the same corners are the same. -/
theorem eq_of_corners {first second : IndexSpace}
    (lower : ∀ axis, first.lower.get axis = second.lower.get axis)
    (upper : ∀ axis, first.upper.get axis = second.upper.get axis) : first = second := by
  have sameLower := PerAxis.ext_get lower
  have sameUpper := PerAxis.ext_get upper
  cases first
  cases second
  simp_all

@[simp] theorem extent_relabel (space : IndexSpace) (axis : Axis) :
    space.relabel.extent axis = space.extent axis.next := by
  simp [extent, relabel]

@[simp] theorem relabel_mem {space : IndexSpace} {index : Index} :
    index.relabel ∈ space.relabel ↔ index ∈ space := by
  simp only [mem_iff, relabel, PerAxis.get_relabel]
  exact Axis.forall_next (p := fun axis =>
    space.lower.get axis ≤ index.get axis ∧ index.get axis < space.upper.get axis)

theorem volume_relabel (space : IndexSpace) : space.relabel.volume = space.volume := by
  simp only [volume, extent_relabel, Axis.next]
  rw [Nat.mul_comm, Nat.mul_assoc]

theorem faces_relabel (space : IndexSpace) (axis : Axis) :
    space.relabel.faces axis = (space.faces axis.next).relabel := by
  cases axis <;> rfl

end IndexSpace

namespace Grid

/-- The grid under the new names of the axes. -/
def relabel (grid : Grid) : Grid := ⟨grid.numBlocks, grid.space.relabel⟩

@[simp] theorem relabel_mem {grid : Grid} {zone : Zone} :
    zone.relabel ∈ grid.relabel ↔ zone ∈ grid :=
  and_congr_right fun _ => IndexSpace.relabel_mem

theorem size_relabel (grid : Grid) : grid.relabel.size = grid.size :=
  congrArg (grid.numBlocks * ·) grid.space.volume_relabel

/-- The zones under new names are those of the grid under new names, in another order. -/
theorem zones_relabel_perm (grid : Grid) :
    grid.relabel.zones.Perm (grid.zones.map Zone.relabel) := by
  refine (List.perm_ext_iff_of_nodup grid.relabel.nodup_zones
    (grid.nodup_zones.map Zone.relabel_injective)).mpr fun zone => ?_
  obtain ⟨origin, rfl⟩ := zone.exists_relabel
  rw [mem_zones, relabel_mem, List.mem_map_of_injective Zone.relabel_injective, mem_zones]

/-- Marks that correspond are counted alike. -/
theorem countP_relabel {grid : Grid} {mark named : Zone → Bool}
    (same : ∀ zone ∈ grid, named zone.relabel = mark zone) :
    grid.relabel.zones.countP named = grid.zones.countP mark := by
  rw [(zones_relabel_perm grid).countP_eq, List.countP_map]
  exact List.countP_congr fun zone inside => by
    rw [Function.comp_apply, same zone (mem_zones.mp inside)]

end Grid

namespace Mesh

variable {R : Type}

/-- Two meshes that differ in the names of the axes. -/
structure Relabels (mesh named : Mesh R) : Prop where
  interior : named.interior = mesh.interior.relabel
  guardDepth : named.guardDepth = mesh.guardDepth
  spacing : named.spacing = mesh.spacing.map PerAxis.relabel

/-- A mesh whose blocks have more than one zone along every axis. -/
def IsSolid (mesh : Mesh R) : Prop := ∀ axis, 1 < mesh.interior.extent axis

theorem IsSolid.isActive {mesh : Mesh R} (solid : mesh.IsSolid) (axis : Axis) :
    mesh.isActive axis = true := by
  have third : mesh.dimensionality = .three := if_pos (solid .k)
  cases axis <;> simp [Mesh.isActive, third]

theorem IsSolid.activeAxes {mesh : Mesh R} (solid : mesh.IsSolid) : mesh.activeAxes = Axis.all :=
  List.filter_eq_self.mpr fun axis _ => solid.isActive axis

theorem IsSolid.reach {mesh : Mesh R} (solid : mesh.IsSolid) (axis : Axis) :
    mesh.reach axis = mesh.guardDepth :=
  if_pos (solid.isActive axis)

namespace Relabels

variable {mesh named : Mesh R}

theorem numBlocks (relabels : mesh.Relabels named) : named.numBlocks = mesh.numBlocks := by
  rw [Mesh.numBlocks, relabels.spacing, Array.size_map, Mesh.numBlocks]

theorem isSolid (relabels : mesh.Relabels named) (solid : mesh.IsSolid) : named.IsSolid := by
  intro axis
  rw [relabels.interior, IndexSpace.extent_relabel]
  exact solid axis.next

theorem extended (relabels : mesh.Relabels named) (solid : mesh.IsSolid) :
    named.extended = mesh.extended.relabel := by
  -- On a thin mesh the guard zones would stay on the leading axes, whatever these are called.
  have corners : ∀ axis, named.extended.lower.get axis = mesh.extended.relabel.lower.get axis ∧
      named.extended.upper.get axis = mesh.extended.relabel.upper.get axis := by
    intro axis
    obtain ⟨lower, upper⟩ := mesh.get_corners_extended axis.next
    obtain ⟨namedLower, namedUpper⟩ := named.get_corners_extended axis
    rw [(relabels.isSolid solid).reach, relabels.guardDepth] at namedLower namedUpper
    rw [solid.reach] at lower upper
    rw [relabels.interior, IndexSpace.extent_relabel] at namedUpper
    rw [namedLower, namedUpper]
    simp only [IndexSpace.relabel, PerAxis.get_relabel]
    exact ⟨lower.symm, upper.symm⟩
  exact IndexSpace.eq_of_corners (fun axis => (corners axis).1) fun axis => (corners axis).2

theorem extendedGrid (relabels : mesh.Relabels named) (solid : mesh.IsSolid) :
    named.extendedGrid = mesh.extendedGrid.relabel :=
  congrArg₂ Grid.mk relabels.numBlocks (relabels.extended solid)

theorem interiorGrid (relabels : mesh.Relabels named) :
    named.interiorGrid = mesh.interiorGrid.relabel :=
  congrArg₂ Grid.mk relabels.numBlocks relabels.interior

/-- The faces normal to an axis are those that were normal to the axis of its old name. -/
theorem faceGrid (relabels : mesh.Relabels named) (axis : Axis) :
    named.faceGrid axis = (mesh.faceGrid axis.next).relabel := by
  refine congrArg₂ Grid.mk relabels.numBlocks ?_
  rw [Mesh.faces, relabels.interior, IndexSpace.faces_relabel]
  rfl

theorem interior_mem (relabels : mesh.Relabels named) {zone : Zone} :
    zone.relabel.index ∈ named.interior ↔ zone.index ∈ mesh.interior := by
  rw [relabels.interior, Zone.index_relabel, IndexSpace.relabel_mem]

theorem spacingAt [Scalar R] (relabels : mesh.Relabels named) (block : Nat) (axis : Axis) :
    named.spacingAt block axis = mesh.spacingAt block axis.next := by
  unfold Mesh.spacingAt
  rw [relabels.spacing, Array.getElem?_map, Option.map_map]
  congr 2
  funext spacing
  exact spacing.get_relabel axis

end Relabels

end Mesh

end BlockHydro
