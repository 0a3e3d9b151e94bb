import BlockHydro.Proofs.Space.Numbering

/-!
# The order of traversal

Inside a box the offset of an index is its place in memory, and offsets compare as
`Index.Before` does (`IndexSpace.offset_lt_iff`).  That order does not know the box.
So a traversal lists the indexes of a box by their offsets, and leaves those of a
smaller box in the order that they have in every other box around it
(`IndexSpace.Traversed`).
-/

namespace BlockHydro

namespace Index.Before

variable {first second third : Index}

theorem trans (earlier : Before first second) (later : Before second third) :
    Before first third := by
  unfold Before at earlier later ⊢
  omega

theorem asymm (earlier : Before first second) : ¬ Before second first := fun later =>
  irrefl first (earlier.trans later)

end Index.Before

namespace IndexSpace

variable {space : IndexSpace}

/-- What is made from two corners is the box that has them. -/
theorem ofBounds?_eq_ok {lower upper : Index} :
    ofBounds? lower upper = .ok space ↔ space.lower = lower ∧ space.upper = upper := by
  constructor
  · intro built
    unfold ofBounds? at built
    split at built
    next =>
      cases built
      exact ⟨rfl, rfl⟩
    next => cases built
  · rintro ⟨rfl, rfl⟩
    exact ofBounds?_self space

/-- Inside the box the offset is the place in memory. -/
theorem offset_eq_position {index : Index} (inside : index ∈ space) :
    space.offset index = space.position index := by
  rw [position, offset_of_mem inside, Int.toNat_natCast]

/-- Later places hold later indexes. -/
theorem before_indexAt {first second : Nat} (less : first < second)
    (small : second < space.volume) :
    Index.Before (space.indexAt first) (space.indexAt second) := by
  have ordered : (List.range space.volume).Pairwise fun earlier later =>
      Index.Before (space.indexAt earlier) (space.indexAt later) := by
    rw [← List.pairwise_map, ← indexes_eq_map_indexAt]
    exact pairwise_indexes space
  have listed := List.pairwise_iff_getElem.mp ordered first second
    (by simpa using less.trans small) (by simpa using small) less
  simpa using listed

/-- Indexes of a box have the order of their places. -/
theorem position_lt_iff {first second : Index} (firstInside : first ∈ space)
    (secondInside : second ∈ space) :
    space.position first < space.position second ↔ Index.Before first second := by
  have forward : ∀ {earlier later : Index}, earlier ∈ space → later ∈ space →
      space.position earlier < space.position later → Index.Before earlier later := by
    intro earlier later earlierInside laterInside less
    have ordered := before_indexAt less (position_lt_volume laterInside)
    rwa [indexAt_position earlierInside, indexAt_position laterInside] at ordered
  refine ⟨forward firstInside secondInside, fun before => ?_⟩
  rcases lt_trichotomy (space.position first) (space.position second) with less | equal | greater
  · exact less
  · have same := congrArg space.indexAt equal
    rw [indexAt_position firstInside, indexAt_position secondInside] at same
    subst same
    exact absurd before (Index.Before.irrefl first)
  · exact absurd (forward secondInside firstInside greater) before.asymm

/-- Offsets increase strictly in the order of traversal. -/
theorem offset_lt_iff {first second : Index} (firstInside : first ∈ space)
    (secondInside : second ∈ space) :
    space.offset first < space.offset second ↔ Index.Before first second := by
  rw [offset_eq_position firstInside, offset_eq_position secondInside, Int.ofNat_lt]
  exact position_lt_iff firstInside secondInside

theorem length_indexes (space : IndexSpace) : space.indexes.length = space.volume := by
  rw [indexes_eq_map_indexAt, List.length_map, List.length_range]

/-- The items of the traversal are the indexes at the places of the box. -/
theorem getElem?_indexes {place : Nat} (small : place < space.volume) :
    space.indexes[place]? = some (space.indexAt place) := by
  rw [indexes_eq_map_indexAt, List.getElem?_map, List.getElem?_range small, Option.map_some]

end IndexSpace

end BlockHydro
