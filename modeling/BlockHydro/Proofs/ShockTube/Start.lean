import BlockHydro.Proofs.Setup.Acceptance
import BlockHydro.Proofs.ShockTube.StageRun

/-!
# The start of a run

A problem whose zones split evenly into blocks, few enough to be stored, starts.
Its mesh is a row of blocks, and its zones hold the initial states, guard zones
included.
-/

namespace BlockHydro

variable {R : Type} [Scalar R] {tube : ShockTube R} {length : Nat}

/-- A problem whose zones split evenly into blocks of a length, few enough to be stored with their
guard zones. -/
structure ShockTube.Splits (tube : ShockTube R) (length : Nat) : Prop where
  someBlock : 0 < tube.numBlocks
  someZone : 0 < length
  zones : tube.numZones = tube.numBlocks * length
  room : requireAddressable (tube.numBlocks * (length + 2) * 5) = .ok ()

/-- The initial fields of a zone. -/
def ShockTube.initialFields (tube : ShockTube R) (mesh : Mesh R) (zone : Zone) : Vector R 5 :=
  (if tube.cellCenter mesh zone < 0.5 then ShockTube.leftState else ShockTube.rightState).toFields

/-- The initial conserved fields of a zone. -/
def ShockTube.initialConserved (tube : ShockTube R) (mesh : Mesh R) (eos : EquationOfState R)
    (zone : Zone) : Vector R 5 :=
  (eos.encode .minkowski (.read (tube.initialFields mesh zone))).toFields

/-- The number of zones of each block. -/
def ShockTube.blockLength (tube : ShockTube R) : Nat := (tube.numZones / tube.numBlocks).toNat

omit [Scalar R] in
/-- Zones that divide into the blocks split evenly. -/
theorem ShockTube.splits_of_dvd (someZone : 1 ≤ tube.numZones) (someBlock : 0 < tube.numBlocks)
    (divides : (tube.numBlocks : Int) ∣ tube.numZones)
    (room : requireAddressable ((tube.numZones.toNat + 2 * tube.numBlocks) * 5) = .ok ()) :
    tube.Splits tube.blockLength := by
  obtain ⟨quotient, zones⟩ := divides
  have blocks : (0 : Int) < tube.numBlocks := by omega
  have positive : 0 < quotient := by
    by_contra negative
    have product : (tube.numBlocks : Int) * quotient ≤ 0 :=
      Int.mul_nonpos_of_nonneg_of_nonpos (by omega) (by omega)
    omega
  have length : (tube.blockLength : Int) = quotient := by
    rw [ShockTube.blockLength, zones, Int.mul_ediv_cancel_left _ (by omega)]
    exact Int.toNat_of_nonneg (by omega)
  have total : tube.numZones = tube.numBlocks * tube.blockLength := by rw [length, zones]
  have counted : tube.numZones.toNat = tube.numBlocks * tube.blockLength := by
    rw [total]
    exact Int.toNat_natCast _
  rw [counted, Nat.mul_comm 2, ← Nat.mul_add] at room
  exact ⟨someBlock, by omega, total, room⟩

namespace ShockTube.Splits

omit [Scalar R] in
/-- The undivided problem is one block of all zones. -/
theorem undivided (splits : tube.Splits length) :
    ({ tube with numBlocks := 1 } : ShockTube R).Splits (tube.numBlocks * length) := by
  have someBlock := splits.someBlock
  refine ⟨Nat.one_pos, Nat.mul_pos splits.someBlock splits.someZone, ?_, ?_⟩
  · simp [splits.zones]
  · refine requireAddressable_mono splits.room (Nat.mul_le_mul_right 5 ?_)
    rw [Nat.one_mul, Nat.mul_add]
    omega

omit [Scalar R] in
/-- Few enough blocks to be stored are the divisor of the zones. -/
theorem divisor_eq_numBlocks (splits : tube.Splits length) : tube.divisor = tube.numBlocks := by
  have room := requireAddressable_iff.mp splits.room
  have blocks : tube.numBlocks ≤ tube.numBlocks * (length + 2) := Nat.le_mul_of_pos_right _ (by omega)
  have bytes : addressableBytes < Nat.pow 2 63 := by decide
  refine tube.divisor_eq (Nat.lt_of_le_of_lt ?_ bytes)
  refine Nat.le_trans ?_ room
  unfold numberBytes
  omega

omit [Scalar R] in
theorem splitsEvenly (splits : tube.Splits length) : tube.splitsEvenly = true := by
  have someBlock := splits.someBlock
  unfold ShockTube.splitsEvenly
  rw [splits.divisor_eq_numBlocks, splits.zones, Int.mul_emod_right]
  simp
  omega

/-- The mesh of the problem is a row of its blocks. -/
theorem mesh?_eq_ok (splits : tube.Splits length) :
    ∃ mesh, tube.mesh? = .ok mesh ∧ mesh.IsRow tube.numBlocks length ∧
      mesh.spacing = Array.replicate tube.numBlocks ⟨tube.cellSize, 1, 1⟩ := by
  have someBlock : 0 < (Array.replicate tube.numBlocks (⟨tube.cellSize, 1, 1⟩ : PerAxis R)).size := by
    rw [Array.size_replicate]
    exact splits.someBlock
  obtain ⟨mesh, built, row, spacing⟩ := Mesh.exists_row someBlock splits.someZone
  have numbers : 3 * tube.numBlocks ≤ tube.numBlocks * (length + 2) * 5 := by
    have blocks : tube.numBlocks ≤ tube.numBlocks * (length + 2) :=
      Nat.le_mul_of_pos_right _ (by omega)
    omega
  have blockSize : tube.numZones / tube.divisor = length := by
    have divisor : (tube.numBlocks : Int) ≠ 0 := by
      have some := splits.someBlock
      omega
    rw [splits.divisor_eq_numBlocks, splits.zones, Int.mul_ediv_cancel_left _ divisor]
  rw [Array.size_replicate] at row
  refine ⟨mesh, ?_, row, spacing⟩
  unfold ShockTube.mesh? Mesh.uniform?
  rw [requireAddressable_mono splits.room numbers, blockSize]
  exact built

/-- The zones start with the initial states. -/
theorem initialPrimitive_eq_ok (splits : tube.Splits length) {mesh : Mesh R}
    (row : mesh.IsRow tube.numBlocks length) :
    tube.initialPrimitive mesh = .ok (.ofFn mesh.extendedGrid 5 (tube.initialFields mesh)) := by
  have room : Patch.requireRoom mesh.extendedGrid 5 = .ok () := by
    unfold Patch.requireRoom
    rw [row.extendedGrid_size]
    exact splits.room
  unfold ShockTube.initialPrimitive Patch.generate
  rw [room]
  exact Patch.tabulate_eq_ok mesh.extendedGrid (show 5 ≠ 0 by decide) fun zone _ => rfl

end ShockTube.Splits

/-- A run over a row of blocks is set up with the initial states in all zones. -/
theorem Simulation.ofSetting_eq_ok (splits : tube.Splits length) {mesh : Mesh R}
    (row : mesh.IsRow tube.numBlocks length) (eos : EquationOfState R) :
    ∃ simulation, Simulation.ofSetting tube (.flat mesh eos) = .ok simulation ∧
      simulation.Holds tube mesh eos (tube.initialFields mesh) (tube.initialConserved mesh eos) ∧
      simulation.iteration = 0 ∧ simulation.time = 0 ∧ simulation.report = .zero := by
  have encodes : (Setting.flat mesh eos).encode (.ofFn mesh.extendedGrid 5 (tube.initialFields mesh))
      (.zeros mesh.extendedGrid 5) =
      .ok (.ofFn mesh.extendedGrid 5 (tube.initialConserved mesh eos)) := by
    rw [Patch.zeros_eq_ofFn]
    refine (Setting.encode_ofFn (Setting.flat_covered mesh eos) (by decide) (by decide) _ _).trans ?_
    simp only [Conserved.writeTo_five]
    rfl
  unfold ofSetting
  dsimp only
  rw [Setting.mesh_flat, splits.initialPrimitive_eq_ok row]
  dsimp only [bind, Except.bind]
  rw [encodes]
  exact ⟨_, rfl, ⟨rfl, rfl, rfl, rfl, Fluxes.spans_zeros mesh 5, FluxCorrection.fits_initial mesh⟩,
    rfl, rfl, rfl⟩

/-- A valid problem starts. -/
theorem Simulation.start_eq_ok {eos : EquationOfState R} (valid : tube.config.validate = .ok eos)
    (splits : tube.Splits length) :
    ∃ simulation mesh, Simulation.start tube = .ok simulation ∧
      mesh.IsRow tube.numBlocks length ∧
      mesh.spacing = Array.replicate tube.numBlocks ⟨tube.cellSize, 1, 1⟩ ∧
      simulation.Holds tube mesh eos (tube.initialFields mesh) (tube.initialConserved mesh eos) ∧
      simulation.iteration = 0 ∧ simulation.time = 0 ∧ simulation.report = .zero := by
  obtain ⟨mesh, built, row, spacing⟩ := splits.mesh?_eq_ok
  obtain ⟨simulation, set, holds, iteration, time, report⟩ :=
    Simulation.ofSetting_eq_ok splits row eos
  refine ⟨simulation, mesh, ?_, row, spacing, holds, iteration, time, report⟩
  have set : ofSetting tube ⟨mesh, eos, none⟩ = .ok simulation := set
  unfold start
  rw [valid, splits.splitsEvenly, built]
  dsimp only [Except.mapError, bind, Except.bind]
  simp only [Bool.not_true, Bool.false_eq_true, if_false]
  rw [set]

section Inversion

variable {first : Simulation R}

/-- A run that started passed the checks, and was set up over the mesh of the problem. -/
theorem Simulation.start_inversion (started : Simulation.start tube = .ok first) :
    ∃ eos mesh, tube.config.validate = .ok eos ∧ tube.splitsEvenly = true ∧
      tube.mesh? = .ok mesh ∧ ofSetting tube (.flat mesh eos) = .ok first := by
  unfold start at started
  obtain ⟨eos, valid, started⟩ := exists_of_bind_eq_ok started
  by_cases even : tube.splitsEvenly = true
  · simp only [even, Bool.not_true, Bool.false_eq_true, if_false] at started
    obtain ⟨mesh, built, set⟩ := exists_of_bind_eq_ok started
    exact ⟨eos, mesh, eq_ok_of_mapError valid, even, eq_ok_of_mapError built, eq_ok_of_mapError set⟩
  · simp only [Bool.eq_false_iff.mpr even, Bool.not_false, if_true] at started
    cases started

/-- A run is set up over states that could be stored, and has solved no face. -/
theorem Simulation.ofSetting_inversion {setting : Setting R}
    (set : ofSetting tube setting = .ok first) :
    requireAddressable (setting.mesh.extendedGrid.size * 5) = .ok () ∧ first.fluxTally = .zero := by
  unfold ofSetting at set
  obtain ⟨primitive, generated, set⟩ := exists_of_bind_eq_ok set
  obtain ⟨conserved, _, set⟩ := exists_of_bind_eq_ok set
  obtain ⟨room, fits, _⟩ := exists_of_bind_eq_ok generated
  refine ⟨fits, ?_⟩
  cases set
  rfl

/-- Before the first step no face has been solved. -/
theorem Simulation.fluxTally_of_start (started : Simulation.start tube = .ok first) :
    first.fluxTally = .zero := by
  obtain ⟨eos, mesh, _, _, _, set⟩ := start_inversion started
  exact (ofSetting_inversion set).2

/-- A problem that starts is small enough to be stored. -/
theorem ShockTube.room_of_start (someZone : 1 ≤ tube.numZones) (someBlock : 0 < tube.numBlocks)
    (divides : (tube.numBlocks : Int) ∣ tube.numZones)
    (started : Simulation.start tube = .ok first) :
    requireAddressable ((tube.numZones.toNat + 2 * tube.numBlocks) * 5) = .ok () := by
  obtain ⟨eos, mesh, _, _, built, set⟩ := Simulation.start_inversion started
  obtain ⟨fits, _⟩ := Simulation.ofSetting_inversion set
  obtain ⟨spacings, few, built⟩ := exists_of_bind_eq_ok built
  -- The spacings could be stored, so the number of blocks is its own signed word.
  have small : tube.numBlocks < Nat.pow 2 63 := by
    have bytes := requireAddressable_iff.mp few
    have bound : addressableBytes < Nat.pow 2 63 := by decide
    unfold numberBytes at bytes
    omega
  obtain ⟨length, zones⟩ := divides
  have positive : 0 < length := by
    by_contra negative
    have product : (tube.numBlocks : Int) * length ≤ 0 :=
      Int.mul_nonpos_of_nonneg_of_nonpos (by omega) (by omega)
    omega
  have blockSize : tube.numZones / tube.divisor = (length.toNat : Int) := by
    rw [tube.divisor_eq small, zones, Int.mul_ediv_cancel_left _ (by omega)]
    omega
  have someSpacing : 0 < (Array.replicate tube.numBlocks (⟨tube.cellSize, 1, 1⟩ : PerAxis R)).size := by
    rwa [Array.size_replicate]
  obtain ⟨rowMesh, alsoBuilt, row, _⟩ := Mesh.exists_row someSpacing (show 0 < length.toNat by omega)
  rw [blockSize] at built
  cases built.symm.trans alsoBuilt
  rw [Setting.mesh_flat, row.extendedGrid_size, Array.size_replicate] at fits
  have counted : tube.numZones.toNat = tube.numBlocks * length.toNat := by
    rw [zones, Int.toNat_mul (by omega) (by omega), Int.toNat_natCast]
  rwa [counted, Nat.mul_comm 2, ← Nat.mul_add]

/-- A valid problem of zones that divide into its blocks starts if they can be stored. -/
theorem ShockTube.exists_start {eos : EquationOfState R} (valid : tube.config.validate = .ok eos)
    (someZone : 1 ≤ tube.numZones) (someBlock : 0 < tube.numBlocks)
    (divides : (tube.numBlocks : Int) ∣ tube.numZones)
    (room : requireAddressable ((tube.numZones.toNat + 2 * tube.numBlocks) * 5) = .ok ()) :
    ∃ first, Simulation.start tube = .ok first := by
  obtain ⟨first, _, started, _⟩ :=
    Simulation.start_eq_ok valid (splits_of_dvd someZone someBlock divides room)
  exact ⟨first, started⟩

/-- A run that started holds the initial states over a row of blocks, at time zero. -/
theorem ShockTube.holds_of_start {eos : EquationOfState R} (valid : tube.config.validate = .ok eos)
    (someZone : 1 ≤ tube.numZones) (someBlock : 0 < tube.numBlocks)
    (divides : (tube.numBlocks : Int) ∣ tube.numZones)
    (started : Simulation.start tube = .ok first) :
    tube.Splits tube.blockLength ∧ ∃ mesh, mesh.IsRow tube.numBlocks tube.blockLength ∧
      first.Holds tube mesh eos (tube.initialFields mesh) (tube.initialConserved mesh eos) ∧
      first.iteration = 0 ∧ first.time = 0 ∧ first.report = .zero := by
  have splits := splits_of_dvd someZone someBlock divides
    (room_of_start someZone someBlock divides started)
  obtain ⟨_, mesh, same, row, _, holds⟩ := Simulation.start_eq_ok valid splits
  cases started.symm.trans same
  exact ⟨splits, mesh, row, holds⟩

end Inversion

end BlockHydro
