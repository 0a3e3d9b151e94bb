import BlockHydro.Proofs.Rounded.Doubles
import BlockHydro.Proofs.Setup.Acceptance
import BlockHydro.Proofs.Stage.CorrectionEffect

/-!
# Predictions that are not numbers

Rounded arithmetic can predict a state with values that are not numbers.  The test
of a relativistic gas asks for comparisons that hold, and refuses every such state.
The test of a Newtonian gas asks for comparisons that fail, and a comparison with
what is not a number fails: of the states with such a value it refuses only those
with a density that is zero or below.

`FluxCorrection.test_doubles` says so for a whole test pass, with what is known of
the states that pass it.
-/

namespace BlockHydro

open Rounded

/-- Some value of the state is not a number. -/
def Conserved.Invalid (state : Conserved Float) : Prop :=
  state.density.isNaN = true ∨ (∃ axis, (state.momentum.get axis).isNaN = true) ∨
    state.energy.isNaN = true

theorem PerAxis.isNaN_dot {left right : PerAxis Float} (axis : Axis)
    (invalid : (left.get axis).isNaN = true ∨ (right.get axis).isNaN = true) :
    (left.dot right).isNaN = true := by
  unfold dot
  cases axis with
  | i => exact isNaN_add (.inl (isNaN_add (.inl (isNaN_mul invalid))))
  | j => exact isNaN_add (.inl (isNaN_add (.inr (isNaN_mul invalid))))
  | k => exact isNaN_add (.inr (isNaN_mul invalid))

section Newtonian

variable {state : Conserved Float} {primitive : Primitive Float}

/-- What is not a number reaches the pressure. -/
theorem Conserved.Invalid.pressure (invalid : state.Invalid) (gammaLawIndex : Float) :
    ((state.energy - 0.5 * state.momentumSquared / state.density) *
      (gammaLawIndex - 1)).isNaN = true := by
  refine isNaN_mul (.inl (isNaN_sub ?_))
  obtain density | ⟨axis, momentum⟩ | energy := invalid
  · exact .inr (isNaN_div (.inr density))
  · exact .inr (isNaN_div (.inl (isNaN_mul (.inr (PerAxis.isNaN_dot axis (.inl momentum))))))
  · exact .inl energy

/-- A Newtonian gas refuses a state that is not a number only for its density. -/
theorem Conserved.toPrimitive_error_iff (invalid : state.Invalid) (thermo : Thermodynamics Float) :
    (∃ cause, state.toPrimitive thermo = .error cause) ↔ state.density ≤ 0.0 := by
  unfold toPrimitive
  split
  next refused => exact iff_of_true ⟨_, rfl⟩ refused
  next passed =>
    refine iff_of_false ?_ passed
    cases thermo with
    | adiabatic gammaLawIndex =>
      dsimp only
      split
      next cold => exact absurd cold (not_lt_of_isNaN (.inl (invalid.pressure gammaLawIndex)))
      next => exact nofun
    | isothermal _ => exact nofun

/-- A density above zero and, in a gas that stores an energy, a pressure from zero up, or what is not
a number in their place. -/
def Primitive.PassesFor (primitive : Primitive Float) : Thermodynamics Float → Prop
  | .adiabatic _ => (0.0 < primitive.density ∨ primitive.density.isNaN = true) ∧
      (0.0 ≤ primitive.pressure ∨ primitive.pressure.isNaN = true)
  | .isothermal _ => 0.0 < primitive.density ∨ primitive.density.isNaN = true

theorem Conserved.passesFor_of_toPrimitive {thermo : Thermodynamics Float}
    (recovered : state.toPrimitive thermo = .ok primitive) : primitive.PassesFor thermo := by
  unfold toPrimitive at recovered
  split at recovered
  next => cases recovered
  next positive =>
    cases thermo with
    | adiabatic gammaLawIndex =>
      dsimp only at recovered
      split at recovered
      next => cases recovered
      next warm =>
        cases recovered
        exact ⟨not_le_zero_iff.mp positive, not_lt_zero_iff.mp warm⟩
    | isothermal _ =>
      cases recovered
      exact not_le_zero_iff.mp positive

end Newtonian

section Relativistic

variable {state : Conserved Float} {primitive : Primitive Float} {metric : Metric Float}

/-- A residual is no number or there is none, unless energy and momentum are numbers. -/
theorem Undensitized.residual_eq_none {bare : Undensitized Float} (gammaLawIndex pressure : Float)
    (invalid : bare.energy.isNaN = true ∨ bare.momentumSquared.isNaN = true) :
    bare.residual gammaLawIndex pressure = none := by
  have slack : (bare.inertia pressure * bare.inertia pressure - bare.momentumSquared).isNaN = true :=
    isNaN_sub (invalid.imp_left fun energy =>
      isNaN_mul (.inl (isNaN_add (.inl (isNaN_add (.inl energy))))))
  exact if_neg fun physical => not_lt_of_isNaN (.inr slack) physical.1

/-- A relativistic gas refuses every state that is not a number somewhere. -/
theorem Conserved.toRelativisticPrimitive_of_invalid (invalid : state.Invalid)
    (metric : Metric Float) (gammaLawIndex baryonMass pressureFloor : Float) (search : RootSearch Float) :
    ∃ cause, state.toRelativisticPrimitive metric gammaLawIndex baryonMass pressureFloor search =
      .error cause := by
  unfold toRelativisticPrimitive
  dsimp only
  split
  next positive =>
    have bareInvalid : (state.undensitize metric).energy.isNaN = true ∨
        (state.undensitize metric).momentumSquared.isNaN = true := by
      obtain density | ⟨axis, momentum⟩ | energy := invalid
      · exact absurd positive (not_lt_of_isNaN (.inr (isNaN_div (.inl density))))
      · refine .inr (PerAxis.isNaN_dot axis (.inl ?_))
        cases axis <;> exact isNaN_div (.inl momentum)
      · exact .inl (isNaN_div (.inl energy))
    unfold Undensitized.excessAtZero
    rw [Undensitized.residual_eq_none gammaLawIndex _ bareInvalid]
    exact ⟨_, rfl⟩
  next => exact ⟨_, rfl⟩

/-- Both ends of a bracket are from zero up. -/
def Bracket.NonNegative (bracket : Bracket Float) : Prop :=
  0.0 ≤ bracket.low ∧ 0.0 ≤ bracket.high

theorem Bracket.nonNegative_of_expand {below : Float → Bool} {budget : Nat} {low high : Float}
    {bracket : Bracket Float} (low_nonneg : 0.0 ≤ low) (high_nonneg : 0.0 ≤ high)
    (found : expand below budget low high = some bracket) : bracket.NonNegative := by
  induction budget generalizing low high with
  | zero =>
    unfold expand at found
    split at found
    · cases found
    · cases found
      exact ⟨low_nonneg, high_nonneg⟩
  | succ budget wider =>
    unfold expand at found
    split at found
    · exact wider high_nonneg (scale_two.zero_le_mul high_nonneg).2 found
    · cases found
      exact ⟨low_nonneg, high_nonneg⟩

theorem Bracket.NonNegative.middle {bracket : Bracket Float} (nonneg : bracket.NonNegative) :
    0.0 ≤ bracket.middle :=
  (scale_half.zero_le_mul (zero_le_add nonneg.1 nonneg.2)).1

theorem Bracket.nonNegative_of_narrow {belowOrAt : Float → Bool} {tolerance : Float} {budget : Nat}
    {low high : Float} {bracket : Bracket Float} (low_nonneg : 0.0 ≤ low) (high_nonneg : 0.0 ≤ high)
    (found : narrow belowOrAt tolerance budget low high = some bracket) : bracket.NonNegative := by
  induction budget generalizing low high with
  | zero =>
    unfold narrow at found
    split at found
    · cases found
    · cases found
      exact ⟨low_nonneg, high_nonneg⟩
  | succ budget narrower =>
    unfold narrow at found
    split at found
    · have middle_nonneg : 0.0 ≤ (⟨low, high, budget⟩ : Bracket Float).middle :=
        NonNegative.middle ⟨low_nonneg, high_nonneg⟩
      dsimp only at found
      split at found
      · exact narrower middle_nonneg high_nonneg found
      · exact narrower low_nonneg middle_nonneg found
    · cases found
      exact ⟨low_nonneg, high_nonneg⟩

theorem Undensitized.zero_le_excessAtZero {bare : Undensitized Float} {gammaLawIndex excess : Float}
    (start : bare.excessAtZero gammaLawIndex = .ok excess) : 0.0 ≤ excess := by
  unfold excessAtZero at start
  split at start
  next =>
    split at start
    next nonneg =>
      cases start
      exact nonneg
    next => cases start
  next => cases start

theorem Undensitized.nonNegative_of_bracketRoot {bare : Undensitized Float}
    {gammaLawIndex high : Float} {search : RootSearch Float} {bracket : Bracket Float}
    (high_nonneg : 0.0 ≤ high)
    (found : bare.bracketRoot gammaLawIndex search high = some bracket) : bracket.NonNegative := by
  obtain ⟨wide, expanded, narrowed⟩ := Option.bind_eq_some_iff.mp found
  have wideEnds := Bracket.nonNegative_of_expand zero_le_zero high_nonneg expanded
  exact Bracket.nonNegative_of_narrow wideEnds.1 wideEnds.2 narrowed

/-- A relativistic state that is accepted has a density above zero, and a pressure from zero up. -/
theorem Conserved.signs_of_toRelativisticPrimitive {gammaLawIndex baryonMass pressureFloor : Float}
    {search : RootSearch Float} (floor_pos : 0.0 < pressureFloor)
    (recovered : state.toRelativisticPrimitive metric gammaLawIndex baryonMass pressureFloor search =
      .ok primitive) :
    0.0 < state.density / metric.sqrtDeterminant ∧ 0.0 ≤ primitive.pressure := by
  unfold toRelativisticPrimitive at recovered
  dsimp only at recovered
  split at recovered
  next positive =>
    refine ⟨positive, ?_⟩
    cases start : (state.undensitize metric).excessAtZero gammaLawIndex with
    | error _ =>
      rw [start] at recovered
      cases recovered
    | ok excess =>
      have high_nonneg : 0.0 ≤ binary64Max excess pressureFloor :=
        zero_le_max (Undensitized.zero_le_excessAtZero start) (zero_le_of_lt floor_pos)
      rw [start] at recovered
      dsimp only [bind, Except.bind] at recovered
      split at recovered
      next bracket found =>
        cases recovered
        exact (Undensitized.nonNegative_of_bracketRoot high_nonneg found).middle
      next => cases recovered
  next => cases recovered

end Relativistic

section Testing

namespace EquationOfState

variable {eos : EquationOfState Float} {metric : Metric Float} {state : Conserved Float}

/-- What is known of a state that diagnostic recovery accepts. -/
def Vouches (eos : EquationOfState Float) (metric : Metric Float) (state : Conserved Float)
    (primitive : Primitive Float) : Prop :=
  match eos.fluid with
  | .newtonian thermodynamics => primitive.PassesFor thermodynamics
  | .relativistic _ _ =>
    ¬ state.Invalid ∧ 0.0 < state.density / metric.sqrtDeterminant ∧ 0.0 ≤ primitive.pressure

/-- What diagnostic recovery makes of a state that is not a number somewhere. -/
def RefusesInvalid (eos : EquationOfState Float) (metric : Metric Float) (state : Conserved Float) :
    Prop :=
  match eos.fluid with
  | .newtonian _ => eos.rejects metric state = true ↔ state.density ≤ 0.0
  | .relativistic _ _ => eos.rejects metric state = true

theorem floor_pos_of_validate (accepted : eos.validate = .ok ()) : 0.0 < eos.floors.pressure :=
  (inRange_of_validate accepted).2.2

theorem vouches_of_recover (accepted : eos.validate = .ok ()) {primitive : Primitive Float}
    (recovered : eos.recover .diagnostic metric state = .ok primitive) :
    eos.Vouches metric state primitive := by
  rw [recover_diagnostic] at recovered
  unfold decode at recovered
  unfold Vouches
  cases fluid : eos.fluid with
  | newtonian thermodynamics =>
    rw [fluid] at recovered
    exact Conserved.passesFor_of_toPrimitive recovered
  | relativistic gammaLawIndex baryonMass =>
    rw [fluid] at recovered
    dsimp only at recovered ⊢
    refine ⟨fun invalid => ?_, Conserved.signs_of_toRelativisticPrimitive
      (floor_pos_of_validate accepted) recovered⟩
    obtain ⟨cause, refused⟩ := Conserved.toRelativisticPrimitive_of_invalid invalid metric
      gammaLawIndex baryonMass eos.floors.pressure eos.search
    rw [refused] at recovered
    cases recovered

theorem refusesInvalid (eos : EquationOfState Float) (metric : Metric Float)
    (invalid : state.Invalid) : eos.RefusesInvalid metric state := by
  unfold RefusesInvalid
  cases fluid : eos.fluid with
  | newtonian thermodynamics =>
    dsimp only
    rw [rejects_iff, recover_diagnostic, decode, fluid]
    exact Conserved.toPrimitive_error_iff invalid thermodynamics
  | relativistic gammaLawIndex baryonMass =>
    dsimp only
    rw [rejects_iff, recover_diagnostic, decode, fluid]
    exact Conserved.toRelativisticPrimitive_of_invalid invalid metric gammaLawIndex baryonMass _ _

end EquationOfState

/-- What the flag of a tested cell tells about its prediction. -/
structure FluxCorrection.Verdict (eos : EquationOfState Float) (metric : Metric Float)
    (state : Conserved Float) (flag : Bool) : Prop where
  /-- What is not flagged is physical, or a Newtonian state that is not a number. -/
  unflagged : flag = false → ∃ primitive,
    eos.recover .diagnostic metric state = .ok primitive ∧ eos.Vouches metric state primitive
  flagged : flag = true → ∃ cause, eos.recover .diagnostic metric state = .error cause
  /-- In a relativistic gas what is not a number is flagged. -/
  relativistic : eos.isRelativistic = true → state.Invalid → flag = true
  /-- In a Newtonian gas what is not a number is flagged only for a density that is zero or below. -/
  newtonian : eos.isRelativistic = false → state.Invalid → (flag = true ↔ state.density ≤ 0.0)

theorem FluxCorrection.verdict_rejects {eos : EquationOfState Float}
    (accepted : eos.validate = .ok ()) (metric : Metric Float) (state : Conserved Float) :
    Verdict eos metric state (eos.rejects metric state) where
  unflagged passed := by
    cases recovered : eos.recover .diagnostic metric state with
    | ok primitive => exact ⟨primitive, rfl, EquationOfState.vouches_of_recover accepted recovered⟩
    | error cause =>
      rw [EquationOfState.rejects_iff.mpr ⟨cause, recovered⟩] at passed
      cases passed
  flagged := EquationOfState.rejects_iff.mp
  relativistic relativistic invalid := by
    have refuses := eos.refusesInvalid metric invalid
    unfold EquationOfState.isRelativistic at relativistic
    unfold EquationOfState.RefusesInvalid at refuses
    split at relativistic
    next => cases relativistic
    next fluid =>
      rw [fluid] at refuses
      exact refuses
  newtonian newtonian invalid := by
    have refuses := eos.refusesInvalid metric invalid
    unfold EquationOfState.isRelativistic at newtonian
    unfold EquationOfState.RefusesInvalid at refuses
    split at newtonian
    next fluid =>
      rw [fluid] at refuses
      exact refuses
    next => cases newtonian

/-- A test pass completes, and flags what is not a number everywhere in a relativistic gas, but in a
Newtonian gas only where the density is zero or below. -/
theorem FluxCorrection.test_doubles {setting : Setting Float} {correction : FluxCorrection Float}
    (covered : setting.Covered) (accepted : setting.eos.validate = .ok ())
    (fits : correction.Fits setting.mesh) :
    ∃ after count, correction.test setting = .ok (after, count) ∧
      ∀ cell ∈ setting.mesh.interiorGrid, ∃ metric state,
        setting.conservedAt correction.trial cell = .ok (metric, state) ∧
          Verdict setting.eos metric state (after.flags.get cell) := by
  obtain ⟨trial, flag, rfl⟩ := fits.exists_eq_ofFn
  refine ⟨_, _, test_ofFn covered trial flag, fun cell inside => ?_⟩
  have extended := Mesh.extendedGrid_of_interiorGrid inside
  refine ⟨_, _, Setting.conservedAt_eq_ok (.ofFn setting.mesh.interiorGrid 5 trial) covered
    (show 4 ≤ 5 by decide) extended (Patch.fields_ofFn trial inside), ?_⟩
  have interior : cell.index ∈ setting.mesh.interior := inside.2
  have tested : (ofFn setting.mesh trial
      (CorrectionFlags.tested setting.mesh (bad setting trial))).flags.get cell =
      bad setting trial cell := by
    refine (CorrectionFlags.get_ofFn _ extended).trans ?_
    rw [CorrectionFlags.tested, decide_eq_true interior, Bool.true_and]
  rw [tested]
  exact verdict_rejects accepted _ _

/-- A gamma-law gas in the row of two blocks, in flat space. -/
def adiabaticPair : Setting Float :=
  ⟨blockPair, ⟨.newtonian (.adiabatic 1.4), .standard, .standard⟩, none⟩

/-- A Newtonian gas accepts a density that is not a number, and recovers a state that is not
physical. -/
theorem EquationOfState.recover_undefined : adiabaticPair.eos.validate = .ok () ∧
    ∃ primitive, adiabaticPair.eos.recover .diagnostic .minkowski ⟨0 / 0, ⟨0, 0, 0⟩, 1⟩ =
        .ok primitive ∧
      ¬ 0.0 < primitive.density ∧ ¬ 0.0 ≤ primitive.pressure :=
  ⟨rfl, _, rfl, by decide, by decide⟩

/-- Predictions that hold some energy but a density that is not a number. -/
def FluxCorrection.undefinedPair : FluxCorrection Float :=
  .ofFn blockPair (fun _ => #v[0 / 0, 0, 0, 0, 1]) fun _ => false

theorem covered_adiabaticPair : adiabaticPair.Covered := by
  intro _ given
  cases given

/-- No cell of the row is flagged, though every density is not a number. -/
theorem FluxCorrection.test_undefinedPair : ∃ after count,
    undefinedPair.test adiabaticPair = .ok (after, count) ∧
      ∀ cell ∈ adiabaticPair.mesh.interiorGrid, after.flags.get cell = false := by
  have fits : undefinedPair.Fits adiabaticPair.mesh := fits_ofFn _ _
  obtain ⟨after, count, tested, verdicts⟩ := test_doubles covered_adiabaticPair rfl fits
  refine ⟨after, count, tested, fun cell inside => ?_⟩
  obtain ⟨metric, state, read, verdict⟩ := verdicts cell inside
  have found := Setting.conservedAt_eq_ok undefinedPair.trial covered_adiabaticPair (by decide)
    (Mesh.extendedGrid_of_interiorGrid inside) (Patch.fields_ofFn _ inside)
  rw [found] at read
  cases read
  have undefined : (Conserved.read (#v[0 / 0, 0, 0, 0, 1] : Vector Float 5)).density.isNaN = true := by
    decide
  rw [← Bool.not_eq_true, verdict.newtonian rfl (.inl undefined)]
  exact not_le_of_isNaN (.inl undefined)

end Testing

end BlockHydro
