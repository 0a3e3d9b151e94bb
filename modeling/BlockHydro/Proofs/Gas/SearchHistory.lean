import BlockHydro.Gas.EquationOfState

/-!
# The iterations of a pressure search

`Undensitized.Searched` is the history of a search: the ends it holds after so many
iterations, first doubling and then halving.  The loops of the search count down a
budget they share; `Bracket.expand` and `Bracket.narrow` end in a history of as many
iterations as they took from it, and a search that gives up has begun exactly one
more than its limit.

`Conserved.Outcome` lists the four ways in which a recovery ends, each with the
history that led there.  All of this holds in any arithmetic.
-/

namespace BlockHydro

/-- What a search does to its interval. -/
inductive SearchPhase where
  | doubling
  | halving
  deriving DecidableEq, Repr

variable {R : Type} [Scalar R]

namespace Undensitized

/-- After so many iterations a search that began between zero and `start` is in a phase and holds two
ends. -/
inductive Searched (state : Undensitized R) (index tolerance start : R) :
    Nat → SearchPhase → R → R → Prop where
  | start : Searched state index tolerance start 0 .doubling 0 start
  | double {iterations : Nat} {low high : R}
      (prior : Searched state index tolerance start iterations .doubling low high)
      (below : state.rootAboveOrSuperluminal index high = true) :
      Searched state index tolerance start (iterations + 1) .doubling high (high * 2.0)
  | enclose {iterations : Nat} {low high : R}
      (prior : Searched state index tolerance start iterations .doubling low high)
      (above : state.rootAboveOrSuperluminal index high = false) :
      Searched state index tolerance start iterations .halving low high
  | raise {iterations : Nat} {low high : R}
      (prior : Searched state index tolerance start iterations .halving low high)
      (wide : tolerance * high < high - low)
      (below : state.rootAbove index (0.5 * (low + high)) = true) :
      Searched state index tolerance start (iterations + 1) .halving (0.5 * (low + high)) high
  | lower {iterations : Nat} {low high : R}
      (prior : Searched state index tolerance start iterations .halving low high)
      (wide : tolerance * high < high - low)
      (above : state.rootAbove index (0.5 * (low + high)) = false) :
      Searched state index tolerance start (iterations + 1) .halving low (0.5 * (low + high))

namespace Searched

variable {state : Undensitized R} {index tolerance start low high : R} {iterations budget : Nat}
  {bracket : Bracket R}

/-- Doubling that ends has taken its iterations from the budget. -/
theorem of_expand (searched : state.Searched index tolerance start iterations .doubling low high)
    (found : Bracket.expand (state.rootAboveOrSuperluminal index) budget low high = some bracket) :
    ∃ begun, state.Searched index tolerance start begun .halving bracket.low bracket.high ∧
      begun + bracket.budget = iterations + budget := by
  induction budget generalizing iterations low high with
  | zero =>
    unfold Bracket.expand at found
    split at found
    next => cases found
    next above =>
      cases found
      exact ⟨iterations, searched.enclose (Bool.eq_false_iff.mpr above), rfl⟩
  | succ budget ih =>
    unfold Bracket.expand at found
    split at found
    next below =>
      obtain ⟨begun, history, spent⟩ := ih (searched.double below) found
      exact ⟨begun, history, by omega⟩
    next above =>
      cases found
      exact ⟨iterations, searched.enclose (Bool.eq_false_iff.mpr above), rfl⟩

/-- Doubling that gives up has begun one iteration more than the budget. -/
theorem of_expand_none
    (searched : state.Searched index tolerance start iterations .doubling low high)
    (exhausted : Bracket.expand (state.rootAboveOrSuperluminal index) budget low high = none) :
    ∃ last top, state.Searched index tolerance start (iterations + budget + 1) .doubling last top := by
  induction budget generalizing iterations low high with
  | zero =>
    unfold Bracket.expand at exhausted
    split at exhausted
    next below => exact ⟨_, _, searched.double below⟩
    next => cases exhausted
  | succ budget ih =>
    unfold Bracket.expand at exhausted
    split at exhausted
    next below =>
      obtain ⟨last, top, history⟩ := ih (searched.double below) exhausted
      rw [Nat.add_right_comm iterations 1 budget] at history
      exact ⟨last, top, history⟩
    next => cases exhausted

/-- A halving step goes to the side that the middle is on. -/
theorem halve (searched : state.Searched index tolerance start iterations .halving low high)
    (wide : tolerance * high < high - low) :
    if state.rootAbove index (0.5 * (low + high)) then
      state.Searched index tolerance start (iterations + 1) .halving (0.5 * (low + high)) high
    else
      state.Searched index tolerance start (iterations + 1) .halving low (0.5 * (low + high)) := by
  split
  next below => exact searched.raise wide below
  next above => exact searched.lower wide (Bool.eq_false_iff.mpr above)

/-- Halving that ends has taken its iterations from the budget, and its interval is narrow. -/
theorem of_narrow (searched : state.Searched index tolerance start iterations .halving low high)
    (found : Bracket.narrow (state.rootAbove index) tolerance budget low high = some bracket) :
    ∃ begun, state.Searched index tolerance start begun .halving bracket.low bracket.high ∧
      begun + bracket.budget = iterations + budget ∧
        ¬ tolerance * bracket.high < bracket.high - bracket.low := by
  induction budget generalizing iterations low high with
  | zero =>
    unfold Bracket.narrow at found
    split at found
    next => cases found
    next tight =>
      cases found
      exact ⟨iterations, searched, rfl, tight⟩
  | succ budget ih =>
    unfold Bracket.narrow at found
    split at found
    next wide =>
      have halved := searched.halve wide
      dsimp only at found
      split at found
      next below =>
        rw [if_pos below] at halved
        obtain ⟨begun, history, spent, tight⟩ := ih halved found
        exact ⟨begun, history, by omega, tight⟩
      next above =>
        rw [if_neg above] at halved
        obtain ⟨begun, history, spent, tight⟩ := ih halved found
        exact ⟨begun, history, by omega, tight⟩
    next tight =>
      cases found
      exact ⟨iterations, searched, rfl, tight⟩

/-- Halving that gives up has begun one iteration more than the budget. -/
theorem of_narrow_none
    (searched : state.Searched index tolerance start iterations .halving low high)
    (exhausted : Bracket.narrow (state.rootAbove index) tolerance budget low high = none) :
    ∃ last top, state.Searched index tolerance start (iterations + budget + 1) .halving last top := by
  induction budget generalizing iterations low high with
  | zero =>
    unfold Bracket.narrow at exhausted
    split at exhausted
    next wide =>
      have halved := searched.halve wide
      split at halved
      next => exact ⟨_, _, halved⟩
      next => exact ⟨_, _, halved⟩
    next => cases exhausted
  | succ budget ih =>
    unfold Bracket.narrow at exhausted
    split at exhausted
    next wide =>
      have halved := searched.halve wide
      rw [show iterations + (budget + 1) + 1 = iterations + 1 + budget + 1 by omega]
      dsimp only at exhausted
      split at exhausted
      next below =>
        rw [if_pos below] at halved
        exact ih halved exhausted
      next above =>
        rw [if_neg above] at halved
        exact ih halved exhausted
    next => cases exhausted

end Searched

variable {state : Undensitized R} {index high : R} {search : RootSearch R}

/-- A search that ends did so within its limit. -/
theorem searched_of_bracketRoot {bracket : Bracket R}
    (found : state.bracketRoot index search high = some bracket) :
    ∃ iterations ≤ search.maxIterations,
      state.Searched index search.tolerance high iterations .halving bracket.low bracket.high ∧
        ¬ search.tolerance * bracket.high < bracket.high - bracket.low := by
  unfold bracketRoot at found
  obtain ⟨wide, expanded, narrowed⟩ := Option.bind_eq_some_iff.mp found
  obtain ⟨doublings, doubled, left⟩ := Searched.start.of_expand expanded
  obtain ⟨iterations, halved, kept, tight⟩ := doubled.of_narrow narrowed
  exact ⟨iterations, by omega, halved, tight⟩

/-- A search that gives up has begun one iteration more than its limit. -/
theorem searched_of_bracketRoot_none (exhausted : state.bracketRoot index search high = none) :
    ∃ phase low top,
      state.Searched index search.tolerance high (search.maxIterations + 1) phase low top := by
  unfold bracketRoot at exhausted
  cases expanded : Bracket.expand (state.rootAboveOrSuperluminal index) search.maxIterations 0 high with
  | none =>
    obtain ⟨low, top, history⟩ := Searched.start.of_expand_none expanded
    rw [Nat.zero_add] at history
    exact ⟨.doubling, low, top, history⟩
  | some wide =>
    rw [expanded] at exhausted
    obtain ⟨doublings, doubled, left⟩ := Searched.start.of_expand expanded
    obtain ⟨low, top, history⟩ := doubled.of_narrow_none exhausted
    rw [left, Nat.zero_add] at history
    exact ⟨.halving, low, top, history⟩

/-- A state that is refused at zero pressure lacks pressure. -/
theorem eq_negativeGasPressure_of_excessAtZero {cause : RecoveryFailure R}
    (refused : state.excessAtZero index = .error cause) :
    ∃ pressure, cause = .negativeGasPressure pressure := by
  unfold excessAtZero at refused
  split at refused
  next =>
    split at refused
    next => cases refused
    next =>
      cases refused
      exact ⟨_, rfl⟩
  next =>
    cases refused
    exact ⟨_, rfl⟩

end Undensitized

namespace Conserved

/-- How a relativistic recovery ends. -/
inductive Outcome (conserved : Conserved R) (metric : Metric R) (index baryonMass pressureFloor : R)
    (search : RootSearch R) : Except (RecoveryFailure R) (Primitive R) → Prop where
  | massless (massless : ¬ 0 < (conserved.undensitize metric).density) :
      Outcome conserved metric index baryonMass pressureFloor search
        (.error (.negativeMassDensity (conserved.undensitize metric).density))
  | pressureless {pressure : R} (massive : 0 < (conserved.undensitize metric).density)
      (refused : (conserved.undensitize metric).excessAtZero index =
        .error (.negativeGasPressure pressure)) :
      Outcome conserved metric index baryonMass pressureFloor search
        (.error (.negativeGasPressure pressure))
  | gaveUp {excess low high : R} {phase : SearchPhase}
      (massive : 0 < (conserved.undensitize metric).density)
      (started : (conserved.undensitize metric).excessAtZero index = .ok excess)
      (searched : (conserved.undensitize metric).Searched index search.tolerance
        (Scalar.max excess pressureFloor) (search.maxIterations + 1) phase low high) :
      Outcome conserved metric index baryonMass pressureFloor search
        (.error (.rootFinderFailed (search.maxIterations + 1)))
  | found {excess low high : R} {iterations : Nat}
      (massive : 0 < (conserved.undensitize metric).density)
      (started : (conserved.undensitize metric).excessAtZero index = .ok excess)
      (searched : (conserved.undensitize metric).Searched index search.tolerance
        (Scalar.max excess pressureFloor) iterations .halving low high)
      (within : iterations ≤ search.maxIterations)
      (tight : ¬ search.tolerance * high < high - low) :
      Outcome conserved metric index baryonMass pressureFloor search
        (.ok ((conserved.undensitize metric).atPressure baryonMass (0.5 * (low + high))))

/-- Recovery ends in one of these ways. -/
theorem outcome (conserved : Conserved R) (metric : Metric R) (index baryonMass pressureFloor : R)
    (search : RootSearch R) :
    conserved.Outcome metric index baryonMass pressureFloor search
      (conserved.toRelativisticPrimitive metric index baryonMass pressureFloor search) := by
  unfold toRelativisticPrimitive
  dsimp only
  split
  next massive =>
    cases started : (conserved.undensitize metric).excessAtZero index with
    | error cause =>
      obtain ⟨pressure, rfl⟩ := Undensitized.eq_negativeGasPressure_of_excessAtZero started
      exact .pressureless massive started
    | ok excess =>
      dsimp only [bind, Except.bind]
      cases searched : (conserved.undensitize metric).bracketRoot index search
          (Scalar.max excess pressureFloor) with
      | none =>
        obtain ⟨phase, low, high, history⟩ := Undensitized.searched_of_bracketRoot_none searched
        exact .gaveUp massive started history
      | some bracket =>
        obtain ⟨iterations, within, history, tight⟩ := Undensitized.searched_of_bracketRoot searched
        exact .found massive started history within tight
  next massless => exact .massless massless

end Conserved

end BlockHydro
