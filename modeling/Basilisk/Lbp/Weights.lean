/-
# Weights over a sale

The data of a pool is validated when it is written and relied on at every block of
the sale.  What was validated stays true, and it is enough: at every block of the
sale both assets have a weight, neither ever has all of it, and the weight of the
accumulated asset goes from its initial to its final value without turning back.
-/

import Basilisk.Lbp.Reference

namespace Basilisk.Lbp

open Basilisk.Math

variable {cfg : Config} {s : State} {pool : Pool} {poolId : AccountId}
variable {start endBlock now : ℕ}

/-- The pool has no sale yet, or one of proper length that is not too long. -/
def Pool.Scheduled (pool : Pool) : Prop :=
  pool.start = none ∧ pool.endBlock = none ∨
    ∃ start endBlock, pool.start = some start ∧ pool.endBlock = some endBlock ∧
      start < endBlock ∧ endBlock - start < maxSaleDuration

/-- What holds of the data of a pool from its validation on. -/
structure Pool.WellFormed (pool : Pool) : Prop where
  scheduled : pool.Scheduled
  initialWeight : 0 < pool.initialWeight ∧ pool.initialWeight < maxWeight
  finalWeight : 0 < pool.finalWeight ∧ pool.finalWeight < maxWeight
  fee : pool.fee.2 ≠ 0
  distinct : pool.assets.1 ≠ pool.assets.2

theorem Pool.ValidAt.scheduled (valid : pool.ValidAt now) : pool.Scheduled := by
  have range := valid.range
  have duration := valid.duration
  unfold Pool.Scheduled
  cases begins : pool.start with
  | none =>
      cases ends : pool.endBlock with
      | none => exact .inl ⟨rfl, rfl⟩
      | some endBlock =>
          rw [begins, ends] at range
          cases range
  | some start =>
      cases ends : pool.endBlock with
      | none =>
          rw [begins, ends] at range
          cases range
      | some endBlock =>
          rw [begins, ends] at range duration
          have ordered := of_decide_eq_true range
          exact .inr ⟨start, endBlock, rfl, rfl, ordered.2, duration⟩

theorem Pool.ValidAt.wellFormed (valid : pool.ValidAt now)
    (distinct : pool.assets.1 ≠ pool.assets.2) : pool.WellFormed := by
  obtain ⟨initialSome, initialBelow, finalSome, finalBelow⟩ := valid.weights
  exact ⟨valid.scheduled, ⟨Nat.pos_of_ne_zero initialSome, initialBelow⟩,
    ⟨Nat.pos_of_ne_zero finalSome, finalBelow⟩, valid.fee, distinct⟩

theorem wellFormed_of_reachable (reachable : Reachable Initial (Step cfg) s) :
    ∀ poolId pool, s.poolData.lookup poolId = some pool → pool.WellFormed := by
  refine pools_of_reachable (fun _ pool => pool.WellFormed) ?_ ?_ reachable
  · intro new now distinct valid
    exact valid.wellFormed distinct
  · intro poolId pool update now formed valid
    exact valid.wellFormed formed.distinct

/-- Over the blocks of a sale the accumulated asset has the given weight, and the asset for
sale the rest. -/
structure Pool.Weighed (cfg : Config) (pool : Pool) (start endBlock : ℕ) (weight : ℕ → ℕ) :
    Prop where
  sorted : ∀ now, start ≤ now → now ≤ endBlock →
    ∃ rest, getSortedWeight cfg pool.assets.1 now pool = .ok (weight now, rest) ∧
      getSortedWeight cfg pool.assets.2 now pool = .ok (rest, weight now) ∧
      0 < weight now ∧ weight now < maxWeight ∧ 0 < rest ∧ rest < maxWeight ∧
      weight now + rest = maxWeight
  initial : weight start = pool.initialWeight
  final : weight endBlock = pool.finalWeight
  rising : pool.initialWeight ≤ pool.finalWeight →
    ∀ now later, start ≤ now → now ≤ later → later ≤ endBlock → weight now ≤ weight later
  falling : pool.finalWeight ≤ pool.initialWeight →
    ∀ now later, start ≤ now → now ≤ later → later ≤ endBlock → weight later ≤ weight now

/-- The weights of a pool at a block of its sale. -/
theorem calculateWeights_eq (interpolates : cfg.math.InterpolatesWeights)
    (begins : pool.start = some start) (ends : pool.endBlock = some endBlock)
    (proper : start < endBlock) (first : start ≤ now) (last : now ≤ endBlock) :
    calculateWeights cfg pool now =
      .ok (interpolate start endBlock pool.initialWeight pool.finalWeight now,
        maxWeight - interpolate start endBlock pool.initialWeight pool.finalWeight now) := by
  simp only [calculateWeights, calculateWeight, begins, ends, Option.getD_some,
    interpolates.inside proper first last]
  rfl

theorem weighed_of_wellFormed (interpolates : cfg.math.InterpolatesWeights)
    (formed : pool.WellFormed) (begins : pool.start = some start)
    (ends : pool.endBlock = some endBlock) (proper : start < endBlock) :
    pool.Weighed cfg start endBlock
      (interpolate start endBlock pool.initialWeight pool.finalWeight) where
  sorted now first last := by
    have weights := calculateWeights_eq interpolates begins ends proper first last
    have initialWeight := formed.initialWeight
    have finalWeight := formed.finalWeight
    obtain ⟨atLeast, atMost⟩ : min pool.initialWeight pool.finalWeight ≤
          interpolate start endBlock pool.initialWeight pool.finalWeight now ∧
        interpolate start endBlock pool.initialWeight pool.finalWeight now ≤
          max pool.initialWeight pool.finalWeight := interpolate_mem proper first last
    refine ⟨maxWeight - interpolate start endBlock pool.initialWeight pool.finalWeight now,
      ?_, ?_, by omega, by omega, by omega, by omega, by omega⟩
    · rw [getSortedWeight, weights]
      exact if_pos rfl
    · rw [getSortedWeight, weights]
      exact if_neg formed.distinct.symm
  initial := interpolate_start proper
  final := interpolate_finish proper
  rising ordered now later first between last := interpolate_mono ordered first between last
  falling ordered now later first between last := interpolate_anti ordered first between last

/-- Every stored pool has a proper schedule, fee and weights, and over its whole sale the weights
are defined and go from the initial to the final one. -/
theorem sale_weights_defined (interpolates : cfg.math.InterpolatesWeights)
    (reachable : Reachable Initial (Step cfg) s)
    (stored : s.poolData.lookup poolId = some pool) :
    pool.WellFormed ∧ ∀ start endBlock, pool.start = some start → pool.endBlock = some endBlock →
      ∃ weight, pool.Weighed cfg start endBlock weight := by
  have formed := wellFormed_of_reachable reachable poolId pool stored
  refine ⟨formed, ?_⟩
  intro start endBlock begins ends
  rcases formed.scheduled with ⟨unset, -⟩ | ⟨start', endBlock', begins', ends', proper, -⟩
  · rw [begins] at unset
    cases unset
  · obtain rfl := Option.some.inj (begins'.symm.trans begins)
    obtain rfl := Option.some.inj (ends'.symm.trans ends)
    exact ⟨_, weighed_of_wellFormed interpolates formed begins ends proper⟩

/-- A sale from block 10 to block 40 in which the weight of the accumulated asset falls from 90%
to 20%. -/
theorem sale_weights_defined_falling :
    ∃ s pool weight, simulate [.call (.createPool bootstrapping),
        .call (.updatePoolData 0 (getPairId ⟨1, 2⟩)
          { noUpdate with
            start := some 10
            endBlock := some 40
            initialWeight := some 90000000
            finalWeight := some 20000000 })] = .ok s ∧
      s.poolData.lookup (getPairId ⟨1, 2⟩) = some pool ∧
      pool.WellFormed ∧ pool.Weighed .reference 10 40 weight ∧ weight 10 = 90000000 ∧
      weight 40 = 20000000 := by
  have computed : succeedsWith (simulate [.call (.createPool bootstrapping),
        .call (.updatePoolData 0 (getPairId ⟨1, 2⟩)
          { noUpdate with
            start := some 10
            endBlock := some 40
            initialWeight := some 90000000
            finalWeight := some 20000000 })])
      (fun s => (s.poolData.lookup (getPairId ⟨1, 2⟩)).any fun pool =>
        decide (pool.start = some 10) && decide (pool.endBlock = some 40) &&
          decide (pool.initialWeight = 90000000) &&
          decide (pool.finalWeight = 20000000)) = true := by
    decide +kernel
  simp only [succeedsWith_iff, Bool.and_eq_true, decide_eq_true_eq, Option.any_eq_true]
    at computed
  obtain ⟨s, run, pool, stored, ⟨⟨begins, ends⟩, initialWeight⟩, finalWeight⟩ := computed
  obtain ⟨formed, defined⟩ := sale_weights_defined Math.reference_interpolates
    (reachable_of_simulate run) stored
  obtain ⟨weight, weighed⟩ := defined 10 40 begins ends
  exact ⟨s, pool, weight, run, stored, formed, weighed, weighed.initial.trans initialWeight,
    weighed.final.trans finalWeight⟩

end Basilisk.Lbp
