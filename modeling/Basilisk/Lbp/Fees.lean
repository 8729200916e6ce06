/-
# The collected fees

The pallet does not store what a pool has collected in fees: it reads it back from
a lock on the collector's account, and sets the lock anew after each trade.  The
lock is the sum of the fees of the pool's trades because no other pool has the same
collector for the same asset, because the collector can be replaced only before the
first trade, and because the lock is lifted with the pool.  The sum is not checked,
so all of this holds as long as the fees of a pool fit a `u128`.
-/

import Basilisk.Lbp.Collectors

namespace Basilisk.Lbp

open Basilisk.Math
open Basilisk.Xyk (AMMTransfer)

variable {cfg : Config} {s t : State} {call : Call} {label : Label} {pool : Pool}
variable {poolId : AccountId} {past : List (State × Label)} {transfer : AMMTransfer}

section History

/-- The step creates the pool. -/
def Label.creates (poolId : AccountId) : Label → Bool
  | .call (.createPool new) => decide (new.poolId = poolId)
  | _ => false

/-- The fee of the trade with the pool that the step is, or nothing. -/
def Label.feeIn (cfg : Config) (poolId : AccountId) (s : State) : Label → ℕ
  | .call call =>
      match call.trade cfg s with
      | some transfer => if getPairId transfer.assets = poolId then transfer.fee.2 else 0
      | none => 0
  | .external _ _ => 0

/-- The fees of all trades with the pool since it was created. -/
def feesSince (cfg : Config) (poolId : AccountId) : List (State × Label) → ℕ
  | [] => 0
  | (s, label) :: past =>
      if label.creates poolId then 0 else feesSince cfg poolId past + label.feeIn cfg poolId s

/-- The collected fees still fit a `u128` with the fee of the trade that the step is. -/
def Fits (cfg : Config) (s : State) : Label → Prop
  | .call call => ∀ transfer ∈ call.trade cfg s,
      ∀ pool ∈ s.poolData.lookup (getPairId transfer.assets),
        s.collectedFees pool + transfer.fee.2 < u128Bound
  | .external _ _ => True

instance : Decidable (Fits cfg s label) :=
  match label with
  | .call call => inferInstanceAs (Decidable (∀ transfer ∈ call.trade cfg s,
      ∀ pool ∈ s.poolData.lookup (getPairId transfer.assets),
        s.collectedFees pool + transfer.fee.2 < u128Bound))
  | .external _ _ => inferInstanceAs (Decidable True)

/-- A call that is no trade adds no fees. -/
theorem feesSince_call (untraded : call.trade cfg s = none)
    (uncreated : (Label.call call).creates poolId = false) :
    feesSince cfg poolId ((s, .call call) :: past) = feesSince cfg poolId past := by
  rw [feesSince, uncreated, Label.feeIn, untraded]
  rfl

/-- A trade adds its fee to those of its pool. -/
theorem feesSince_trade (asked : call.trade cfg s = some transfer) :
    feesSince cfg poolId ((s, .call call) :: past) = feesSince cfg poolId past +
      if getPairId transfer.assets = poolId then transfer.fee.2 else 0 := by
  have uncreated : (Label.call call).creates poolId = false := by
    cases call with
    | createPool => cases asked
    | _ => rfl
  rw [feesSince, uncreated, Label.feeIn, asked]
  rfl

theorem feesSince_created {new : NewPool} :
    feesSince cfg new.poolId ((s, .call (.createPool new)) :: past) = 0 := by
  rw [feesSince, Label.creates, decide_eq_true rfl]
  rfl

theorem feesSince_created_elsewhere {new : NewPool} (elsewhere : poolId ≠ new.poolId) :
    feesSince cfg poolId ((s, .call (.createPool new)) :: past) = feesSince cfg poolId past := by
  refine feesSince_call rfl ?_
  exact decide_eq_false (Ne.symm elsewhere)

end History

section Locks

theorem hasPoolStarted_congr (block : t.blockNumber = s.blockNumber) :
    t.hasPoolStarted pool = s.hasPoolStarted pool := by
  rw [State.hasPoolStarted, State.hasPoolStarted, block]

theorem State.collectedFees_eq : s.collectedFees pool = (s.locks.lookup pool.collector).getD 0 :=
  rfl

/-- The locks after a trade whose fee fits. -/
theorem State.lookup_locksAfter {collector : Collector}
    (fits : s.collectedFees pool + transfer.fee.2 < u128Bound) :
    (s.locksAfter pool transfer).lookup collector =
      if collector = pool.collector ∧ s.collectedFees pool + transfer.fee.2 ≠ 0 then
        some (s.collectedFees pool + transfer.fee.2)
      else s.locks.lookup collector := by
  rw [State.locksAfter, wrappingAdd_of_lt fits]
  by_cases zero : s.collectedFees pool + transfer.fee.2 = 0
  · simp only [State.setLock, zero, if_true, ne_eq, not_true_eq_false, and_false, if_false]
  · simp only [State.setLock, zero, if_false, ne_eq, not_false_eq_true, and_true]
    exact AList.lookup_insert_eq_ite _ _ _ _

end Locks

/-- The locks account for the fees of all pools, and for nothing else. -/
structure Locked (cfg : Config) (past : List (State × Label)) (s : State) : Prop where
  registered : Registered s
  fees : ∀ poolId pool, s.poolData.lookup poolId = some pool →
    s.collectedFees pool = feesSince cfg poolId past
  absent : ∀ collector, (∀ poolId pool, s.poolData.lookup poolId = some pool →
    pool.collector ≠ collector) → s.locks.lookup collector = none
  nonzero : ∀ collector amount, s.locks.lookup collector = some amount → amount ≠ 0
  pending : ∀ poolId pool, s.poolData.lookup poolId = some pool →
    s.hasPoolStarted pool = false → feesSince cfg poolId past = 0

namespace Locked

theorem initial (initial : Initial s) : Locked cfg [] s where
  registered := by
    unfold Registered
    rw [initial.poolData, initial.feeCollectorWithAsset]
    exact UniqueIndex.empty
  fees poolId pool stored := by
    rw [initial.poolData, AList.lookup_empty] at stored
    cases stored
  absent collector _ := by rw [initial.locks, AList.lookup_empty]
  nonzero collector amount found := by
    rw [initial.locks, AList.lookup_empty] at found
    cases found
  pending poolId pool stored := by
    rw [initial.poolData, AList.lookup_empty] at stored
    cases stored

variable (locked : Locked cfg past s)
include locked

/-- Without collected fees there is no lock. -/
theorem lookup_eq_none (none : s.collectedFees pool = 0) :
    s.locks.lookup pool.collector = .none := by
  cases found : s.locks.lookup pool.collector with
  | none => rfl
  | some amount =>
      rw [State.collectedFees_eq, found] at none
      exact absurd none (locked.nonzero _ _ found)

/-- A collector that is not registered has no lock. -/
theorem lookup_eq_none_of_unused {collector : Collector}
    (unused : s.feeCollectorWithAsset.lookup collector ≠ some true) :
    s.locks.lookup collector = none :=
  locked.absent collector fun _ _ stored =>
    UniqueIndex.free_of_lookup locked.registered unused stored

/-- A collector that none of the other pools names has no lock, unless it is the pool's own. -/
theorem absent_of_elsewhere {collector : Collector} (stored : s.poolData.lookup poolId = some pool)
    (apart : collector ≠ pool.collector)
    (unnamed : ∀ other otherPool, other ≠ poolId → s.poolData.lookup other = some otherPool →
      otherPool.collector ≠ collector) : s.locks.lookup collector = none := by
  refine locked.absent collector ?_
  intro other otherPool stored'
  by_cases own : other = poolId
  · subst own
    obtain rfl := Option.some.inj (stored.symm.trans stored')
    exact apart.symm
  · exact unnamed other otherPool own stored'

theorem external {blockNumber : ℕ} {ledger : Currencies} (later : s.blockNumber ≤ blockNumber) :
    Locked cfg ((s, .external blockNumber ledger) :: past) { s with blockNumber, ledger } where
  registered := locked.registered
  fees := locked.fees
  absent := locked.absent
  nonzero := locked.nonzero
  pending poolId pool stored waiting := by
    refine locked.pending poolId pool stored ?_
    rw [Bool.eq_false_iff, ne_eq, hasPoolStarted_iff] at waiting ⊢
    rintro ⟨start, begins, started⟩
    exact waiting ⟨start, begins, started.trans later⟩

variable (registered : Registered t)
include registered

/-- A new pool starts without fees, and its collector without a lock. -/
theorem created {new : NewPool} (fresh : s.poolData.lookup new.poolId = none)
    (unused : s.feeCollectorWithAsset.lookup new.pool.collector = none)
    (pools : t.poolData = s.poolData.insert new.poolId new.pool) (locks : t.locks = s.locks)
    (block : t.blockNumber = s.blockNumber) :
    Locked cfg ((s, .call (.createPool new)) :: past) t where
  registered := registered
  fees := by
    rw [pools]
    refine AList.forall_lookup_insert ?_ ?_
    · have vacant : s.locks.lookup new.pool.collector = none :=
        locked.lookup_eq_none_of_unused (by rw [unused]; simp)
      rw [feesSince_created, State.collectedFees_eq, locks, vacant]
      rfl
    · intro poolId pool elsewhere stored
      rw [feesSince_created_elsewhere elsewhere, State.collectedFees_eq, locks]
      exact locked.fees poolId pool stored
  absent collector unnamed := by
    rw [locks]
    refine locked.absent collector ?_
    intro poolId pool stored
    have elsewhere : poolId ≠ new.poolId := AList.ne_of_lookup fresh stored
    exact unnamed poolId pool (by rw [pools, AList.lookup_insert_ne elsewhere, stored])
  nonzero := by
    rw [locks]
    exact locked.nonzero
  pending := by
    rw [pools]
    refine AList.forall_lookup_insert ?_ ?_
    · intro _
      exact feesSince_created
    · intro poolId pool elsewhere stored waiting
      rw [hasPoolStarted_congr block] at waiting
      rw [feesSince_created_elsewhere elsewhere]
      exact locked.pending poolId pool stored waiting

/-- A pool that is updated has no fees, and neither has its old or its new collector. -/
theorem updated {who : ℕ} {update : PoolUpdate} {collectors : AList fun _ : Collector => Bool}
    (stored : s.poolData.lookup poolId = some pool) (waiting : s.hasPoolStarted pool = false)
    (registers : Registers s pool (update.apply pool) collectors)
    (pools : t.poolData = s.poolData.insert poolId (update.apply pool))
    (locks : t.locks = s.locks) (block : t.blockNumber = s.blockNumber) :
    Locked cfg ((s, .call (.updatePoolData who poolId update)) :: past) t := by
  have unpaid := locked.pending poolId pool stored waiting
  have vacant := locked.lookup_eq_none ((locked.fees poolId pool stored).trans unpaid)
  have vacant' : s.locks.lookup (update.apply pool).collector = none := by
    cases registers with
    | kept same => rw [same, vacant]
    | replaced unused => exact locked.lookup_eq_none_of_unused unused
  have same : ∀ other, feesSince cfg other
      ((s, .call (.updatePoolData who poolId update)) :: past) = feesSince cfg other past :=
    fun other => feesSince_call rfl rfl
  refine ⟨registered, ?_, ?_, ?_, ?_⟩
  · rw [pools]
    refine AList.forall_lookup_insert ?_ ?_
    · rw [same, unpaid, State.collectedFees_eq, locks, vacant']
      rfl
    · intro other otherPool _ stored'
      rw [same, State.collectedFees_eq, locks]
      exact locked.fees other otherPool stored'
  · intro collector unnamed
    rw [locks]
    by_cases here : collector = pool.collector
    · rw [here, vacant]
    · refine locked.absent_of_elsewhere stored here ?_
      intro other otherPool elsewhere stored'
      exact unnamed other otherPool (by rw [pools, AList.lookup_insert_ne elsewhere, stored'])
  · rw [locks]
    exact locked.nonzero
  · rw [pools]
    refine AList.forall_lookup_insert ?_ ?_
    · intro _
      rw [same, unpaid]
    · intro other otherPool _ stored' waiting'
      rw [hasPoolStarted_congr block] at waiting'
      rw [same]
      exact locked.pending other otherPool stored' waiting'

/-- With the pool its lock is gone. -/
theorem removed {who : ℕ} (stored : s.poolData.lookup poolId = some pool)
    (pools : t.poolData = s.poolData.erase poolId)
    (locks : t.locks =
      if 0 < s.collectedFees pool then s.locks.erase pool.collector else s.locks)
    (block : t.blockNumber = s.blockNumber) :
    Locked cfg ((s, .call (.removeLiquidity who poolId)) :: past) t := by
  have lookup : ∀ collector, t.locks.lookup collector =
      if collector = pool.collector then none else s.locks.lookup collector := by
    intro collector
    rw [locks]
    split_ifs with paid here here
    · rw [here, AList.lookup_erase]
    · rw [AList.lookup_erase_ne here]
    · rw [here, locked.lookup_eq_none (by omega)]
    · rfl
  have same : ∀ other, feesSince cfg other
      ((s, .call (.removeLiquidity who poolId)) :: past) = feesSince cfg other past :=
    fun other => feesSince_call rfl rfl
  refine ⟨registered, ?_, ?_, ?_, ?_⟩
  · rw [pools]
    refine AList.forall_lookup_erase ?_
    intro other otherPool elsewhere stored'
    have apart : otherPool.collector ≠ pool.collector := fun shared =>
      elsewhere (locked.registered.unique _ _ _ _ stored' stored shared)
    rw [same, State.collectedFees_eq, lookup, if_neg apart]
    exact locked.fees other otherPool stored'
  · intro collector unnamed
    rw [lookup]
    split_ifs with here
    · rfl
    · refine locked.absent_of_elsewhere stored here ?_
      intro other otherPool elsewhere stored'
      exact unnamed other otherPool (by rw [pools, AList.lookup_erase_ne elsewhere, stored'])
  · intro collector amount found
    rw [lookup] at found
    split_ifs at found
    exact locked.nonzero collector amount found
  · rw [pools]
    refine AList.forall_lookup_erase ?_
    intro other otherPool _ stored' waiting
    rw [hasPoolStarted_congr block] at waiting
    rw [same]
    exact locked.pending other otherPool stored' waiting

/-- A trade adds its fee to the lock of its pool, and to no other. -/
theorem traded (asked : call.trade cfg s = some transfer)
    (validated : Validated cfg s pool transfer)
    (fits : s.collectedFees pool + transfer.fee.2 < u128Bound)
    (pools : t.poolData = s.poolData) (locks : t.locks = s.locksAfter pool transfer)
    (block : t.blockNumber = s.blockNumber) :
    Locked cfg ((s, .call call) :: past) t := by
  have lookup : ∀ collector, t.locks.lookup collector =
      if collector = pool.collector ∧ s.collectedFees pool + transfer.fee.2 ≠ 0 then
        some (s.collectedFees pool + transfer.fee.2)
      else s.locks.lookup collector := by
    intro collector
    rw [locks]
    exact State.lookup_locksAfter fits
  refine ⟨registered, ?_, ?_, ?_, ?_⟩
  · intro other otherPool stored
    rw [pools] at stored
    rw [feesSince_trade asked, State.collectedFees_eq, lookup]
    by_cases here : getPairId transfer.assets = other
    · subst here
      rw [validated.stored, Option.some.injEq] at stored
      subst stored
      rw [if_pos rfl, ← locked.fees _ _ validated.stored]
      by_cases zero : s.collectedFees pool + transfer.fee.2 = 0
      · rw [if_neg fun both => both.2 zero, zero, ← State.collectedFees_eq]
        omega
      · rw [if_pos ⟨rfl, zero⟩]
        rfl
    · have apart : otherPool.collector ≠ pool.collector := fun shared =>
        here (locked.registered.unique _ _ _ _ validated.stored stored shared.symm)
      rw [if_neg fun both => apart both.1, if_neg here]
      exact locked.fees other otherPool stored
  · intro collector unnamed
    rw [pools] at unnamed
    rw [lookup, if_neg fun both => unnamed _ _ validated.stored both.1.symm]
    exact locked.absent collector unnamed
  · intro collector amount found
    rw [lookup] at found
    split_ifs at found with set
    · obtain rfl := Option.some.inj found
      exact set.2
    · exact locked.nonzero collector amount found
  · intro other otherPool stored waiting
    rw [pools] at stored
    rw [hasPoolStarted_congr block] at waiting
    have elsewhere : getPairId transfer.assets ≠ other := by
      rintro rfl
      rw [validated.stored, Option.some.injEq] at stored
      subst stored
      rw [hasPoolStarted_of_running validated.running] at waiting
      cases waiting
    rw [feesSince_trade asked, if_neg elsewhere]
    exact locked.pending other otherPool stored waiting

omit registered

theorem effect (fits : Fits cfg s (.call call)) (effect : Effect cfg s call t) :
    Locked cfg ((s, .call call) :: past) t := by
  have registered := locked.registered.effect effect
  cases effect with
  | created fresh _ unused => exact locked.created registered fresh unused rfl rfl rfl
  | updated stored _ pending registers =>
      exact locked.updated registered stored pending registers rfl rfl rfl
  | funded =>
      refine ⟨registered, ?_, locked.absent, locked.nonzero, ?_⟩
      · intro poolId pool stored
        rw [feesSince_call rfl rfl]
        exact locked.fees poolId pool stored
      · intro poolId pool stored waiting
        rw [feesSince_call rfl rfl]
        exact locked.pending poolId pool stored waiting
  | removed stored => exact locked.removed registered stored rfl rfl rfl
  | traded asked validated =>
      exact locked.traded registered asked validated
        (fits _ asked _ validated.stored) rfl rfl rfl

end Locked

theorem locked_of_run (run : Run Initial (Step cfg) past s) (fits : Guarded (Fits cfg) past) :
    Locked cfg past s := by
  refine run.history_invariant (Locked cfg) (fun _ => Locked.initial) ?_ fits
  intro past s label t _ locked fits taken
  cases label with
  | call call => exact locked.effect fits (effect_of_dispatch taken)
  | external blockNumber ledger =>
      rcases taken with ⟨later, rfl⟩
      exact locked.external later

/-- As long as the fees of the pools fit, the lock on the collector of a pool is the sum of the
fees of all trades with the pool and there is no other lock.  So the repay fee applies exactly as
long as fewer fees than the target were collected, and every trade pays the fee that applies. -/
theorem collectedFees_locked (run : Run Initial (Step cfg) past s)
    (fits : Guarded (Fits cfg) past) :
    (∀ poolId pool, s.poolData.lookup poolId = some pool →
      s.getByLock pool.assets.1 pool.feeCollector = feesSince cfg poolId past) ∧
    (∀ account asset, (∀ poolId pool, s.poolData.lookup poolId = some pool →
      ¬ (pool.feeCollector = account ∧ pool.assets.1 = asset)) →
      s.locks.lookup (account, asset) = none) ∧
    (∀ poolId pool, s.poolData.lookup poolId = some pool →
      (s.isRepayFeeApplied pool = true ↔ feesSince cfg poolId past < pool.repayTarget)) ∧
    ∀ (call : Call) (transfer : AMMTransfer) (pool : Pool), call.trade cfg s = some transfer →
      s.poolData.lookup (getPairId transfer.assets) = some pool →
      ∃ amount, cfg.math.calculatePoolTradeFee amount
        (if feesSince cfg (getPairId transfer.assets) past < pool.repayTarget then (2, 10)
          else pool.fee) = some transfer.fee.2 := by
  have locked := locked_of_run run fits
  have repay : ∀ poolId pool, s.poolData.lookup poolId = some pool →
      (s.isRepayFeeApplied pool = true ↔ feesSince cfg poolId past < pool.repayTarget) := by
    intro poolId pool stored
    rw [State.isRepayFeeApplied, decide_eq_true_eq, locked.fees poolId pool stored]
  refine ⟨locked.fees, ?_, repay, ?_⟩
  · intro account asset unnamed
    refine locked.absent (account, asset) ?_
    intro poolId pool stored named
    exact unnamed poolId pool stored (Prod.mk.inj named)
  · intro call transfer pool asked stored
    obtain ⟨found, validated⟩ := validated_of_trade asked
    obtain rfl := Option.some.inj (validated.stored.symm.trans stored)
    obtain ⟨amount, charged⟩ := validated.fee
    refine ⟨amount, ?_⟩
    simp only [calculateFees, okOr_eq_ok, repay _ _ stored] at charged
    exact charged

/-- Signer 1 buys ten millions with the accumulated asset.  The trade pays a fee of 20%, which is
locked and over the target, so that the next one will pay the pool's own fee. -/
theorem collectedFees_locked_repaid :
    ∃ past s pool, simulateFrom genesis (openSale ++
        [.call (.buy 1 2 1 (10 ^ 7) (10 ^ 8))]) = .ok (past, s) ∧
      s.poolData.lookup (getPairId ⟨1, 2⟩) = some pool ∧
      s.getByLock pool.assets.1 pool.feeCollector = 371134 ∧
      feesSince .reference (getPairId ⟨1, 2⟩) past = 371134 ∧
      s.isRepayFeeApplied pool = false := by
  have computed : succeedsWith (simulateFrom genesis (openSale ++
        [.call (.buy 1 2 1 (10 ^ 7) (10 ^ 8))]))
      (fun reached => (reached.2.poolData.lookup (getPairId ⟨1, 2⟩)).any
          (fun pool => decide (pool.repayTarget = 1000)) &&
        decide (feesSince .reference (getPairId ⟨1, 2⟩) reached.1 = 371134) &&
        decide (∀ event ∈ reached.1, Fits .reference event.1 event.2)) = true := by
    decide +kernel
  simp only [succeedsWith_iff, Bool.and_eq_true, Option.any_eq_true, decide_eq_true_eq]
    at computed
  obtain ⟨⟨past, s⟩, run, ⟨⟨pool, stored, target⟩, fees⟩, fits⟩ := computed
  obtain ⟨locked, -, repay, -⟩ :=
    collectedFees_locked (run_of_simulateFrom genesis_initial run) fits
  refine ⟨past, s, pool, run, stored, (locked _ _ stored).trans fees, fees, ?_⟩
  rw [Bool.eq_false_iff, ne_eq, repay _ _ stored, fees, target]
  decide

/-- Signer 1 collects the fees of a pool with a fee of 100%.  Every trade with it pays the pool
nothing and signer 1 its own money; after seven trades the lock has wrapped around. -/
theorem collectedFees_not_locked :
    ¬ ∀ (cfg : Config) (past : List (State × Label)) (s : State) (poolId : AccountId)
      (pool : Pool), Run Initial (Step cfg) past s → s.poolData.lookup poolId = some pool →
      s.getByLock pool.assets.1 pool.feeCollector = feesSince cfg poolId past := by
  intro claim
  have computed : succeedsWith (simulateFrom genesis
        ([.call (.createPool { bootstrapping with
            assetAAmount := 2 ^ 127
            assetBAmount := 10 ^ 9
            initialWeight := 50000000
            finalWeight := 50000000
            fee := (1, 1)
            feeCollector := .signer 1
            repayTarget := 0 }),
          .call (.updatePoolData 0 (getPairId ⟨1, 2⟩) saleUpdate), .blocks 20] ++
        List.replicate 7 (.call (.sell 1 1 2 (5 * 2 ^ 123) 0))))
      (fun reached => (reached.2.poolData.lookup (getPairId ⟨1, 2⟩)).any
          (fun pool => decide
            (reached.2.getByLock pool.assets.1 pool.feeCollector = 3 * 2 ^ 123)) &&
        decide (feesSince .reference (getPairId ⟨1, 2⟩) reached.1 = 35 * 2 ^ 123)) = true := by
    decide +kernel
  simp only [succeedsWith_iff, Bool.and_eq_true, Option.any_eq_true, decide_eq_true_eq]
    at computed
  obtain ⟨⟨past, s⟩, run, ⟨pool, stored, wrapped⟩, fees⟩ := computed
  have same := claim .reference past s _ pool (run_of_simulateFrom genesis_initial run) stored
  rw [wrapped, fees] at same
  cases same

end Basilisk.Lbp
