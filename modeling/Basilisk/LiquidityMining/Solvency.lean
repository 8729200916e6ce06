/-
# Solvency of farms

A farm owes its liquidity pools what it has accrued and not yet paid out.  This
module follows the money: which accounts a move pays from, and that under the
rules on accruals and withdrawals the account of a farm covers what it owes.  The
code caps an accrual by the whole balance of the farm, including what it already
owes, so without the rules a farm can promise the same coin twice.
-/

import Basilisk.LiquidityMining.Errors
import Basilisk.LiquidityMining.Reference

namespace Basilisk.LiquidityMining

open Basilisk.Math

/-- The account of the pool in a slot. -/
def poolAccountAt (s : State) (slot : Slot) : List AccountId :=
  match s.liquidityPoolData.lookup slot with
  | some liqPool => [.palletSubAccount liqPool.id]
  | none => []

/-- The account of the pool a deposit is settled against. -/
def settlingAccount (cfg : Config) (s : State) (nftId : ℕ) : List AccountId :=
  match s.liquidityPoolMetadata.lookup (poolIdOf nftId) with
  | some metadata => poolAccountAt s (metadata.slot cfg)
  | none => []

/-- The accounts of the pallet a move may pay from, and the payer of a new farm. -/
def payers (cfg : Config) (s : State) : MoveKind → List AccountId
  | .collect slot => [.palletSubAccount slot.1]
  | .pay nftId => settlingAccount cfg s nftId
  | .leave nftId => accountId :: settlingAccount cfg s nftId
  | .depart _ => [accountId]
  | .createFarm owner => [owner]
  | .drain farmId => [.palletSubAccount farmId]
  | .removePool slot => poolAccountAt s slot
  | _ => []

section Funds

variable {cfg : Config} {s t : State} {kind : MoveKind}

theorem mem_poolAccountAt {slot : Slot} {account : AccountId} :
    account ∈ poolAccountAt s slot ↔ ∃ liqPool,
      s.liquidityPoolData.lookup slot = some liqPool ∧
        account = .palletSubAccount liqPool.id := by
  unfold poolAccountAt
  cases s.liquidityPoolData.lookup slot <;> simp

theorem mem_settlingAccount {nftId : ℕ} {account : AccountId} :
    account ∈ settlingAccount cfg s nftId ↔ ∃ metadata liqPool,
      s.liquidityPoolMetadata.lookup (poolIdOf nftId) = some metadata ∧
        s.liquidityPoolData.lookup (metadata.slot cfg) = some liqPool ∧
        account = .palletSubAccount liqPool.id := by
  unfold settlingAccount
  cases s.liquidityPoolMetadata.lookup (poolIdOf nftId) <;> simp [mem_poolAccountAt]

/-- The shares of a deposit are paid from the account that holds all shares. -/
theorem free_le_returned {assetPair : AssetPair} {who : AccountId} {shares : ℕ}
    {before after : Currencies} (returned : Returned s assetPair who shares before after)
    {account : AccountId} (distinct : account ≠ accountId) (currency : AssetId) :
    before.free account currency ≤ after.free account currency := by
  cases returned with
  | listed present moved => exact Ledger.free_le_transfer_of_ne_sender moved distinct _
  | unlisted absent same => rw [same]

/-- Only its payers lose in a move. -/
theorem free_le_move (consistent : Consistent cfg s.blockNumber s.toStorage)
    (move : Move cfg s kind t) {account : AccountId} (pallet : account.IsPallet)
    (bystander : account ∉ payers cfg s kind) (currency : AssetId) :
    s.ledger.free account currency ≤ t.ledger.free account currency := by
  have notSigner : ∀ key, account ≠ .signer key := by
    rintro key rfl
    exact pallet
  cases move with
  | accrue => exact le_rfl
  | collect farm pool active stale valued behind earned covered booked moved =>
      refine Ledger.free_le_transfer_of_ne_sender moved ?_ _
      rintro rfl
      rw [(consistent.farms _ _ farm).id] at bystander
      exact bystander (List.mem_singleton.mpr rfl)
  | forfeit => exact le_rfl
  | update => exact le_rfl
  | cancel => exact le_rfl
  | resume => exact le_rfl
  | enter farm pool active account nonzero valued weighed locked =>
      exact Ledger.free_le_transfer_of_ne_sender locked (notSigner _) _
  | pay reports known recorded farm pool entered unpaid loyal priced moved =>
      refine Ledger.free_le_transfer_of_ne_sender moved ?_ _
      rintro rfl
      exact bystander (mem_settlingAccount.mpr ⟨_, _, known, pool, rfl⟩)
  | leave reports known recorded farm pool shares valuedShares released held heldFarm
      leftover refund returned =>
      rw [payers, List.mem_cons, not_or] at bystander
      refine (Ledger.free_le_transfer_of_ne_sender refund ?_ _).trans
        (free_le_returned returned bystander.1 _)
      rintro rfl
      exact bystander.2 (mem_settlingAccount.mpr ⟨_, _, known, pool, rfl⟩)
  | depart reports known recorded vacant returned =>
      refine free_le_returned returned ?_ _
      rintro rfl
      exact bystander (List.mem_singleton.mpr rfl)
  | createFarm event proper numbered funded =>
      refine Ledger.free_le_transfer_of_ne_sender funded ?_ _
      rintro rfl
      exact bystander (List.mem_singleton.mpr rfl)
  | destroyFarm => exact le_rfl
  | drain farm empty moved =>
      refine Ledger.free_le_transfer_of_ne_sender moved ?_ _
      rintro rfl
      rw [(consistent.farms _ _ farm).id] at bystander
      exact bystander (List.mem_singleton.mpr rfl)
  | addPool => exact le_rfl
  | removePool who assetPair farm pool idle counted moved =>
      refine Ledger.free_le_transfer_of_ne_sender moved ?_ _
      rintro rfl
      exact bystander (mem_poolAccountAt.mpr ⟨_, pool, rfl⟩)
  | external follows => exact follows.funds _ _ pallet

/-- A farm pays only when one of its pools collects and when it is drained. -/
theorem farm_mem_payers (consistent : Consistent cfg s.blockNumber s.toStorage)
    {farmId : ℕ} {globalPool : GlobalPool}
    (farm : s.globalPoolData.lookup farmId = some globalPool)
    (outside : Rule.outsideOwner.AllowsMove cfg s kind)
    (paying : .palletSubAccount farmId ∈ payers cfg s kind) :
    (∃ slot : Slot, kind = .collect slot ∧ slot.1 = farmId) ∨ kind = .drain farmId := by
  have notPool : ∀ {slot liqPool}, s.liquidityPoolData.lookup slot = some liqPool →
      AccountId.palletSubAccount farmId ≠ .palletSubAccount liqPool.id := by
    intro slot liqPool pool same
    exact consistent.liqPool_ne_farm pool farm (AccountId.palletSubAccount.inj same).symm
  cases kind with
  | collect slot =>
      rw [payers, List.mem_singleton, AccountId.palletSubAccount.injEq] at paying
      exact .inl ⟨slot, rfl, paying.symm⟩
  | drain other =>
      rw [payers, List.mem_singleton, AccountId.palletSubAccount.injEq] at paying
      exact .inr (by rw [paying])
  | pay nftId =>
      obtain ⟨_, _, -, pool, own⟩ := mem_settlingAccount.mp paying
      exact absurd own (notPool pool)
  | leave nftId =>
      rw [payers, List.mem_cons] at paying
      obtain ⟨_, _, -, pool, own⟩ := mem_settlingAccount.mp (paying.resolve_left nofun)
      exact absurd own (notPool pool)
  | depart nftId =>
      rw [payers, List.mem_singleton] at paying
      exact absurd paying nofun
  | createFarm owner =>
      rw [payers, List.mem_singleton] at paying
      exact absurd (paying ▸ trivial) outside
  | removePool slot =>
      obtain ⟨_, pool, own⟩ := mem_poolAccountAt.mp paying
      exact absurd own (notPool pool)
  | _ => exact absurd paying List.not_mem_nil

end Funds

/-- Every farm holds at least what it owes. -/
def Solvent (s : State) : Prop :=
  ∀ farmId globalPool, s.globalPoolData.lookup farmId = some globalPool →
    globalPool.accumulatedRewards ≤
      s.ledger.free (.palletSubAccount globalPool.id) globalPool.rewardCurrency

section Solvency

variable {cfg : Config} {s t : State} {kind : MoveKind}

/-- No farm loses funds. -/
def FarmsKeep (s t : State) : Prop :=
  ∀ farmId globalPool, s.globalPoolData.lookup farmId = some globalPool →
    s.ledger.free (.palletSubAccount globalPool.id) globalPool.rewardCurrency ≤
      t.ledger.free (.palletSubAccount globalPool.id) globalPool.rewardCurrency

theorem farmsKeep_of_move (consistent : Consistent cfg s.blockNumber s.toStorage)
    (move : Move cfg s kind t) (outside : Rule.outsideOwner.AllowsMove cfg s kind)
    (notCollect : ∀ slot, kind ≠ .collect slot) (notDrain : ∀ farmId, kind ≠ .drain farmId) :
    FarmsKeep s t := by
  intro farmId globalPool farm
  refine free_le_move consistent move (AccountId.isPallet_palletSubAccount _) ?_ _
  intro paying
  rw [(consistent.farms _ _ farm).id] at paying
  obtain ⟨slot, collecting, -⟩ | draining :=
    farm_mem_payers consistent farm outside paying
  · exact notCollect slot collecting
  · exact notDrain farmId draining

/-- A farm is rewritten without owing more. -/
theorem Solvent.write (solvent : Solvent s) {farmId : ℕ}
    {globalPool globalPool' : GlobalPool}
    (farm : s.globalPoolData.lookup farmId = some globalPool)
    (farms : t.globalPoolData = s.globalPoolData.insert farmId globalPool')
    (id : globalPool'.id = globalPool.id)
    (currency : globalPool'.rewardCurrency = globalPool.rewardCurrency)
    (owed : globalPool'.accumulatedRewards ≤ globalPool.accumulatedRewards)
    (keeps : FarmsKeep s t) : Solvent t := by
  unfold Solvent
  rw [farms]
  refine AList.forall_lookup_insert ?_ ?_
  · rw [id, currency]
    exact owed.trans ((solvent _ _ farm).trans (keeps _ _ farm))
  · intro other otherPool _ stored
    exact (solvent _ _ stored).trans (keeps _ _ stored)

/-- The farm table stays. -/
theorem Solvent.keep (solvent : Solvent s) (farms : t.globalPoolData = s.globalPoolData)
    (keeps : FarmsKeep s t) : Solvent t := by
  intro farmId globalPool stored
  rw [farms] at stored
  exact (solvent _ _ stored).trans (keeps _ _ stored)

/-- A funded farm can pay what it owes after it accrues. -/
theorem accrued_le_free {farmId rewardPerPeriod reward : ℕ} {globalPool : GlobalPool}
    (farm : s.globalPoolData.lookup farmId = some globalPool)
    (staked : globalPool.totalSharesZ ≠ 0)
    (later : globalPool.updatedAt < s.period globalPool)
    (rate : cfg.math.calculateGlobalPoolRewardPerPeriod globalPool.yieldPerPeriod.toFixed
      globalPool.totalSharesZ globalPool.maxRewardPerPeriod = some rewardPerPeriod)
    (capped : reward =
      min ((s.period globalPool - globalPool.updatedAt) * rewardPerPeriod)
        (s.ledger.free (.palletSubAccount globalPool.id) globalPool.rewardCurrency))
    (funded : Funded cfg s farmId) :
    globalPool.accumulatedRewards + reward ≤
      s.ledger.free (.palletSubAccount globalPool.id) globalPool.rewardCurrency := by
  have byPeriods : reward ≤ _ := capped.le.trans (min_le_left _ _)
  have byBalance : reward ≤ _ := capped.le.trans (min_le_right _ _)
  obtain nothing | covered := funded globalPool rewardPerPeriod farm staked later.ne rate
  · omega
  · omega

/-- What a pool collects leaves the debt and the balance of its farm alike. -/
theorem Solvent.collect (solvent : Solvent s)
    (consistent : Consistent cfg s.blockNumber s.toStorage) {slot : Slot}
    {globalPool globalPool' : GlobalPool} {liqPool : LiquidityPoolYieldFarm} {reward : ℕ}
    (farm : s.globalPoolData.lookup slot.1 = some globalPool)
    (pool : s.liquidityPoolData.lookup slot = some liqPool)
    (farms : t.globalPoolData = s.globalPoolData.insert slot.1 globalPool')
    (moved : s.ledger.transfer globalPool.rewardCurrency
      (.palletSubAccount globalPool.id) (.palletSubAccount liqPool.id) reward =
        some t.ledger)
    (id : globalPool'.id = globalPool.id)
    (currency : globalPool'.rewardCurrency = globalPool.rewardCurrency)
    (owed : globalPool'.accumulatedRewards = globalPool.accumulatedRewards - reward) :
    Solvent t := by
  have own := (consistent.farms _ _ farm).id
  have apart : AccountId.palletSubAccount globalPool.id ≠ .palletSubAccount liqPool.id := by
    rw [own, Ne, AccountId.palletSubAccount.injEq]
    exact (consistent.liqPool_ne_farm pool farm).symm
  have before := solvent _ _ farm
  have paid := Ledger.free_transfer_sender moved apart
  unfold Solvent
  rw [farms]
  refine AList.forall_lookup_insert ?_ ?_
  · rw [id, currency]
    omega
  · intro other otherPool distinct stored
    refine (solvent _ _ stored).trans (Ledger.free_le_transfer_of_ne_sender moved ?_ _)
    rw [own, (consistent.farms _ _ stored).id, Ne, AccountId.palletSubAccount.injEq]
    exact distinct

/-- The conditions under which farms stay solvent. -/
def solvencyRules : List Rule := [.fundedAccrual, .settledDrain, .outsideOwner]

theorem Solvent.move (solvent : Solvent s)
    (consistent : Consistent cfg s.blockNumber s.toStorage) (move : Move cfg s kind t)
    (obeyed : MoveObeys cfg solvencyRules s kind) : Solvent t := by
  have outside : Rule.outsideOwner.AllowsMove cfg s kind := obeyed _ (by decide)
  have keeps := farmsKeep_of_move consistent move outside
  cases move with
  | @accrue farmId globalPool rewardPerPeriod reward accumulatedRpz farm numbered staked
      later rate capped booked =>
      have funded : Funded cfg s farmId := obeyed .fundedAccrual (by decide)
      have covered := accrued_le_free farm staked later rate capped funded
      refine AList.forall_lookup_insert covered ?_
      intro other otherPool _ stored
      exact solvent _ _ stored
  | collect farm pool active stale valued behind earned covered booked moved =>
      exact solvent.collect consistent farm pool rfl moved rfl rfl rfl
  | forfeit farm =>
      exact solvent.write farm rfl rfl rfl (Nat.sub_le _ _) (keeps nofun nofun)
  | update farm => exact solvent.write farm rfl rfl rfl le_rfl (keeps nofun nofun)
  | cancel farm => exact solvent.write farm rfl rfl rfl le_rfl (keeps nofun nofun)
  | resume farm => exact solvent.write farm rfl rfl rfl le_rfl (keeps nofun nofun)
  | enter farm => exact solvent.write farm rfl rfl rfl le_rfl (keeps nofun nofun)
  | pay reports known recorded farm =>
      exact solvent.write farm rfl rfl rfl le_rfl (keeps nofun nofun)
  | leave reports known recorded farm =>
      exact solvent.write farm rfl rfl rfl le_rfl (keeps nofun nofun)
  | depart => exact solvent.keep rfl (keeps nofun nofun)
  | createFarm =>
      have keeps := keeps nofun nofun
      refine AList.forall_lookup_insert (Nat.zero_le _) ?_
      intro other otherPool _ stored
      exact (solvent _ _ stored).trans (keeps _ _ stored)
  | destroyFarm =>
      refine AList.forall_lookup_erase ?_
      intro other otherPool _ stored
      exact solvent _ _ stored
  | @drain farmId key amount globalPool ledger farm empty moved =>
      have settled : ∀ pool, s.globalPoolData.lookup farmId = some pool →
          pool.accumulatedRewards = 0 := obeyed .settledDrain (by decide)
      intro other otherPool stored
      by_cases same : other = farmId
      · rw [settled _ (same ▸ stored)]
        exact Nat.zero_le _
      · refine (solvent _ _ stored).trans (Ledger.free_le_transfer_of_ne_sender moved ?_ _)
        rw [(consistent.farms _ _ farm).id, (consistent.farms _ _ stored).id, Ne,
          AccountId.palletSubAccount.injEq]
        exact same
  | addPool multiplier farm =>
      exact solvent.write farm rfl rfl rfl le_rfl (keeps nofun nofun)
  | removePool who assetPair farm =>
      exact solvent.write farm rfl rfl rfl le_rfl (keeps nofun nofun)
  | external => exact solvent.keep rfl (keeps nofun nofun)

theorem solvent_of_moves
    (reachable : ReachableUnder (Initial cfg) (Move cfg) (MoveObeys cfg solvencyRules) s) :
    Solvent s := by
  refine (ReachableUnder.invariant
    (fun s => Consistent cfg s.blockNumber s.toStorage ∧ Solvent s) ?_ ?_ reachable).2
  · intro s initial
    refine ⟨initial.consistent, ?_⟩
    intro farmId globalPool stored
    simp [initial.globalPoolData] at stored
  · rintro s kind t ⟨consistent, solvent⟩ obeyed move
    exact ⟨consistent.move move, solvent.move consistent move obeyed⟩

section Errors

variable {globalPool : GlobalPool} {liqPool : LiquidityPoolYieldFarm}

/-- Bringing the pools up to date finds the farm funded. -/
theorem maybeUpdatePools_funded (label : Label) (slot : Slot)
    (reachable : ReachableUnder (Initial cfg) (Move cfg) (MoveObeys cfg solvencyRules) s)
    (obeyed : Obeys cfg solvencyRules s label)
    (farm : s.globalPoolData.lookup slot.1 = some globalPool)
    (pool : s.liquidityPoolData.lookup slot = some liqPool)
    (funded : Rule.fundedAccrual.Allows cfg s label → Due s slot → Funded cfg s slot.1) :
    Avoids .insufficientBalanceInGlobalPool
      (maybeUpdatePools cfg s globalPool liqPool (s.period globalPool)) := by
  apply maybeUpdatePools_avoids rfl
  intro _ active working s' globalPool' globalPool'' liqPool' rewards refreshed claimed
  have due : Due s slot := ⟨_, _, farm, pool, active, working⟩
  obtain ⟨farms, up⟩ := refreshed_of_refreshGlobalPool label farm
    (fun allowed => funded allowed due) refreshed
  have solvent := solvent_of_moves (reachable.steps (up.path.obeys obeyed))
  have covered := solvent _ _ up.farm
  simp only [claimFromGlobalPool, bind_eq_ok, okOr_eq_ok, return_eq_ok,
    checkedSub_eq_some, checkedMul_eq_some, checkedAdd_eq_some, Prod.mk.injEq] at claimed
  obtain ⟨_, ⟨-, rfl⟩, _, ⟨-, rfl⟩, _, ⟨-, rfl⟩, _, ⟨owed, rfl⟩, rfl, rfl, rfl⟩ := claimed
  exact owed.trans covered

/-- The balance of a farm is no reason for a call to fail. -/
theorem dispatch_funded
    (reachable : ReachableUnder (Initial cfg) (Move cfg) (MoveObeys cfg solvencyRules) s)
    {call : Call} (obeyed : Obeys cfg solvencyRules s (.call call)) :
    Avoids .insufficientBalanceInGlobalPool (dispatch cfg s call) := by
  refine dispatch_avoids (consistent_of_moves reachable) rfl nofun ?_
  intro slot globalPool liqPool first farm pool
  refine maybeUpdatePools_funded _ slot reachable obeyed farm pool ?_
  intro allowed due
  apply allowed slot.1
  cases call with
  | addLiquidityPool => exact absurd first nofun
  | resumeLiquidityPool => exact absurd first nofun
  | _ => exact ⟨slot, first, rfl, due⟩

end Errors

/-- Under the rules every farm covers the rewards it owes, and no call fails for
want of them. -/
theorem farm_solvent
    (reachable : ReachableUnder (Initial cfg) (Step cfg) (Obeys cfg solvencyRules) s) :
    (∀ farmId globalPool, s.globalPoolData.lookup farmId = some globalPool →
      globalPool.accumulatedRewards ≤
        s.ledger.free (.palletSubAccount globalPool.id) globalPool.rewardCurrency) ∧
    ∀ call, Obeys cfg solvencyRules s (.call call) →
      dispatch cfg s call ≠ .error .insufficientBalanceInGlobalPool :=
  ⟨solvent_of_moves (reachable_moves reachable),
    fun _ obeyed => dispatch_funded (reachable_moves reachable) obeyed⟩

/-- After a hundred periods the farm owes all it has, and has it. -/
theorem farm_solvent_accrued :
    ∃ s globalPool,
      simulateObeying solvencyRules [.blocks 1000,
        .call (.addLiquidityPool 0 1 ⟨1, 3⟩ FixedU128.one none)] = .ok s ∧
      s.globalPoolData.lookup 1 = some globalPool ∧
      globalPool.accumulatedRewards = 10 ^ 15 ∧
      globalPool.accumulatedRewards ≤
        s.ledger.free (.palletSubAccount globalPool.id) globalPool.rewardCurrency := by
  have computed : succeedsWith
      (simulateObeying solvencyRules [.blocks 1000,
        .call (.addLiquidityPool 0 1 ⟨1, 3⟩ FixedU128.one none)])
      (fun s => (s.globalPoolData.lookup 1).any fun globalPool =>
        globalPool.accumulatedRewards = 10 ^ 15) = true := by
    decide +kernel
  simp only [succeedsWith_iff, Option.any_eq_true, decide_eq_true_eq] at computed
  obtain ⟨s, run, globalPool, farm, owed⟩ := computed
  exact ⟨s, globalPool, run, farm, owed,
    (farm_solvent (reachableUnder_of_simulate run)).1 1 globalPool farm⟩

/-- Two accruals, each capped by the whole balance, promise `2 * 10 ^ 15` out of
`10 ^ 15`; the depositor can no longer withdraw. -/
theorem farm_insolvent :
    (¬ ∀ cfg s, cfg.math.Lawful → Reachable (Initial cfg) (Step cfg) s →
      ∀ farmId globalPool, s.globalPoolData.lookup farmId = some globalPool →
        globalPool.accumulatedRewards ≤
          s.ledger.free (.palletSubAccount globalPool.id) globalPool.rewardCurrency) ∧
    ¬ ∀ cfg s, cfg.math.Lawful → Reachable (Initial cfg) (Step cfg) s →
      ∀ call, dispatch cfg s call ≠ .error .insufficientBalanceInGlobalPool := by
  have computed : succeedsWith
      (simulate [.blocks 1000, .call (.addLiquidityPool 0 1 ⟨1, 3⟩ FixedU128.one none),
        .blocks 1000, .call (.cancelLiquidityPool 0 1 ⟨1, 3⟩),
        .call (.resumeLiquidityPool 0 1 ⟨1, 3⟩ FixedU128.one)])
      (fun s => ((s.globalPoolData.lookup 1).any fun globalPool =>
        s.ledger.free (.palletSubAccount globalPool.id) globalPool.rewardCurrency <
          globalPool.accumulatedRewards) &&
        failsWith (dispatch .reference s (.withdrawShares 1 (encodeNftId 2 1)))
          .insufficientBalanceInGlobalPool) = true := by
    decide +kernel
  simp only [succeedsWith_iff, Bool.and_eq_true, Option.any_eq_true, decide_eq_true_eq,
    failsWith_iff] at computed
  obtain ⟨s, run, ⟨globalPool, farm, short⟩, stuck⟩ := computed
  have reachable := reachable_of_simulate run
  constructor
  · intro claim
    have covered := claim .reference s Math.reference_lawful reachable 1 globalPool farm
    exact absurd covered (not_le.mpr short)
  · intro claim
    exact claim .reference s Math.reference_lawful reachable _ stuck

end Solvency

end Basilisk.LiquidityMining
