/-
# Claiming before leaving

`withdraw_shares` claims for the deposit it takes out and returns to the farm what
the deposit forfeits.  Both amounts come from `do_claim_rewards`, which answers
`(0, 0)` for a deposit that was claimed in the same period.  A deposit that is
claimed first and then withdrawn therefore leaves what it forfeits in the account
of its pool.  The two ways to leave agree exactly if nothing is forfeited.
-/

import Basilisk.LiquidityMining.Reserves
import Basilisk.LiquidityMining.SamePeriod
import Basilisk.LiquidityMining.Settlement
import Basilisk.LiquidityMining.Updates

namespace Basilisk.LiquidityMining

open Basilisk.Math

/-- The reward per valued share that the formulas give a pool in the present period. -/
def accruedRpvs (cfg : Config) (s : State) (globalPool : GlobalPool)
    (liqPool : LiquidityPoolYieldFarm) : Option ℕ :=
  if liqPool.IsDue (s.period globalPool) ∧ liqPool.totalValuedShares ≠ 0 then do
    let rpz ← accruedRpz cfg s globalPool
    cfg.math.calculateAccumulatedRps liqPool.accumulatedRpvs liqPool.totalValuedShares
      ((rpz - liqPool.accumulatedRpz) * liqPool.stakeInGlobalPool)
  else some liqPool.accumulatedRpvs

/-- The deposit forfeits nothing if it leaves now: its loyalty is complete, or it earned
nothing. -/
def ForfeitsNothing (cfg : Config) (s : State) (globalPool : GlobalPool)
    (liqPool : LiquidityPoolYieldFarm) (deposit : Deposit) : Prop :=
  getLoyaltyMultiplier cfg (s.period globalPool - deposit.enteredAt) liqPool.loyaltyCurve =
      .ok FixedU128.one ∨
    ∀ rpvs ∈ accruedRpvs cfg s globalPool liqPool,
      (rpvs - deposit.accumulatedRpvs) * deposit.valuedShares = 0

/-- What `withdraw_shares` does with a pool and its farm once the deposit is claimed. -/
def leavePool (cfg : Config) (s : State) (who : AccountId) (slot : Slot)
    (globalPool : GlobalPool) (liqPool : LiquidityPoolYieldFarm) (deposit : Deposit)
    (reward unclaimableRewards : ℕ) : Except Error State := do
  let globalPoolAccount ← poolAccountId globalPool.id
  let liqPoolAccount ← poolAccountId liqPool.id
  let totalShares ← okOr (checkedSub liqPool.totalShares deposit.shares) .overflow
  let totalValuedShares ←
    okOr (checkedSub liqPool.totalValuedShares deposit.valuedShares) .overflow
  let liqPool := { liqPool with totalShares, totalValuedShares }
  let (globalPool, liqPool) ← releaseStake cfg globalPool liqPool deposit.valuedShares
  let s ← s.transfer globalPool.rewardCurrency liqPoolAccount globalPoolAccount
    unclaimableRewards
  let s := if reward = 0 then s else
    s.depositEvent (.rewardClaimed globalPool.id liqPool.id who reward
      globalPool.rewardCurrency)
  let s := s.setGlobalPool slot.1 globalPool
  return s.setLiqPool slot liqPool

section Parts

variable {cfg : Config} {s s' s'' t u : State} {who : AccountId} {slot : Slot}
variable {globalPool globalPool' : GlobalPool} {liqPool liqPool' : LiquidityPoolYieldFarm}
variable {deposit deposit' : Deposit} {now reward unclaimable : ℕ}

/-- The reward per valued share to which a pool is brought up. -/
theorem accruedRpvs_of_maybeUpdatePools
    (updated : maybeUpdatePools cfg s globalPool liqPool (s.period globalPool) =
      .ok (s', globalPool', liqPool')) :
    accruedRpvs cfg s globalPool liqPool = some liqPool'.accumulatedRpvs := by
  unfold accruedRpvs
  cases broughtUp_of_maybeUpdatePools updated with
  | idle undue => rw [if_neg fun due => undue due.1]
  | unvalued due refreshed behind earned covered worthless =>
      rw [if_neg fun due => due.2 worthless]
  | paid due refreshed behind earned covered valued booked =>
      rw [if_pos ⟨due, valued⟩, accruedRpz_of_refresh refreshed]
      rw [earned] at booked
      exact booked

/-- A deposit is settled: its pool is brought up to date, it is claimed, and it leaves. -/
theorem withdrawFromLiqPool_eq_ok
    (farm : s.globalPoolData.lookup slot.1 = some globalPool) :
    withdrawFromLiqPool cfg s who slot liqPool deposit = .ok t ↔
      globalPool.blocksPerPeriod ≠ 0 ∧
        ∃ s' globalPool' liqPool' s'' deposit' reward unclaimable,
          maybeUpdatePools cfg s globalPool liqPool (s.period globalPool) =
            .ok (s', globalPool', liqPool') ∧
          doClaimRewards cfg s' who deposit liqPool' (s.period globalPool)
            globalPool'.rewardCurrency = .ok (s'', deposit', reward, unclaimable) ∧
          leavePool cfg s'' who slot globalPool' liqPool' deposit' reward unclaimable =
            .ok t := by
  simp only [withdrawFromLiqPool, leavePool, bind_eq_ok, okOr_eq_ok, farm, Option.some.injEq,
    exists_eq_left', getNowPeriod_eq_ok, and_assoc, exists_and_left, Prod.exists]
  rfl

/-- Leaving a pool moves what is forfeited from its account to that of the farm. -/
theorem leavePool_ok
    (left : leavePool cfg s who slot globalPool liqPool deposit reward unclaimable = .ok t) :
    t.nft = s.nft ∧ t.amm = s.amm ∧
      s.ledger.transfer globalPool.rewardCurrency (.palletSubAccount liqPool.id)
        (.palletSubAccount globalPool.id) unclaimable = some t.ledger := by
  simp only [leavePool, bind_eq_ok, okOr_eq_ok, poolAccountId_eq_ok, State.transfer_eq_ok,
    return_eq_ok] at left
  obtain ⟨_, ⟨-, rfl⟩, _, ⟨-, rfl⟩, _, -, _, -, ⟨_, _⟩, released, _, ⟨ledger, moved, rfl⟩, rfl⟩ :=
    left
  obtain ⟨_, -, -, -, rfl, -⟩ := releaseStake_ok released
  split_ifs
  · exact ⟨rfl, rfl, moved⟩
  · exact ⟨rfl, rfl, moved⟩

/-- A deposit that can leave a pool can do so in any state with nothing to forfeit. -/
theorem leavePool_free
    (left : leavePool cfg s who slot globalPool liqPool deposit reward unclaimable = .ok t)
    (u : State) :
    ∃ v, leavePool cfg u who slot globalPool liqPool deposit 0 0 = .ok v := by
  simp only [leavePool, bind_eq_ok, State.transfer_eq_ok, return_eq_ok] at left ⊢
  obtain ⟨_, first, _, second, _, third, _, fourth, ⟨_, _⟩, released, -⟩ := left
  have covered : ∀ currency sender receiver, ∃ ledger,
      u.ledger.transfer currency sender receiver 0 = some ledger := fun _ _ _ =>
    Option.isSome_iff_exists.mp (Ledger.transfer_isSome_iff.mpr (Nat.zero_le _))
  obtain ⟨ledger, moved⟩ := covered _ _ _
  exact ⟨_, _, first, _, second, _, third, _, fourth, _, released, _, ⟨ledger, moved, rfl⟩, rfl⟩

/-- Two states with the same shares in custody return the shares of a deposit alike. -/
theorem returnLpShares_alike {assetPair : AssetPair} {farmId liqPoolId shares : ℕ}
    (amm : u.amm = s.amm) (held : u.ledger.free accountId = s.ledger.free accountId)
    (returned : returnLpShares s who assetPair farmId liqPoolId shares = .ok t) :
    ∃ v, returnLpShares u who assetPair farmId liqPoolId shares = .ok v ∧ v.nft = u.nft ∧
      ∀ account currency, account ≠ accountId → ∃ gain,
        t.ledger.free account currency = s.ledger.free account currency + gain ∧
          v.ledger.free account currency = u.ledger.free account currency + gain := by
  unfold returnLpShares at returned ⊢
  rw [amm]
  split_ifs at returned ⊢ with present
  · simp only [bind_eq_ok, State.transfer_eq_ok, return_eq_ok] at returned ⊢
    obtain ⟨_, ⟨ledger, moved, rfl⟩, rfl⟩ := returned
    have covered := Ledger.covered_of_transfer moved
    rw [← held] at covered
    obtain ⟨ledger', moved'⟩ :=
      Option.isSome_iff_exists.mp (Ledger.transfer_isSome_iff.mpr covered)
    refine ⟨_, ⟨_, ⟨ledger', moved', rfl⟩, rfl⟩, rfl, ?_⟩
    intro account currency other
    exact ⟨_, Ledger.free_transfer_of_ne_sender moved other currency,
      Ledger.free_transfer_of_ne_sender moved' other currency⟩
  · rw [return_eq_ok] at returned
    subst returned
    exact ⟨u, rfl, rfl, fun _ _ _ => ⟨0, rfl, rfl⟩⟩

/-- Two states with the same NFTs and shares in custody finish a withdrawal alike. -/
theorem finishWithdrawal_alike {metadata : Metadata} {nftId : ℕ} {poolRemoved : Bool}
    (nft : u.nft = s.nft) (amm : u.amm = s.amm)
    (held : u.ledger.free accountId = s.ledger.free accountId)
    (shares : deposit'.shares = deposit.shares)
    (finished : finishWithdrawal cfg s who nftId metadata deposit poolRemoved = .ok t) :
    ∃ v, finishWithdrawal cfg u who nftId metadata deposit' poolRemoved = .ok v ∧
      ∀ account currency, account ≠ accountId → ∃ gain,
        t.ledger.free account currency = s.ledger.free account currency + gain ∧
          v.ledger.free account currency = u.ledger.free account currency + gain := by
  simp only [finishWithdrawal, bind_eq_ok, mapError_eq_ok] at finished ⊢
  obtain ⟨a, returned, token, burned, released⟩ := finished
  obtain ⟨b, returned', kept, alike⟩ := returnLpShares_alike amm held returned
  obtain ⟨counted, rfl⟩ := releaseMetadata_ok released
  obtain ⟨v, released'⟩ := releaseMetadata_succeeds counted
    { b with nft := token, depositData := b.depositData.erase nftId }
  obtain ⟨-, rfl⟩ := releaseMetadata_ok released'
  have same : a.nft = b.nft := by
    obtain ⟨_, _, -, -, rfl⟩ := returnLpShares_ok returned
    rw [kept, nft]
  rw [same] at burned
  rw [shares]
  exact ⟨_, ⟨b, returned', token, burned, released'⟩, alike⟩

/-- Claiming for a deposit that was not yet claimed in the period. -/
theorem claimRewards_of_claimed {nftId : ℕ} {metadata : Metadata}
    (valid : 4294967296 < nftId)
    (known : s.liquidityPoolMetadata.lookup (poolIdOf nftId) = some metadata)
    (recorded : s.depositData.lookup nftId = some deposit)
    (owned : s.nft.owner (cfg.nftClass, nftId) = some who)
    (farm : s.globalPoolData.lookup metadata.farmId = some globalPool)
    (pool : s.liquidityPoolData.lookup (metadata.slot cfg) = some liqPool)
    (active : liqPool.canceled = false) (proper : globalPool.blocksPerPeriod ≠ 0)
    (unpaid : deposit.updatedAt ≠ s.period globalPool)
    (updated : maybeUpdatePools cfg s globalPool liqPool (s.period globalPool) =
      .ok (s', globalPool', liqPool'))
    (claimed : doClaimRewards cfg s' who deposit liqPool' (s.period globalPool)
      globalPool'.rewardCurrency = .ok (s'', deposit', reward, unclaimable)) :
    ∃ events, claimRewards cfg s who nftId = .ok { s'' with
      events
      globalPoolData := s''.globalPoolData.insert metadata.farmId globalPool'
      liquidityPoolData := s''.liquidityPoolData.insert (metadata.slot cfg) liqPool'
      depositData := s''.depositData.insert nftId deposit' } := by
  refine ⟨_, claimRewards_eq_ok.mpr ⟨metadata, deposit, globalPool, liqPool, s', globalPool',
    liqPool', s'', deposit', reward, unclaimable, ?_, rfl⟩⟩
  exact ⟨⟨farm, pool, updated⟩, valid, known, recorded, owned, active, proper, unpaid, claimed⟩

/-- A deposit that was just claimed is claimed for nothing. -/
theorem doClaimRewards_again {currency : AssetId}
    (claimed : doClaimRewards cfg s who deposit liqPool now currency =
      .ok (s', deposit', reward, unclaimable)) (u : State) :
    doClaimRewards cfg u who deposit' liqPool now currency = .ok (u, deposit', 0, 0) := by
  obtain ⟨entered, paid⟩ : deposit'.enteredAt ≤ now ∧ deposit'.updatedAt = now := by
    obtain ⟨entered, ⟨paid, -, rfl, -⟩ | ⟨_, _, -, -, -, -, -, rfl⟩⟩ := doClaimRewards_ok claimed
    · exact ⟨entered, paid⟩
    · exact ⟨entered, rfl⟩
  simp only [doClaimRewards, bind_eq_ok, okOr_eq_ok, checkedSub_eq_some]
  exact ⟨_, ⟨entered, rfl⟩, if_pos paid⟩

/-- Bringing a pool up to date and claiming change only balances, events and the deposit. -/
theorem claimed_frame {currency : AssetId}
    (updated : maybeUpdatePools cfg s globalPool liqPool now = .ok (s', globalPool', liqPool'))
    (claimed : doClaimRewards cfg s' who deposit liqPool' now currency =
      .ok (s'', deposit', reward, unclaimable)) :
    (∃ ledger events, s'' = { s with ledger, events }) ∧ deposit'.shares = deposit.shares := by
  obtain ⟨⟨_, _, -, rfl⟩, -, -, -⟩ := updated_of_maybeUpdatePools updated
  obtain ⟨-, ⟨-, rfl, rfl, -⟩ | ⟨_, _, -, -, -, -, rfl, rfl⟩⟩ := doClaimRewards_ok claimed
  · exact ⟨⟨_, _, rfl⟩, rfl⟩
  · exact ⟨⟨_, _, rfl⟩, rfl⟩

/-- Loyalty makes a deposit forfeit nothing only if it is complete or there is nothing to
forfeit. -/
theorem forfeitsNothing_iff (lawful : cfg.math.Lawful)
    (updated : maybeUpdatePools cfg s globalPool liqPool (s.period globalPool) =
      .ok (s', globalPool', liqPool'))
    (unpaid : deposit.updatedAt ≠ s.period globalPool)
    (claimed : doClaimRewards cfg s' who deposit liqPool' (s.period globalPool)
      globalPool'.rewardCurrency = .ok (s'', deposit', reward, unclaimable)) :
    ForfeitsNothing cfg s globalPool liqPool deposit ↔ unclaimable = 0 := by
  obtain ⟨-, ⟨paid, -⟩ | ⟨loyalty, _, -, loyal, priced, -⟩⟩ := doClaimRewards_ok claimed
  · exact absurd paid unpaid
  · obtain ⟨_, _, _, kept⟩ := (updated_of_maybeUpdatePools updated).poolKept
    have curve : liqPool'.loyaltyCurve = liqPool.loyaltyCurve := by rw [kept]
    rw [curve] at loyal
    have atMostOne := getLoyaltyMultiplier_le_one lawful loyal
    have shrunk := FixedU128.mulInt_le_of_le_one atMostOne (earned liqPool' deposit)
    obtain ⟨-, -, forfeited⟩ := lawful.userReward priced
    change unclaimable = earned liqPool' deposit -
      FixedU128.mulInt loyalty (earned liqPool' deposit) at forfeited
    have whole : unclaimable = 0 ↔
        FixedU128.mulInt loyalty (earned liqPool' deposit) = earned liqPool' deposit := by
      omega
    rw [whole, FixedU128.mulInt_eq_self_iff atMostOne, ForfeitsNothing, loyal, Except.ok.injEq,
      accruedRpvs_of_maybeUpdatePools updated]
    simp only [Option.mem_some_iff, forall_eq']
    rfl

end Parts

section Exit

variable {cfg : Config} {s t : State} {key nftId : ℕ} {metadata : Metadata}
variable {globalPool : GlobalPool} {liqPool : LiquidityPoolYieldFarm} {deposit : Deposit}

/-- A deposit that can be withdrawn can be claimed first.  Both ways are the same, but for what
goes back from the account of the pool to that of the farm. -/
theorem withdrawn_after_claim
    (known : s.liquidityPoolMetadata.lookup (poolIdOf nftId) = some metadata)
    (recorded : s.depositData.lookup nftId = some deposit)
    (farm : s.globalPoolData.lookup metadata.farmId = some globalPool)
    (pool : s.liquidityPoolData.lookup (metadata.slot cfg) = some liqPool)
    (active : liqPool.canceled = false) (unclaimed : deposit.updatedAt ≠ s.period globalPool)
    (alone : withdrawShares cfg s (.signer key) nftId = .ok t) :
    ∃ mid u, claimRewards cfg s (.signer key) nftId = .ok mid ∧
      withdrawShares cfg mid (.signer key) nftId = .ok u ∧
      ∃ s' globalPool' liqPool' s'' deposit' reward unclaimable ledger ledger',
        maybeUpdatePools cfg s globalPool liqPool (s.period globalPool) =
          .ok (s', globalPool', liqPool') ∧
        doClaimRewards cfg s' (.signer key) deposit liqPool' (s.period globalPool)
          globalPool'.rewardCurrency = .ok (s'', deposit', reward, unclaimable) ∧
        s''.ledger.transfer globalPool'.rewardCurrency (.palletSubAccount liqPool'.id)
          (.palletSubAccount globalPool'.id) unclaimable = some ledger ∧
        s''.ledger.transfer globalPool'.rewardCurrency (.palletSubAccount liqPool'.id)
          (.palletSubAccount globalPool'.id) 0 = some ledger' ∧
        ∀ account currency, account ≠ accountId → ∃ gain,
          t.ledger.free account currency = ledger.free account currency + gain ∧
            u.ledger.free account currency = ledger'.free account currency + gain := by
  obtain ⟨_, _, _, _, _, ⟨owned, valid, -⟩, -⟩ := withdrawShares_ok alone
  rw [withdrawShares_eq owned valid known recorded, bind_eq_ok, settleWithdrawal, pool] at alone
  obtain ⟨a, settled, finished⟩ := alone
  obtain ⟨proper, s', globalPool', liqPool', s'', deposit', reward, unclaimable, updated,
    claimed, left⟩ := (withdrawFromLiqPool_eq_ok farm).mp settled
  obtain ⟨events, claims⟩ := claimRewards_of_claimed valid known recorded owned farm pool active
    proper unclaimed updated claimed
  obtain ⟨⟨_, _, paid⟩, shares⟩ := claimed_frame updated claimed
  have periods : globalPool'.blocksPerPeriod = globalPool.blocksPerPeriod := by
    obtain ⟨_, _, _, _, kept⟩ := (updated_of_maybeUpdatePools updated).farmKept
    rw [kept]
  -- in the state after the claim the pool is up to date and the deposit was claimed
  set mid : State := { s'' with
    events
    globalPoolData := s''.globalPoolData.insert metadata.farmId globalPool'
    liquidityPoolData := s''.liquidityPoolData.insert (metadata.slot cfg) liqPool'
    depositData := s''.depositData.insert nftId deposit' } with claimedState
  obtain ⟨b, left'⟩ := leavePool_free left mid
  obtain ⟨nft, amm, moved⟩ := leavePool_ok left
  obtain ⟨nft', amm', moved'⟩ := leavePool_ok left'
  have settled' : withdrawFromLiqPool cfg mid (.signer key) (metadata.slot cfg) liqPool' deposit' =
      .ok b := by
    have period : mid.period globalPool' = s.period globalPool := by
      rw [State.period, claimedState, paid, periods]
      rfl
    refine (withdrawFromLiqPool_eq_ok (AList.lookup_insert _)).mpr ⟨periods ▸ proper, ?_⟩
    rw [period]
    exact ⟨_, _, _, _, _, _, _, maybeUpdatePools_again updated mid,
      doClaimRewards_again claimed mid, left'⟩
  have held : b.ledger.free accountId = a.ledger.free accountId := by
    have other := accountId_ne_palletSubAccount
    ext currency
    exact (Ledger.free_transfer_of_ne moved' (other _) (other _) currency).trans
      (Ledger.free_transfer_of_ne moved (other _) (other _) currency).symm
  obtain ⟨u, finished', alike⟩ := finishWithdrawal_alike (nft'.trans nft.symm)
    (amm'.trans amm.symm) held shares finished
  refine ⟨mid, u, claims, ?_, s', globalPool', liqPool', s'', deposit', reward, unclaimable,
    a.ledger, b.ledger, updated, claimed, moved, moved', alike⟩
  have owned' : mid.nft.owner (cfg.nftClass, nftId) = some (.signer key) := by
    rw [claimedState, paid]
    exact owned
  have known' : mid.liquidityPoolMetadata.lookup (poolIdOf nftId) = some metadata := by
    rw [claimedState, paid]
    exact known
  have pool' : mid.liquidityPoolData.lookup (metadata.slot cfg) = some liqPool' :=
    AList.lookup_insert _
  rw [withdrawShares_eq owned' valid known' (AList.lookup_insert _), bind_eq_ok,
    settleWithdrawal, pool']
  exact ⟨b, settled', finished'⟩

/-- A deposit that can be withdrawn can be claimed first, and then the owner, the pool and the
farm end with the same balances exactly if the deposit forfeits nothing. -/
theorem claim_then_exit_iff (lawful : cfg.math.Lawful)
    (reachable : Reachable (Initial cfg) (Step cfg) s)
    (known : s.liquidityPoolMetadata.lookup (poolIdOf nftId) = some metadata)
    (recorded : s.depositData.lookup nftId = some deposit)
    (farm : s.globalPoolData.lookup metadata.farmId = some globalPool)
    (pool : s.liquidityPoolData.lookup (metadata.slot cfg) = some liqPool)
    (active : liqPool.canceled = false) (unclaimed : deposit.updatedAt ≠ s.period globalPool)
    (alone : withdrawShares cfg s (.signer key) nftId = .ok t) :
    ∃ mid u, claimRewards cfg s (.signer key) nftId = .ok mid ∧
      withdrawShares cfg mid (.signer key) nftId = .ok u ∧
      ((∀ account ∈ [AccountId.signer key, .palletSubAccount liqPool.id,
          .palletSubAccount globalPool.id], ∀ currency,
        u.ledger.free account currency = t.ledger.free account currency) ↔
      ForfeitsNothing cfg s globalPool liqPool deposit) := by
  have consistent := consistent_of_reachable reachable
  obtain ⟨mid, u, claims, withdrawn, s', globalPool', liqPool', s'', deposit', reward,
    unclaimable, ledger, ledger', updated, claimed, moved, moved', alike⟩ :=
    withdrawn_after_claim known recorded farm pool active unclaimed alone
  refine ⟨mid, u, claims, withdrawn, ?_⟩
  rw [forfeitsNothing_iff lawful updated unclaimed claimed]
  have apart : AccountId.palletSubAccount liqPool'.id ≠ .palletSubAccount globalPool'.id := by
    obtain ⟨_, _, _, _, farmKept⟩ := (updated_of_maybeUpdatePools updated).farmKept
    obtain ⟨_, _, _, poolKept⟩ := (updated_of_maybeUpdatePools updated).poolKept
    rw [farmKept, poolKept]
    intro same
    apply consistent.liqPool_ne_farm pool farm
    rw [← (consistent.farms _ _ farm).id]
    exact AccountId.palletSubAccount.inj same
  have poolId : liqPool'.id = liqPool.id := by
    obtain ⟨_, _, _, poolKept⟩ := (updated_of_maybeUpdatePools updated).poolKept
    rw [poolKept]
  constructor
  · intro agree
    -- only alone, what is forfeited is taken from the account of the pool
    have same := agree (.palletSubAccount liqPool.id) (by simp) globalPool'.rewardCurrency
    rw [← poolId] at same
    obtain ⟨gain, after, after'⟩ := alike (.palletSubAccount liqPool'.id)
      globalPool'.rewardCurrency (by simp [accountId])
    have sent := Ledger.free_transfer_sender moved apart
    have sent' := Ledger.free_transfer_sender moved' apart
    omega
  · rintro rfl account among currency
    have outside : account ≠ accountId := by
      rintro rfl
      simp [accountId] at among
    obtain ⟨gain, after, after'⟩ := alike account currency outside
    rw [after, after', Option.some.inj (moved'.symm.trans moved)]

/-- In a pool without a loyalty curve nothing is forfeited. -/
theorem claim_then_exit_loyal :
    ∃ s t mid u, simulate [.blocks 100] = .ok s ∧
      withdrawShares .reference s (.signer 1) (encodeNftId 2 1) = .ok t ∧
      claimRewards .reference s (.signer 1) (encodeNftId 2 1) = .ok mid ∧
      withdrawShares .reference mid (.signer 1) (encodeNftId 2 1) = .ok u ∧
      s.ledger.free (.signer 1) 7 < t.ledger.free (.signer 1) 7 ∧
      ∀ account ∈ [AccountId.signer 1, .palletSubAccount 2, .palletSubAccount 1], ∀ currency,
        u.ledger.free account currency = t.ledger.free account currency := by
  have computed : succeedsWith
      (do
        let s ← simulate [.blocks 100]
        let t ← withdrawShares .reference s (.signer 1) (encodeNftId 2 1)
        return (s, t))
      (fun (s, t) => (s.liquidityPoolMetadata.lookup (poolIdOf (encodeNftId 2 1))).any
          (fun metadata => (s.globalPoolData.lookup metadata.farmId).any fun globalPool =>
            (s.liquidityPoolData.lookup (metadata.slot .reference)).any fun liqPool =>
              (s.depositData.lookup (encodeNftId 2 1)).any fun deposit =>
                decide (liqPool.canceled = false ∧ deposit.updatedAt ≠ s.period globalPool ∧
                  liqPool.id = 2 ∧ globalPool.id = 1 ∧ liqPool.loyaltyCurve = none)) &&
        decide (s.ledger.free (.signer 1) 7 < t.ledger.free (.signer 1) 7)) = true := by
    decide +kernel
  simp only [succeedsWith_iff, bind_eq_ok, return_eq_ok, Prod.exists, Prod.mk.injEq,
    Bool.and_eq_true, Option.any_eq_true, decide_eq_true_eq] at computed
  obtain ⟨_, _, ⟨s, made, t, alone, rfl, rfl⟩, ⟨metadata, known, globalPool, farm, liqPool, pool,
    deposit, recorded, active, unclaimed, poolId, farmId, curve⟩, gained⟩ := computed
  obtain ⟨mid, u, claims, withdrawn, agree⟩ := claim_then_exit_iff Math.reference_lawful
    (reachable_of_simulate made) known recorded farm pool active unclaimed alone
  rw [poolId, farmId] at agree
  refine ⟨s, t, mid, u, made, alone, claims, withdrawn, gained, agree.mpr (.inl ?_)⟩
  rw [curve]
  rfl

/-- With a loyalty curve, what a deposit forfeits stays in the account of the pool if it is
claimed before it is withdrawn. -/
theorem claim_then_exit_differs :
    ¬ ∀ (cfg : Config) (s t mid u : State) (key nftId : ℕ) (metadata : Metadata)
        (globalPool : GlobalPool) (liqPool : LiquidityPoolYieldFarm) (deposit : Deposit),
      cfg.math.Lawful → Reachable (Initial cfg) (Step cfg) s →
      s.liquidityPoolMetadata.lookup (poolIdOf nftId) = some metadata →
      s.depositData.lookup nftId = some deposit →
      s.globalPoolData.lookup metadata.farmId = some globalPool →
      s.liquidityPoolData.lookup (metadata.slot cfg) = some liqPool →
      liqPool.id = poolIdOf nftId → liqPool.canceled = false →
      deposit.updatedAt ≠ s.period globalPool →
      withdrawShares cfg s (.signer key) nftId = .ok t →
      claimRewards cfg s (.signer key) nftId = .ok mid →
      withdrawShares cfg mid (.signer key) nftId = .ok u →
      ∀ account ∈ [AccountId.signer key, .palletSubAccount liqPool.id,
        .palletSubAccount globalPool.id], ∀ currency,
        u.ledger.free account currency = t.ledger.free account currency := by
  intro claim
  have computed : succeedsWith
      (do
        let s ← simulate [.call (.addLiquidityPool 0 1 ⟨1, 3⟩ FixedU128.one
            (some ⟨FixedU128.one / 2, 10⟩)),
          .call (.depositShares 2 1 ⟨1, 3⟩ 500), .blocks 100]
        let t ← withdrawShares .reference s (.signer 2) (encodeNftId 3 2)
        let mid ← claimRewards .reference s (.signer 2) (encodeNftId 3 2)
        let u ← withdrawShares .reference mid (.signer 2) (encodeNftId 3 2)
        return (s, t, mid, u))
      (fun (s, t, _, u) => (s.liquidityPoolMetadata.lookup (poolIdOf (encodeNftId 3 2))).any
          (fun metadata => (s.globalPoolData.lookup metadata.farmId).any fun globalPool =>
            (s.liquidityPoolData.lookup (metadata.slot .reference)).any fun liqPool =>
              (s.depositData.lookup (encodeNftId 3 2)).any fun deposit =>
                decide (liqPool.id = poolIdOf (encodeNftId 3 2) ∧ liqPool.canceled = false ∧
                  deposit.updatedAt ≠ s.period globalPool ∧ globalPool.id = 1)) &&
        decide (u.ledger.free (.palletSubAccount 1) 7 < t.ledger.free (.palletSubAccount 1) 7)) =
        true := by
    decide +kernel
  simp only [succeedsWith_iff, bind_eq_ok, return_eq_ok, Prod.exists, Prod.mk.injEq,
    Bool.and_eq_true, Option.any_eq_true, decide_eq_true_eq] at computed
  obtain ⟨_, _, _, _, ⟨s, made, t, alone, mid, claims, u, withdrawn, rfl, rfl, rfl, rfl⟩,
    ⟨metadata, known, globalPool, farm, liqPool, pool, deposit, recorded, own, active, unclaimed,
    farmId⟩, less⟩ := computed
  have agree := claim .reference s t mid u 2 (encodeNftId 3 2) metadata globalPool liqPool
    deposit Math.reference_lawful (reachable_of_simulate made) known recorded farm pool own active
    unclaimed alone claims withdrawn (.palletSubAccount globalPool.id) (by simp) 7
  rw [farmId] at agree
  exact absurd agree less.ne

end Exit

end Basilisk.LiquidityMining
