/-
# A deposit is settled against its own pool

Claiming and withdrawing read and write one storage slot of `LiquidityPoolData`.
As long as no pool is added where an older deposit leads, that slot holds the
deposit's own pool; once that pool is removed, a withdrawal pays no reward and
hands back exactly the deposited shares.
-/

import Basilisk.LiquidityMining.Custody

namespace Basilisk.LiquidityMining

open Basilisk.Math

/-- The state with another table of liquidity pools. -/
def State.withPools (s : State)
    (pools : AList fun _ : Slot => LiquidityPoolYieldFarm) : State :=
  { s with liquidityPoolData := pools }

/-- A state up to the pools outside of one slot. -/
def State.viewAt (slot : Slot) (s : State) :
    State × Option LiquidityPoolYieldFarm :=
  (s.withPools ∅, s.liquidityPoolData.lookup slot)

section Noninterference

variable {cfg : Config} {s : State} {pools : AList fun _ : Slot => LiquidityPoolYieldFarm}

theorem transfer_withPools {currency : AssetId} {sender receiver : AccountId} {amount : ℕ} :
    (s.withPools pools).transfer currency sender receiver amount =
      (s.transfer currency sender receiver amount).map (State.withPools · pools) := by
  simp only [State.transfer, map_bind, map_return]
  rfl

theorem depositEvent_withPools {event : Event} :
    (s.withPools pools).depositEvent event = (s.depositEvent event).withPools pools := rfl

theorem refreshGlobalPool_withPools {globalPool : GlobalPool} {now : ℕ} :
    refreshGlobalPool cfg (s.withPools pools) globalPool now =
      (refreshGlobalPool cfg s globalPool now).map
        (Prod.map (State.withPools · pools) id) := by
  unfold refreshGlobalPool updateGlobalPool
  split_ifs <;> simp only [map_bind, map_return] <;> rfl

theorem updateLiqPool_withPools {liqPool : LiquidityPoolYieldFarm} {rewards now farmId : ℕ}
    {currency : AssetId} :
    updateLiqPool cfg (s.withPools pools) liqPool rewards now farmId currency =
      (updateLiqPool cfg s liqPool rewards now farmId currency).map
        (Prod.map (State.withPools · pools) id) := by
  unfold updateLiqPool
  split_ifs
  · rfl
  · rfl
  · simp only [map_bind, map_return, depositEvent_withPools, transfer_withPools, bind_map]
    rfl

theorem maybeUpdatePools_withPools {globalPool : GlobalPool}
    {liqPool : LiquidityPoolYieldFarm} {now : ℕ} :
    maybeUpdatePools cfg (s.withPools pools) globalPool liqPool now =
      (maybeUpdatePools cfg s globalPool liqPool now).map
        (Prod.map (State.withPools · pools) id) := by
  unfold maybeUpdatePools
  split_ifs
  · rfl
  · simp only [map_bind, map_return, refreshGlobalPool_withPools, updateLiqPool_withPools,
      bind_map, Prod.map_fst, Prod.map_snd, id_eq]
    rfl
  · rfl

theorem doClaimRewards_withPools {who : AccountId} {deposit : Deposit}
    {liqPool : LiquidityPoolYieldFarm} {now : ℕ} {currency : AssetId} :
    doClaimRewards cfg (s.withPools pools) who deposit liqPool now currency =
      (doClaimRewards cfg s who deposit liqPool now currency).map
        (Prod.map (State.withPools · pools) id) := by
  unfold doClaimRewards
  split_ifs
  · simp only [map_bind, map_return]
    rfl
  · simp only [map_bind, map_return, transfer_withPools, bind_map]
    rfl

/-- Claiming reads and writes only the slot of the deposit. -/
theorem claimRewards_viewAt {who : AccountId} {nftId : ℕ} {metadata : Metadata}
    (known : s.liquidityPoolMetadata.lookup (poolIdOf nftId) = some metadata)
    (agree : pools.lookup (metadata.slot cfg) =
      s.liquidityPoolData.lookup (metadata.slot cfg)) :
    (claimRewards cfg (s.withPools pools) who nftId).map (State.viewAt (metadata.slot cfg)) =
      (claimRewards cfg s who nftId).map (State.viewAt (metadata.slot cfg)) := by
  by_cases valid : 4294967296 < nftId
  · have parsed : getPoolIdFromNftId nftId = .ok (poolIdOf nftId) :=
      getPoolIdFromNftId_eq_ok.mpr ⟨valid, rfl⟩
    have found : okOr (s.liquidityPoolMetadata.lookup (poolIdOf nftId))
        Error.liquidityPoolNotFound = .ok metadata := okOr_eq_ok.mpr known
    have found' : okOr ((s.withPools pools).liquidityPoolMetadata.lookup (poolIdOf nftId))
        Error.liquidityPoolNotFound = .ok metadata := found
    unfold Metadata.slot at agree
    have agree' : (s.withPools pools).liquidityPoolData.lookup
        (metadata.farmId, cfg.getPairId metadata.assetPair) = _ := agree
    simp only [claimRewards, parsed, ok_bind, found, found', agree', map_bind, map_return,
      maybeUpdatePools_withPools, doClaimRewards_withPools, bind_map, Prod.map_fst,
      Prod.map_snd, id_eq, State.viewAt, State.setLiqPool, State.setGlobalPool,
      Metadata.slot, AList.lookup_insert]
    rfl
  · have rejected : getPoolIdFromNftId nftId = .error .invalidNftId := by
      unfold getPoolIdFromNftId ensure
      rw [if_neg valid]
      rfl
    simp only [claimRewards, rejected, error_bind]

theorem releaseMetadata_withPools {liqPoolId : ℕ} {metadata : Metadata} {poolRemoved : Bool} :
    releaseMetadata (s.withPools pools) liqPoolId metadata poolRemoved =
      (releaseMetadata s liqPoolId metadata poolRemoved).map (State.withPools · pools) := by
  unfold releaseMetadata
  split_ifs
  · rfl
  · simp only [map_bind, map_return]
    rfl

theorem returnLpShares_withPools {who : AccountId} {assetPair : AssetPair}
    {farmId liqPoolId shares : ℕ} :
    returnLpShares (s.withPools pools) who assetPair farmId liqPoolId shares =
      (returnLpShares s who assetPair farmId liqPoolId shares).map
        (State.withPools · pools) := by
  have same : (s.withPools pools).amm = s.amm := rfl
  unfold returnLpShares
  rw [same]
  split_ifs
  · simp only [map_bind, map_return, transfer_withPools, bind_map]
    rfl
  · rfl

/-- The table `pools` with one slot taken from the state. -/
def graft (pools : AList fun _ : Slot => LiquidityPoolYieldFarm) (slot : Slot) (t : State) :
    State :=
  t.withPools (match t.liquidityPoolData.lookup slot with
    | some liqPool => pools.insert slot liqPool
    | none => pools)

theorem withdrawFromLiqPool_withPools {who : AccountId} {slot : Slot}
    {liqPool : LiquidityPoolYieldFarm} {deposit : Deposit} :
    withdrawFromLiqPool cfg (s.withPools pools) who slot liqPool deposit =
      (withdrawFromLiqPool cfg s who slot liqPool deposit).map (graft pools slot) := by
  simp only [withdrawFromLiqPool, map_bind, map_return, maybeUpdatePools_withPools,
    doClaimRewards_withPools, transfer_withPools, bind_map, Prod.map_fst, Prod.map_snd,
    id_eq, depositEvent_withPools, ← apply_ite (State.withPools · pools), graft,
    State.setLiqPool, AList.lookup_insert]
  rfl

theorem settleWithdrawal_withPools {who : AccountId} {slot : Slot} {deposit : Deposit}
    (agree : pools.lookup slot = s.liquidityPoolData.lookup slot) :
    settleWithdrawal cfg (s.withPools pools) who slot deposit =
      (settleWithdrawal cfg s who slot deposit).map (graft pools slot) := by
  have agree' : (s.withPools pools).liquidityPoolData.lookup slot = _ := agree
  unfold settleWithdrawal
  rw [agree']
  cases vacant : s.liquidityPoolData.lookup slot with
  | some liqPool => exact withdrawFromLiqPool_withPools
  | none =>
      simp only [Except.map, graft, vacant]

/-- What a withdrawal does once the deposit is settled. -/
def finishWithdrawal (cfg : Config) (t : State) (who : AccountId) (nftId : ℕ)
    (metadata : Metadata) (deposit : Deposit) (poolRemoved : Bool) : Except Error State := do
  let u ← returnLpShares t who metadata.assetPair metadata.farmId (poolIdOf nftId)
    deposit.shares
  let nft ← (Nft.doBurn u.nft who (cfg.nftClass, nftId)).mapError .nft
  releaseMetadata { u with nft, depositData := u.depositData.erase nftId } (poolIdOf nftId)
    metadata poolRemoved

theorem finishWithdrawal_withPools {who : AccountId} {nftId : ℕ} {metadata : Metadata}
    {deposit : Deposit} {poolRemoved : Bool} :
    finishWithdrawal cfg (s.withPools pools) who nftId metadata deposit poolRemoved =
      (finishWithdrawal cfg s who nftId metadata deposit poolRemoved).map
        (State.withPools · pools) := by
  simp only [finishWithdrawal, returnLpShares_withPools, bind_map, map_bind]
  refine bind_congr fun u => bind_congr fun nft => ?_
  have split := @releaseMetadata_withPools { u with nft, depositData := u.depositData.erase nftId }
    pools (poolIdOf nftId) metadata poolRemoved
  exact split

/-- Finishing a withdrawal touches no pool. -/
theorem finishWithdrawal_pools {t : State} {who : AccountId} {nftId : ℕ}
    {metadata : Metadata} {deposit : Deposit} {poolRemoved : Bool}
    (called : finishWithdrawal cfg s who nftId metadata deposit poolRemoved = .ok t) :
    t.liquidityPoolData = s.liquidityPoolData := by
  simp only [finishWithdrawal, bind_eq_ok, mapError_eq_ok] at called
  obtain ⟨u, handed, nft, burned, released⟩ := called
  obtain ⟨ledger, reports, -, -, rfl⟩ := returnLpShares_ok handed
  obtain ⟨-, rfl⟩ := releaseMetadata_ok released
  rfl

/-- A withdrawal settles the deposit and then finishes. -/
theorem withdrawShares_eq {who : AccountId} {nftId : ℕ} {metadata : Metadata}
    {deposit : Deposit}
    (owned : s.nft.owner (cfg.nftClass, nftId) = some who) (valid : 4294967296 < nftId)
    (known : s.liquidityPoolMetadata.lookup (poolIdOf nftId) = some metadata)
    (recorded : s.depositData.lookup nftId = some deposit) :
    withdrawShares cfg s who nftId =
      settleWithdrawal cfg s who (metadata.slot cfg) deposit >>= fun t =>
        finishWithdrawal cfg t who nftId metadata deposit
          (s.liquidityPoolData.lookup (metadata.slot cfg)).isNone := by
  have parsed : getPoolIdFromNftId nftId = .ok (poolIdOf nftId) :=
    getPoolIdFromNftId_eq_ok.mpr ⟨valid, rfl⟩
  simp only [withdrawShares, owned, okOr, ensure, if_true, parsed, known, recorded, ok_bind]
  rfl

/-- The grafted table shows the same pool in the grafted slot. -/
theorem viewAt_graft {slot : Slot} {t u : State}
    (agree : pools.lookup slot = none ∨ (t.liquidityPoolData.lookup slot).isSome = true)
    (same : u.liquidityPoolData = t.liquidityPoolData) :
    State.viewAt slot (u.withPools (graft pools slot t).liquidityPoolData) =
      State.viewAt slot u := by
  unfold State.viewAt
  refine Prod.ext rfl ?_
  rw [same]
  show (graft pools slot t).liquidityPoolData.lookup slot = _
  unfold graft State.withPools
  dsimp only
  cases stored : t.liquidityPoolData.lookup slot with
  | some liqPool => exact AList.lookup_insert pools
  | none => exact agree.resolve_right (by rw [stored]; nofun)

/-- A settlement leaves its slot as it was if it is vacant, and filled otherwise. -/
theorem settleWithdrawal_slot {who : AccountId} {slot : Slot} {deposit : Deposit} {t : State}
    (called : settleWithdrawal cfg s who slot deposit = .ok t) :
    s.liquidityPoolData.lookup slot = none ∨
      (t.liquidityPoolData.lookup slot).isSome = true := by
  obtain ⟨vacant, -⟩ | ⟨_, -, settled⟩ := settleWithdrawal_ok called
  · exact .inl vacant
  · obtain ⟨_, _, _, _, _, _, _, _, _, _, -, rfl⟩ := withdrawFromLiqPool_ok settled
    exact .inr (by simp [State.put, State.setLiqPool])

theorem settled_viewAt {who : AccountId} {nftId : ℕ} {metadata : Metadata} {deposit : Deposit}
    {slot : Slot} {poolRemoved : Bool}
    (agree : pools.lookup slot = s.liquidityPoolData.lookup slot) :
    (settleWithdrawal cfg (s.withPools pools) who slot deposit >>= fun t =>
        finishWithdrawal cfg t who nftId metadata deposit poolRemoved).map
          (State.viewAt slot) =
      (settleWithdrawal cfg s who slot deposit >>= fun t =>
        finishWithdrawal cfg t who nftId metadata deposit poolRemoved).map
          (State.viewAt slot) := by
  rw [settleWithdrawal_withPools agree, bind_map, map_bind, map_bind]
  cases settled : settleWithdrawal cfg s who slot deposit with
  | error e => rfl
  | ok t =>
      rw [ok_bind, ok_bind]
      have grafted : graft pools slot t =
          t.withPools (graft pools slot t).liquidityPoolData := rfl
      rw [grafted, finishWithdrawal_withPools]
      cases finished : finishWithdrawal cfg t who nftId metadata deposit poolRemoved with
      | error e => rfl
      | ok u =>
          have filled := settleWithdrawal_slot settled
          rw [← agree] at filled
          exact congrArg Except.ok (viewAt_graft filled (finishWithdrawal_pools finished))

/-- Withdrawing reads and writes only the slot of the deposit. -/
theorem withdrawShares_viewAt {who : AccountId} {nftId : ℕ} {metadata : Metadata}
    (known : s.liquidityPoolMetadata.lookup (poolIdOf nftId) = some metadata)
    (agree : pools.lookup (metadata.slot cfg) =
      s.liquidityPoolData.lookup (metadata.slot cfg)) :
    (withdrawShares cfg (s.withPools pools) who nftId).map
        (State.viewAt (metadata.slot cfg)) =
      (withdrawShares cfg s who nftId).map (State.viewAt (metadata.slot cfg)) := by
  have found : okOr (s.liquidityPoolMetadata.lookup (poolIdOf nftId))
      Error.liquidityPoolNotFound = .ok metadata := okOr_eq_ok.mpr known
  have found' : okOr ((s.withPools pools).liquidityPoolMetadata.lookup (poolIdOf nftId))
      Error.liquidityPoolNotFound = .ok metadata := found
  have agree' : (s.withPools pools).liquidityPoolData.lookup
      (metadata.farmId, cfg.getPairId metadata.assetPair) = _ := agree
  unfold withdrawShares
  refine map_bind_congr fun holder => map_bind_congr fun _ => ?_
  cases parsed : getPoolIdFromNftId nftId with
  | error e => rfl
  | ok liqPoolId =>
      obtain ⟨-, rfl⟩ := getPoolIdFromNftId_eq_ok.mp parsed
      rw [ok_bind, ok_bind, found, found', ok_bind, ok_bind]
      refine map_bind_congr fun deposit => ?_
      dsimp only
      rw [agree']
      exact settled_viewAt agree

end Noninterference

section Frame

variable {cfg : Config} {s s' t : State} {globalPool globalPool' : GlobalPool}
variable {liqPool liqPool' : LiquidityPoolYieldFarm} {nftId : ℕ}

/-- Bringing a pool up to date keeps its id, and no pool is stored. -/
theorem maybeUpdatePools_frame {now : ℕ}
    (called : maybeUpdatePools cfg s globalPool liqPool now = .ok (s', globalPool', liqPool')) :
    s'.liquidityPoolData = s.liquidityPoolData ∧ liqPool'.id = liqPool.id := by
  obtain ⟨⟨ledger, reports, -, rfl⟩, -, -, ⟨_, _, _, rfl⟩⟩ := updated_of_maybeUpdatePools called
  exact ⟨rfl, rfl⟩

theorem doClaimRewards_frame {who : AccountId} {deposit deposit' : Deposit}
    {now reward unclaimable : ℕ} {currency : AssetId}
    (called : doClaimRewards cfg s who deposit liqPool now currency =
      .ok (s', deposit', reward, unclaimable)) :
    s'.liquidityPoolData = s.liquidityPoolData := by
  obtain ⟨-, ⟨-, rfl, -⟩ | ⟨_, _, -, -, -, -, rfl, -⟩⟩ := doClaimRewards_ok called
  · rfl
  · rfl

/-- The pools of two states differ at most in the slot a deposit leads to, which
keeps its pool. -/
def WritesOwnSlot (cfg : Config) (s : State) (nftId : ℕ) (t : State) : Prop :=
  t.liquidityPoolData = s.liquidityPoolData ∨
    ∃ metadata liqPool liqPool',
      s.liquidityPoolMetadata.lookup (poolIdOf nftId) = some metadata ∧
      s.liquidityPoolData.lookup (metadata.slot cfg) = some liqPool ∧
      t.liquidityPoolData = s.liquidityPoolData.insert (metadata.slot cfg) liqPool' ∧
      liqPool'.id = liqPool.id

/-- In own slots, every other pool is left as it is. -/
theorem WritesOwnSlot.others (writes : WritesOwnSlot cfg s nftId t) (own : OwnSlots cfg s)
    {slot : Slot} (other : liqPool.id ≠ poolIdOf nftId) :
    t.liquidityPoolData.lookup slot = some liqPool ↔
      s.liquidityPoolData.lookup slot = some liqPool := by
  obtain same | ⟨metadata, old, new, known, pool, written, id⟩ := writes
  · rw [same]
  · have mine := own _ _ _ known pool
    rw [written, AList.lookup_insert_eq_ite]
    split_ifs with place
    · subst place
      rw [pool, Option.some.injEq, Option.some.injEq]
      constructor
      · rintro rfl
        exact absurd (id.trans mine) other
      · rintro rfl
        exact absurd mine other
    · rfl

theorem claimRewards_frame {who : AccountId}
    (called : claimRewards cfg s who nftId = .ok t) : WritesOwnSlot cfg s nftId t := by
  obtain ⟨metadata, _, _, liqPool, _, _, liqPool', _, _, _, _, done, rfl⟩ :=
    claimRewards_eq_ok.mp called
  obtain ⟨pools, id⟩ := maybeUpdatePools_frame done.updated
  have pools' := doClaimRewards_frame done.claimed
  refine .inr ⟨metadata, liqPool, liqPool', done.known, done.pool, ?_, id⟩
  rw [← pools, ← pools']
  rfl

theorem withdrawFromLiqPool_frame {who : AccountId} {slot : Slot} {deposit : Deposit}
    (called : withdrawFromLiqPool cfg s who slot liqPool deposit = .ok t) :
    ∃ liqPool', t.liquidityPoolData = s.liquidityPoolData.insert slot liqPool' ∧
      liqPool'.id = liqPool.id := by
  obtain ⟨_, _, _, liqPool', _, deposit', _, _, stake, _, left, rfl⟩ :=
    withdrawFromLiqPool_ok called
  obtain ⟨pools, id⟩ := maybeUpdatePools_frame left.updated
  have pools' := doClaimRewards_frame left.claimed
  refine ⟨{ liqPool' with
    totalShares := liqPool'.totalShares - deposit'.shares
    totalValuedShares := liqPool'.totalValuedShares - deposit'.valuedShares
    stakeInGlobalPool := liqPool'.stakeInGlobalPool - stake }, ?_, id⟩
  rw [← pools, ← pools']
  rfl

theorem withdrawShares_frame {who : AccountId}
    (called : withdrawShares cfg s who nftId = .ok t) : WritesOwnSlot cfg s nftId t := by
  obtain ⟨metadata, _, u, _, _, done, rfl⟩ := withdrawShares_ok called
  obtain ⟨_, _, -, -, rfl⟩ := returnLpShares_ok done.handed
  obtain ⟨-, rfl⟩ | ⟨liqPool, pool, settled⟩ := settleWithdrawal_ok done.settled
  · exact .inl rfl
  · obtain ⟨liqPool', written, id⟩ := withdrawFromLiqPool_frame settled
    exact .inr ⟨metadata, liqPool, liqPool', done.known, pool, written, id⟩

end Frame

section Removed

variable {cfg : Config} {s t : State} {nftId key : ℕ} {metadata : Metadata}
variable {deposit : Deposit}

/-- The shares of a recorded deposit can be returned. -/
theorem InCustody.transfer_isSome (custody : InCustody cfg s)
    (known : s.liquidityPoolMetadata.lookup (poolIdOf nftId) = some metadata)
    (recorded : s.depositData.lookup nftId = some deposit)
    (present : s.amm.poolExists metadata.assetPair = true) :
    deposit.shares ≤
      s.ledger.free accountId (s.amm.getShareToken metadata.assetPair) := by
  rw [custody.lawful _ present]
  refine le_trans ?_ (custody.held _)
  have own : depositToken cfg s.liquidityPoolMetadata nftId =
      some (cfg.shareTokenOf (cfg.getPairId metadata.assetPair)) := by
    unfold depositToken
    rw [known, Option.map_some]
  have counted := AList.weight_le_total (fun nftId (deposit : Deposit) =>
    if depositToken cfg s.liquidityPoolMetadata nftId =
      some (cfg.shareTokenOf (cfg.getPairId metadata.assetPair)) then deposit.shares else 0)
    recorded
  rw [if_pos own] at counted
  exact counted

/-- What a finished withdrawal did: it moved the shares and nothing else, and left
farms and pools alone. -/
structure HandedBack (s : State) (assetPair : AssetPair) (who : AccountId) (shares : ℕ)
    (t : State) : Prop where
  moved : s.ledger.transfer (s.amm.getShareToken assetPair) accountId who shares =
    some t.ledger
  farms : t.globalPoolData = s.globalPoolData
  pools : t.liquidityPoolData = s.liquidityPoolData
  unrewarded : claimedIn t.events = claimedIn s.events

/-- A counted deposit can be taken off the count. -/
theorem releaseMetadata_succeeds {liqPoolId : ℕ} {poolRemoved : Bool}
    (counted : 1 ≤ metadata.nftsCount) (u : State) :
    ∃ t, releaseMetadata u liqPoolId metadata poolRemoved = .ok t := by
  unfold releaseMetadata
  split_ifs
  · exact ⟨_, rfl⟩
  · exact ⟨_, bind_eq_ok.mpr ⟨_, okOr_eq_ok.mpr (checkedSub_eq_some.mpr ⟨counted, rfl⟩), rfl⟩⟩

/-- A withdrawal is finished if the shares are there, the NFT is owned and the
deposit is counted. -/
theorem finishWithdrawal_succeeds {poolRemoved : Bool}
    (owned : s.nft.owner (cfg.nftClass, nftId) = some (.signer key))
    (present : s.amm.poolExists metadata.assetPair = true)
    (held : deposit.shares ≤
      s.ledger.free accountId (s.amm.getShareToken metadata.assetPair))
    (counted : 1 ≤ metadata.nftsCount) :
    ∃ t, finishWithdrawal cfg s (.signer key) nftId metadata deposit poolRemoved = .ok t ∧
      HandedBack s metadata.assetPair (.signer key) deposit.shares t := by
  obtain ⟨ledger, moved⟩ := Option.isSome_iff_exists.mp (Ledger.transfer_isSome_iff.mpr held)
  obtain ⟨nft, burned⟩ := Nft.doBurn_succeeds owned
  have handed : returnLpShares s (.signer key) metadata.assetPair metadata.farmId
      (poolIdOf nftId) deposit.shares = .ok (State.depositEvent { s with ledger }
        (.sharesWithdrawn metadata.farmId (poolIdOf nftId) (.signer key)
          (s.amm.getShareToken metadata.assetPair) deposit.shares)) := by
    simp only [returnLpShares, if_pos present, bind_eq_ok, State.transfer_eq_ok,
      return_eq_ok]
    exact ⟨_, ⟨ledger, moved, rfl⟩, rfl⟩
  obtain ⟨t, done⟩ := releaseMetadata_succeeds counted _
  refine ⟨t, ?_, ?_⟩
  · simp only [finishWithdrawal, bind_eq_ok, mapError_eq_ok]
    exact ⟨_, handed, nft, burned, done⟩
  · obtain ⟨-, rfl⟩ := releaseMetadata_ok done
    exact ⟨moved, rfl, rfl, claimedIn_append _ _⟩

theorem Consistent.counted (consistent : Consistent cfg s.blockNumber s.toStorage)
    (known : s.liquidityPoolMetadata.lookup (poolIdOf nftId) = some metadata)
    (recorded : s.depositData.lookup nftId = some deposit) : 1 ≤ metadata.nftsCount := by
  rw [(consistent.metadata _ _ known).counted]
  exact depositsOf_pos recorded

/-- A deposit whose slot is vacant is handed back. -/
theorem withdrawShares_vacant (consistent : Consistent cfg s.blockNumber s.toStorage)
    (custody : InCustody cfg s)
    (known : s.liquidityPoolMetadata.lookup (poolIdOf nftId) = some metadata)
    (recorded : s.depositData.lookup nftId = some deposit)
    (owned : s.nft.owner (cfg.nftClass, nftId) = some (.signer key))
    (present : s.amm.poolExists metadata.assetPair = true)
    (vacant : s.liquidityPoolData.lookup (metadata.slot cfg) = none) :
    ∃ t, withdrawShares cfg s (.signer key) nftId = .ok t ∧
      HandedBack s metadata.assetPair (.signer key) deposit.shares t := by
  have valid := (consistent.deposits _ _ recorded).valid
  have held := custody.transfer_isSome known recorded present
  rw [withdrawShares_eq owned valid known recorded]
  have settled : settleWithdrawal cfg s (.signer key) (metadata.slot cfg) deposit = .ok s := by
    unfold settleWithdrawal
    rw [vacant]
  rw [settled, ok_bind]
  exact finishWithdrawal_succeeds owned present held (consistent.counted known recorded)

/-- The conditions under which deposits are settled against their own pools. -/
def settlementRules : List Rule := [.unusedSlot, .listedDeposit, .outsideOwner]

/-- Under the rules the pool found for a deposit is the one it was made in; claiming
and withdrawing depend on no other pool and change no other; and once that pool is
removed, a withdrawal hands back the shares, pays no reward and changes no pool and
no farm. -/
theorem deposit_settled_against_own_pool
    (reachable : ReachableUnder (Initial cfg) (Step cfg) (Obeys cfg settlementRules) s)
    (nftId key : ℕ) :
    (∀ metadata liqPool,
      s.liquidityPoolMetadata.lookup (poolIdOf nftId) = some metadata →
      s.liquidityPoolData.lookup (metadata.slot cfg) = some liqPool →
      liqPool.id = poolIdOf nftId) ∧
    (∀ metadata pools,
      s.liquidityPoolMetadata.lookup (poolIdOf nftId) = some metadata →
      pools.lookup (metadata.slot cfg) = s.liquidityPoolData.lookup (metadata.slot cfg) →
      (claimRewards cfg (s.withPools pools) (.signer key) nftId).map
          (State.viewAt (metadata.slot cfg)) =
        (claimRewards cfg s (.signer key) nftId).map (State.viewAt (metadata.slot cfg)) ∧
      (withdrawShares cfg (s.withPools pools) (.signer key) nftId).map
          (State.viewAt (metadata.slot cfg)) =
        (withdrawShares cfg s (.signer key) nftId).map
          (State.viewAt (metadata.slot cfg))) ∧
    (∀ t, claimRewards cfg s (.signer key) nftId = .ok t ∨
        withdrawShares cfg s (.signer key) nftId = .ok t →
      ∀ slot liqPool, liqPool.id ≠ poolIdOf nftId →
        (t.liquidityPoolData.lookup slot = some liqPool ↔
          s.liquidityPoolData.lookup slot = some liqPool)) ∧
    ∀ metadata deposit,
      s.liquidityPoolMetadata.lookup (poolIdOf nftId) = some metadata →
      s.depositData.lookup nftId = some deposit →
      s.nft.owner (cfg.nftClass, nftId) = some (.signer key) →
      s.amm.poolExists metadata.assetPair = true →
      (∀ slot liqPool, s.liquidityPoolData.lookup slot = some liqPool →
        liqPool.id ≠ poolIdOf nftId) →
      ∃ t, withdrawShares cfg s (.signer key) nftId = .ok t ∧
        HandedBack s metadata.assetPair (.signer key) deposit.shares t := by
  have own := ownSlots_of_moves (moves_of_subset (by decide) (reachable_moves reachable))
  have custody := inCustody_of_moves (moves_of_subset (by decide) (reachable_moves reachable))
  have consistent := consistent_of_moves (reachable_moves reachable)
  refine ⟨?_, ?_, ?_, ?_⟩
  · intro metadata liqPool known pool
    exact own _ _ _ known pool
  · intro metadata pools known agree
    exact ⟨claimRewards_viewAt known agree, withdrawShares_viewAt known agree⟩
  · rintro t (claimed | withdrawn) slot liqPool other
    · exact (claimRewards_frame claimed).others own other
    · exact (withdrawShares_frame withdrawn).others own other
  · intro metadata deposit known recorded owned present removed
    have vacant : s.liquidityPoolData.lookup (metadata.slot cfg) = none := by
      rw [Option.eq_none_iff_forall_ne_some]
      intro liqPool pool
      exact removed _ _ pool (own _ _ _ known pool)
    exact withdrawShares_vacant consistent custody known recorded owned present vacant

/-- A test that no live pool has an id. -/
theorem no_pool_of_all {liqPoolId : ℕ}
    (tested : (s.liquidityPoolData.entries.all fun entry => entry.2.id ≠ liqPoolId) = true) :
    ∀ slot liqPool, s.liquidityPoolData.lookup slot = some liqPool →
      liqPool.id ≠ liqPoolId := by
  intro slot liqPool pool
  have tested := List.all_eq_true.mp tested ⟨slot, liqPool⟩ (AList.mem_lookup_iff.mp pool)
  exact of_decide_eq_true tested

/-- The pool of the deposit is removed; the deposit is handed back. -/
theorem deposit_settled_removed :
    ∃ s metadata deposit t,
      simulateObeying settlementRules [.blocks 10,
        .call (.cancelLiquidityPool 0 1 ⟨1, 2⟩),
        .call (.removeLiquidityPool 0 1 ⟨1, 2⟩)] = .ok s ∧
      s.liquidityPoolMetadata.lookup 2 = some metadata ∧
      s.depositData.lookup (encodeNftId 2 1) = some deposit ∧ deposit.shares = 1000 ∧
      withdrawShares .reference s (.signer 1) (encodeNftId 2 1) = .ok t ∧
      HandedBack s metadata.assetPair (.signer 1) deposit.shares t := by
  have computed : succeedsWith
      (simulateObeying settlementRules [.blocks 10,
        .call (.cancelLiquidityPool 0 1 ⟨1, 2⟩),
        .call (.removeLiquidityPool 0 1 ⟨1, 2⟩)])
      (fun s => (s.liquidityPoolMetadata.lookup 2).any (fun metadata =>
          s.amm.poolExists metadata.assetPair) &&
        ((s.depositData.lookup (encodeNftId 2 1)).any fun deposit =>
          deposit.shares = 1000) &&
        decide (s.nft.owner (1, encodeNftId 2 1) = some (.signer 1)) &&
        s.liquidityPoolData.entries.all fun entry => entry.2.id ≠ 2) = true := by
    decide +kernel
  simp only [succeedsWith_iff, Bool.and_eq_true, Option.any_eq_true, decide_eq_true_eq]
    at computed
  obtain ⟨s, run, ⟨⟨⟨metadata, known, present⟩, deposit, recorded, shares⟩, owned⟩, gone⟩ :=
    computed
  obtain ⟨t, withdrawn, handed⟩ :=
    (deposit_settled_against_own_pool (reachableUnder_of_simulate run)
      (encodeNftId 2 1) 1).2.2.2 metadata deposit known recorded owned present
      (no_pool_of_all gone)
  exact ⟨s, metadata, deposit, t, run, known, recorded, shares, withdrawn, handed⟩

/-- A pool is removed and added again in the same slot.  The old deposit is now
settled against the new pool: alone it cannot leave, and with another deposit there
it takes its shares out of the new pool's count. -/
theorem deposit_settled_against_new_pool :
    (¬ ∀ cfg s, cfg.math.Lawful → Reachable (Initial cfg) (Step cfg) s →
      ∀ nftId key t, withdrawShares cfg s (.signer key) nftId = .ok t →
        ∀ slot liqPool, liqPool.id ≠ poolIdOf nftId →
          s.liquidityPoolData.lookup slot = some liqPool →
          t.liquidityPoolData.lookup slot = some liqPool) ∧
    ¬ ∀ cfg s, cfg.math.Lawful → Reachable (Initial cfg) (Step cfg) s →
      ∀ nftId key metadata deposit,
        s.liquidityPoolMetadata.lookup (poolIdOf nftId) = some metadata →
        s.depositData.lookup nftId = some deposit →
        s.nft.owner (cfg.nftClass, nftId) = some (.signer key) →
        s.amm.poolExists metadata.assetPair = true →
        (∀ slot liqPool, s.liquidityPoolData.lookup slot = some liqPool →
          liqPool.id ≠ poolIdOf nftId) →
        ∃ t, withdrawShares cfg s (.signer key) nftId = .ok t := by
  constructor
  · intro claim
    have computed : succeedsWith
        (simulate [.blocks 10, .call (.cancelLiquidityPool 0 1 ⟨1, 2⟩),
          .call (.removeLiquidityPool 0 1 ⟨1, 2⟩),
          .call (.addLiquidityPool 0 1 ⟨1, 2⟩ FixedU128.one none),
          .call (.depositShares 2 1 ⟨1, 2⟩ 2000)])
        (fun s => ((s.liquidityPoolData.lookup (1, Xyk.getPairId ⟨1, 2⟩)).any fun liqPool =>
            liqPool.id = 3 && liqPool.totalShares = 2000) &&
          succeedsWith (withdrawShares .reference s (.signer 1) (encodeNftId 2 1)) fun t =>
            (t.liquidityPoolData.lookup (1, Xyk.getPairId ⟨1, 2⟩)).any fun liqPool =>
              liqPool.totalShares = 1000) = true := by
      decide +kernel
    simp only [succeedsWith_iff, Bool.and_eq_true, Option.any_eq_true, decide_eq_true_eq]
      at computed
    obtain ⟨s, run, ⟨liqPool, pool, number, before⟩, t, withdrawn, liqPool', pool', after⟩ :=
      computed
    have foreign : liqPool.id ≠ poolIdOf (encodeNftId 2 1) := by
      rw [number]
      decide
    have unchanged := claim .reference s Math.reference_lawful (reachable_of_simulate run)
      (encodeNftId 2 1) 1 t withdrawn _ liqPool foreign pool
    rw [pool', Option.some.injEq] at unchanged
    rw [unchanged, before] at after
    exact absurd after (by decide)
  · intro claim
    have computed : succeedsWith
        (simulate [.blocks 10, .call (.cancelLiquidityPool 0 1 ⟨1, 2⟩),
          .call (.removeLiquidityPool 0 1 ⟨1, 2⟩),
          .call (.addLiquidityPool 0 1 ⟨1, 2⟩ FixedU128.one none)])
        (fun s => (s.liquidityPoolMetadata.lookup 2).any (fun metadata =>
            s.amm.poolExists metadata.assetPair) &&
          (s.depositData.lookup (encodeNftId 2 1)).isSome &&
          decide (s.nft.owner (1, encodeNftId 2 1) = some (.signer 1)) &&
          (s.liquidityPoolData.entries.all fun entry => entry.2.id ≠ 2) &&
          failsWith (withdrawShares .reference s (.signer 1) (encodeNftId 2 1))
            .overflow) = true := by
      decide +kernel
    simp only [succeedsWith_iff, Bool.and_eq_true, Option.any_eq_true, decide_eq_true_eq,
      Option.isSome_iff_exists, failsWith_iff] at computed
    obtain ⟨s, run, ⟨⟨⟨⟨metadata, known, present⟩, deposit, recorded⟩, owned⟩, gone⟩, stuck⟩ :=
      computed
    obtain ⟨t, withdrawn⟩ := claim .reference s Math.reference_lawful
      (reachable_of_simulate run) (encodeNftId 2 1) 1 metadata deposit known recorded owned
      present (no_pool_of_all gone)
    rw [stuck] at withdrawn
    cases withdrawn

end Removed

end Basilisk.LiquidityMining
