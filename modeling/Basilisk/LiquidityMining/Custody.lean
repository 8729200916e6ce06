/-
# Slots and custody

A deposit finds its liquidity pool through the metadata of the pool's id, which
leads to a storage slot, not to a pool.  This module follows what a slot can hold
and what the pallet's account has to hold: as long as pools are added only where
no older deposit leads, the slot of a deposit holds its own pool or nothing; as
long as deposits are made only in existing AMM pools, the account that keeps all
LP shares has, of every share token, what the recorded deposits put in.
-/

import Basilisk.LiquidityMining.Solvency

namespace Basilisk.LiquidityMining

open Basilisk.Math

section Origins

variable {cfg : Config} {s t : State} {kind : MoveKind}

/-- Where a metadata entry comes from: it was there with the same pair and farm, or a
pool was just added. -/
theorem metadata_origin (move : Move cfg s kind t) {liqPoolId : ℕ} {metadata : Metadata}
    (known : t.liquidityPoolMetadata.lookup liqPoolId = some metadata) :
    (∃ old, s.liquidityPoolMetadata.lookup liqPoolId = some old ∧
      metadata.assetPair = old.assetPair ∧ metadata.farmId = old.farmId) ∨
    ∃ farmId assetPair, kind = .addPool farmId assetPair ∧
      liqPoolId = s.poolIdSequencer + 1 ∧ metadata = ⟨assetPair, 0, farmId⟩ := by
  have kept : s.liquidityPoolMetadata.lookup liqPoolId = some metadata →
      ∃ old, s.liquidityPoolMetadata.lookup liqPoolId = some old ∧
        metadata.assetPair = old.assetPair ∧ metadata.farmId = old.farmId :=
    fun stored => ⟨metadata, stored, rfl, rfl⟩
  have rewritten : ∀ {id : ℕ} {old : Metadata} {count : ℕ},
      s.liquidityPoolMetadata.lookup id = some old →
      (s.liquidityPoolMetadata.insert id { old with nftsCount := count }).lookup liqPoolId =
        some metadata →
      ∃ old, s.liquidityPoolMetadata.lookup liqPoolId = some old ∧
        metadata.assetPair = old.assetPair ∧ metadata.farmId = old.farmId := by
    intro id old count stored found
    rw [AList.lookup_insert_eq_ite] at found
    split_ifs at found with same
    · obtain rfl := Option.some.inj found
      exact ⟨old, same ▸ stored, rfl, rfl⟩
    · exact kept found
  have erased : ∀ {id : ℕ}, (s.liquidityPoolMetadata.erase id).lookup liqPoolId =
      some metadata →
      ∃ old, s.liquidityPoolMetadata.lookup liqPoolId = some old ∧
        metadata.assetPair = old.assetPair ∧ metadata.farmId = old.farmId := by
    intro id found
    rw [AList.lookup_erase_eq_ite] at found
    split_ifs at found
    exact kept found
  cases move with
  | enter farm pool active account nonzero valued weighed locked numbered sequenced minted
      stored => exact .inl (rewritten stored known)
  | leave reports stored => exact .inl (rewritten stored known)
  | depart reports stored =>
      dsimp only at known
      split_ifs at known
      · exact .inl (erased known)
      · exact .inl (rewritten stored known)
  | @addPool farmId globalPool assetPair _ _ farm same curve vacant numbered =>
      change (s.liquidityPoolMetadata.insert _ _).lookup _ = _ at known
      rw [AList.lookup_insert_eq_ite] at known
      split_ifs at known with new
      · exact .inr ⟨farmId, assetPair, rfl, new, (Option.some.inj known).symm⟩
      · exact .inl (kept known)
  | @removePool slot globalPool liqPool amount ledger who assetPair farm pool =>
      obtain same | ⟨gone, -⟩ := dropUnusedMetadata_table s liqPool.id
      · exact .inl (kept (same ▸ known))
      · exact .inl (erased (gone ▸ known))
  | _ => exact .inl (kept known)

/-- Where a pool comes from: it was in its slot under the same id, or it was just
added. -/
theorem liqPool_origin (move : Move cfg s kind t) {slot : Slot}
    {liqPool : LiquidityPoolYieldFarm}
    (pool : t.liquidityPoolData.lookup slot = some liqPool) :
    (∃ old, s.liquidityPoolData.lookup slot = some old ∧ liqPool.id = old.id) ∨
    ∃ farmId assetPair, kind = .addPool farmId assetPair ∧
      slot = (farmId, cfg.getPairId assetPair) ∧ liqPool.id = s.poolIdSequencer + 1 ∧
      s.liquidityPoolData.lookup slot = none := by
  have kept : s.liquidityPoolData.lookup slot = some liqPool →
      ∃ old, s.liquidityPoolData.lookup slot = some old ∧ liqPool.id = old.id :=
    fun stored => ⟨liqPool, stored, rfl⟩
  have rewritten : ∀ {place : Slot} {old new : LiquidityPoolYieldFarm},
      s.liquidityPoolData.lookup place = some old →
      (s.liquidityPoolData.insert place new).lookup slot = some liqPool →
      new.id = old.id →
      ∃ old, s.liquidityPoolData.lookup slot = some old ∧ liqPool.id = old.id := by
    intro place old new stored found id
    rw [AList.lookup_insert_eq_ite] at found
    split_ifs at found with same
    · obtain rfl := Option.some.inj found
      exact ⟨old, same ▸ stored, id⟩
    · exact kept found
  cases move with
  | collect farm stored => exact .inl (rewritten stored pool rfl)
  | forfeit farm stored => exact .inl (rewritten stored pool rfl)
  | update farm stored => exact .inl (rewritten stored pool rfl)
  | cancel farm stored => exact .inl (rewritten stored pool rfl)
  | resume farm stored => exact .inl (rewritten stored pool rfl)
  | enter farm stored => exact .inl (rewritten stored pool rfl)
  | pay reports known recorded farm stored => exact .inl (rewritten stored pool rfl)
  | leave reports known recorded farm stored => exact .inl (rewritten stored pool rfl)
  | @addPool farmId globalPool assetPair _ _ farm same curve vacant numbered =>
      change (s.liquidityPoolData.insert _ _).lookup _ = _ at pool
      rw [AList.lookup_insert_eq_ite] at pool
      split_ifs at pool with new
      · obtain rfl := Option.some.inj pool
        exact .inr ⟨farmId, assetPair, rfl, new, rfl, new ▸ vacant⟩
      · exact .inl (kept pool)
  | removePool =>
      change (s.liquidityPoolData.erase _).lookup _ = _ at pool
      rw [AList.lookup_erase_eq_ite] at pool
      split_ifs at pool
      exact .inl (kept pool)
  | _ => exact .inl (kept pool)

end Origins

/-- The slot a pool's metadata leads to holds that pool or none. -/
def OwnSlots (cfg : Config) (s : State) : Prop :=
  ∀ liqPoolId metadata liqPool,
    s.liquidityPoolMetadata.lookup liqPoolId = some metadata →
    s.liquidityPoolData.lookup (metadata.slot cfg) = some liqPool → liqPool.id = liqPoolId

/-- The metadata that lead to a slot are those of the pool in it. -/
def OwnSlot (cfg : Config) (s : State) (slot : Slot) : Prop :=
  ∀ liqPoolId metadata liqPool,
    s.liquidityPoolMetadata.lookup liqPoolId = some metadata → metadata.slot cfg = slot →
    s.liquidityPoolData.lookup slot = some liqPool → liqPool.id = liqPoolId

/-- The move adds a pool in the slot. -/
def MoveKind.Adds (cfg : Config) (slot : Slot) (kind : MoveKind) : Prop :=
  ∃ farmId assetPair, kind = .addPool farmId assetPair ∧
    slot = (farmId, cfg.getPairId assetPair)

section Slots

variable {cfg : Config} {s t : State} {kind : MoveKind} {slot : Slot}

theorem OwnSlots.at (own : OwnSlots cfg s) (slot : Slot) : OwnSlot cfg s slot := by
  rintro liqPoolId metadata liqPool known rfl pool
  exact own _ _ _ known pool

theorem OwnSlot.move (own : OwnSlot cfg s slot) (move : Move cfg s kind t)
    (unused : kind.Adds cfg slot → SlotUnused cfg s slot) : OwnSlot cfg t slot := by
  intro liqPoolId metadata liqPool known place pool
  obtain ⟨old, before, pair, farmId⟩ | ⟨farmId, assetPair, rfl, rfl, rfl⟩ :=
    metadata_origin move known
  · have oldPlace : old.slot cfg = slot := by
      rw [← place]
      unfold Metadata.slot
      rw [pair, farmId]
    obtain ⟨oldPool, stored, id⟩ | ⟨farmId, assetPair, rfl, added, -, -⟩ :=
      liqPool_origin move pool
    · exact id.trans (own _ _ _ before oldPlace stored)
    · exact absurd oldPlace (unused ⟨_, _, rfl, added⟩ _ _ before)
  · subst place
    obtain ⟨oldPool, stored, -⟩ | ⟨farmId', assetPair', -, -, id, -⟩ :=
      liqPool_origin move pool
    · cases move with
      | addPool multiplier farm same curve vacant =>
          exact absurd (vacant.symm.trans stored) nofun
    · exact id

theorem OwnSlots.move (own : OwnSlots cfg s) (move : Move cfg s kind t)
    (unused : Rule.unusedSlot.AllowsMove cfg s kind) : OwnSlots cfg t := by
  intro liqPoolId metadata liqPool known pool
  refine (own.at _).move move ?_ _ _ _ known rfl pool
  rintro ⟨farmId, assetPair, rfl, place⟩
  rw [place]
  exact unused

theorem ownSlots_of_moves
    (reachable : ReachableUnder (Initial cfg) (Move cfg) (MoveObeys cfg [.unusedSlot]) s) :
    OwnSlots cfg s := by
  refine ReachableUnder.invariant (OwnSlots cfg) ?_ ?_ reachable
  · intro s initial liqPoolId metadata liqPool known
    rw [initial.liquidityPoolMetadata] at known
    exact absurd known nofun
  · intro s kind t own obeyed move
    exact own.move move (obeyed _ (by decide))

end Slots

/-- The share token of the pair a deposit was made in. -/
def depositToken (cfg : Config) (table : AList fun _ : ℕ => Metadata) (nftId : ℕ) :
    Option AssetId :=
  (table.lookup (poolIdOf nftId)).map fun metadata =>
    cfg.shareTokenOf (cfg.getPairId metadata.assetPair)

/-- The LP shares of one token that all recorded deposits put in. -/
def depositedShares (cfg : Config) (token : AssetId) (table : AList fun _ : ℕ => Metadata)
    (deposits : AList fun _ : ℕ => Deposit) : ℕ :=
  deposits.total fun nftId deposit =>
    if depositToken cfg table nftId = some token then deposit.shares else 0

/-- The pallet's account holds the shares of all deposits. -/
structure InCustody (cfg : Config) (s : State) : Prop where
  lawful : s.amm.Lawful cfg
  held : ∀ token, depositedShares cfg token s.liquidityPoolMetadata s.depositData ≤
    s.ledger.free accountId token

section Custody

variable {cfg : Config} {s t : State} {kind : MoveKind} {token : AssetId}

/-- A recorded deposit keeps its share token. -/
theorem depositToken_move (consistent : Consistent cfg s.blockNumber s.toStorage)
    (move : Move cfg s kind t) {nftId : ℕ} {deposit deposit' : Deposit}
    (before : s.depositData.lookup nftId = some deposit)
    (after : t.depositData.lookup nftId = some deposit') :
    depositToken cfg t.liquidityPoolMetadata nftId =
      depositToken cfg s.liquidityPoolMetadata nftId := by
  obtain ⟨metadata, known, -⟩ := ((consistent.move move).deposits _ _ after).known
  obtain ⟨old, stored, -⟩ := (consistent.deposits _ _ before).known
  unfold depositToken
  rw [known, stored]
  obtain ⟨found, lookup, pair, -⟩ | ⟨-, -, -, new, -⟩ := metadata_origin move known
  · rw [stored, Option.some.injEq] at lookup
    rw [Option.map_some, Option.map_some, pair, lookup]
  · rw [new, consistent.id_fresh.2] at stored
    exact absurd stored nofun

/-- Shares are counted alike over deposits that keep their token. -/
theorem depositedShares_congr {table table' : AList fun _ : ℕ => Metadata}
    {deposits : AList fun _ : ℕ => Deposit}
    (same : ∀ nftId deposit, deposits.lookup nftId = some deposit →
      depositToken cfg table' nftId = depositToken cfg table nftId) :
    depositedShares cfg token table' deposits = depositedShares cfg token table deposits := by
  apply AList.total_congr
  intro nftId deposit stored
  rw [same nftId deposit stored]

/-- The deposits did not change, and the account did not pay. -/
theorem InCustody.keep (custody : InCustody cfg s)
    (consistent : Consistent cfg s.blockNumber s.toStorage) (move : Move cfg s kind t)
    (lawful : t.amm.Lawful cfg) (deposits : t.depositData = s.depositData)
    (bystander : accountId ∉ payers cfg s kind) : InCustody cfg t := by
  refine ⟨lawful, ?_⟩
  intro token
  have counted : depositedShares cfg token t.liquidityPoolMetadata t.depositData =
      depositedShares cfg token s.liquidityPoolMetadata s.depositData := by
    rw [deposits]
    apply depositedShares_congr
    intro nftId deposit stored
    exact depositToken_move consistent move stored (deposits ▸ stored)
  rw [counted]
  exact (custody.held token).trans (free_le_move consistent move
    AccountId.isPallet_palletAccount bystander token)

theorem accountId_ne_palletSubAccount (number : ℕ) : accountId ≠ .palletSubAccount number := nofun

/-- What goes back to a depositor leaves the account in the token of the pair. -/
theorem free_accountId_le_returned (lawful : s.amm.Lawful cfg) {assetPair : AssetPair}
    {key shares : ℕ} {before after : Currencies}
    (returned : Returned s assetPair (.signer key) shares before after) (token : AssetId) :
    before.free accountId token ≤ after.free accountId token +
      (if some (cfg.shareTokenOf (cfg.getPairId assetPair)) = some token then shares else 0) := by
  cases returned with
  | unlisted absent same =>
      rw [same]
      exact Nat.le_add_right _ _
  | listed present moved =>
      rw [lawful assetPair present] at moved
      split_ifs with own
      · rw [Option.some.injEq] at own
        subst own
        exact (Ledger.free_transfer_sender moved nofun).ge
      · rw [Option.some.injEq] at own
        exact (Ledger.free_transfer_of_ne_currency moved accountId (Ne.symm own)).ge

/-- The deposit leaves with its shares. -/
theorem InCustody.release (custody : InCustody cfg s)
    (consistent : Consistent cfg s.blockNumber s.toStorage) (move : Move cfg s kind t)
    {nftId key : ℕ} {metadata : Metadata} {deposit : Deposit} {before : Currencies}
    (known : s.liquidityPoolMetadata.lookup (poolIdOf nftId) = some metadata)
    (recorded : s.depositData.lookup nftId = some deposit)
    (lawful : t.amm.Lawful cfg)
    (deposits : t.depositData = s.depositData.erase nftId)
    (untouched : ∀ token, s.ledger.free accountId token ≤ before.free accountId token)
    (returned : Returned s metadata.assetPair (.signer key) deposit.shares before
      t.ledger) : InCustody cfg t := by
  refine ⟨lawful, ?_⟩
  intro token
  have counted : depositedShares cfg token t.liquidityPoolMetadata t.depositData =
      depositedShares cfg token s.liquidityPoolMetadata (s.depositData.erase nftId) := by
    rw [deposits]
    apply depositedShares_congr
    refine AList.forall_lookup_erase ?_
    intro other otherDeposit distinct stored
    have still : t.depositData.lookup other = some otherDeposit := by
      rw [deposits, AList.lookup_erase_ne distinct]
      exact stored
    exact depositToken_move consistent move stored still
  have erased := AList.total_erase_add (fun nftId (deposit : Deposit) =>
    if depositToken cfg s.liquidityPoolMetadata nftId = some token then deposit.shares
    else 0) recorded
  have paid := free_accountId_le_returned custody.lawful returned token
  have held := custody.held token
  have own : depositToken cfg s.liquidityPoolMetadata nftId =
      some (cfg.shareTokenOf (cfg.getPairId metadata.assetPair)) := by
    unfold depositToken
    rw [known, Option.map_some]
  rw [own] at erased
  have kept := untouched token
  rw [counted]
  unfold depositedShares at held ⊢
  omega

/-- A new deposit comes with its shares. -/
theorem InCustody.lock (custody : InCustody cfg s)
    (consistent : Consistent cfg s.blockNumber s.toStorage) (move : Move cfg s kind t)
    {nftId key : ℕ} {metadata : Metadata} {deposit : Deposit} {assetPair : AssetPair}
    (known : t.liquidityPoolMetadata.lookup (poolIdOf nftId) = some metadata)
    (fresh : s.depositData.lookup nftId = none)
    (lawful : t.amm.Lawful cfg)
    (deposits : t.depositData = s.depositData.insert nftId deposit)
    (listed : s.amm.poolExists assetPair = true)
    (account : cfg.getPairId metadata.assetPair = cfg.getPairId assetPair)
    (locked : s.ledger.transfer (s.amm.getShareToken assetPair) (.signer key) accountId
      deposit.shares = some t.ledger) : InCustody cfg t := by
  refine ⟨lawful, ?_⟩
  intro token
  have own : depositToken cfg t.liquidityPoolMetadata nftId =
      some (cfg.shareTokenOf (cfg.getPairId assetPair)) := by
    unfold depositToken
    rw [known, Option.map_some, account]
  have added := AList.total_insert_of_none (fun nftId (deposit : Deposit) =>
    if depositToken cfg t.liquidityPoolMetadata nftId = some token then deposit.shares
    else 0) fresh deposit
  have counted : depositedShares cfg token t.liquidityPoolMetadata s.depositData =
      depositedShares cfg token s.liquidityPoolMetadata s.depositData := by
    apply depositedShares_congr
    intro other otherDeposit stored
    have distinct : other ≠ nftId := AList.ne_of_lookup fresh stored
    have still : t.depositData.lookup other = some otherDeposit := by
      rw [deposits, AList.lookup_insert_ne distinct]
      exact stored
    exact depositToken_move consistent move stored still
  have held := custody.held token
  rw [custody.lawful assetPair listed] at locked
  rw [own] at added
  rw [deposits]
  unfold depositedShares at counted held ⊢
  by_cases same : cfg.shareTokenOf (cfg.getPairId assetPair) = token
  · subst same
    have received := Ledger.free_transfer_receiver locked nofun
    rw [if_pos rfl] at added
    omega
  · have untouched := Ledger.free_transfer_of_ne_currency locked accountId (Ne.symm same)
    rw [if_neg (fun found => same (Option.some.inj found))] at added
    omega

/-- The conditions under which shares stay in custody. -/
def custodyRules : List Rule := [.listedDeposit, .outsideOwner]

/-- Paying a deposit moves no shares. -/
theorem InCustody.rewrite (custody : InCustody cfg s)
    (consistent : Consistent cfg s.blockNumber s.toStorage) (move : Move cfg s kind t)
    {nftId : ℕ} {deposit deposit' : Deposit}
    (recorded : s.depositData.lookup nftId = some deposit)
    (lawful : t.amm.Lawful cfg)
    (deposits : t.depositData = s.depositData.insert nftId deposit')
    (shares : deposit'.shares = deposit.shares)
    (bystander : accountId ∉ payers cfg s kind) : InCustody cfg t := by
  refine ⟨lawful, ?_⟩
  intro token
  have written := AList.total_insert_add (fun nftId (deposit : Deposit) =>
    if depositToken cfg t.liquidityPoolMetadata nftId = some token then deposit.shares
    else 0) recorded deposit'
  have counted : depositedShares cfg token t.liquidityPoolMetadata s.depositData =
      depositedShares cfg token s.liquidityPoolMetadata s.depositData := by
    apply depositedShares_congr
    intro other otherDeposit stored
    have still : ∃ found, t.depositData.lookup other = some found := by
      rw [deposits, AList.lookup_insert_eq_ite]
      split_ifs
      · exact ⟨_, rfl⟩
      · exact ⟨_, stored⟩
    obtain ⟨found, lookup⟩ := still
    exact depositToken_move consistent move stored lookup
  have held : _ ≤ t.ledger.free accountId token := (custody.held token).trans
    (free_le_move consistent move AccountId.isPallet_palletAccount bystander token)
  rw [shares] at written
  rw [deposits]
  unfold depositedShares at counted held ⊢
  omega

/-- The account that keeps all shares pays only when a deposit leaves. -/
theorem accountId_mem_payers (outside : Rule.outsideOwner.AllowsMove cfg s kind)
    (paying : accountId ∈ payers cfg s kind) :
    (∃ nftId, kind = .leave nftId) ∨ ∃ nftId, kind = .depart nftId := by
  cases kind with
  | collect slot => exact absurd (List.mem_singleton.mp paying) nofun
  | pay nftId =>
      obtain ⟨_, _, -, -, own⟩ := mem_settlingAccount.mp paying
      exact absurd own nofun
  | leave nftId => exact .inl ⟨nftId, rfl⟩
  | depart nftId => exact .inr ⟨nftId, rfl⟩
  | createFarm owner => exact absurd (List.mem_singleton.mp paying ▸ trivial) outside
  | drain farmId => exact absurd (List.mem_singleton.mp paying) nofun
  | removePool slot =>
      obtain ⟨_, -, own⟩ := mem_poolAccountAt.mp paying
      exact absurd own nofun
  | _ => exact absurd paying List.not_mem_nil

theorem InCustody.move (custody : InCustody cfg s)
    (consistent : Consistent cfg s.blockNumber s.toStorage) (move : Move cfg s kind t)
    (obeyed : MoveObeys cfg custodyRules s kind) : InCustody cfg t := by
  have outside : Rule.outsideOwner.AllowsMove cfg s kind := obeyed _ (by decide)
  have bystander : (∀ nftId, kind ≠ .leave nftId) → (∀ nftId, kind ≠ .depart nftId) →
      accountId ∉ payers cfg s kind := by
    intro notLeave notDepart paying
    obtain ⟨nftId, leaving⟩ | ⟨nftId, departing⟩ := accountId_mem_payers outside paying
    · exact notLeave nftId leaving
    · exact notDepart nftId departing
  have taken := move
  have lawful := custody.lawful
  cases move with
  | @enter slot globalPool liqPool key amount valuedShares stake assetPair metadata ledger
      nft farm pool active account nonzero valued weighed locked numbered sequenced minted
      known =>
      have word := consistent.liqPoolId_lt known
      have fresh := consistent.nftId_fresh word sequenced
      have listed : s.amm.poolExists assetPair = true := obeyed .listedDeposit (by decide)
      have recorded : (s.liquidityPoolMetadata.insert liqPool.id
          { metadata with nftsCount := metadata.nftsCount + 1 }).lookup
            (poolIdOf (encodeNftId liqPool.id (s.nftInstanceSequencer + 1))) =
          some { metadata with nftsCount := metadata.nftsCount + 1 } := by
        rw [poolIdOf_encodeNftId word, AList.lookup_insert]
      obtain ⟨found, lookup, leads⟩ := (consistent.pools _ _ pool).known
      rw [known, Option.some.injEq] at lookup
      subst lookup
      have pair : cfg.getPairId metadata.assetPair = cfg.getPairId assetPair := by
        rw [← account, ← leads]
        rfl
      exact custody.lock consistent taken recorded fresh lawful rfl listed pair locked
  | pay reports known recorded =>
      exact custody.rewrite consistent taken recorded lawful rfl rfl (bystander nofun nofun)
  | leave reports known recorded farm pool shares valuedShares released held heldFarm
      leftover refund returned =>
      refine custody.release consistent taken known recorded lawful rfl ?_ returned
      intro token
      exact (Ledger.free_transfer_of_ne refund (accountId_ne_palletSubAccount _)
        (accountId_ne_palletSubAccount _) token).ge
  | depart reports known recorded vacant returned =>
      exact custody.release consistent taken known recorded lawful rfl (fun _ => le_rfl)
        returned
  | external follows =>
      exact custody.keep consistent taken follows.amm rfl (bystander nofun nofun)
  | _ => exact custody.keep consistent taken lawful rfl (bystander nofun nofun)

theorem inCustody_of_moves
    (reachable : ReachableUnder (Initial cfg) (Move cfg) (MoveObeys cfg custodyRules) s) :
    InCustody cfg s := by
  refine (ReachableUnder.invariant
    (fun s => Consistent cfg s.blockNumber s.toStorage ∧ InCustody cfg s) ?_ ?_ reachable).2
  · intro s initial
    refine ⟨initial.consistent, initial.amm, ?_⟩
    intro token
    rw [initial.depositData]
    exact Nat.zero_le _
  · rintro s kind t ⟨consistent, custody⟩ obeyed move
    exact ⟨consistent.move move, custody.move consistent move obeyed⟩

end Custody

end Basilisk.LiquidityMining
