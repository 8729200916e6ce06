/-
# Deposits and their tokens

Liquidity mining, the NFT pallet and the marketplace share one registry of tokens.
The deposits of liquidity mining are evidenced by tokens of a class of its own,
which are traded and given away like any other; this module puts the three pallets
together and shows that nothing they can do breaks the records of liquidity mining
apart.  What keeps strangers from making and burning such tokens is that the class
has a reserved id and that its type allows nothing but transfers.
-/

import Basilisk.LiquidityMining.Errors
import Basilisk.LiquidityMining.Integrity
import Basilisk.LiquidityMining.Reference
import Basilisk.Marketplace.Consent

namespace Basilisk.Tokens

open Basilisk.Math

/-- The constants of the pallets; that the class of liquidity mining is reserved is what its
`integrity_test` asserts. -/
structure Config where
  mining : LiquidityMining.Config
  market : Marketplace.Config
  reserved : mining.nftClass ≤ market.nft.reserveClassIdUpTo

/-- The storage of the pallets.  The block number, the ledger and the registry are part of
`market`. -/
structure State where
  mining : LiquidityMining.Storage
  miningEvents : List LiquidityMining.Event
  storageVersion : ℕ
  amm : LiquidityMining.Amm
  market : Marketplace.State

/-- The chain as the liquidity-mining pallet sees it. -/
def State.view (s : State) : LiquidityMining.State where
  toStorage := s.mining
  events := s.miningEvents
  blockNumber := s.market.blockNumber
  ledger := s.market.ledger
  amm := s.amm
  nft := s.market.nft

/-- What a liquidity-mining call wrote, put back into the chain. -/
def State.absorb (s : State) (view : LiquidityMining.State) : State where
  mining := view.toStorage
  miningEvents := view.events
  storageVersion := s.storageVersion
  amm := view.amm
  market := { s.market with
    blockNumber := view.blockNumber
    ledger := view.ledger
    nft := view.nft }

inductive Error
  | mining (error : LiquidityMining.Error)
  | market (error : Marketplace.Error)
  | nft (error : Nft.Error)
  deriving DecidableEq

/-- A call of one of the pallets, the upgrade of the runtime, or the rest of the chain: blocks
pass, balances change and the AMM changes its pools. -/
inductive Label
  | mining (call : LiquidityMining.Call)
  | market (call : Marketplace.Call)
  | nft (call : Nft.Call)
  | upgrade
  | chain (blocks : ℕ) (ledger : Currencies) (amm : LiquidityMining.Amm)

/-- `init_nft_class`, the migration of liquidity mining: the first upgrade creates the class
of the deposits. -/
def initNftClass (cfg : Config) (s : State) : Except Error State :=
  if s.storageVersion = 0 then do
    let nft ← (Nft.doCreateClass s.market.nft LiquidityMining.accountId cfg.mining.nftClass
      .liquidityMining []).mapError .nft
    return { s with market := { s.market with nft }, storageVersion := 1 }
  else
    return s

def exec (cfg : Config) (s : State) : Label → Except Error State
  | .mining call => do
      let view ← (LiquidityMining.dispatch cfg.mining s.view call).mapError .mining
      return s.absorb view
  | .market call => do
      let market ← (Marketplace.dispatch cfg.market s.market call).mapError .market
      return { s with market }
  | .nft call => do
      let nft ← (Nft.dispatch cfg.market.nft s.market.nft call).mapError .nft
      return { s with market := { s.market with nft } }
  | .upgrade => initNftClass cfg s
  | .chain blocks ledger amm => .ok { s with
      amm
      market := { s.market with blockNumber := s.market.blockNumber + blocks, ledger } }

def Step (cfg : Config) (s : State) (label : Label) (t : State) : Prop :=
  exec cfg s label = .ok t

/-- Empty storage, and no token of the class of liquidity mining yet. -/
structure Initial (cfg : Config) (s : State) : Prop where
  mining : LiquidityMining.Initial cfg.mining s.view
  miningEvents : s.miningEvents = []
  storageVersion : s.storageVersion = 0
  market : Marketplace.Initial s.market
  unused : s.market.nft.classes.lookup cfg.mining.nftClass = none
  unowned : ∀ number, s.market.nft.owner (cfg.mining.nftClass, number) = none

/-- What every step keeps. -/
structure Intact (cfg : Config) (s : State) : Prop where
  consistent : LiquidityMining.Consistent cfg.mining s.market.blockNumber s.mining
  receipted : LiquidityMining.Receipted cfg.mining s.view
  numbered : LiquidityMining.Numbered s.view
  isSealed : Nft.Sealed cfg.market.nft s.market.nft cfg.mining.nftClass

section Steps

variable {cfg : Config} {s t : State} {label : Label}

theorem Initial.intact (initial : Initial cfg s) : Intact cfg s where
  consistent := initial.mining.consistent
  receipted number := by
    have empty : s.mining.depositData = ∅ := initial.mining.depositData
    dsimp only [State.view]
    rw [initial.unowned number, empty]
    rfl
  numbered := by
    have start : s.mining.poolIdSequencer = 0 := initial.mining.poolIdSequencer
    unfold LiquidityMining.Numbered
    dsimp only [State.view]
    rw [initial.miningEvents, start]
    rfl
  isSealed := by
    refine ⟨cfg.reserved, ?_⟩
    rw [initial.unused]
    exact nofun

/-- Whatever leaves liquidity mining alone and keeps the existence of its tokens. -/
theorem Intact.aside (intact : Intact cfg s) (mining : t.mining = s.mining)
    (events : t.miningEvents = s.miningEvents)
    (later : s.market.blockNumber ≤ t.market.blockNumber)
    (kept : ∀ number, (t.market.nft.owner (cfg.mining.nftClass, number)).isSome =
      (s.market.nft.owner (cfg.mining.nftClass, number)).isSome)
    (isSealed : Nft.Sealed cfg.market.nft t.market.nft cfg.mining.nftClass) : Intact cfg t where
  consistent := by
    rw [mining]
    exact intact.consistent.later later
  receipted number := by
    have before := intact.receipted number
    dsimp only [State.view] at before ⊢
    rw [kept, mining, before]
  numbered := by
    have before := intact.numbered
    unfold LiquidityMining.Numbered at before ⊢
    dsimp only [State.view] at before ⊢
    rw [events, mining, before]
  isSealed

theorem Intact.mining (intact : Intact cfg s) {call : LiquidityMining.Call}
    {view : LiquidityMining.State}
    (called : LiquidityMining.dispatch cfg.mining s.view call = .ok view) :
    Intact cfg (s.absorb view) where
  consistent := LiquidityMining.consistent_of_step intact.consistent
    (show LiquidityMining.Step cfg.mining s.view (.call call) view from called)
  receipted := (intact.receipted.dispatch intact.consistent called).1
  numbered := intact.numbered.dispatch called
  isSealed := by
    have classes := (intact.receipted.dispatch intact.consistent called).2
    refine ⟨intact.isSealed.reserved, ?_⟩
    dsimp only [State.absorb]
    rw [classes]
    exact intact.isSealed.sealed

/-- The upgrade creates the class of the deposits, which allows transfers only. -/
theorem Intact.upgrade (intact : Intact cfg s) (upgraded : initNftClass cfg s = .ok t) :
    Intact cfg t := by
  unfold initNftClass at upgraded
  split_ifs at upgraded
  · simp only [Nft.doCreateClass, bind_eq_ok, mapError_eq_ok, okOr_eq_ok,
      return_eq_ok] at upgraded
    obtain ⟨_, ⟨uniques, created, rfl⟩, rfl⟩ := upgraded
    refine intact.aside rfl rfl le_rfl ?_ ⟨intact.isSealed.reserved, ?_⟩
    · intro number
      exact congrArg Option.isSome (Registry.ownerOf_createClass created)
    · intro info known
      obtain rfl := Option.some.inj ((AList.lookup_insert _).symm.trans known)
      simp
  · obtain rfl := return_eq_ok.mp upgraded
    exact intact

theorem Intact.step (intact : Intact cfg s) (taken : Step cfg s label t) : Intact cfg t := by
  cases label with
  | mining call =>
      simp only [Step, exec, bind_eq_ok, mapError_eq_ok, return_eq_ok] at taken
      obtain ⟨view, called, rfl⟩ := taken
      exact intact.mining called
  | market call =>
      simp only [Step, exec, bind_eq_ok, mapError_eq_ok, return_eq_ok] at taken
      obtain ⟨market, called, rfl⟩ := taken
      have handed := Marketplace.handedOn_of_dispatch called
      refine intact.aside rfl rfl handed.blockNumber.ge (fun _ => handed.present _) ?_
      exact ⟨intact.isSealed.reserved, handed.classes ▸ intact.isSealed.sealed⟩
  | nft call =>
      simp only [Step, exec, bind_eq_ok, mapError_eq_ok, return_eq_ok] at taken
      obtain ⟨nft, called, rfl⟩ := taken
      obtain ⟨isSealed, present⟩ := intact.isSealed.dispatch called
      exact intact.aside rfl rfl le_rfl present isSealed
  | upgrade => exact intact.upgrade taken
  | chain blocks ledger amm =>
      obtain rfl := Except.ok.inj taken
      exact intact.aside rfl rfl (Nat.le_add_right _ _) (fun _ => rfl) intact.isSealed

theorem intact_of_reachable (reachable : Reachable (Initial cfg) (Step cfg) s) :
    Intact cfg s := by
  refine Reachable.invariant (Intact cfg) ?_ ?_ reachable
  · intro s initial
    exact initial.intact
  · intro s label t intact taken
    exact intact.step taken

end Steps

/-- The records of liquidity mining and the tokens agree, and no call of liquidity mining
finds them in disagreement. -/
structure Integrity (cfg : Config) (s : State) : Prop where
  /-- A deposit is recorded exactly if its token exists. -/
  receipts : ∀ nftId, (∃ deposit, s.mining.depositData.lookup nftId = some deposit) ↔
    ∃ owner, s.market.nft.owner (cfg.mining.nftClass, nftId) = some owner
  /-- The id of a deposit leads to its pool. -/
  decoded : ∀ nftId deposit, s.mining.depositData.lookup nftId = some deposit →
    LiquidityMining.getPoolIdFromNftId nftId = .ok (LiquidityMining.poolIdOf nftId)
  /-- A pool that exists or has deposits has metadata, which counts the deposits. -/
  metadata : ∀ liqPoolId,
    (∃ nftId deposit, s.mining.depositData.lookup nftId = some deposit ∧
        LiquidityMining.poolIdOf nftId = liqPoolId) ∨
      (∃ slot liqPool, s.mining.liquidityPoolData.lookup slot = some liqPool ∧
        liqPool.id = liqPoolId) →
    ∃ metadata, s.mining.liquidityPoolMetadata.lookup liqPoolId = some metadata ∧
      metadata.nftsCount = LiquidityMining.depositsOf liqPoolId s.mining.depositData
  /-- A pool belongs to a farm. -/
  farms : ∀ slot liqPool, s.mining.liquidityPoolData.lookup slot = some liqPool →
    ∃ globalPool, s.mining.globalPoolData.lookup slot.1 = some globalPool
  /-- A farm counts its pools. -/
  counted : ∀ farmId globalPool, s.mining.globalPoolData.lookup farmId = some globalPool →
    globalPool.liqPoolsCount = LiquidityMining.poolsOf farmId s.mining.liquidityPoolData
  /-- No id was given to two farms or pools, and none is zero. -/
  distinct : (LiquidityMining.createdIds s.miningEvents).Nodup
  nonzero : 0 ∉ LiquidityMining.createdIds s.miningEvents
  /-- The reports of creations are complete. -/
  farmsCreated : ∀ farmId globalPool, s.mining.globalPoolData.lookup farmId = some globalPool →
    globalPool.id = farmId ∧ farmId ∈ LiquidityMining.createdIds s.miningEvents
  poolsCreated : ∀ slot liqPool, s.mining.liquidityPoolData.lookup slot = some liqPool →
    liqPool.id ∈ LiquidityMining.createdIds s.miningEvents
  poolsDistinct : ∀ slot slot' liqPool liqPool',
    s.mining.liquidityPoolData.lookup slot = some liqPool →
    s.mining.liquidityPoolData.lookup slot' = some liqPool' →
    liqPool.id = liqPool'.id → slot = slot'
  poolsApart : ∀ slot liqPool, s.mining.liquidityPoolData.lookup slot = some liqPool →
    s.mining.globalPoolData.lookup liqPool.id = none
  /-- A farm or pool that a call adds has an id that none was ever created with. -/
  farmsNew : ∀ call view, LiquidityMining.dispatch cfg.mining s.view call = .ok view →
    ∀ farmId globalPool, view.globalPoolData.lookup farmId = some globalPool →
      s.mining.globalPoolData.lookup farmId = none →
      farmId ∉ LiquidityMining.createdIds s.miningEvents
  poolsNew : ∀ call view, LiquidityMining.dispatch cfg.mining s.view call = .ok view →
    ∀ slot liqPool, view.liquidityPoolData.lookup slot = some liqPool →
      (∀ before, s.mining.liquidityPoolData.lookup slot = some before →
        liqPool.id ≠ before.id) →
      liqPool.id ∉ LiquidityMining.createdIds s.miningEvents
  /-- A call that gets to a farm from one of its pools finds it. -/
  farmFound : ∀ call : LiquidityMining.Call, call.namesFarm = false →
    LiquidityMining.dispatch cfg.mining s.view call ≠ .error .farmNotFound
  metadataFound : ∀ call,
    LiquidityMining.dispatch cfg.mining s.view call ≠ .error .liquidityPoolMetadataNotFound

section Integrity

variable {cfg : Config} {s : State}

/-- The ids given so far are the positive numbers up to the sequencer. -/
theorem Intact.mem_createdIds (intact : Intact cfg s) {id : ℕ} :
    id ∈ LiquidityMining.createdIds s.miningEvents ↔
      0 < id ∧ id ≤ s.mining.poolIdSequencer := by
  have ids : LiquidityMining.createdIds s.miningEvents =
      List.range' 1 s.mining.poolIdSequencer := intact.numbered
  rw [ids, List.mem_range'_1]
  omega

theorem Intact.newIds (intact : Intact cfg s) {call : LiquidityMining.Call}
    {view : LiquidityMining.State}
    (called : LiquidityMining.dispatch cfg.mining s.view call = .ok view) :
    LiquidityMining.NewIds s.view view :=
  LiquidityMining.newIds_of_step intact.consistent
    (show LiquidityMining.Step cfg.mining s.view (.call call) view from called)

/-- Whatever the pallets do, the records of liquidity mining hold together. -/
theorem integrity_of_reachable (reachable : Reachable (Initial cfg) (Step cfg) s) :
    Integrity cfg s := by
  have intact := intact_of_reachable reachable
  have consistent := intact.consistent
  constructor
  case receipts =>
    intro nftId
    rw [← Option.isSome_iff_exists, ← Option.isSome_iff_exists]
    exact Bool.eq_iff_iff.mp (intact.receipted nftId).symm
  case decoded =>
    intro nftId deposit recorded
    exact LiquidityMining.getPoolIdFromNftId_eq_ok.mpr
      ⟨(consistent.deposits _ _ recorded).valid, rfl⟩
  case metadata =>
    rintro liqPoolId (⟨nftId, deposit, recorded, rfl⟩ | ⟨slot, liqPool, pool, rfl⟩)
    · obtain ⟨metadata, known, -⟩ := (consistent.deposits _ _ recorded).known
      exact ⟨metadata, known, (consistent.metadata _ _ known).counted⟩
    · obtain ⟨metadata, known, -⟩ := (consistent.pools _ _ pool).known
      exact ⟨metadata, known, (consistent.metadata _ _ known).counted⟩
  case farms =>
    intro slot liqPool pool
    exact (consistent.pools _ _ pool).farm
  case counted =>
    intro farmId globalPool farm
    exact (consistent.farms _ _ farm).counted
  case distinct =>
    have ids : LiquidityMining.createdIds s.miningEvents =
        List.range' 1 s.mining.poolIdSequencer := intact.numbered
    rw [ids]
    exact List.nodup_range'
  case nonzero =>
    intro zero
    exact absurd (intact.mem_createdIds.mp zero).1 (lt_irrefl 0)
  case farmsCreated =>
    intro farmId globalPool farm
    have numbered := consistent.farms _ _ farm
    exact ⟨numbered.id, intact.mem_createdIds.mpr ⟨numbered.positive, numbered.numbered⟩⟩
  case poolsCreated =>
    intro slot liqPool pool
    obtain ⟨metadata, known, -⟩ := (consistent.pools _ _ pool).known
    have numbered := consistent.metadata _ _ known
    exact intact.mem_createdIds.mpr ⟨numbered.positive, numbered.numbered⟩
  case poolsDistinct =>
    intro slot slot' liqPool liqPool' pool pool' same
    exact consistent.slot_unique pool pool' same
  case poolsApart =>
    intro slot liqPool pool
    obtain ⟨metadata, known, -⟩ := (consistent.pools _ _ pool).known
    exact (consistent.metadata _ _ known).notFarm
  case farmsNew =>
    intro call view called farmId globalPool farm absent created
    obtain ⟨before, stored⟩ | new := (intact.newIds called).farms _ _ farm
    · exact absurd (absent.symm.trans stored) nofun
    · exact absurd (intact.mem_createdIds.mp created).2 (not_le.mpr new)
  case poolsNew =>
    intro call view called slot liqPool pool absent created
    obtain ⟨before, stored, same⟩ | new := (intact.newIds called).pools _ _ pool
    · exact absent before stored same
    · exact absurd (intact.mem_createdIds.mp created).2 (not_le.mpr new)
  case farmFound =>
    intro call unnamed
    exact LiquidityMining.dispatch_avoids_farmNotFound consistent unnamed
  case metadataFound =>
    intro call
    exact LiquidityMining.dispatch_avoids_metadataNotFound consistent call

end Integrity

section Reference

/-- The constants of the runtime with the reference formulas. -/
def Config.reference : Config where
  mining := .reference
  market := .reference
  reserved := by decide

/-- The balances of both reference chains, and no tokens. -/
def genesis : State where
  mining := LiquidityMining.genesis.toStorage
  miningEvents := []
  storageVersion := 0
  amm := .reference
  market := { Marketplace.genesis with
    ledger := { Marketplace.genesis.ledger with
      free := fun who asset =>
        LiquidityMining.genesis.ledger.free who asset + Marketplace.genesis.ledger.free who asset } }

theorem genesis_initial : Initial .reference genesis where
  mining := ⟨rfl, rfl, rfl, rfl, rfl, rfl, LiquidityMining.Amm.reference_lawful⟩
  miningEvents := rfl
  storageVersion := rfl
  market := ⟨rfl, rfl, rfl⟩
  unused := rfl
  unowned _ := rfl

/-- Signer 1 sells its deposit to signer 2; then the pool is removed and the farm, which holds
no rewards any more, is destroyed. -/
def soldDeposit : List Label :=
  [.upgrade,
    .mining (.createFarm (10 ^ 15) 100 10 1 7 (.signer 0) .one),
    .mining (.addLiquidityPool 0 1 ⟨1, 2⟩ FixedU128.one none),
    .mining (.depositShares 1 1 ⟨1, 2⟩ 1000),
    .market (.setPrice 1 (1, LiquidityMining.encodeNftId 2 1) (some (20000 * 10 ^ 12))),
    .market (.buy 2 (1, LiquidityMining.encodeNftId 2 1)),
    .mining (.cancelLiquidityPool 0 1 ⟨1, 2⟩),
    .mining (.removeLiquidityPool 0 1 ⟨1, 2⟩),
    .mining (.withdrawUndistributedRewards 0 1),
    .mining (.destroyFarm 0 1)]

end Reference

/-- The deposit outlives its pool and its farm, and its token has changed hands. -/
theorem integrity_of_soldDeposit :
    ∃ s, Reachable (Initial .reference) (Step .reference) s ∧ Integrity .reference s ∧
      s.market.nft.owner (1, LiquidityMining.encodeNftId 2 1) = some (.signer 2) ∧
      s.mining.globalPoolData.lookup 1 = none ∧
      ∃ metadata, s.mining.liquidityPoolMetadata.lookup 2 = some metadata ∧
        metadata.nftsCount = 1 := by
  have computed : succeedsWith (soldDeposit.foldlM (exec .reference) genesis) (fun s =>
      decide (s.market.nft.owner (1, LiquidityMining.encodeNftId 2 1) = some (.signer 2)) &&
      (decide (s.mining.globalPoolData.lookup 1 = none) &&
      (s.mining.liquidityPoolMetadata.lookup 2).any fun metadata => metadata.nftsCount = 1)) =
        true := by
    decide +kernel
  simp only [succeedsWith_iff, Bool.and_eq_true, decide_eq_true_eq, Option.any_eq_true] at computed
  obtain ⟨s, run, held, destroyed, known⟩ := computed
  have reachable : Reachable (Initial .reference) (Step .reference) s :=
    reachable_of_foldlM (fun _ label _ executed => ⟨label, executed⟩)
      ⟨[], .start genesis_initial⟩ run
  exact ⟨s, reachable, integrity_of_reachable reachable, held, destroyed, known⟩

end Basilisk.Tokens
