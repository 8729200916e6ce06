/-
# Receipts and ids

A deposit is evidenced by an NFT of the pallet's class: the two are made together
and end together, and whoever holds the NFT holds the deposit.  Farms and pools
get their ids from one sequencer, so the ids reported at their creation are the
numbers up to the sequencer, each reported once.  Both are proved for the calls of
the pallet; what others do to the NFTs is for the runtime to exclude.
-/

import Basilisk.LiquidityMining.Entry

namespace Basilisk.LiquidityMining

open Basilisk.Math

/-- The id of the farm or pool that an event reports as created. -/
def Event.created : Event → Option ℕ
  | .farmCreated farmId _ _ _ _ _ _ _ => some farmId
  | .liquidityPoolAdded _ liqPoolFarmId _ _ _ _ => some liqPoolFarmId
  | _ => none

/-- The ids of all farms and pools created so far, in the order of their creation. -/
def createdIds (events : List Event) : List ℕ :=
  events.filterMap Event.created

/-- A deposit is recorded if and only if the NFT of its id exists. -/
def Receipted (cfg : Config) (s : State) : Prop :=
  ∀ nftId, (s.nft.owner (cfg.nftClass, nftId)).isSome = (s.depositData.lookup nftId).isSome

section Receipts

variable {cfg : Config} {s t : State} {kind : MoveKind}

theorem Receipted.mint (receipted : Receipted cfg s) {owner : AccountId} {nftId : ℕ}
    {nft : Nft.State} (minted : Nft.doMint s.nft owner (cfg.nftClass, nftId) [] = .ok nft)
    (deposit : Deposit) (other : ℕ) :
    (nft.owner (cfg.nftClass, other)).isSome =
      ((s.depositData.insert nftId deposit).lookup other).isSome := by
  have owners : nft.owner (cfg.nftClass, other) = if (cfg.nftClass, other) = (cfg.nftClass, nftId)
      then some owner else s.nft.owner (cfg.nftClass, other) := (Nft.owner_doMint minted).2
  rw [owners, AList.lookup_insert_eq_ite]
  by_cases here : other = nftId
  · subst here
    rw [if_pos rfl, if_pos rfl]
    rfl
  · have distinct : (cfg.nftClass, other) ≠ (cfg.nftClass, nftId) := fun same =>
      here (Prod.mk.inj same).2
    rw [if_neg distinct, if_neg here]
    exact receipted other

theorem Receipted.burn (receipted : Receipted cfg s) {owner : AccountId} {nftId : ℕ}
    {nft : Nft.State} (burned : Nft.doBurn s.nft owner (cfg.nftClass, nftId) = .ok nft)
    (other : ℕ) :
    (nft.owner (cfg.nftClass, other)).isSome =
      ((s.depositData.erase nftId).lookup other).isSome := by
  have owners : nft.owner (cfg.nftClass, other) = if (cfg.nftClass, other) = (cfg.nftClass, nftId)
      then none else s.nft.owner (cfg.nftClass, other) := (Nft.owner_doBurn burned).2
  rw [owners]
  by_cases here : other = nftId
  · subst here
    rw [if_pos rfl, AList.lookup_erase]
    rfl
  · have distinct : (cfg.nftClass, other) ≠ (cfg.nftClass, nftId) := fun same =>
      here (Prod.mk.inj same).2
    rw [if_neg distinct, AList.lookup_erase_ne here]
    exact receipted other

/-- The moves of the pallet keep deposits and NFTs together and leave the classes alone. -/
theorem Receipted.move (receipted : Receipted cfg s) (move : Move cfg s kind t)
    (own : ∀ env, kind ≠ .external env) :
    Receipted cfg t ∧ t.nft.classes = s.nft.classes := by
  cases move with
  | enter _ _ _ _ _ _ _ _ _ _ minted =>
      exact ⟨receipted.mint minted _, Nft.doMint_classes minted⟩
  | pay reports _ recorded =>
      refine ⟨?_, rfl⟩
      intro other
      refine (receipted other).trans ?_
      dsimp only [State.put, State.setLiqPool, State.setGlobalPool]
      rw [AList.lookup_insert_eq_ite]
      split_ifs with here
      · rw [here, recorded]
        rfl
      · rfl
  | leave _ _ _ _ _ _ _ _ _ _ _ _ _ burned =>
      exact ⟨receipted.burn burned, Nft.doBurn_classes burned⟩
  | depart _ _ _ _ _ burned =>
      exact ⟨receipted.burn burned, Nft.doBurn_classes burned⟩
  | external => exact absurd rfl (own _)
  | _ => exact ⟨receipted, rfl⟩

theorem Receipted.dispatch (receipted : Receipted cfg s)
    (consistent : Consistent cfg s.blockNumber s.toStorage) {call : Call}
    (called : dispatch cfg s call = .ok t) :
    Receipted cfg t ∧ t.nft.classes = s.nft.classes := by
  have path : Path cfg s (.call call) s t := path_of_step consistent called
  clear called
  induction path with
  | refl => exact ⟨receipted, rfl⟩
  | tail _ moved ih =>
      obtain ⟨kind, inherits, move⟩ := moved
      have own : ∀ env, kind ≠ .external env := by
        rintro env rfl
        exact absurd inherits.origin nofun
      obtain ⟨after, classes⟩ := ih.1.move move own
      exact ⟨after, classes.trans ih.2⟩

end Receipts

section Numbering

variable {cfg : Config} {s s' t u : State} {globalPool globalPool' : GlobalPool}
variable {liqPool liqPool' : LiquidityPoolYieldFarm} {now : ℕ}

/-- Nothing was created in between. -/
structure SameIds (s t : State) : Prop where
  created : createdIds t.events = createdIds s.events
  sequencer : t.poolIdSequencer = s.poolIdSequencer

/-- The farm or pool with the next id was created in between. -/
structure NextId (s t : State) : Prop where
  created : createdIds t.events = createdIds s.events ++ [s.poolIdSequencer + 1]
  sequencer : t.poolIdSequencer = s.poolIdSequencer + 1

theorem createdIds_append (first second : List Event) :
    createdIds (first ++ second) = createdIds first ++ createdIds second :=
  List.filterMap_append

/-- Reports of anything else say nothing about what was created. -/
theorem createdIds_append_nil {events reports : List Event} (quiet : createdIds reports = []) :
    createdIds (events ++ reports) = createdIds events := by
  rw [createdIds_append, quiet, List.append_nil]

theorem SameIds.trans (first : SameIds s t) (second : SameIds t u) : SameIds s u :=
  ⟨second.created.trans first.created, second.sequencer.trans first.sequencer⟩

theorem sameIds_of_refreshGlobalPool
    (called : refreshGlobalPool cfg s globalPool now = .ok (s', globalPool')) :
    SameIds s s' := by
  obtain ⟨rfl, -, -⟩ | ⟨_, _, _, -, -, -, -, -, -, rfl, -⟩ := refreshGlobalPool_ok called
  · exact ⟨rfl, rfl⟩
  · exact ⟨createdIds_append_nil rfl, rfl⟩

theorem sameIds_of_maybeUpdatePools
    (called : maybeUpdatePools cfg s globalPool liqPool now = .ok (s', globalPool', liqPool')) :
    SameIds s s' := by
  cases broughtUp_of_maybeUpdatePools called with
  | idle => exact ⟨rfl, rfl⟩
  | unvalued _ refreshed => exact sameIds_of_refreshGlobalPool refreshed
  | paid _ refreshed =>
      exact (sameIds_of_refreshGlobalPool refreshed).trans ⟨createdIds_append_nil rfl, rfl⟩

theorem sameIds_of_doClaimRewards {who : AccountId} {deposit deposit' : Deposit}
    {reward unclaimable : ℕ} {currency : AssetId}
    (called : doClaimRewards cfg s who deposit liqPool now currency =
      .ok (s', deposit', reward, unclaimable)) : SameIds s s' := by
  obtain ⟨-, ⟨-, rfl, -⟩ | ⟨_, _, -, -, -, -, rfl, -⟩⟩ := doClaimRewards_ok called
  · exact ⟨rfl, rfl⟩
  · exact ⟨rfl, rfl⟩

/-- What the part of a withdrawal that depends on the pool reports. -/
theorem sameIds_of_settleWithdrawal {who : AccountId} {slot : Slot} {deposit : Deposit}
    (called : settleWithdrawal cfg s who slot deposit = .ok t) : SameIds s t := by
  obtain ⟨-, rfl⟩ | ⟨_, -, settled⟩ := settleWithdrawal_ok called
  · exact ⟨rfl, rfl⟩
  · obtain ⟨_, s', _, _, s'', _, _, _, _, _, left, rfl⟩ := withdrawFromLiqPool_ok settled
    apply (sameIds_of_maybeUpdatePools left.updated).trans
    apply (sameIds_of_doClaimRewards left.claimed).trans
    refine ⟨createdIds_append_nil ?_, rfl⟩
    unfold claimReports
    split_ifs
    · rfl
    · rfl

theorem sameIds_of_withdrawShares {who : AccountId} {nftId : ℕ}
    (called : withdrawShares cfg s who nftId = .ok t) : SameIds s t := by
  obtain ⟨_, _, u, v, _, done, rfl⟩ := withdrawShares_ok called
  have handed := done.handed
  apply (sameIds_of_settleWithdrawal done.settled).trans
  unfold returnLpShares at handed
  split_ifs at handed
  · simp only [bind_eq_ok, State.transfer_eq_ok, return_eq_ok] at handed
    obtain ⟨_, ⟨_, -, rfl⟩, rfl⟩ := handed
    exact ⟨createdIds_append_nil rfl, rfl⟩
  · obtain rfl := return_eq_ok.mp handed
    exact ⟨rfl, rfl⟩

/-- A call creates nothing, or what has the next id. -/
theorem dispatch_ids {call : Call} (called : dispatch cfg s call = .ok t) :
    SameIds s t ∨ NextId s t := by
  cases call with
  | createFarm =>
      obtain ⟨-, -, -, _, -, rfl⟩ := createFarm_ok called
      exact .inr ⟨createdIds_append _ _, rfl⟩
  | addLiquidityPool =>
      obtain ⟨_, s', _, -, -, -, -, -, refreshed, -, rfl⟩ := addLiquidityPool_ok called
      have same := sameIds_of_refreshGlobalPool refreshed
      refine .inr ⟨?_, ?_⟩
      · rw [← same.created, ← same.sequencer]
        exact createdIds_append _ _
      · rw [← same.sequencer]
  | destroyFarm =>
      obtain ⟨_, -, -, -, -, rfl⟩ := destroyFarm_ok called
      exact .inl ⟨createdIds_append_nil rfl, rfl⟩
  | withdrawUndistributedRewards =>
      obtain ⟨_, _, -, -, -, -, rfl⟩ := withdrawUndistributedRewards_ok called
      exact .inl ⟨createdIds_append_nil rfl, rfl⟩
  | updateLiquidityPool =>
      obtain ⟨_, _, _, _, _, _, settling, -, -, -, -, -, rfl⟩ := updateLiquidityPool_ok called
      exact .inl ((sameIds_of_maybeUpdatePools settling.updated).trans
        ⟨createdIds_append_nil rfl, rfl⟩)
  | cancelLiquidityPool =>
      obtain ⟨_, _, _, _, _, settling, -, -, -, rfl⟩ := cancelLiquidityPool_ok called
      exact .inl ((sameIds_of_maybeUpdatePools settling.updated).trans
        ⟨createdIds_append_nil rfl, rfl⟩)
  | resumeLiquidityPool =>
      obtain ⟨_, _, _, _, _, -, -, -, -, refreshed, -, -, rfl⟩ := resumeLiquidityPool_ok called
      exact .inl ((sameIds_of_refreshGlobalPool refreshed).trans ⟨createdIds_append_nil rfl, rfl⟩)
  | removeLiquidityPool =>
      obtain ⟨_, _, _, -, -, -, -, -, -, rfl⟩ := removeLiquidityPool_ok called
      exact .inl ⟨createdIds_append_nil rfl, rfl⟩
  | depositShares =>
      obtain ⟨_, _, _, _, _, _, _, _, _, entered, rfl⟩ := depositShares_ok called
      exact .inl ((sameIds_of_maybeUpdatePools entered.updated).trans
        ⟨createdIds_append_nil rfl, rfl⟩)
  | claimRewards =>
      obtain ⟨_, _, _, _, _, _, _, _, _, _, _, done, rfl⟩ := claimRewards_eq_ok.mp called
      apply Or.inl
      apply (sameIds_of_maybeUpdatePools done.updated).trans
      exact (sameIds_of_doClaimRewards done.claimed).trans ⟨createdIds_append_nil rfl, rfl⟩
  | withdrawShares => exact .inl (sameIds_of_withdrawShares called)

/-- The created farms and pools are numbered one after the other. -/
def Numbered (s : State) : Prop :=
  createdIds s.events = List.range' 1 s.poolIdSequencer

theorem Numbered.dispatch (numbered : Numbered s) {call : Call}
    (called : dispatch cfg s call = .ok t) : Numbered t := by
  unfold Numbered at numbered ⊢
  obtain same | next := dispatch_ids called
  · rw [same.created, same.sequencer, numbered]
  · rw [next.created, next.sequencer, numbered, List.range'_1_concat, Nat.add_comm 1]

/-- Farms and pools that were not there before have ids above the old sequencer. -/
structure NewIds (s t : State) : Prop where
  sequencer : s.poolIdSequencer ≤ t.poolIdSequencer
  farms : ∀ farmId globalPool', t.globalPoolData.lookup farmId = some globalPool' →
    (∃ globalPool, s.globalPoolData.lookup farmId = some globalPool) ∨
      s.poolIdSequencer < farmId
  pools : ∀ slot liqPool', t.liquidityPoolData.lookup slot = some liqPool' →
    (∃ liqPool, s.liquidityPoolData.lookup slot = some liqPool ∧ liqPool'.id = liqPool.id) ∨
      s.poolIdSequencer < liqPool'.id

theorem NewIds.refl (s : State) : NewIds s s where
  sequencer := le_rfl
  farms _ globalPool farm := .inl ⟨globalPool, farm⟩
  pools _ liqPool pool := .inl ⟨liqPool, pool, rfl⟩

theorem NewIds.trans (first : NewIds s t) (second : NewIds t u) : NewIds s u := by
  refine ⟨first.sequencer.trans second.sequencer, ?_, ?_⟩
  · intro farmId globalPool'' farm
    obtain ⟨globalPool', between⟩ | new := second.farms _ _ farm
    · exact first.farms _ _ between
    · exact .inr (first.sequencer.trans_lt new)
  · intro slot liqPool'' pool
    obtain ⟨liqPool', between, same⟩ | new := second.pools _ _ pool
    · rw [same]
      exact first.pools _ _ between
    · exact .inr (first.sequencer.trans_lt new)

theorem newIds_of_move {kind : MoveKind} (move : Move cfg s kind t) : NewIds s t := by
  refine ⟨?_, ?_, ?_⟩
  · cases move with
    | createFarm => exact Nat.le_succ _
    | addPool => exact Nat.le_succ _
    | _ => exact le_rfl
  · intro farmId globalPool' farm
    obtain ⟨globalPool, before, -⟩ | created := farm_origin move farm
    · exact .inl ⟨globalPool, before⟩
    · exact .inr (created ▸ Nat.lt_succ_self _)
  · intro slot liqPool' pool
    obtain before | ⟨_, _, -, -, created, -⟩ := liqPool_origin move pool
    · exact .inl before
    · exact .inr (created ▸ Nat.lt_succ_self _)

theorem newIds_of_step {label : Label} (consistent : Consistent cfg s.blockNumber s.toStorage)
    (taken : Step cfg s label t) : NewIds s t := by
  have path := path_of_step consistent taken
  clear taken
  induction path with
  | refl => exact .refl s
  | tail _ moved ih =>
      obtain ⟨kind, -, move⟩ := moved
      exact ih.trans (newIds_of_move move)

end Numbering

end Basilisk.LiquidityMining
