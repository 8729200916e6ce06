/-
# The metadata of removed pools

The metadata of a pool outlives the pool as long as deposits made in it are left,
and is to go with the last of them.  It is deleted in two places: when a pool
without deposits is removed, and when the last deposit of a removed pool leaves.
The second place recognizes a removed pool by an empty slot, so metadata stays
behind exactly if the last deposit leaves while another pool is in the slot.
-/

import Basilisk.LiquidityMining.Reference
import Basilisk.LiquidityMining.Settlement
import Basilisk.LiquidityMining.Writes

namespace Basilisk.LiquidityMining

open Basilisk.Math

/-- The pool with this id is stored in some slot. -/
def Live (pools : AList fun _ : Slot => LiquidityPoolYieldFarm) (liqPoolId : ℕ) : Prop :=
  ∃ slot liqPool, pools.lookup slot = some liqPool ∧ liqPool.id = liqPoolId

/-- The metadata of a pool is left although it counts no deposits and the pool is gone. -/
structure Stranded (σ : Storage) (liqPoolId : ℕ) : Prop where
  uncounted : ∃ metadata, σ.liquidityPoolMetadata.lookup liqPoolId = some metadata ∧
    metadata.nftsCount = 0
  removed : ¬ Live σ.liquidityPoolData liqPoolId

/-- The last deposit of a removed pool leaves while another pool is in its slot. -/
def Label.Strands (cfg : Config) (s : State) (liqPoolId : ℕ) : Label → Prop
  | .call (.withdrawShares _ nftId) => poolIdOf nftId = liqPoolId ∧ ∃ metadata liqPool,
      s.liquidityPoolMetadata.lookup liqPoolId = some metadata ∧ metadata.nftsCount = 1 ∧
      s.liquidityPoolData.lookup (metadata.slot cfg) = some liqPool ∧ liqPool.id ≠ liqPoolId
  | _ => False

/-- The step leaves no metadata behind. -/
def Reclaims (cfg : Config) (s : State) (label : Label) : Prop :=
  ∀ liqPoolId, ¬ label.Strands cfg s liqPoolId

section Live

variable {pools : AList fun _ : Slot => LiquidityPoolYieldFarm} {slot : Slot}
variable {liqPool liqPool' : LiquidityPoolYieldFarm} {σ τ : Storage} {liqPoolId : ℕ}

/-- Rewriting a pool neither adds nor removes one. -/
theorem live_insert_iff (pool : pools.lookup slot = some liqPool)
    (id : liqPool'.id = liqPool.id) :
    Live (pools.insert slot liqPool') liqPoolId ↔ Live pools liqPoolId := by
  constructor
  · rintro ⟨place, found, stored, rfl⟩
    rw [AList.lookup_insert_eq_ite] at stored
    split_ifs at stored with same
    · obtain rfl := Option.some.inj stored
      exact ⟨slot, liqPool, pool, id.symm⟩
    · exact ⟨place, found, stored, rfl⟩
  · rintro ⟨place, found, stored, rfl⟩
    by_cases same : place = slot
    · subst same
      obtain rfl := Option.some.inj (stored.symm.trans pool)
      exact ⟨place, liqPool', AList.lookup_insert _, id⟩
    · exact ⟨place, found, (AList.lookup_insert_ne same).trans stored, rfl⟩

/-- A pool is added. -/
theorem live_add_iff (vacant : pools.lookup slot = none) :
    Live (pools.insert slot liqPool') liqPoolId ↔
      Live pools liqPoolId ∨ liqPool'.id = liqPoolId := by
  constructor
  · rintro ⟨place, found, stored, id⟩
    rw [AList.lookup_insert_eq_ite] at stored
    split_ifs at stored
    · obtain rfl := Option.some.inj stored
      exact .inr id
    · exact .inl ⟨place, found, stored, id⟩
  · rintro (⟨place, found, stored, id⟩ | id)
    · have other := AList.ne_of_lookup vacant stored
      exact ⟨place, found, (AList.lookup_insert_ne other).trans stored, id⟩
    · exact ⟨slot, liqPool', AList.lookup_insert _, id⟩

/-- Another pool is removed. -/
theorem live_erase_iff (pool : pools.lookup slot = some liqPool)
    (other : liqPool.id ≠ liqPoolId) :
    Live (pools.erase slot) liqPoolId ↔ Live pools liqPoolId := by
  constructor
  · rintro ⟨place, found, stored, id⟩
    rw [AList.lookup_erase_eq_ite] at stored
    split_ifs at stored
    exact ⟨place, found, stored, id⟩
  · rintro ⟨place, found, stored, id⟩
    refine ⟨place, found, ?_, id⟩
    rw [AList.lookup_erase_ne]
    · exact stored
    · rintro rfl
      obtain rfl := Option.some.inj (stored.symm.trans pool)
      exact other id

/-- The pool that metadata belongs to is live exactly if its slot holds it. -/
theorem Consistent.live_iff {cfg : Config} {block : ℕ} {metadata : Metadata}
    (consistent : Consistent cfg block σ)
    (known : σ.liquidityPoolMetadata.lookup liqPoolId = some metadata)
    (pool : σ.liquidityPoolData.lookup (metadata.slot cfg) = some liqPool) :
    Live σ.liquidityPoolData liqPoolId ↔ liqPool.id = liqPoolId := by
  constructor
  · rintro ⟨place, found, stored, rfl⟩
    obtain ⟨own, known', leads⟩ := (consistent.pools _ _ stored).known
    obtain rfl := Option.some.inj (known'.symm.trans known)
    rw [leads, stored, Option.some.injEq] at pool
    rw [pool]
  · intro id
    exact ⟨_, liqPool, pool, id⟩

/-- Metadata that is not written, of a pool that is neither added nor removed. -/
theorem stranded_congr
    (live : Live τ.liquidityPoolData liqPoolId ↔ Live σ.liquidityPoolData liqPoolId)
    (table : τ.liquidityPoolMetadata.lookup liqPoolId =
      σ.liquidityPoolMetadata.lookup liqPoolId) :
    Stranded τ liqPoolId ↔ Stranded σ liqPoolId := by
  constructor
  · rintro ⟨uncounted, removed⟩
    exact ⟨table ▸ uncounted, fun alive => removed (live.mpr alive)⟩
  · rintro ⟨uncounted, removed⟩
    exact ⟨table.symm ▸ uncounted, fun alive => removed (live.mp alive)⟩

theorem not_stranded_of_live (live : Live σ.liquidityPoolData liqPoolId) : ¬ Stranded σ liqPoolId :=
  fun stranded => stranded.removed live

theorem not_stranded_of_counted {metadata : Metadata}
    (known : σ.liquidityPoolMetadata.lookup liqPoolId = some metadata)
    (counted : metadata.nftsCount ≠ 0) : ¬ Stranded σ liqPoolId := by
  rintro ⟨⟨found, stored, none⟩, -⟩
  obtain rfl := Option.some.inj (stored.symm.trans known)
  exact counted none

theorem not_stranded_of_absent (absent : σ.liquidityPoolMetadata.lookup liqPoolId = none) :
    ¬ Stranded σ liqPoolId := by
  rintro ⟨⟨found, stored, -⟩, -⟩
  exact absurd (absent.symm.trans stored) nofun

end Live

section Steps

variable {cfg : Config} {s t : State} {label : Label} {τ : Storage} {liqPoolId : ℕ}

/-- Metadata that is stranded stays so, and only the last deposit of a removed pool
strands any. -/
theorem stranded_writes_iff (consistent : Consistent cfg s.blockNumber s.toStorage)
    {call : Call} (written : Writes cfg s call τ) :
    Stranded τ liqPoolId ↔
      Stranded s.toStorage liqPoolId ∨ (Label.call call).Strands cfg s liqPoolId := by
  -- most calls strand nothing
  have quiet : ¬ (Label.call call).Strands cfg s liqPoolId →
      (Stranded τ liqPoolId ↔ Stranded s.toStorage liqPoolId) →
      (Stranded τ liqPoolId ↔
        Stranded s.toStorage liqPoolId ∨ (Label.call call).Strands cfg s liqPoolId) :=
    fun none same => same.trans (or_iff_left none).symm
  cases written with
  | createFarm => exact quiet id (stranded_congr Iff.rfl rfl)
  | destroyFarm => exact quiet id (stranded_congr Iff.rfl rfl)
  | withdrawUndistributedRewards => exact quiet id Iff.rfl
  | addLiquidityPool farm vacant refreshed =>
      apply quiet id
      by_cases new : s.poolIdSequencer + 1 = liqPoolId
      · subst new
        -- the id is new, so there was no metadata under it
        have absent : s.liquidityPoolMetadata.lookup (s.poolIdSequencer + 1) = none := by
          by_contra present
          obtain ⟨metadata, known⟩ := Option.ne_none_iff_exists'.mp present
          have numbered := (consistent.metadata _ _ known).numbered
          omega
        exact iff_of_false (not_stranded_of_live ((live_add_iff vacant).mpr (.inr rfl)))
          (not_stranded_of_absent absent)
      · apply stranded_congr ((live_add_iff vacant).trans (or_iff_left new))
        exact AList.lookup_insert_ne (Ne.symm new)
  | updateLiquidityPool settling =>
      obtain ⟨_, _, _, rfl⟩ := settling.poolKept
      exact quiet id (stranded_congr (live_insert_iff settling.pool rfl) rfl)
  | cancelLiquidityPool settling =>
      obtain ⟨_, _, _, rfl⟩ := settling.poolKept
      exact quiet id (stranded_congr (live_insert_iff settling.pool rfl) rfl)
  | resumeLiquidityPool farm pool =>
      exact quiet id (stranded_congr (live_insert_iff pool rfl) rfl)
  | @removeLiquidityPool key farmId assetPair globalPool liqPool farm pool idle =>
      apply quiet id
      by_cases own : liqPool.id = liqPoolId
      · subst own
        refine iff_of_false ?_ (not_stranded_of_live ⟨_, liqPool, pool, rfl⟩)
        -- its metadata goes with it, unless it counts deposits
        obtain ⟨metadata, known, -⟩ := (consistent.pools _ _ pool).known
        by_cases unused : metadata.nftsCount = 0
        · apply not_stranded_of_absent
          simp only [dropUnusedMetadata, known, if_pos unused, AList.lookup_erase]
        · refine not_stranded_of_counted ?_ unused
          simp only [dropUnusedMetadata, known, if_neg unused]
      · apply stranded_congr (live_erase_iff pool own)
        obtain same | ⟨erased, -⟩ := dropUnusedMetadata_table s liqPool.id
        · exact congrArg (AList.lookup liqPoolId) same
        · refine (congrArg (AList.lookup liqPoolId) erased).trans ?_
          exact AList.lookup_erase_ne (Ne.symm own)
  | @depositShares key farmId amount valuedShares stake assetPair _ _ liqPool _ _ metadata
      settling active weighed sequenced known =>
      apply quiet id
      obtain ⟨_, _, _, rfl⟩ := settling.poolKept
      by_cases own : liqPool.id = liqPoolId
      · have alive : Live s.liquidityPoolData liqPoolId := ⟨_, liqPool, settling.pool, own⟩
        exact iff_of_false
          (not_stranded_of_live ((live_insert_iff settling.pool (by rfl)).mpr alive))
          (not_stranded_of_live alive)
      · exact stranded_congr (live_insert_iff settling.pool rfl)
          (AList.lookup_insert_ne (Ne.symm own))
  | claimRewards known recorded settling =>
      obtain ⟨_, _, _, rfl⟩ := settling.poolKept
      exact quiet id (stranded_congr (live_insert_iff settling.pool rfl) rfl)
  | @withdrawShares key nftId stake metadata _ _ liqPool _ _ deposit known recorded settling =>
      have counted := consistent.counted known recorded
      obtain ⟨_, _, _, rfl⟩ := settling.poolKept
      by_cases own : poolIdOf nftId = liqPoolId
      · subst own
        rw [or_iff_right (not_stranded_of_counted known (by omega))]
        constructor
        · rintro ⟨⟨found, stored, none⟩, removed⟩
          obtain rfl := Option.some.inj ((AList.lookup_insert _).symm.trans stored)
          refine ⟨rfl, metadata, liqPool, known, ?_, settling.pool, ?_⟩
          · dsimp only at none
            omega
          · intro id
            exact removed
              ((live_insert_iff settling.pool (by rfl)).mpr ⟨_, liqPool, settling.pool, id⟩)
        · rintro ⟨-, found, other, stored, last, pool, distinct⟩
          obtain rfl := Option.some.inj (stored.symm.trans known)
          refine ⟨⟨_, AList.lookup_insert _, ?_⟩, ?_⟩
          · dsimp only
            omega
          · intro alive
            exact distinct ((consistent.live_iff known pool).mp
              ((live_insert_iff settling.pool (by rfl)).mp alive))
      · exact quiet (fun strands => own strands.1) (stranded_congr
          (live_insert_iff settling.pool rfl) (AList.lookup_insert_ne (Ne.symm own)))
  | @withdrawUnsettled key nftId metadata deposit known recorded vacant counted =>
      by_cases own : poolIdOf nftId = liqPoolId
      · subst own
        apply iff_of_false
        · by_cases last : metadata.nftsCount = 1
          · apply not_stranded_of_absent
            simp only [if_pos last, AList.lookup_erase]
          · rintro ⟨⟨found, stored, none⟩, -⟩
            simp only [if_neg last, AList.lookup_insert, Option.some.injEq] at stored
            subst stored
            dsimp only at none
            omega
        · rintro (stranded | ⟨-, found, other, stored, -, pool, -⟩)
          · exact not_stranded_of_counted known (by omega) stranded
          · obtain rfl := Option.some.inj (stored.symm.trans known)
            exact absurd (vacant.symm.trans pool) nofun
      · apply quiet (fun strands => own strands.1)
        refine stranded_congr Iff.rfl ?_
        dsimp only
        split_ifs
        · exact AList.lookup_erase_ne (Ne.symm own)
        · exact AList.lookup_insert_ne (Ne.symm own)

/-- A step strands metadata only if it is of the kind that does. -/
theorem stranded_step_iff (consistent : Consistent cfg s.blockNumber s.toStorage)
    (taken : Step cfg s label t) :
    Stranded t.toStorage liqPoolId ↔
      Stranded s.toStorage liqPoolId ∨ label.Strands cfg s liqPoolId := by
  cases label with
  | external env =>
      obtain ⟨-, rfl⟩ := taken
      exact (or_iff_left id).symm
  | call call => exact stranded_writes_iff consistent (writes_of_dispatch consistent taken)

/-- No metadata is stranded exactly if no step of the run stranded any. -/
theorem none_stranded_iff {past : List (State × Label)}
    (run : Run (Initial cfg) (Step cfg) past s) :
    (∀ liqPoolId, ¬ Stranded s.toStorage liqPoolId) ↔ Guarded (Reclaims cfg) past := by
  induction run with
  | start initial =>
      refine iff_of_true ?_ guarded_nil
      intro liqPoolId
      apply not_stranded_of_absent
      rw [initial.liquidityPoolMetadata]
      rfl
  | extend prior taken ih =>
      have consistent := consistent_of_reachable ⟨_, prior⟩
      rw [guarded_cons, ← ih, Reclaims, ← forall_and]
      apply forall_congr'
      intro liqPoolId
      rw [stranded_step_iff consistent taken, not_or, and_comm]

/-- Metadata counts deposits exactly if one is recorded. -/
theorem Consistent.uncounted_iff {block : ℕ} {σ : Storage} {metadata : Metadata}
    (consistent : Consistent cfg block σ)
    (known : σ.liquidityPoolMetadata.lookup liqPoolId = some metadata) :
    metadata.nftsCount = 0 ↔
      ∀ nftId deposit, σ.depositData.lookup nftId = some deposit →
        poolIdOf nftId ≠ liqPoolId := by
  rw [(consistent.metadata _ _ known).counted]
  constructor
  · rintro none nftId deposit recorded rfl
    have counted := depositsOf_pos recorded
    omega
  · intro empty
    apply AList.total_eq_zero
    intro nftId deposit recorded
    exact if_neg (empty nftId deposit recorded)

end Steps

section Runs

variable {cfg : Config} {s : State} {past : List (State × Label)}

/-- In every run the metadata of each pool is that of a live pool or of a recorded
deposit, exactly if the last deposit of a removed pool never left while another pool was
in its slot. -/
theorem metadata_reclaimed_iff (run : Run (Initial cfg) (Step cfg) past s) :
    (∀ liqPoolId metadata, s.liquidityPoolMetadata.lookup liqPoolId = some metadata →
      (∃ slot liqPool, s.liquidityPoolData.lookup slot = some liqPool ∧
        liqPool.id = liqPoolId) ∨
      ∃ nftId deposit, s.depositData.lookup nftId = some deposit ∧
        poolIdOf nftId = liqPoolId) ↔ Guarded (Reclaims cfg) past := by
  have consistent := consistent_of_reachable ⟨_, run⟩
  rw [← none_stranded_iff run]
  constructor
  · rintro used liqPoolId ⟨⟨metadata, known, none⟩, removed⟩
    obtain live | ⟨nftId, deposit, recorded, own⟩ := used liqPoolId metadata known
    · exact removed live
    · exact (consistent.uncounted_iff known).mp none nftId deposit recorded own
  · intro sound liqPoolId metadata known
    by_contra unused
    rw [not_or] at unused
    apply sound liqPoolId
    refine ⟨⟨metadata, known, (consistent.uncounted_iff known).mpr ?_⟩, unused.1⟩
    intro nftId deposit recorded own
    exact unused.2 ⟨nftId, deposit, recorded, own⟩

/-- Only a withdrawal can leave metadata behind: that of a last deposit while another pool is
in its slot. -/
theorem reclaims_withdrawShares_iff {key nftId : ℕ} :
    Reclaims cfg s (.call (.withdrawShares key nftId)) ↔
      ∀ metadata ∈ s.liquidityPoolMetadata.lookup (poolIdOf nftId), metadata.nftsCount = 1 →
        ∀ liqPool ∈ s.liquidityPoolData.lookup (metadata.slot cfg),
          liqPool.id = poolIdOf nftId := by
  constructor
  · intro sound metadata known last liqPool pool
    by_contra other
    exact sound _ ⟨rfl, metadata, liqPool, known, last, pool, other⟩
  · rintro sound liqPoolId ⟨rfl, metadata, liqPool, known, last, pool, other⟩
    exact other (sound metadata known last liqPool pool)

instance (s : State) : (label : Label) → Decidable (Reclaims cfg s label)
  | .call (.withdrawShares ..) => decidable_of_iff' _ reclaims_withdrawShares_iff
  | .external .. | .call (.createFarm ..) | .call (.destroyFarm ..)
  | .call (.withdrawUndistributedRewards ..) | .call (.addLiquidityPool ..)
  | .call (.updateLiquidityPool ..) | .call (.cancelLiquidityPool ..)
  | .call (.resumeLiquidityPool ..) | .call (.removeLiquidityPool ..)
  | .call (.depositShares ..) | .call (.claimRewards ..) => isTrue fun _ => id

/-- The last deposit of a removed pool leaves before another pool is added in its slot. -/
theorem metadata_reclaimed_removed :
    ∃ past s, simulateRecording [
        .call (.cancelLiquidityPool 0 1 ⟨1, 2⟩), .call (.removeLiquidityPool 0 1 ⟨1, 2⟩),
        .call (.withdrawShares 1 (encodeNftId 2 1)),
        .call (.addLiquidityPool 0 1 ⟨1, 2⟩ FixedU128.one none),
        .call (.depositShares 2 1 ⟨1, 2⟩ 1000)] = .ok (past, s) ∧
      s.liquidityPoolMetadata.lookup 2 = none ∧
      ∀ liqPoolId metadata, s.liquidityPoolMetadata.lookup liqPoolId = some metadata →
        (∃ slot liqPool, s.liquidityPoolData.lookup slot = some liqPool ∧
          liqPool.id = liqPoolId) ∨
        ∃ nftId deposit, s.depositData.lookup nftId = some deposit ∧
          poolIdOf nftId = liqPoolId := by
  have computed : succeedsWith (simulateRecording [
      .call (.cancelLiquidityPool 0 1 ⟨1, 2⟩), .call (.removeLiquidityPool 0 1 ⟨1, 2⟩),
      .call (.withdrawShares 1 (encodeNftId 2 1)),
      .call (.addLiquidityPool 0 1 ⟨1, 2⟩ FixedU128.one none),
      .call (.depositShares 2 1 ⟨1, 2⟩ 1000)])
      (fun result => decide (Guarded (Reclaims .reference) result.1) &&
        decide (result.2.liquidityPoolMetadata.lookup 2 = none)) = true := by
    decide +kernel
  simp only [succeedsWith_iff, Bool.and_eq_true, decide_eq_true_eq] at computed
  obtain ⟨⟨past, s⟩, run, guarded, gone⟩ := computed
  exact ⟨past, s, run, gone, (metadata_reclaimed_iff (run_of_simulate run)).mpr guarded⟩

/-- A pool is removed and another one added in its slot while a deposit of the first is
left: when that deposit leaves, the metadata of the first pool stays. -/
theorem metadata_not_reclaimed :
    ¬ ∀ cfg s, Reachable (Initial cfg) (Step cfg) s →
      ∀ liqPoolId metadata, s.liquidityPoolMetadata.lookup liqPoolId = some metadata →
        (∃ slot liqPool, s.liquidityPoolData.lookup slot = some liqPool ∧
          liqPool.id = liqPoolId) ∨
        ∃ nftId deposit, s.depositData.lookup nftId = some deposit ∧
          poolIdOf nftId = liqPoolId := by
  intro claim
  have computed : succeedsWith (simulate [
      .call (.cancelLiquidityPool 0 1 ⟨1, 2⟩), .call (.removeLiquidityPool 0 1 ⟨1, 2⟩),
      .call (.addLiquidityPool 0 1 ⟨1, 2⟩ FixedU128.one none),
      .call (.depositShares 2 1 ⟨1, 2⟩ 1000),
      .call (.withdrawShares 1 (encodeNftId 2 1))])
      (fun s => (s.liquidityPoolMetadata.lookup 2).isSome &&
        decide (∀ entry ∈ s.liquidityPoolData.entries, entry.2.id ≠ 2) &&
        decide (∀ entry ∈ s.depositData.entries, poolIdOf entry.1 ≠ 2)) = true := by
    decide +kernel
  simp only [succeedsWith_iff, Bool.and_eq_true, Option.isSome_iff_exists, decide_eq_true_eq]
    at computed
  obtain ⟨s, run, ⟨⟨metadata, known⟩, noPool⟩, noDeposit⟩ := computed
  obtain ⟨slot, liqPool, pool, id⟩ | ⟨nftId, deposit, recorded, own⟩ :=
    claim .reference s (reachable_of_simulate run) 2 metadata known
  · exact noPool ⟨slot, liqPool⟩ (AList.mem_lookup_iff.mp pool) id
  · exact noDeposit ⟨nftId, deposit⟩ (AList.mem_lookup_iff.mp recorded) own

end Runs

end Basilisk.LiquidityMining
