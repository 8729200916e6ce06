/-
# What is behind a share

A share of a pool stands for a part of both of its reserves.  Trades add to the
reserves behind the shares, and whoever burns shares takes no more than their part.
Whoever adds liquidity is minted as many shares as they pay of the asset with the
smaller id, whatever the reserves are by then, so they may pay less than the part they
get.  This module shows that nothing else in the runtime, from any state on, can take
from a share what is behind it.
-/

import Basilisk.Runtime.Pools

namespace Basilisk

open Basilisk.Math

namespace Xyk

variable {cfg : Config} {s t : State} {call : Call} {account : AccountId}
variable {assets : AssetId × AssetId} {token : AssetId} {liquidity : ℕ}

/-- The pool a call mints or burns shares of. -/
def Call.adjusts : Call → Option AccountId
  | .createPool _ _ assetA assetB _ _ => some (getPairId ⟨assetA, assetB⟩)
  | .addLiquidity _ assetA assetB _ _ => some (getPairId ⟨assetA, assetB⟩)
  | .removeLiquidity _ assetA assetB _ => some (getPairId ⟨assetA, assetB⟩)
  | .sell .. => none
  | .buy .. => none

/-- A call that adds liquidity to the pool pays at least the part of both reserves that the new
shares are of the liquidity, and none creates the pool anew. -/
def Call.Fair (cfg : Config) (s : State) (account : AccountId) : Call → Prop
  | .createPool _ _ assetA assetB _ _ => account ≠ getPairId ⟨assetA, assetB⟩
  | .addLiquidity _ assetA assetB amountA _ => account = getPairId ⟨assetA, assetB⟩ →
      ∀ amountB ∈ cfg.math.calculateLiquidityIn (s.ledger.free account assetA)
        (s.ledger.free account assetB) amountA,
      (if assetA < assetB then amountA else amountB) * s.ledger.free account assetA ≤
          amountA * s.totalLiquidityOf account ∧
        (if assetA < assetB then amountA else amountB) * s.ledger.free account assetB ≤
          amountB * s.totalLiquidityOf account
  | _ => True

instance (call : Call) : Decidable (call.Fair cfg s account) :=
  match call with
  | .createPool _ _ assetA assetB _ _ =>
      inferInstanceAs (Decidable (_ ≠ getPairId ⟨assetA, assetB⟩))
  | .addLiquidity .. => inferInstanceAs (Decidable (_ → ∀ _ ∈ _, _ ∧ _))
  | .removeLiquidity .. => isTrue trivial
  | .sell .. => isTrue trivial
  | .buy .. => isTrue trivial

/-- What is behind a share of the pool is not less than it was. -/
def WorthKept (s t : State) (account : AccountId) (assets : AssetId × AssetId) : Prop :=
  PerShareLe (product s account assets) (s.totalLiquidityOf account)
    (product t account assets) (t.totalLiquidityOf account)

/-- A call keeps the records of the pools it mints and burns no shares of. -/
theorem records_of_call (agree : RecordsAgree cfg s) (elsewhere : call.adjusts ≠ some account)
    (taken : Step cfg s call t) :
    t.poolAssets.lookup account = s.poolAssets.lookup account ∧
      t.totalLiquidityOf account = s.totalLiquidityOf account := by
  have other {pair : AssetPair} (here : call.adjusts = some (getPairId pair)) :
      account ≠ getPairId pair := fun same => elsewhere (same ▸ here)
  cases call with
  | createPool =>
      obtain ⟨_, _, _, _, _, -, -, -, -, -, -, -, -, -, -, -, pairs, totals⟩ := createPool_ok taken
      rw [State.totalLiquidityOf, State.totalLiquidityOf, pairs, totals,
        AList.lookup_insert_ne (other rfl), AList.lookup_insert_ne (other rfl)]
      exact ⟨rfl, rfl⟩
  | addLiquidity =>
      obtain ⟨_, _, _, _, -, -, -, -, -, -, -, -, -, pairs, totals⟩ := addLiquidity_ok taken
      rw [State.totalLiquidityOf, State.totalLiquidityOf, pairs, totals,
        AList.lookup_insert_ne (other rfl)]
      exact ⟨rfl, rfl⟩
  | removeLiquidity =>
      obtain ⟨_, _, _, _, -, -, -, -, -, -, -, left⟩ := removeLiquidity_ok taken
      rw [State.totalLiquidityOf, State.totalLiquidityOf]
      split_ifs at left
      · rw [left.2.1, left.2.2, AList.lookup_erase_ne (other rfl),
          AList.lookup_erase_ne (other rfl), AList.lookup_insert_ne (other rfl)]
        exact ⟨rfl, rfl⟩
      · rw [left.2.1, left.2.2, AList.lookup_insert_ne (other rfl)]
        exact ⟨rfl, rfl⟩
  | sell =>
      obtain ⟨_, _, _, pool⟩ := agree.live (sell_poolExists taken)
      obtain ⟨_, _, -, -, traded⟩ := sell_traded pool.assets_ne taken
      rw [State.totalLiquidityOf, State.totalLiquidityOf, traded.poolAssets, traded.totalLiquidity]
      exact ⟨rfl, rfl⟩
  | buy =>
      obtain ⟨_, _, _, pool⟩ := agree.live (buy_poolExists taken)
      obtain ⟨_, _, -, -, traded⟩ := buy_traded pool.assets_ne taken
      rw [State.totalLiquidityOf, State.totalLiquidityOf, traded.poolAssets, traded.totalLiquidity]
      exact ⟨rfl, rfl⟩

/-- A call that adjusts no shares of a pool leaves its reserves to trades. -/
theorem product_le_of_call (lawful : cfg.Lawful) (agree : RecordsAgree cfg s)
    (registered : PoolsRegistered cfg s) (elsewhere : call.adjusts ≠ some account)
    (taken : Step cfg s call t) (pool : LivePool cfg s account assets token liquidity) :
    product s account assets ≤ product t account assets := by
  have unpaid (unasked : call.payingPool ≠ some account) :
      product s account assets ≤ product t account assets := by
    refine product_le_of_free_le ((changes_of_step registered taken).free_le_of_not_pays ?_)
    rintro (caller | paying)
    · obtain ⟨key, signer⟩ := call.caller_isSigner
      exact getPairId_ne_signer ⟨assets.1, assets.2⟩ key
        (pool.pairAccount.symm.trans (caller.trans signer))
    · exact unasked paying
  cases call with
  | createPool => exact unpaid nofun
  | addLiquidity => exact unpaid nofun
  | removeLiquidity => exact unpaid elsewhere
  | sell => exact product_le_of_trade lawful agree rfl taken pool
  | buy => exact product_le_of_trade lawful agree rfl taken pool

/-- New shares that are paid for leave what is behind the others. -/
theorem worthKept_of_addLiquidity {key amountA limit : ℕ} {assetA assetB : AssetId}
    (pool : LivePool cfg s (getPairId ⟨assetA, assetB⟩) assets token liquidity)
    (fair : (Call.addLiquidity key assetA assetB amountA limit).Fair cfg s
      (getPairId ⟨assetA, assetB⟩))
    (called : addLiquidity cfg s (.signer key) assetA assetB amountA limit = .ok t) :
    t.poolAssets.lookup (getPairId ⟨assetA, assetB⟩) = some assets ∧
      WorthKept s t (getPairId ⟨assetA, assetB⟩) assets := by
  obtain ⟨amountB, shares, afterA, afterB, -, -, priced, counted, -, movedA, movedB, minted, -,
    pairs, totals⟩ := addLiquidity_ok called
  refine ⟨pairs ▸ pool.recorded, ?_⟩
  obtain ⟨fairA, fairB⟩ := fair rfl amountB priced
  rw [← counted] at fairA fairB
  obtain ⟨paidA, paidB⟩ := reserves_paid_in pool.assets_ne movedA movedB
  have total : t.totalLiquidityOf (getPairId ⟨assetA, assetB⟩) =
      s.totalLiquidityOf (getPairId ⟨assetA, assetB⟩) + shares := by
    rw [State.totalLiquidityOf, totals, AList.lookup_insert, Option.getD_some]
  unfold WorthKept
  rw [pool.product_eq, pool.product_eq, total,
    Ledger.free_deposit_of_ne minted (getPairId_ne_signer _ _),
    Ledger.free_deposit_of_ne minted (getPairId_ne_signer _ _), paidA, paidB]
  exact .of_reserves (kept_of_minted fairA) (kept_of_minted fairB)

/-- Burned shares take no more than their part, and the last one takes the pool. -/
theorem worthKept_of_removeLiquidity {key amount : ℕ} {assetA assetB : AssetId}
    (lawful : cfg.Lawful)
    (pool : LivePool cfg s (getPairId ⟨assetA, assetB⟩) assets token liquidity)
    (called : removeLiquidity cfg s (.signer key) assetA assetB amount = .ok t) :
    t.poolAssets.lookup (getPairId ⟨assetA, assetB⟩) = none ∨
      t.poolAssets.lookup (getPairId ⟨assetA, assetB⟩) = some assets ∧
        WorthKept s t (getPairId ⟨assetA, assetB⟩) assets := by
  obtain ⟨amountA, amountB, afterA, afterB, -, -, -, priced, movedA, movedB, burned, stored⟩ :=
    removeLiquidity_ok called
  split_ifs at stored
  · exact .inl (by rw [stored.2.1, AList.lookup_erase])
  · obtain ⟨-, pairs, totals⟩ := stored
    refine .inr ⟨pairs ▸ pool.recorded, ?_⟩
    obtain ⟨-, partA, partB⟩ := lawful.math.liquidityOut priced
    obtain ⟨leftA, leftB⟩ := reserves_paid_out pool.assets_ne movedA movedB
    have total : t.totalLiquidityOf (getPairId ⟨assetA, assetB⟩) =
        s.totalLiquidityOf (getPairId ⟨assetA, assetB⟩) - amount := by
      rw [State.totalLiquidityOf, totals, AList.lookup_insert, Option.getD_some]
    unfold WorthKept
    rw [pool.product_eq, pool.product_eq, total,
      Ledger.free_withdraw_of_ne burned (getPairId_ne_signer _ _),
      Ledger.free_withdraw_of_ne burned (getPairId_ne_signer _ _)]
    exact .of_reserves (kept_of_burned (partA ▸ leftA.symm)) (kept_of_burned (partB ▸ leftB.symm))

/-- A fair call removes the pool or leaves what is behind its shares. -/
theorem worthKept_of_call (lawful : cfg.Lawful) (agree : RecordsAgree cfg s)
    (registered : PoolsRegistered cfg s) (fair : call.Fair cfg s account)
    (taken : Step cfg s call t) (pool : LivePool cfg s account assets token liquidity) :
    t.poolAssets.lookup account = none ∨
      t.poolAssets.lookup account = some assets ∧ WorthKept s t account assets := by
  by_cases here : call.adjusts = some account
  · cases call with
    | createPool => exact absurd (Option.some.inj here).symm fair
    | addLiquidity =>
        obtain rfl := Option.some.inj here
        exact .inr (worthKept_of_addLiquidity pool fair taken)
    | removeLiquidity =>
        obtain rfl := Option.some.inj here
        exact worthKept_of_removeLiquidity lawful pool taken
    | sell => exact absurd here nofun
    | buy => exact absurd here nofun
  · obtain ⟨recorded, total⟩ := records_of_call agree here taken
    refine .inr ⟨recorded.trans pool.recorded, ?_⟩
    unfold WorthKept
    rw [total]
    exact .of_le (product_le_of_call lawful agree registered here taken pool)

/-- Fair calls do not bring a pool back. -/
theorem gone_of_call (agree : RecordsAgree cfg s) (fair : call.Fair cfg s account)
    (taken : Step cfg s call t) (gone : s.poolAssets.lookup account = none) :
    t.poolAssets.lookup account = none := by
  have absent {pair : AssetPair} (here : some (getPairId pair) = some account)
      (present : s.poolExists pair = true) : False := by
    obtain ⟨_, _, _, pool⟩ := agree.live present
    rw [Option.some.inj here] at pool
    exact absurd (gone.symm.trans pool.recorded) nofun
  by_cases here : call.adjusts = some account
  · cases call with
    | createPool => exact absurd (Option.some.inj here).symm fair
    | addLiquidity =>
        obtain ⟨_, _, _, _, present, -⟩ := addLiquidity_ok taken
        exact (absent here present).elim
    | removeLiquidity =>
        obtain ⟨_, _, _, _, present, -⟩ := removeLiquidity_ok taken
        exact (absent here present).elim
    | sell => exact absurd here nofun
    | buy => exact absurd here nofun
  · exact (records_of_call agree here taken).1.trans gone

end Xyk

namespace Chain

variable {cfg : Config} {s t : State} {label : Label} {account : AccountId}
variable {assets : AssetId × AssetId}

/-- Liquidity is added to the pool for no less than its part of the reserves. -/
def Fair (cfg : Config) (account : AccountId) (s : State) (label : Label) : Prop :=
  ∀ call, label = .xyk call → call.Fair cfg.xyk s.exchange.amm account

theorem Fair.gated {call : Xyk.Call} (fair : Fair cfg account s (.xyk call)) :
    (s.gated call).Fair cfg.xyk s.exchange.amm account := by
  have fair := fair call rfl
  cases call <;> exact fair

/-- A pool is gone, or what is behind its shares is no less than it was in `s`. -/
def WorthOrGone (account : AccountId) (assets : AssetId × AssetId) (s t : State) : Prop :=
  t.exchange.amm.poolAssets.lookup account = none ∨
    t.exchange.amm.poolAssets.lookup account = some assets ∧
      Xyk.WorthKept s.exchange.amm t.exchange.amm account assets

/-- One step keeps what is behind the shares of a pool, and brings none back. -/
theorem worthOrGone_of_step (lawful : cfg.xyk.Lawful) (sound : Sound cfg s)
    (agree : Xyk.RecordsAgree cfg.xyk s.exchange.amm) (spared : Spares Xyk.IsPool s label)
    (fair : Fair cfg account s label) (taken : Step cfg s label t) :
    (s.exchange.amm.poolAssets.lookup account = none →
      t.exchange.amm.poolAssets.lookup account = none) ∧
    (s.exchange.amm.poolAssets.lookup account = some assets →
      WorthOrGone account assets s t) := by
  by_cases inside : ∀ call, label ≠ .xyk call
  · have upholds := upholds_of_step lawful sound agree spared inside taken
    refine ⟨fun gone => upholds.poolAssets ▸ gone, fun recorded => ?_⟩
    obtain ⟨_, _, pool⟩ := agree.pool recorded
    refine .inr ⟨upholds.poolAssets ▸ recorded, ?_⟩
    unfold Xyk.WorthKept Xyk.State.totalLiquidityOf
    rw [upholds.totalLiquidity]
    exact .of_le (upholds.product pool)
  · obtain ⟨call, here⟩ := not_forall.mp inside
    obtain rfl := not_not.mp here
    cases taken_of_step taken with
    | xyk called =>
        refine ⟨Xyk.gone_of_call agree fair.gated called, fun recorded => ?_⟩
        obtain ⟨_, _, pool⟩ := agree.pool recorded
        exact Xyk.worthKept_of_call lawful agree sound.registered.pools fair.gated called pool

/-- From any state of a run of the runtime on in which no call names a pool as a payer, and as
long as whoever adds liquidity to a pool pays at least the part of both reserves that the new
shares are: the pool stays as long as anybody holds one of its shares, and what is behind two of
them, one in each reserve, never falls, whatever all pallets do. -/
theorem share_value_never_falls {past : List (State × Label)} (lawful : cfg.xyk.Lawful)
    (reachable : ReachableUnder (Initial cfg) (Step cfg) (Spares Xyk.IsPool) s)
    (run : Run (· = s) (Step cfg) past t) (spared : Guarded (Spares Xyk.IsPool) past)
    (fair : Guarded (Fair cfg account) past)
    (recorded : s.exchange.amm.poolAssets.lookup account = some assets) :
    ∃ token, s.exchange.amm.shareToken.lookup account = some token ∧
      (t.exchange.amm.poolAssets.lookup account = none ∧
          (∀ who, t.ledger.totalBalance who token = 0) ∨
        t.exchange.amm.poolAssets.lookup account = some assets ∧
        s.ledger.free account assets.1 * s.ledger.free account assets.2 *
            t.exchange.amm.totalLiquidityOf account ^ 2 ≤
          t.ledger.free account assets.1 * t.ledger.free account assets.2 *
            s.exchange.amm.totalLiquidityOf account ^ 2) := by
  obtain ⟨soundAtStart, -, agreeAtStart⟩ := agree_of_reachable lawful reachable
  obtain ⟨token, liquidity, live⟩ := agreeAtStart.pool recorded
  refine ⟨token, live.shareToken, ?_⟩
  suffices kept : (Sound cfg t ∧ Xyk.RecordsAgree cfg.xyk t.exchange.amm) ∧
      WorthOrGone account assets s t by
    refine kept.2.imp_left fun gone => ⟨gone, ?_⟩
    obtain ⟨-, balanced, agree⟩ := agree_of_reachable lawful (reachable.append run spared)
    obtain none | ⟨_, _, _, pool⟩ := agree account
    · have place : account = Xyk.getPairId ⟨assets.1, assets.2⟩ := live.pairAccount
      exact unheld_of_noPool balanced none place live.registered
    · exact absurd (gone.symm.trans pool.recorded) nofun
  induction run with
  | start isStart =>
      obtain rfl := isStart
      exact ⟨⟨soundAtStart, agreeAtStart⟩, .inr ⟨recorded, .of_le le_rfl⟩⟩
  | @extend past u t label _ taken ih =>
      rw [guarded_cons] at spared fair
      obtain ⟨⟨sound, agree⟩, before⟩ := ih spared.2 fair.2
      refine ⟨⟨sound.step taken, agree_of_step lawful sound agree spared.1 taken⟩, ?_⟩
      obtain ⟨staysGone, once⟩ : _ ∧ (_ → WorthOrGone account assets u t) :=
        worthOrGone_of_step lawful sound agree spared.1 fair.1 taken
      obtain gone | ⟨there, worth⟩ := before
      · exact .inl (staysGone gone)
      · obtain ⟨_, _, pool⟩ := agree.pool there
        refine (once there).imp_right fun kept => ⟨kept.1, ?_⟩
        have positive : 0 < u.exchange.amm.totalLiquidityOf account := by
          rw [Xyk.State.totalLiquidityOf, pool.totalLiquidity]
          exact pool.positive
        exact worth.trans positive kept.2

section Reference

/-- Liquidity was added to the pool for its part of the reserves. -/
def fairly (account : AccountId) (past : List (State × Label)) : Bool :=
  past.all fun event =>
    match event.2 with
    | .xyk call => decide (call.Fair Config.reference.xyk event.1.exchange.amm account)
    | _ => true

theorem guarded_of_fairly {past : List (State × Label)} (each : fairly account past = true) :
    Guarded (Fair .reference account) past := by
  intro event listed call same
  have checked := List.all_eq_true.mp each event listed
  rw [same] at checked
  exact of_decide_eq_true checked

/-- Signer 2 sells, signer 3 adds liquidity at the new price, signer 1 takes some of theirs out,
and two more sales are settled at the end of the block. -/
def sharesTraded : List Label :=
  [.xyk (.sell 2 2 1 1000 0 false), .xyk (.addLiquidity 3 1 2 2000 5000),
    .xyk (.removeLiquidity 1 1 2 6000), .exchange (.sell 2 1 2 1200 0 false),
    .exchange (.sell 3 2 1 1100 0 false), .finalize [(1, 2)] 12]

/-- There were 10000 of each asset behind 10000 shares, and 6000 shares are left. -/
theorem share_value_never_falls_traded :
    ∃ first second s t, simulate genesis (busyBlock.take 1) = .ok (first, s) ∧
      simulate s sharesTraded = .ok (second, t) ∧
      t.exchange.amm.totalLiquidityOf (Xyk.getPairId ⟨1, 2⟩) = 6000 ∧
      10000 * 10000 * 6000 ^ 2 ≤ t.ledger.free (Xyk.getPairId ⟨1, 2⟩) 1 *
        t.ledger.free (Xyk.getPairId ⟨1, 2⟩) 2 * 10000 ^ 2 := by
  have computed : succeedsWith (do
      let created ← simulate genesis (busyBlock.take 1)
      let ended ← simulate created.2 sharesTraded
      return (created, ended)) (fun result =>
        decide (namesPayers result.1.1 = true ∧ namesPayers result.2.1 = true ∧
          fairly (Xyk.getPairId ⟨1, 2⟩) result.2.1 = true) &&
        decide (result.1.2.exchange.amm.poolAssets.lookup (Xyk.getPairId ⟨1, 2⟩) = some (1, 2) ∧
          result.1.2.ledger.free (Xyk.getPairId ⟨1, 2⟩) 1 = 10000 ∧
          result.1.2.ledger.free (Xyk.getPairId ⟨1, 2⟩) 2 = 10000 ∧
          result.1.2.exchange.amm.totalLiquidityOf (Xyk.getPairId ⟨1, 2⟩) = 10000) &&
        decide (result.2.2.exchange.amm.poolAssets.lookup (Xyk.getPairId ⟨1, 2⟩) ≠ none ∧
          result.2.2.exchange.amm.totalLiquidityOf (Xyk.getPairId ⟨1, 2⟩) = 6000)) = true := by
    decide +kernel
  simp only [succeedsWith_iff, bind_eq_ok, return_eq_ok, Bool.and_eq_true,
    decide_eq_true_eq] at computed
  obtain ⟨_, ⟨⟨first, s⟩, created, ⟨second, t⟩, ended, rfl⟩, ⟨⟨named, named', fair⟩, recorded,
    reserveA, reserveB, before⟩, stays, after⟩ := computed
  dsimp only at created ended named named' fair recorded reserveA reserveB before stays after
  obtain ⟨token, -, kept⟩ := share_value_never_falls reference_lawful
    (reachable_of_simulate created (guarded_of_namesPayers notPool_of_isPayer named))
    (run_of_simulate ended) (guarded_of_namesPayers notPool_of_isPayer named')
    (guarded_of_fairly fair) recorded
  obtain ⟨-, worth⟩ := kept.resolve_left fun gone => stays gone.1
  rw [reserveA, reserveB, before, after] at worth
  exact ⟨first, second, s, t, created, ended, after, worth⟩

end Reference

end Chain

end Basilisk
