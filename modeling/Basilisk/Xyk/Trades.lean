/-
# Trading never drains a pool

A sale is paid out rounded down and less the fee, a purchase is charged rounded
up and with the fee on top, and both execute exactly the amounts they were
validated with.  So the product of the reserves never falls, and neither reserve
can be emptied.
-/

import Basilisk.Xyk.Pools

namespace Basilisk.Xyk

open Basilisk.Math

/-- Sales and purchases. -/
def Call.isTrade : Call → Bool
  | .sell .. => true
  | .buy .. => true
  | _ => false

section Product

variable {cfg : Config} {s t : State} {account : AccountId} {assets : AssetId × AssetId}
variable {token : AssetId} {liquidity : ℕ}

/-- The product of the reserves. -/
def product (s : State) (account : AccountId) (assets : AssetId × AssetId) : ℕ :=
  s.ledger.free account assets.1 * s.ledger.free account assets.2

/-- The pool a trade is with, in the order of the trade. -/
theorem LivePool.product_eq {pair : AssetPair}
    (pool : LivePool cfg s (getPairId pair) assets token liquidity) (u : State) :
    product u (getPairId pair) assets =
      u.ledger.free (getPairId pair) pair.assetIn *
        u.ledger.free (getPairId pair) pair.assetOut := by
  unfold product
  obtain ⟨first, second⟩ | ⟨first, second⟩ := pool.order
  · rw [first, second]
  · rw [first, second, Nat.mul_comm]

/-- A trade with any pool leaves the product of every pool at least as large. -/
theorem Traded.product_le {pair : AssetPair} {paidIn paidOut : ℕ}
    (traded : Traded cfg s t pair paidIn paidOut)
    (pool : LivePool cfg s account assets token liquidity)
    (priced : s.ledger.free (getPairId pair) pair.assetIn *
        s.ledger.free (getPairId pair) pair.assetOut ≤
      (s.ledger.free (getPairId pair) pair.assetIn + paidIn) *
        (s.ledger.free (getPairId pair) pair.assetOut - paidOut)) :
    product s account assets ≤ product t account assets := by
  by_cases here : account = getPairId pair
  · subst here
    have left : t.ledger.free (getPairId pair) pair.assetOut =
        s.ledger.free (getPairId pair) pair.assetOut - paidOut := by
      have moved := traded.reserveOut
      omega
    rw [pool.product_eq, pool.product_eq, traded.reserveIn, left]
    exact priced
  · have place : account = getPairId ⟨assets.1, assets.2⟩ := pool.pairAccount
    have kept := traded.others ⟨assets.1, assets.2⟩ (place ▸ here)
    unfold product
    rw [place, kept, kept]

/-- One sale or purchase. -/
theorem product_le_of_trade {call : Call} (lawful : cfg.Lawful) (agree : RecordsAgree cfg s)
    (isTrade : call.isTrade = true) (taken : Step cfg s call t)
    (pool : LivePool cfg s account assets token liquidity) :
    product s account assets ≤ product t account assets := by
  cases call with
  | sell =>
      obtain ⟨_, _, _, used⟩ := agree.live (sell_poolExists taken)
      obtain ⟨amountOut, fee, priced, -, traded⟩ := sell_traded used.assets_ne taken
      apply traded.product_le pool
      apply product_le_of_exact_in
      rw [← lawful.math.outGivenIn priced]
      exact Nat.sub_le _ _
  | buy =>
      obtain ⟨_, _, _, used⟩ := agree.live (buy_poolExists taken)
      obtain ⟨buyPrice, fee, priced, below, traded⟩ := buy_traded used.assets_ne taken
      apply traded.product_le pool
      apply product_le_of_exact_out below
      intro positive
      rw [lawful.math.inGivenOut priced, if_neg positive.ne']
      omega
  | _ => exact absurd isTrade nofun

/-- A trade keeps the assets of every pool. -/
theorem poolAssets_of_trade {call : Call} (agree : RecordsAgree cfg s)
    (isTrade : call.isTrade = true) (taken : Step cfg s call t) :
    t.poolAssets = s.poolAssets := by
  cases call with
  | sell =>
      obtain ⟨_, _, _, pool⟩ := agree.live (sell_poolExists taken)
      obtain ⟨_, _, -, -, traded⟩ := sell_traded pool.assets_ne taken
      exact traded.poolAssets
  | buy =>
      obtain ⟨_, _, _, pool⟩ := agree.live (buy_poolExists taken)
      obtain ⟨_, _, -, -, traded⟩ := buy_traded pool.assets_ne taken
      exact traded.poolAssets
  | _ => exact absurd isTrade nofun

theorem RecordsAgree.pool (agree : RecordsAgree cfg s)
    (recorded : s.poolAssets.lookup account = some assets) :
    ∃ token liquidity, LivePool cfg s account assets token liquidity := by
  obtain none | ⟨found, token, liquidity, pool⟩ := agree account
  · exact absurd (none.recorded.symm.trans recorded) nofun
  · obtain rfl := Option.some.inj (recorded.symm.trans pool.recorded)
    exact ⟨token, liquidity, pool⟩

theorem product_le_of_trades {trades : List Call} (lawful : cfg.Lawful)
    (agree : RecordsAgree cfg s) (areTrades : ∀ call ∈ trades, call.isTrade = true)
    (traded : trades.foldlM (dispatch cfg) s = .ok t)
    (recorded : s.poolAssets.lookup account = some assets) :
    product s account assets ≤ product t account assets ∧ RecordsAgree cfg t ∧
      t.poolAssets.lookup account = some assets := by
  induction trades generalizing s with
  | nil =>
      obtain rfl : s = t := by simpa using traded
      exact ⟨le_rfl, agree, recorded⟩
  | cons call trades ih =>
      rw [List.foldlM_cons, bind_eq_ok] at traded
      obtain ⟨u, taken, rest⟩ := traded
      have isTrade := areTrades call List.mem_cons_self
      obtain ⟨token, liquidity, pool⟩ := agree.pool recorded
      have once := product_le_of_trade lawful agree isTrade taken pool
      have kept := poolAssets_of_trade agree isTrade taken
      obtain ⟨more, after, still⟩ := ih (agree.step lawful taken)
        (fun call member => areTrades call (List.mem_cons_of_mem _ member)) rest
        (kept ▸ recorded)
      exact ⟨once.trans more, after, still⟩

/-- Any sequence of successful sales and purchases leaves the product of the reserves of
a pool at least as large as it was, and both of its reserves positive. -/
theorem trades_keep_product {trades : List Call} (lawful : cfg.Lawful)
    (reachable : Reachable (Genesis cfg) (Step cfg) s)
    (areTrades : ∀ call ∈ trades, call.isTrade = true)
    (traded : trades.foldlM (dispatch cfg) s = .ok t)
    (recorded : s.poolAssets.lookup account = some assets) :
    s.ledger.free account assets.1 * s.ledger.free account assets.2 ≤
        t.ledger.free account assets.1 * t.ledger.free account assets.2 ∧
      0 < t.ledger.free account assets.1 ∧ 0 < t.ledger.free account assets.2 := by
  obtain ⟨more, after, still⟩ := product_le_of_trades lawful
    (recordsAgree_of_reachable lawful reachable) areTrades traded recorded
  obtain ⟨_, _, pool⟩ := after.pool still
  exact ⟨more, pool.reserves⟩

/-- A sale, a purchase in the same direction and a sale back. -/
theorem trades_keep_product_both_ways :
    ∃ s t, [Call.createPool 1 ⟨true, true⟩ 1 2 10000 FixedU128.one].foldlM
        (dispatch fundedConfig) fundedState = .ok s ∧
      [Call.sell 2 1 2 3000 0 false, .buy 2 2 1 1000 100000 false,
        .sell 1 2 1 2000 0 false].foldlM (dispatch fundedConfig) s = .ok t ∧
      10000 * 10000 ≤
        t.ledger.free (getPairId ⟨1, 2⟩) 1 * t.ledger.free (getPairId ⟨1, 2⟩) 2 := by
  have computed : succeedsWith (do
      let s ← [Call.createPool 1 ⟨true, true⟩ 1 2 10000 FixedU128.one].foldlM
        (dispatch fundedConfig) fundedState
      let t ← [Call.sell 2 1 2 3000 0 false, .buy 2 2 1 1000 100000 false,
        .sell 1 2 1 2000 0 false].foldlM (dispatch fundedConfig) s
      return (s, t)) (fun (s, _) => decide
        (s.poolAssets.lookup (getPairId ⟨1, 2⟩) = some (1, 2) ∧
          s.ledger.free (getPairId ⟨1, 2⟩) 1 = 10000 ∧
          s.ledger.free (getPairId ⟨1, 2⟩) 2 = 10000)) = true := by
    decide +kernel
  simp only [succeedsWith_iff, bind_eq_ok, return_eq_ok, decide_eq_true_eq] at computed
  obtain ⟨_, ⟨s, run, t, traded, rfl⟩, recorded, reserveA, reserveB⟩ := computed
  dsimp only at recorded reserveA reserveB
  have kept := (trades_keep_product fundedConfig_lawful
    (reachable_funded fundedState_genesis run) (by decide) traded recorded).1
  rw [reserveA, reserveB] at kept
  exact ⟨s, t, run, traded, kept⟩

end Product

end Basilisk.Xyk
