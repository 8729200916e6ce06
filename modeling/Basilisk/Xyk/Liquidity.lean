/-
# Providing liquidity and taking it back

Shares are minted one for one with the amount of the pair's lower-id asset, and
redeemed in proportion to `totalLiquidity`.  Both agree only as long as the
reserve of that asset has not outgrown the share count, which trading makes it
do.  This module settles exactly when an immediate round trip is free of profit,
and shows that it is whenever the lower-id reserve is at most the share count.
-/

import Basilisk.Xyk.Calls
import Mathlib.Tactic.Linarith

namespace Basilisk.Xyk

open Basilisk.Math

variable {cfg : Config}

/-- A share asset is registered for a pair only as a new asset. -/
def SharesAreNewAssets (cfg : Config) : Prop :=
  ∀ (pair : AssetPair) (token : AssetId),
    cfg.getOrCreateSharedAsset pair.name = some token →
      token ≠ pair.assetIn ∧ token ≠ pair.assetOut

theorem sharesAreNewAssets_runtime {pair : AssetPair} {token : AssetId}
    (newIn : token ≠ pair.assetIn) (newOut : token ≠ pair.assetOut) :
    SharesAreNewAssets (.runtime (onePairRegistry pair token)) := by
  intro other registered answered
  simp only [Config.runtime, onePairRegistry] at answered
  split_ifs at answered with named
  obtain rfl := Option.some.inj answered
  have same := AssetPair.name_eq_iff.mp named
  obtain ⟨hin, hout⟩ | ⟨hin, hout⟩ := mem_of_orderedPair_eq same
  · exact ⟨hin ▸ newIn, hout ▸ newOut⟩
  · exact ⟨hin ▸ newOut, hout ▸ newIn⟩

/-- Every live pool is a pair of two different assets, with the share token the
registry gave that pair. -/
def PoolsRegistered (cfg : Config) (s : State) : Prop :=
  ∀ (account : AccountId) (token : AssetId),
    s.shareToken.lookup account = some token →
      ∃ assetA assetB, assetA ≠ assetB ∧
        account = pairAccountFromAssets assetA assetB ∧
        cfg.getOrCreateSharedAsset (AssetPair.name ⟨assetA, assetB⟩) = some token

/-- What one call can do to the table of share tokens. -/
theorem shareToken_of_step {s t : State} {call : Call} (taken : Step cfg s call t) :
    t.shareToken = s.shareToken ∨
    (∃ assetA assetB token, assetA ≠ assetB ∧
      cfg.getOrCreateSharedAsset (AssetPair.name ⟨assetA, assetB⟩) = some token ∧
      t.shareToken =
        s.shareToken.insert (pairAccountFromAssets assetA assetB) token) ∨
    ∃ account, t.shareToken = s.shareToken.erase account := by
  cases call with
  | createPool who hooks assetA assetB amount initialPrice =>
      obtain ⟨-, -, token, -, -, distinct, -, -, -, -, -, registered, -, -, -, tokens,
        -, -⟩ := createPool_ok taken
      exact .inr (.inl ⟨assetA, assetB, token, distinct, registered, tokens⟩)
  | addLiquidity who assetA assetB amountA limit =>
      obtain ⟨-, -, -, -, -, -, -, -, -, -, -, -, tokens, -, -⟩ := addLiquidity_ok taken
      exact .inl tokens
  | removeLiquidity who assetA assetB amount =>
      obtain ⟨-, -, -, -, -, -, -, -, -, -, -, stored⟩ := removeLiquidity_ok taken
      split_ifs at stored
      · exact .inr (.inr ⟨_, stored.1⟩)
      · exact .inl stored.1
  | sell who assetIn assetOut amount limit discount =>
      simp only [Step, dispatch, sell, bind_eq_ok] at taken
      obtain ⟨transfer, -, executed⟩ := taken
      obtain ⟨-, -, -, -, -, tokens, -, -⟩ := executeSell_ok executed
      exact .inl tokens
  | buy who assetOut assetIn amount limit discount =>
      simp only [Step, dispatch, buy, bind_eq_ok] at taken
      obtain ⟨transfer, -, executed⟩ := taken
      obtain ⟨-, -, -, -, -, tokens, -, -⟩ := executeBuy_ok executed
      exact .inl tokens

theorem poolsRegistered_of_step {s t : State} {call : Call}
    (registered : PoolsRegistered cfg s) (taken : Step cfg s call t) :
    PoolsRegistered cfg t := by
  intro account token stored
  obtain tokens | ⟨assetA, assetB, new, distinct, named, tokens⟩ | ⟨gone, tokens⟩ :=
    shareToken_of_step taken
  · rw [tokens] at stored
    exact registered account token stored
  · rw [tokens] at stored
    by_cases same : account = pairAccountFromAssets assetA assetB
    · subst same
      rw [AList.lookup_insert, Option.some.injEq] at stored
      subst stored
      exact ⟨assetA, assetB, distinct, rfl, named⟩
    · rw [AList.lookup_insert_ne same] at stored
      exact registered account token stored
  · rw [tokens] at stored
    by_cases same : account = gone
    · subst same
      simp at stored
    · rw [AList.lookup_erase_ne same] at stored
      exact registered account token stored

/-- Pools are registered in every reachable state. -/
theorem poolsRegistered_of_reachable {s : State}
    (reachable : Reachable Initial (Step cfg) s) : PoolsRegistered cfg s := by
  refine Reachable.invariant (PoolsRegistered cfg) ?_ ?_ reachable
  · intro s initial account token stored
    rw [initial.shareToken] at stored
    simp at stored
  · intro s call t registered taken
    exact poolsRegistered_of_step registered taken

/-- A live pool trades two different assets. -/
theorem PoolsRegistered.assets_ne {s : State} (registered : PoolsRegistered cfg s)
    {pair : AssetPair} (present : s.poolExists pair = true) :
    pair.assetIn ≠ pair.assetOut := by
  obtain ⟨token, stored⟩ := Option.isSome_iff_exists.mp present
  obtain ⟨assetA, assetB, distinct, account, -⟩ := registered _ _ stored
  have same : pair.orderedPair = AssetPair.orderedPair ⟨assetA, assetB⟩ :=
    fromAssets_eq_iff.mp account
  rcases mem_of_orderedPair_eq same with ⟨hin, hout⟩ | ⟨hin, hout⟩
  · exact fun heq => distinct (hin.symm.trans (heq.trans hout))
  · exact fun heq => distinct (hout.symm.trans (heq.symm.trans hin))

/-- A live pool trades two different assets, neither of which is its share
token. -/
theorem pool_assets_distinct (newAssets : SharesAreNewAssets cfg) {s : State}
    (registered : PoolsRegistered cfg s) {pair : AssetPair}
    (present : s.poolExists pair = true) :
    pair.assetIn ≠ pair.assetOut ∧ s.getShareToken pair ≠ pair.assetIn ∧
      s.getShareToken pair ≠ pair.assetOut := by
  obtain ⟨token, stored⟩ := Option.isSome_iff_exists.mp present
  obtain ⟨assetA, assetB, -, account, named⟩ := registered _ _ stored
  have same : pair.orderedPair = AssetPair.orderedPair ⟨assetA, assetB⟩ :=
    fromAssets_eq_iff.mp account
  have hname := AssetPair.name_eq_iff.mpr same
  have hnew := newAssets pair token (hname ▸ named)
  have htoken : s.getShareToken pair = token := by
    simp [State.getShareToken, stored]
  exact ⟨registered.assets_ne present, htoken ▸ hnew.1, htoken ▸ hnew.2⟩

/-- Redeeming `shares` freshly minted shares returns at most `paid` of an asset
with reserve `reserve` exactly when this holds of the pool before. -/
theorem redeemed_le_iff {shares reserve paid total : ℕ} (minted : shares ≠ 0) :
    shares * (reserve + paid) / (total + shares) ≤ paid ↔
      shares * reserve < (paid + 1) * total + shares := by
  have positive : 0 < total + shares := by omega
  rw [← Nat.lt_succ_iff, Nat.div_lt_iff_lt_mul positive]
  constructor <;> intro h <;> nlinarith

/-- The state of a pool, and the amounts of the lower-id and the higher-id asset
paid in, for which the minted shares are worth no more than was paid. -/
def SharesNotOverpriced (reserveLow reserveHigh total low high : ℕ) : Prop :=
  low * reserveLow < (low + 1) * total + low ∧
    low * reserveHigh < (high + 1) * total + low

section RoundTrip

variable {s s₁ s₂ : State} {key : ℕ} {assetA assetB : AssetId}

/-- The balances after `add_liquidity`, for two assets and a share token that are
pairwise different. -/
theorem addLiquidity_balances {amountA limit : ℕ} (lawful : cfg.math.Lawful)
    (distinct : assetA ≠ assetB)
    (newA : s.getShareToken ⟨assetA, assetB⟩ ≠ assetA)
    (newB : s.getShareToken ⟨assetA, assetB⟩ ≠ assetB)
    (added : addLiquidity cfg s (.signer key) assetA assetB amountA limit = .ok s₁) :
    ∃ amountB shares,
      s.ledger.free (getPairId ⟨assetA, assetB⟩) assetA ≠ 0 ∧
      amountB = amountA * s.ledger.free (getPairId ⟨assetA, assetB⟩) assetB /
        s.ledger.free (getPairId ⟨assetA, assetB⟩) assetA ∧
      shares = (if assetA < assetB then amountA else amountB) ∧ shares ≠ 0 ∧
      s₁.ledger.free (.signer key) assetA + amountA =
        s.ledger.free (.signer key) assetA ∧
      s₁.ledger.free (.signer key) assetB + amountB =
        s.ledger.free (.signer key) assetB ∧
      s₁.ledger.free (.signer key) (s.getShareToken ⟨assetA, assetB⟩) =
        s.ledger.free (.signer key) (s.getShareToken ⟨assetA, assetB⟩) + shares ∧
      s₁.ledger.free (getPairId ⟨assetA, assetB⟩) assetA =
        s.ledger.free (getPairId ⟨assetA, assetB⟩) assetA + amountA ∧
      s₁.ledger.free (getPairId ⟨assetA, assetB⟩) assetB =
        s.ledger.free (getPairId ⟨assetA, assetB⟩) assetB + amountB ∧
      s₁.totalLiquidityOf (getPairId ⟨assetA, assetB⟩) =
        s.totalLiquidityOf (getPairId ⟨assetA, assetB⟩) + shares ∧
      s₁.shareToken = s.shareToken := by
  obtain ⟨amountB, shares, afterA, afterB, -, -, required, hshares, nonzero, movedA,
    movedB, minted, tokens, -, totals⟩ := addLiquidity_ok added
  obtain ⟨reserve, hamountB⟩ := lawful.liquidityIn required
  have coveredA := Ledger.covered_of_transfer movedA
  have coveredB := Ledger.covered_of_transfer movedB
  have keyed := getPairId_ne_signer ⟨assetA, assetB⟩ key
  have free := fun account asset => Ledger.free_deposit minted account asset
  have freeB := fun account asset => Ledger.free_transfer movedB account asset
  have freeA := fun account asset => Ledger.free_transfer movedA account asset
  simp only [Ledger.credit_apply, Ledger.debit_apply] at free freeB freeA
  rw [freeA] at coveredB
  simp only [keyed.symm, distinct.symm, and_false, if_false] at coveredB
  refine ⟨amountB, shares, reserve, hamountB, hshares, nonzero, ?_⟩
  simp only [free, freeB, freeA, keyed, keyed.symm, distinct, distinct.symm, newA, newB,
    newA.symm, newB.symm, and_true, and_false, if_true, if_false,
    tokens, State.totalLiquidityOf, totals, AList.lookup_insert, Option.getD_some,
    and_self]
  omega

/-- What `remove_liquidity` pays out, for two different assets that are not the
share token. -/
theorem removeLiquidity_payout {amount : ℕ} (lawful : cfg.math.Lawful)
    (distinct : assetA ≠ assetB)
    (newA : s.getShareToken ⟨assetA, assetB⟩ ≠ assetA)
    (newB : s.getShareToken ⟨assetA, assetB⟩ ≠ assetB)
    (removed : removeLiquidity cfg s (.signer key) assetA assetB amount = .ok s₁) :
    s₁.ledger.free (.signer key) assetA = s.ledger.free (.signer key) assetA +
        amount * s.ledger.free (getPairId ⟨assetA, assetB⟩) assetA /
          s.totalLiquidityOf (getPairId ⟨assetA, assetB⟩) ∧
      s₁.ledger.free (.signer key) assetB = s.ledger.free (.signer key) assetB +
        amount * s.ledger.free (getPairId ⟨assetA, assetB⟩) assetB /
          s.totalLiquidityOf (getPairId ⟨assetA, assetB⟩) := by
  obtain ⟨amountA, amountB, afterA, afterB, -, -, -, priced, movedA, movedB, burned, -⟩ :=
    removeLiquidity_ok removed
  obtain ⟨-, rfl, rfl⟩ := lawful.liquidityOut priced
  have keyed := getPairId_ne_signer ⟨assetA, assetB⟩ key
  have free := fun account asset => Ledger.free_withdraw burned account asset
  have freeB := fun account asset => Ledger.free_transfer movedB account asset
  have freeA := fun account asset => Ledger.free_transfer movedA account asset
  simp only [Ledger.credit_apply, Ledger.debit_apply] at free freeB freeA
  simp [free, freeB, freeA, keyed.symm, distinct, distinct.symm, newA.symm,
    newB.symm]

/-- **Round trip.**  An account that adds liquidity to a reachable pool and at
once removes exactly the shares it was minted gets back at most what it paid, in
both assets, if and only if the pool's shares were not overpriced for the
amounts paid. -/
theorem addRemoveLiquidity_noProfit_iff {amountA limit : ℕ}
    (lawful : cfg.math.Lawful) (newAssets : SharesAreNewAssets cfg)
    (reachable : Reachable Initial (Step cfg) s)
    (added : addLiquidity cfg s (.signer key) assetA assetB amountA limit = .ok s₁)
    (removed : removeLiquidity cfg s₁ (.signer key) assetA assetB
      (s₁.ledger.free (.signer key) (s.getShareToken ⟨assetA, assetB⟩) -
        s.ledger.free (.signer key) (s.getShareToken ⟨assetA, assetB⟩)) = .ok s₂) :
    (s₂.ledger.free (.signer key) assetA - s₁.ledger.free (.signer key) assetA ≤
        amountA ∧
      s₂.ledger.free (.signer key) assetB - s₁.ledger.free (.signer key) assetB ≤
        s.ledger.free (.signer key) assetB - s₁.ledger.free (.signer key) assetB) ↔
    (let reserveA := s.ledger.free (getPairId ⟨assetA, assetB⟩) assetA
     let reserveB := s.ledger.free (getPairId ⟨assetA, assetB⟩) assetB
     let total := s.totalLiquidityOf (getPairId ⟨assetA, assetB⟩)
     if assetA < assetB then
       SharesNotOverpriced reserveA reserveB total amountA
         (amountA * reserveB / reserveA)
     else
       SharesNotOverpriced reserveB reserveA total
         (amountA * reserveB / reserveA) amountA) := by
  obtain ⟨_, _, _, _, present, -⟩ := addLiquidity_ok added
  obtain ⟨distinct, newA, newB⟩ : assetA ≠ assetB ∧
      s.getShareToken ⟨assetA, assetB⟩ ≠ assetA ∧
      s.getShareToken ⟨assetA, assetB⟩ ≠ assetB :=
    pool_assets_distinct newAssets (poolsRegistered_of_reachable reachable) present
  obtain ⟨amountB, shares, -, hamountB, hshares, nonzero, paidA, paidB, minted, reserveA,
    reserveB, total, tokens⟩ := addLiquidity_balances lawful distinct newA newB added
  have sameToken : s₁.getShareToken ⟨assetA, assetB⟩ = s.getShareToken ⟨assetA, assetB⟩ := by
    simp only [State.getShareToken, tokens]
  rw [minted, Nat.add_sub_cancel_left] at removed
  obtain ⟨outA, outB⟩ := removeLiquidity_payout lawful distinct (sameToken ▸ newA)
    (sameToken ▸ newB) removed
  have charged : s.ledger.free (.signer key) assetB - s₁.ledger.free (.signer key) assetB =
      amountB := by omega
  dsimp only
  rw [outA, outB, charged, Nat.add_sub_cancel_left, Nat.add_sub_cancel_left, reserveA,
    reserveB, total, redeemed_le_iff nonzero, redeemed_le_iff nonzero, ← hamountB]
  -- the minted shares count the lower-id asset, whichever side that is
  by_cases ordered : assetA < assetB
  · rw [if_pos ordered] at hshares
    simp only [if_pos ordered, SharesNotOverpriced, hshares]
  · rw [if_neg ordered] at hshares
    simp only [if_neg ordered, SharesNotOverpriced, hshares]
    exact and_comm

end RoundTrip

/-- Two signers' worth of assets 1 and 2, and no pool. -/
def fundedState : State where
  ledger :=
    { free := fun who asset =>
        match who with
        | .signer _ => if asset = 1 ∨ asset = 2 then 1000000 else 0
        | _ => 0
      reserved := fun _ _ => 0
      issuance := fun _ => 0 }
  shareToken := ∅
  totalLiquidity := ∅
  poolAssets := ∅
  events := []

theorem fundedState_initial : Initial fundedState := ⟨rfl, rfl, rfl⟩

/-- The runtime with share token 100 for the pair of assets 1 and 2. -/
def fundedConfig : Config := .runtime (onePairRegistry ⟨1, 2⟩ 100)

theorem fundedConfig_sharesAreNewAssets : SharesAreNewAssets fundedConfig :=
  sharesAreNewAssets_runtime (by decide) (by decide)

/-- Every list of successful calls is a run. -/
theorem reachable_funded {init : State → Prop} {calls : List Call} {s : State}
    (start : init fundedState)
    (computed : calls.foldlM (dispatch fundedConfig) fundedState = .ok s) :
    Reachable init (Step fundedConfig) s :=
  reachable_of_foldlM (fun _ call _ executed => ⟨call, executed⟩) ⟨[], .start start⟩ computed

/-- A pool in whose lower-id reserve a trade left 13000 against 10000 shares:
5000 paid in come back as 6000. -/
theorem addRemoveLiquidity_profit :
    ¬ ∀ (cfg : Config) (s s₁ s₂ : State) (key : ℕ) (assetA assetB : AssetId)
        (amountA limit : ℕ),
      cfg.math.Lawful → SharesAreNewAssets cfg → Reachable Initial (Step cfg) s →
      addLiquidity cfg s (.signer key) assetA assetB amountA limit = .ok s₁ →
      removeLiquidity cfg s₁ (.signer key) assetA assetB
        (s₁.ledger.free (.signer key) (s.getShareToken ⟨assetA, assetB⟩) -
          s.ledger.free (.signer key) (s.getShareToken ⟨assetA, assetB⟩)) = .ok s₂ →
      s₂.ledger.free (.signer key) assetA - s₁.ledger.free (.signer key) assetA ≤
          amountA ∧
        s₂.ledger.free (.signer key) assetB - s₁.ledger.free (.signer key) assetB ≤
          s.ledger.free (.signer key) assetB - s₁.ledger.free (.signer key) assetB := by
  intro claim
  have computed : succeedsWith (do
      let s ← [Call.createPool 1 ⟨true, true⟩ 1 2 10000 FixedU128.one,
        .sell 1 1 2 3000 0 false].foldlM (dispatch fundedConfig) fundedState
      let s₁ ← addLiquidity fundedConfig s (.signer 2) 1 2 5000 5000
      let s₂ ← removeLiquidity fundedConfig s₁ (.signer 2) 1 2
        (s₁.ledger.free (.signer 2) (s.getShareToken ⟨1, 2⟩) -
          s.ledger.free (.signer 2) (s.getShareToken ⟨1, 2⟩))
      return (s, s₁, s₂)) (fun states => decide
        (5000 < states.2.2.ledger.free (.signer 2) 1 -
          states.2.1.ledger.free (.signer 2) 1)) = true := by
    decide +kernel
  simp only [succeedsWith_iff, bind_eq_ok, return_eq_ok, decide_eq_true_eq] at computed
  obtain ⟨_, ⟨s, run, s₁, added, s₂, removed, rfl⟩, profit⟩ := computed
  have bounded := claim fundedConfig s s₁ s₂ 2 1 2 5000 5000 Math.reference_lawful
    fundedConfig_sharesAreNewAssets (reachable_funded fundedState_initial run) added removed
  exact absurd bounded.1 (not_le.mpr profit)

/-- Before any trade the lower-id reserve equals the share count, and the round
trip returns no more than it took. -/
theorem addRemoveLiquidity_noProfit_fresh :
    ∃ s s₁ s₂,
      addLiquidity fundedConfig s (.signer 2) 1 2 5000 5000 = .ok s₁ ∧
      removeLiquidity fundedConfig s₁ (.signer 2) 1 2 5000 = .ok s₂ ∧
      s₂.ledger.free (.signer 2) 1 - s₁.ledger.free (.signer 2) 1 ≤ 5000 := by
  have computed : succeedsWith (do
      let s ← [Call.createPool 1 ⟨true, true⟩ 1 2 10000 FixedU128.one].foldlM
        (dispatch fundedConfig) fundedState
      let s₁ ← addLiquidity fundedConfig s (.signer 2) 1 2 5000 5000
      let s₂ ← removeLiquidity fundedConfig s₁ (.signer 2) 1 2 5000
      return (s, s₁, s₂)) (fun states => decide
        (states.2.1.ledger.free (.signer 2) (states.1.getShareToken ⟨1, 2⟩) -
            states.1.ledger.free (.signer 2) (states.1.getShareToken ⟨1, 2⟩) = 5000 ∧
          states.1.ledger.free (getPairId ⟨1, 2⟩) 1 = 10000 ∧
          states.1.ledger.free (getPairId ⟨1, 2⟩) 2 = 10000 ∧
          states.1.totalLiquidityOf (getPairId ⟨1, 2⟩) = 10000)) = true := by
    decide +kernel
  simp only [succeedsWith_iff, bind_eq_ok, return_eq_ok, decide_eq_true_eq] at computed
  obtain ⟨_, ⟨s, run, s₁, added, s₂, removed, rfl⟩, minted, reserveA, reserveB, total⟩ :=
    computed
  dsimp only at minted reserveA reserveB total
  have exact_minted := removed
  rw [← minted] at exact_minted
  have noProfit := (addRemoveLiquidity_noProfit_iff Math.reference_lawful
    fundedConfig_sharesAreNewAssets (reachable_funded fundedState_initial run) added
    exact_minted).mpr
  rw [reserveA, reserveB, total] at noProfit
  exact ⟨s, s₁, s₂, added, removed,
    (noProfit ⟨by decide, by decide⟩).1⟩

end Basilisk.Xyk
