/-
# From a farm back to the assets

To liquidity mining the rest of the runtime is an environment: others trade with the
pools, finalize exchanges, dust accounts and sell tokens while shares are deposited,
but nobody spends from the accounts of the pallet.  So every run of the runtime is a
run of liquidity mining on its own, and what holds there holds here.

What a depositor wants back in the end are not shares but the assets behind them.
Two pallets have to play their part for that: liquidity mining hands the shares back,
and the pool pays them out.  This module shows that both do, in any state of any
orderly run.
-/

import Basilisk.LiquidityMining.Exit
import Basilisk.Runtime.Pools

namespace Basilisk

open Basilisk.Math

namespace Xyk

variable {cfg : Config} {s t : State} {who : AccountId} {assetA assetB token : AssetId}
variable {assets : AssetId × AssetId} {liquidity : ℕ}

/-- The formula of `remove_liquidity` has a result for any part of the liquidity of a pool whose
reserves fit a machine word. -/
def Math.PaysOut (math : Math) : Prop :=
  ∀ reserveA reserveB amount total, total ≠ 0 → amount ≤ total → reserveA < u128Bound →
    reserveB < u128Bound → (math.calculateLiquidityOut reserveA reserveB amount total).isSome = true

theorem Math.reference_paysOut : Math.reference.PaysOut := by
  intro reserveA reserveB amount total nonzero _ _ _
  change (if total = 0 then none else some _).isSome = true
  rw [if_neg nonzero]
  rfl

/-- Whoever holds shares can remove all of them at once. -/
theorem removeLiquidity_succeeds (lawful : cfg.Lawful) (paysOut : cfg.math.PaysOut)
    (pool : LivePool cfg s (getPairId ⟨assetA, assetB⟩) assets token liquidity)
    (apart : who ≠ getPairId ⟨assetA, assetB⟩) (holds : s.ledger.free who token ≠ 0)
    (enough : s.ledger.free who token ≤ liquidity)
    (narrowA : s.ledger.free (getPairId ⟨assetA, assetB⟩) assetA < u128Bound)
    (narrowB : s.ledger.free (getPairId ⟨assetA, assetB⟩) assetB < u128Bound) :
    ∃ t, removeLiquidity cfg s who assetA assetB (s.ledger.free who token) = .ok t := by
  obtain ⟨⟨amountA, amountB⟩, priced⟩ := Option.isSome_iff_exists.mp
    (paysOut _ _ _ _ pool.positive.ne' enough narrowA narrowB)
  obtain ⟨-, partA, partB⟩ := lawful.math.liquidityOut priced
  have coveredA : amountA ≤ s.ledger.free (getPairId ⟨assetA, assetB⟩) assetA := by
    rw [partA]
    exact Nat.div_le_of_le_mul (Nat.mul_le_mul_right _ enough)
  have coveredB : amountB ≤ s.ledger.free (getPairId ⟨assetA, assetB⟩) assetB := by
    rw [partB]
    exact Nat.div_le_of_le_mul (Nat.mul_le_mul_right _ enough)
  obtain ⟨afterA, movedA⟩ := Ledger.exists_transfer coveredA who
  have kept := Ledger.free_transfer_of_ne_currency movedA (getPairId ⟨assetA, assetB⟩)
    pool.assets_ne.symm
  obtain ⟨afterB, movedB⟩ := Ledger.exists_transfer (kept.symm ▸ coveredB) who
  have shares := (Ledger.free_le_transfer_of_ne_sender movedA apart token).trans
    (Ledger.free_le_transfer_of_ne_sender movedB apart token)
  obtain ⟨burned, withdrawn⟩ := Ledger.exists_withdraw shares
  have present : s.poolExists ⟨assetA, assetB⟩ = true := by
    rw [State.poolExists, pool.shareToken]
    rfl
  simp only [removeLiquidity, bind_eq_ok, ensure_eq_ok, okOr_eq_ok, exists_const,
    State.transfer_eq_ok, State.withdraw_eq_ok, checkedSub_eq_some, pool.getShareToken, pool.total]
  exact ⟨_, holds, present, enough, le_rfl, .inr trivial, _, priced, coveredA, coveredB, _,
    ⟨enough, rfl⟩, _, ⟨afterA, movedA, rfl⟩, _, ⟨afterB, movedB, rfl⟩, _,
    ⟨burned, withdrawn, rfl⟩, (apply_ite Except.ok _ _ _).symm⟩

end Xyk

namespace LiquidityMining

variable {cfg : Config} {s t : State} {key nftId : ℕ} {metadata : Metadata} {deposit : Deposit}

/-- The shares are handed back, and nothing is taken from the owner. -/
theorem free_of_withdrawShares (withdrawn : withdrawShares cfg s (.signer key) nftId = .ok t)
    (known : s.liquidityPoolMetadata.lookup (poolIdOf nftId) = some metadata)
    (recorded : s.depositData.lookup nftId = some deposit)
    (present : s.amm.poolExists metadata.assetPair = true) (asset : AssetId) :
    s.ledger.free (.signer key) asset ≤ t.ledger.free (.signer key) asset ∧
      (asset = s.amm.getShareToken metadata.assetPair →
        s.ledger.free (.signer key) asset + deposit.shares ≤
          t.ledger.free (.signer key) asset) := by
  obtain ⟨metadata', deposit', u, _, _, done, rfl⟩ := withdrawShares_ok withdrawn
  obtain rfl := Option.some.inj (known.symm.trans done.known)
  obtain rfl := Option.some.inj (recorded.symm.trans done.recorded)
  obtain ⟨_, _, returned, -, rfl⟩ := returnLpShares_ok done.handed
  have amm : u.amm = s.amm := amm_of_settleWithdrawal done.settled
  have unpaying : ¬ palletLicence.pays (.signer key) := id
  have settled := (changes_of_settleWithdrawal done.settled).free_le_of_not_pays unpaying asset
  cases returned with
  | listed _ moved =>
      rw [amm] at moved
      have received := Ledger.free_transfer_receiver moved nofun
      have notSender : AccountId.signer key ≠ accountId := nofun
      refine ⟨settled.trans (Ledger.free_le_transfer_of_ne_sender moved notSender asset), ?_⟩
      rintro rfl
      dsimp only
      omega
  | unlisted absent =>
      rw [amm, present] at absent
      cases absent

end LiquidityMining

namespace Chain

variable {cfg : Config} {s t : State} {label : Label}

/-- What a step is to liquidity mining. -/
def Label.onMining (t : State) : Label → LiquidityMining.Label
  | .mining call => .call call
  | _ => .external ⟨t.relayBlockNumber, t.ledger, t.miningView.amm, t.nft⟩

/-- Outside liquidity mining the accounts of the pallet do not pay. -/
theorem pallets_spared (sound : Sound cfg s) (spared : Spares AccountId.IsPallet s label)
    (outside : label.mines = false) {account : AccountId} (pallet : account.IsPallet) :
    ¬ (licence cfg s label).pays account := by
  intro pays
  cases payer_of_licence sound pays with
  | signer isSigner =>
      obtain ⟨key, rfl⟩ := isSigner
      exact pallet
  | pool _ isPool =>
      obtain ⟨pair, rfl⟩ := isPool
      exact pallet
  | sale _ pair isPool =>
      rw [isPool] at pallet
      exact pallet
  | pallet inside => exact absurd (outside.symm.trans inside) nofun
  | named charged => exact spared _ charged pallet

/-- The pools keep to the registered share tokens. -/
theorem amm_lawful (sound : Sound cfg s) : s.miningView.amm.Lawful cfg.mining := by
  let view : Runtime.State :=
    ⟨s.mining, s.miningEvents, s.relayBlockNumber, s.nft, s.exchange.amm⟩
  have registered : Xyk.PoolsRegistered cfg.runtime.xyk view.xyk := sound.registered.pools
  exact Runtime.amm_lawful registered

/-- A step of the runtime is a call of liquidity mining or a move of its environment. -/
theorem mining_step (sound : Sound cfg s) (spared : Spares AccountId.IsPallet s label)
    (taken : Step cfg s label t) :
    LiquidityMining.Step cfg.mining s.miningView (label.onMining t) t.miningView := by
  have lawful := amm_lawful (sound.step taken)
  have funds (outside : label.mines = false) (account : AccountId) (currency : AssetId)
      (pallet : account.IsPallet) :
      s.ledger.free account currency ≤ t.ledger.free account currency :=
    (changes_of_step sound taken).free_le_of_not_pays
      (pallets_spared sound spared outside pallet) currency
  cases taken_of_step taken with
  | @mining call view called =>
      have block : view.blockNumber = s.relayBlockNumber :=
        LiquidityMining.dispatch_blockNumber sound.consistent called
      have amm : view.amm = s.miningView.amm :=
        LiquidityMining.dispatch_amm sound.consistent called
      have back : (s.absorbMining view).miningView = view := by
        rw [LiquidityMining.State.mk.injEq]
        exact ⟨rfl, rfl, block.symm, rfl, amm.symm, rfl⟩
      change LiquidityMining.dispatch cfg.mining s.miningView call =
        .ok (s.absorbMining view).miningView
      rw [called, back]
  | finalize => exact ⟨⟨Nat.le_add_right _ _, funds rfl, lawful⟩, rfl⟩
  | xyk => exact ⟨⟨le_rfl, funds rfl, lawful⟩, rfl⟩
  | exchange => exact ⟨⟨le_rfl, funds rfl, lawful⟩, rfl⟩
  | lbp => exact ⟨⟨le_rfl, funds rfl, lawful⟩, rfl⟩
  | market => exact ⟨⟨le_rfl, funds rfl, lawful⟩, rfl⟩
  | nft => exact ⟨⟨le_rfl, funds rfl, lawful⟩, rfl⟩
  | duster => exact ⟨⟨le_rfl, funds rfl, lawful⟩, rfl⟩
  | transfer => exact ⟨⟨le_rfl, funds rfl, lawful⟩, rfl⟩
  | upgrade => exact ⟨⟨le_rfl, funds rfl, lawful⟩, rfl⟩

/-- No call names a pool or an account of a pallet as a payer, and the calls of liquidity mining
obey the rules. -/
structure Orderly (cfg : Config) (rules : List LiquidityMining.Rule) (s : State) (label : Label) :
    Prop where
  pools : Spares Xyk.IsPool s label
  pallets : Spares AccountId.IsPallet s label
  obeyed : ∀ call, label = .mining call →
    LiquidityMining.Obeys cfg.mining rules s.miningView (.call call)

/-- Liquidity mining runs in the runtime as it does on its own. -/
theorem reachable_miningView {rules : List LiquidityMining.Rule}
    (reachable : ReachableUnder (Initial cfg) (Step cfg) (Orderly cfg rules) s) :
    ReachableUnder (LiquidityMining.Initial cfg.mining) (LiquidityMining.Step cfg.mining)
      (LiquidityMining.Obeys cfg.mining rules) s.miningView := by
  refine reachable.simulate State.miningView ?_ ?_
  · intro s initial
    exact initial.mining
  · intro s label t before _ orderly taken
    have sound := sound_of_reachable before.reachable
    refine ⟨label.onMining t, ?_, mining_step sound orderly.pallets taken⟩
    cases label with
    | mining call => exact orderly.obeyed call rfl
    | _ =>
        intro rule _
        cases rule <;> trivial

/-- Whoever holds shares of a pool can have the assets behind all of them. -/
theorem shares_redeemable {key : ℕ} {pair : AssetPair} (lawful : cfg.xyk.Lawful)
    (paysOut : cfg.xyk.math.PaysOut) (balanced : s.ledger.Balanced)
    (agree : Xyk.RecordsAgree cfg.xyk s.exchange.amm)
    (present : s.exchange.amm.poolExists pair = true)
    (narrow : ∀ asset, asset = pair.assetIn ∨ asset = pair.assetOut →
      s.ledger.issuance asset < u128Bound)
    (holds : s.ledger.free (.signer key) (s.exchange.amm.getShareToken pair) ≠ 0) :
    ∃ t, Step cfg s (.xyk (.removeLiquidity key pair.assetIn pair.assetOut
        (s.ledger.free (.signer key) (s.exchange.amm.getShareToken pair)))) t ∧
      ∀ asset, asset = pair.assetIn ∨ asset = pair.assetOut →
        t.ledger.free (.signer key) asset = s.ledger.free (.signer key) asset +
          s.ledger.free (.signer key) (s.exchange.amm.getShareToken pair) *
            s.ledger.free (Xyk.getPairId pair) asset /
            s.exchange.amm.totalLiquidityOf (Xyk.getPairId pair) := by
  obtain ⟨assets, token, liquidity, pool⟩ := agree.live present
  have shareToken := pool.getShareToken
  rw [shareToken] at holds ⊢
  have enough : s.ledger.free (.signer key) token ≤ liquidity := by
    rw [← pool.issued]
    exact balanced.free_le _ _
  have fits (asset : AssetId) (either : asset = pair.assetIn ∨ asset = pair.assetOut) :
      s.ledger.free (Xyk.getPairId pair) asset < u128Bound :=
    (balanced.free_le _ _).trans_lt (narrow asset either)
  obtain ⟨amm, removed⟩ := Xyk.removeLiquidity_succeeds lawful paysOut pool
    (Xyk.getPairId_ne_signer _ _).symm holds enough (fits _ (.inl rfl)) (fits _ (.inr rfl))
  obtain ⟨newA, newB⟩ := lawful.newAssets _ _ pool.name
  obtain ⟨paidA, paidB⟩ := Xyk.removeLiquidity_payout lawful.math pool.assets_ne
    (shareToken.symm ▸ newA) (shareToken.symm ▸ newB) removed
  refine ⟨{ s with exchange := { s.exchange with amm } }, ?_, ?_⟩
  · simp only [Step, exec, Exchange.exec, bind_eq_ok, mapError_eq_ok, return_eq_ok]
    exact ⟨_, ⟨amm, removed, rfl⟩, rfl⟩
  · rintro asset (rfl | rfl)
    · exact paidA
    · exact paidB

/-- In every orderly run of the runtime, whatever the order of the calls of all pallets, the
owner of a deposit can have the assets behind it as long as the pool exists: liquidity mining
hands the shares back, the pool then takes all shares the owner has, and pays at least the part
of both reserves that these shares are of the liquidity. -/
theorem exit_to_assets {nftId key : ℕ} {deposit : LiquidityMining.Deposit}
    (lawful : cfg.xyk.Lawful) (paysOut : cfg.xyk.math.PaysOut)
    (checked : cfg.mining.math.Checked)
    (reachable : ReachableUnder (Initial cfg) (Step cfg)
      (Orderly cfg LiquidityMining.exitRules) s)
    (recorded : s.mining.depositData.lookup nftId = some deposit)
    (owned : s.nft.owner (cfg.mining.nftClass, nftId) = some (.signer key)) :
    ∃ metadata,
      s.mining.liquidityPoolMetadata.lookup (LiquidityMining.poolIdOf nftId) = some metadata ∧
      (s.exchange.amm.poolExists metadata.assetPair = true →
        (∀ asset, asset = metadata.assetPair.assetIn ∨ asset = metadata.assetPair.assetOut →
          s.ledger.issuance asset < u128Bound) →
        LiquidityMining.Collectable cfg.mining s.miningView (metadata.slot cfg.mining) →
        LiquidityMining.CurveScaled s.miningView (metadata.slot cfg.mining) →
        LiquidityMining.RewardsFit s.miningView metadata →
        ∃ t u,
          Step cfg s (.mining (.withdrawShares key nftId)) t ∧
          Step cfg t (.xyk (.removeLiquidity key metadata.assetPair.assetIn
            metadata.assetPair.assetOut (t.ledger.free (.signer key)
              (s.exchange.amm.getShareToken metadata.assetPair)))) u ∧
          ∀ asset, asset = metadata.assetPair.assetIn ∨ asset = metadata.assetPair.assetOut →
            s.ledger.free (.signer key) asset +
                (s.ledger.free (.signer key)
                  (s.exchange.amm.getShareToken metadata.assetPair) + deposit.shares) *
                s.ledger.free (Xyk.getPairId metadata.assetPair) asset /
                s.exchange.amm.totalLiquidityOf (Xyk.getPairId metadata.assetPair) ≤
              u.ledger.free (.signer key) asset) := by
  have sound := sound_of_reachable reachable.reachable
  obtain ⟨-, balanced, agree⟩ :=
    agree_of_reachable lawful (reachable.mono fun _ _ orderly => orderly.pools)
  have moves := LiquidityMining.reachable_moves (reachable_miningView reachable)
  have dated := sound.consistent.deposits _ _ recorded
  obtain ⟨metadata, known, -⟩ := dated.known
  refine ⟨metadata, known, ?_⟩
  intro present narrow collectable scaled fits
  obtain ⟨view, withdrawn, -⟩ := LiquidityMining.withdrawShares_succeeds checked moves known
    recorded owned present collectable (scaled.defined checked sound.consistent) fits
  have free := LiquidityMining.free_of_withdrawShares withdrawn known recorded present
  have taken : Step cfg s (.mining (.withdrawShares key nftId)) (s.absorbMining view) := by
    simp only [Step, exec, bind_eq_ok, mapError_eq_ok, return_eq_ok]
    exact ⟨view, withdrawn, rfl⟩
  have spared : Spares Xyk.IsPool s (.mining (.withdrawShares key nftId)) := by
    intro account charged
    exact absurd charged List.not_mem_nil
  have changes := changes_of_step sound taken
  have narrow' (asset : AssetId)
      (either : asset = metadata.assetPair.assetIn ∨ asset = metadata.assetPair.assetOut) :
      (s.absorbMining view).ledger.issuance asset < u128Bound :=
    (changes.issuance_ge fun _ permitted => permitted.mints asset).trans_lt (narrow asset either)
  have returned : s.ledger.free (.signer key) (s.exchange.amm.getShareToken metadata.assetPair) +
      deposit.shares ≤ (s.absorbMining view).ledger.free (.signer key)
        (s.exchange.amm.getShareToken metadata.assetPair) := (free _).2 rfl
  have holds : (s.absorbMining view).ledger.free (.signer key)
      (s.exchange.amm.getShareToken metadata.assetPair) ≠ 0 := by
    have nonzero := dated.nonzero
    omega
  obtain ⟨u, removed, paid⟩ := shares_redeemable lawful paysOut (changes.balanced balanced)
    (agree_of_step lawful sound agree spared taken) present narrow' holds
  refine ⟨s.absorbMining view, u, taken, removed, ?_⟩
  intro asset either
  rw [paid asset either]
  have reserves : s.ledger.free (Xyk.getPairId metadata.assetPair) asset ≤
      (s.absorbMining view).ledger.free (Xyk.getPairId metadata.assetPair) asset :=
    changes.free_le_of_not_pays (pools_spared sound spared rfl _) asset
  exact Nat.add_le_add (free asset).1
    (Nat.div_le_div_right (Nat.mul_le_mul returned reserves))

section Reference

/-- Every call of liquidity mining obeys the rules. -/
def obeys (rules : List LiquidityMining.Rule) (past : List (State × Label)) : Bool :=
  past.all fun event =>
    match event.2 with
    | .mining call => decide (LiquidityMining.Obeys Config.reference.mining rules
        event.1.miningView (.call call))
    | _ => true

theorem notPallet_of_isPayer (account : AccountId) (payer : isPayer account = true) :
    ¬ account.IsPallet := by
  cases account with
  | signer => exact id
  | hashed => exact id
  | palletAccount => exact absurd payer (by decide)
  | palletSubAccount => exact absurd payer nofun

theorem orderly_of_obeys {rules : List LiquidityMining.Rule} {past : List (State × Label)}
    (named : namesPayers past = true) (obeyed : obeys rules past = true) :
    Guarded (Orderly .reference rules) past := by
  intro event listed
  refine ⟨guarded_of_namesPayers notPool_of_isPayer named event listed,
    guarded_of_namesPayers notPallet_of_isPayer named event listed, ?_⟩
  intro call same
  have each := List.all_eq_true.mp obeyed event listed
  rw [same] at each
  exact of_decide_eq_true each

/-- After the busy block signer 1 can have the assets behind the 4000 shares deposited and the
6000 shares kept: all of the reserves. -/
theorem exit_to_assets_busy :
    ∃ past s t u, simulate genesis busyBlock = .ok (past, s) ∧
      Step .reference s (.mining (.withdrawShares 1 (LiquidityMining.encodeNftId 2 1))) t ∧
      Step .reference t (.xyk (.removeLiquidity 1 1 2 (t.ledger.free (.signer 1) 100))) u ∧
      s.ledger.free (.signer 1) 1 + 12000 ≤ u.ledger.free (.signer 1) 1 := by
  have computed : succeedsWith (simulate genesis busyBlock) (fun reached =>
      namesPayers reached.1 && obeys LiquidityMining.exitRules reached.1 &&
      ((reached.2.mining.depositData.lookup (LiquidityMining.encodeNftId 2 1)).any fun deposit =>
        decide (deposit.shares = 4000)) &&
      ((reached.2.mining.liquidityPoolMetadata.lookup 2).any fun metadata =>
        decide (metadata.assetPair = ⟨1, 2⟩) &&
          decide (LiquidityMining.Funded Config.reference.mining reached.2.miningView
            metadata.farmId) &&
          decide (LiquidityMining.CurveScaled reached.2.miningView
            (metadata.slot Config.reference.mining)) &&
          decide (LiquidityMining.RewardsFit reached.2.miningView metadata)) &&
      decide (reached.2.nft.owner (1, LiquidityMining.encodeNftId 2 1) = some (.signer 1) ∧
        reached.2.exchange.amm.poolExists ⟨1, 2⟩ = true ∧
        reached.2.exchange.amm.getShareToken ⟨1, 2⟩ = 100 ∧
        reached.2.exchange.amm.totalLiquidityOf (Xyk.getPairId ⟨1, 2⟩) = 10000 ∧
        reached.2.ledger.issuance 1 < u128Bound ∧ reached.2.ledger.issuance 2 < u128Bound ∧
        reached.2.ledger.free (.signer 1) 100 = 6000 ∧
        reached.2.ledger.free (Xyk.getPairId ⟨1, 2⟩) 1 = 12000)) = true := by
    decide +kernel
  simp only [succeedsWith_iff, Bool.and_eq_true, Option.any_eq_true, decide_eq_true_eq] at computed
  obtain ⟨⟨past, s⟩, run, ⟨⟨⟨named, obeyed⟩, deposit, recorded, shares⟩, found, stored,
    ⟨⟨pair, funded⟩, scaled⟩, fits⟩, owned, present, token, total, narrowA, narrowB, kept,
    reserve⟩ := computed
  have reachable := reachable_of_simulate run (orderly_of_obeys named obeyed)
  obtain ⟨metadata, known, exits⟩ := exit_to_assets reference_lawful Xyk.Math.reference_paysOut
    LiquidityMining.Math.reference_checked reachable recorded owned
  obtain rfl := Option.some.inj (stored.symm.trans known)
  rw [pair] at exits
  have narrow (asset : AssetId) (either : asset = 1 ∨ asset = 2) :
      s.ledger.issuance asset < u128Bound := by
    rcases either with rfl | rfl
    · exact narrowA
    · exact narrowB
  obtain ⟨t, u, withdrawn, removed, paid⟩ := exits present narrow (fun _ => .inl funded) scaled fits
  have gain := paid 1 (.inl rfl)
  rw [token, kept, shares, reserve, total] at gain
  rw [token] at removed
  exact ⟨past, s, t, u, run, withdrawn, removed, gain⟩

end Reference

end Chain

end Basilisk
