/-
# Sales in the runtime

While a bootstrapping pool sells an asset, the rest of the runtime goes on: others
trade, farm and transfer, and somebody may try to open an ordinary pool of the same
pair.  This module follows a sale from its start to the moment its owner closes it.
Its terms stand, its reserves hold what was there, plus what the trades have paid in,
less what they have paid out, and up to the last block of the sale it is not joined by
a pool of the same pair.
-/

import Basilisk.Runtime.Chain
import Basilisk.Runtime.Pairs

namespace Basilisk

open Basilisk.Math
open Basilisk.Math.Ledger (entry)

namespace Lbp

variable {cfg : Config} {s t : State} {call : Call} {pool : Pool} {poolId : AccountId}
variable {transfer : Xyk.AMMTransfer}

/-- What an account gets from the trade of a call if it is the pool. -/
def Call.paidIn (cfg : Config) (s : State) (call : Call) (account : AccountId)
    (asset : AssetId) : ℕ :=
  (call.trade cfg s).elim 0 fun transfer =>
    entry (getPairId transfer.assets) transfer.assets.assetIn transfer.amount account asset

/-- What an account pays in the trade of a call if it is the pool: what the trader gets, and the
fee unless the trader pays it. -/
def Call.paidOut (cfg : Config) (s : State) (call : Call) (account : AccountId)
    (asset : AssetId) : ℕ :=
  (call.trade cfg s).elim 0 fun transfer =>
    entry (getPairId transfer.assets) transfer.assets.assetOut transfer.amountOut account asset +
      entry (if transfer.assets.assetIn = transfer.fee.1 then transfer.origin
        else getPairId transfer.assets) transfer.fee.1 transfer.fee.2 account asset

/-- A trade leaves a pool what it was paid less what it paid. -/
theorem reserve_of_executeTrade (unsigned : poolId ≠ transfer.origin)
    (validated : Validated cfg s pool transfer) (executed : executeTrade s transfer = .ok t)
    (asset : AssetId) :
    s.ledger.free poolId asset +
        entry (getPairId transfer.assets) transfer.assets.assetIn transfer.amount poolId asset ≤
      t.ledger.free poolId asset +
        (entry (getPairId transfer.assets) transfer.assets.assetOut transfer.amountOut poolId
            asset +
          entry (if transfer.assets.assetIn = transfer.fee.1 then transfer.origin
            else getPairId transfer.assets) transfer.fee.1 transfer.fee.2 poolId asset) := by
  obtain ⟨mid, after, ledger, movedIn, movedOut, movedFee, rfl⟩ :=
    (executeTrade_iff validated.stored validated.feeAsset).mp executed
  have first := Ledger.free_transfer_add_entry movedIn poolId asset
  have second := Ledger.free_transfer_add_entry movedOut poolId asset
  have third := Ledger.free_transfer_add_entry movedFee poolId asset
  rw [feePayer, ← validated.feeAsset] at third
  rw [Ledger.entry_of_ne_account unsigned] at first second
  show _ ≤ ledger.free poolId asset + _
  omega

/-- While a sale runs, a call leaves its reserves what the trade of the call, if it is one, does
not pay out. -/
theorem reserve_of_dispatch (unsigned : ∀ key, poolId ≠ .signer key)
    (spared : call.poolOwner ≠ some poolId)
    (kept : ∀ who, call ≠ .removeLiquidity who poolId) (called : dispatch cfg s call = .ok t)
    (asset : AssetId) :
    s.ledger.free poolId asset + call.paidIn cfg s poolId asset ≤
      t.ledger.free poolId asset + call.paidOut cfg s poolId asset := by
  have settled {who : ℕ} {transfer : Xyk.AMMTransfer} {pool : Pool} {u : State}
      (asked : call.trade cfg s = some transfer) (trader : transfer.origin = .signer who)
      (validated : Validated cfg s pool transfer) (executed : executeTrade s transfer = .ok u)
      (same : t.ledger = u.ledger) :
      s.ledger.free poolId asset + call.paidIn cfg s poolId asset ≤
        t.ledger.free poolId asset + call.paidOut cfg s poolId asset := by
    rw [Call.paidIn, Call.paidOut, asked, same]
    exact reserve_of_executeTrade (trader ▸ unsigned who) validated executed asset
  cases call with
  | createPool new =>
      have notOwner : poolId ≠ new.poolOwner := fun same => spared (same ▸ rfl)
      cases effect_of_dispatch called with
      | created _ _ _ _ paidA paidB =>
          exact (Ledger.free_le_transfer_of_ne_sender paidA notOwner asset).trans
            (Ledger.free_le_transfer_of_ne_sender paidB notOwner asset)
      | traded asked => cases asked
  | updatePoolData =>
      cases effect_of_dispatch called with
      | updated => exact le_rfl
      | traded asked => cases asked
  | addLiquidity who =>
      cases effect_of_dispatch called with
      | funded _ _ paidA paidB =>
          exact (Ledger.free_le_transfer_of_ne_sender paidA (unsigned who) asset).trans
            (Ledger.free_le_transfer_of_ne_sender paidB (unsigned who) asset)
      | traded asked => cases asked
  | removeLiquidity who other =>
      have elsewhere : poolId ≠ other := fun same => kept who (same ▸ rfl)
      cases effect_of_dispatch called with
      | removed _ _ _ paidA paidB =>
          exact (Ledger.free_le_transfer_of_ne_sender paidA elsewhere asset).trans
            (Ledger.free_le_transfer_of_ne_sender paidB elsewhere asset)
      | traded asked => cases asked
  | sell who assetIn assetOut amount maxLimit =>
      simp only [dispatch, sell, executeSell, bind_eq_ok, return_eq_ok] at called
      obtain ⟨transfer, accepted, _, executed, rfl⟩ := called
      obtain ⟨pool, validated, trader, -⟩ := validated_of_validateSell accepted
      exact settled (toOption_eq_some.mpr accepted) trader validated executed rfl
  | buy who assetOut assetIn amount maxLimit =>
      simp only [dispatch, buy, executeBuy, bind_eq_ok, return_eq_ok] at called
      obtain ⟨transfer, accepted, _, executed, rfl⟩ := called
      obtain ⟨pool, validated, trader, -⟩ := validated_of_validateBuy accepted
      exact settled (toOption_eq_some.mpr accepted) trader validated executed rfl

/-- Up to the end of its sale, a pool keeps others of its pair from being created. -/
theorem canCreate_of_stored {assetA assetB : AssetId} {endBlock : ℕ}
    (stored : s.poolData.lookup (pairAccountFromAssets assetA assetB) = some pool)
    (ends : pool.endBlock = some endBlock) (during : s.blockNumber ≤ endBlock) :
    s.canCreate assetA assetB = false := by
  rw [State.canCreate, stored]
  simpa [ends] using during

end Lbp

namespace Xyk

variable {cfg : Config} {s t : State} {call : Call} {account : AccountId}

theorem canCreate_of_createPool {hooks : CreationHooks} {who : AccountId} {assetA assetB : AssetId}
    {amount initialPrice : ℕ}
    (called : createPool cfg s hooks who assetA assetB amount initialPrice = .ok t) :
    hooks.canCreate = true := by
  simp only [createPool, bind_eq_ok, ensure_eq_ok, exists_const] at called
  exact called.1

/-- Where there is no pool, there is none after a call, unless it is created and may be. -/
theorem absent_of_call (absent : s.shareToken.lookup account = none)
    (closed : ∀ key hooks assetA assetB amount initialPrice,
      call = .createPool key hooks assetA assetB amount initialPrice →
      account = getPairId ⟨assetA, assetB⟩ → hooks.canCreate = false)
    (taken : Step cfg s call t) : t.shareToken.lookup account = none := by
  cases call with
  | createPool key hooks assetA assetB amount initialPrice =>
      obtain ⟨_, _, _, _, _, -, -, -, -, -, -, -, -, -, -, tokens, -⟩ := createPool_ok taken
      have other : account ≠ getPairId ⟨assetA, assetB⟩ := by
        intro here
        have refused := closed _ _ _ _ _ _ rfl here
        exact absurd (refused.symm.trans (canCreate_of_createPool taken)) Bool.false_ne_true
      rw [tokens, AList.lookup_insert_ne other, absent]
  | addLiquidity =>
      obtain ⟨_, _, _, _, -, -, -, -, -, -, -, -, tokens, -⟩ := addLiquidity_ok taken
      rw [tokens, absent]
  | removeLiquidity key assetA assetB amount =>
      obtain ⟨_, _, _, _, -, -, -, -, -, -, -, left⟩ := removeLiquidity_ok taken
      split_ifs at left
      · rw [left.1]
        by_cases here : account = getPairId ⟨assetA, assetB⟩
        · rw [here, AList.lookup_erase]
        · rw [AList.lookup_erase_ne here, absent]
      · rw [left.1, absent]
  | sell =>
      simp only [Step, dispatch, sell, bind_eq_ok] at taken
      obtain ⟨_, -, executed⟩ := taken
      obtain ⟨_, _, -, -, -, tokens, -⟩ := executeSell_ok executed
      rw [tokens, absent]
  | buy =>
      simp only [Step, dispatch, buy, bind_eq_ok] at taken
      obtain ⟨_, -, executed⟩ := taken
      obtain ⟨_, _, -, -, -, tokens, -⟩ := executeBuy_ok executed
      rw [tokens, absent]

end Xyk

namespace Chain

variable {cfg : Config} {s t u : State} {label : Label} {poolId : AccountId} {pool : Lbp.Pool}
variable {start endBlock : ℕ} {past : List (State × Label)}

/-- What an account gets in a step as a bootstrapping pool that is traded with. -/
def Label.paidIn (cfg : Config) (s : State) (account : AccountId) (asset : AssetId) : Label → ℕ
  | .lbp call => call.paidIn cfg.lbp s.lbpView account asset
  | _ => 0

/-- What an account pays in a step as a bootstrapping pool that is traded with. -/
def Label.paidOut (cfg : Config) (s : State) (account : AccountId) (asset : AssetId) : Label → ℕ
  | .lbp call => call.paidOut cfg.lbp s.lbpView account asset
  | _ => 0

/-- What the trades of a run have paid into a bootstrapping pool. -/
def paidIn (cfg : Config) (past : List (State × Label)) (account : AccountId)
    (asset : AssetId) : ℕ :=
  (past.map fun event => event.2.paidIn cfg event.1 account asset).sum

/-- What a bootstrapping pool has paid out in the trades of a run. -/
def paidOut (cfg : Config) (past : List (State × Label)) (account : AccountId)
    (asset : AssetId) : ℕ :=
  (past.map fun event => event.2.paidOut cfg event.1 account asset).sum

theorem paidIn_cons (account : AccountId) (asset : AssetId) :
    paidIn cfg ((u, label) :: past) account asset =
      label.paidIn cfg u account asset + paidIn cfg past account asset :=
  rfl

theorem paidOut_cons (account : AccountId) (asset : AssetId) :
    paidOut cfg ((u, label) :: past) account asset =
      label.paidOut cfg u account asset + paidOut cfg past account asset :=
  rfl

/-- The terms of a sale stand, and its reserves hold what they held, plus what the trades have
paid in, less what they have paid out. -/
structure OnSale (cfg : Config) (poolId : AccountId) (pool : Lbp.Pool) (s : State)
    (past : List (State × Label)) (t : State) : Prop where
  data : t.lbp.poolData.lookup poolId = some pool
  reserves : ∀ asset, s.ledger.free poolId asset + paidIn cfg past poolId asset ≤
    t.ledger.free poolId asset + paidOut cfg past poolId asset

/-- The step closes the sale: the owner removes the pool after the last block. -/
def Closes (poolId : AccountId) (pool : Lbp.Pool) (endBlock : ℕ) (event : State × Label) : Prop :=
  ∃ who, event.2 = .lbp (.removeLiquidity who poolId) ∧ .signer who = pool.owner ∧
    endBlock < event.1.relayBlockNumber

theorem relayBlockNumber_le_of_step (taken : Step cfg s label t) :
    s.relayBlockNumber ≤ t.relayBlockNumber :=
  Lbp.blockNumber_le_of_step (taken_of_step taken).lbp_step

/-- Outside the bootstrapping pools nobody takes from the account of one. -/
theorem sales_spared (sound : Sound cfg s) (spared : Spares (· = poolId) s label)
    (outside : label.bootstraps = false) {pair : AssetPair}
    (address : poolId = Lbp.getPairId pair) :
    ¬ (licence cfg s label).pays poolId := by
  intro pays
  cases payer_of_licence sound pays with
  | signer isSigner =>
      obtain ⟨key, same⟩ := isSigner
      cases address.symm.trans same
  | pool _ isPool =>
      obtain ⟨other, same⟩ := isPool
      exact Pairs.xyk_ne_lbp other pair (same.symm.trans address)
  | sale inside => exact absurd (outside.symm.trans inside) nofun
  | pallet _ isPallet =>
      rw [address] at isPallet
      exact isPallet
  | named charged => exact spared _ charged rfl

theorem sale_of_taken (outside : label.bootstraps = false) (taken : Taken cfg s label t) :
    t.lbp = s.lbp := by
  cases taken with
  | lbp => exact absurd outside nofun
  | _ => rfl

/-- A step leaves the terms and the reserves of a sale that has started, or closes it. -/
theorem OnSale.step {pair : AssetPair} (onSale : OnSale cfg poolId pool s past u)
    (sound : Sound cfg u) (address : poolId = Lbp.getPairId pair) (begins : pool.start = some start)
    (ends : pool.endBlock = some endBlock) (started : start ≤ u.relayBlockNumber)
    (spared : Spares (· = poolId) u label) (taken : Step cfg u label t) :
    OnSale cfg poolId pool s ((u, label) :: past) t ∨ Closes poolId pool endBlock (u, label) := by
  have summed (asset : AssetId) (once : u.ledger.free poolId asset +
        label.paidIn cfg u poolId asset ≤
      t.ledger.free poolId asset + label.paidOut cfg u poolId asset) :
      s.ledger.free poolId asset + paidIn cfg ((u, label) :: past) poolId asset ≤
        t.ledger.free poolId asset + paidOut cfg ((u, label) :: past) poolId asset := by
    have before := onSale.reserves asset
    rw [paidIn_cons, paidOut_cons]
    omega
  cases outside : label.bootstraps with
  | false =>
      refine .inl ⟨?_, fun asset => summed asset ?_⟩
      · rw [sale_of_taken outside (taken_of_step taken)]
        exact onSale.data
      · have kept := (changes_of_step sound taken).free_le_of_not_pays
          (sales_spared sound spared outside address) asset
        cases label with
        | lbp => exact absurd outside nofun
        | _ => exact kept
  | true =>
      cases taken_of_step taken with
      | @lbp call view called =>
          have effect := Lbp.effect_of_dispatch called
          obtain kept | ⟨who, rfl, owned, idle⟩ := effect.keeps_started onSale.data
            (Lbp.hasPoolStarted_eq_true begins started)
          · refine .inl ⟨kept, fun asset => summed asset ?_⟩
            have notOwner : call.poolOwner ≠ some poolId := fun named =>
              spared _ (Option.mem_toList.mpr named) rfl
            have stays (who : ℕ) : call ≠ .removeLiquidity who poolId := by
              rintro rfl
              cases effect with
              | removed =>
                  rw [AList.lookup_erase] at kept
                  cases kept
              | traded asked => cases asked
            have once := Lbp.reserve_of_dispatch (fun key => address ▸ nofun) notOwner stays called
              asset
            exact once
          · refine .inr ⟨who, rfl, owned, ?_⟩
            by_contra during
            have running := (Lbp.isPoolRunning_iff_le (s := u.lbpView) begins ends started).mpr
              (Nat.le_of_not_lt during)
            exact absurd (running.symm.trans idle) nofun
      | _ => exact absurd outside nofun

/-- No pool of the pair appears in a step while its sale is going on. -/
theorem absent_of_step {assetA assetB : AssetId} (sound : Sound cfg s)
    (stored : s.lbp.poolData.lookup (Lbp.pairAccountFromAssets assetA assetB) = some pool)
    (ends : pool.endBlock = some endBlock) (during : s.relayBlockNumber ≤ endBlock)
    (absent : s.exchange.amm.poolExists ⟨assetA, assetB⟩ = false) (taken : Step cfg s label t) :
    t.exchange.amm.poolExists ⟨assetA, assetB⟩ = false := by
  have kept (tokens : t.exchange.amm.shareToken = s.exchange.amm.shareToken) :
      t.exchange.amm.poolExists ⟨assetA, assetB⟩ = false := by
    rw [Xyk.State.poolExists, tokens]
    exact absent
  cases taken_of_step taken with
  | @xyk call amm called =>
      rw [Xyk.State.poolExists, Option.isSome_eq_false_iff, Option.isNone_iff_eq_none] at absent ⊢
      refine Xyk.absent_of_call absent ?_ called
      intro key hooks assetC assetD amount initialPrice creates here
      cases call with
      | createPool =>
          obtain ⟨-, rfl, rfl, rfl, -, -⟩ := Xyk.Call.createPool.inj creates
          have same := Xyk.getPairId_eq_iff.mp here
          apply Lbp.canCreate_of_stored (s := s.lbpView) _ ends during
          rw [← stored]
          exact congrArg s.lbp.poolData.lookup (fromAssets_eq_iff.mpr same.symm)
      | _ => cases creates
  | exchange called =>
      apply kept
      dsimp only
      rw [Exchange.amm_of_call called]
  | finalize finalized =>
      apply kept
      simp only [Exchange.Step, Exchange.exec, bind_eq_ok, ensure_eq_ok, exists_const,
        mapError_eq_ok, return_eq_ok] at finalized
      obtain ⟨iterates, _, finalized, rfl⟩ := finalized
      obtain ⟨last, run, -, -, rfl⟩ := Exchange.onFinalize_ok sound.registered iterates finalized
      exact (Exchange.kept_of_run run).shareToken
  | _ => exact kept rfl

/-- From any state of the runtime on in which a sale has started, and as long as no call names the
account of the sale as a payer: its terms stand and its reserves hold what they held, plus what
its trades have paid in, less what they have paid out, until its owner closes it after the last
block.  Up to then no ordinary pool of its pair is opened beside it. -/
theorem sale_undisturbed (reachable : Reachable (Initial cfg) (Step cfg) s)
    (stored : s.lbp.poolData.lookup poolId = some pool) (begins : pool.start = some start)
    (ends : pool.endBlock = some endBlock) (started : start ≤ s.relayBlockNumber)
    (run : Run (· = s) (Step cfg) past t) (spared : Guarded (Spares (· = poolId)) past) :
    (OnSale cfg poolId pool s past t ∨ ∃ event ∈ past, Closes poolId pool endBlock event) ∧
      (t.relayBlockNumber ≤ endBlock → OnSale cfg poolId pool s past t ∧
        (s.exchange.amm.poolExists ⟨pool.assets.1, pool.assets.2⟩ = false →
          t.exchange.amm.poolExists ⟨pool.assets.1, pool.assets.2⟩ = false)) := by
  have sound := sound_of_reachable reachable
  have address : poolId = Lbp.getPairId ⟨pool.assets.1, pool.assets.2⟩ :=
    Lbp.address_of_reachable sound.lbp poolId pool stored
  suffices kept : (Sound cfg t ∧ start ≤ t.relayBlockNumber) ∧
      (OnSale cfg poolId pool s past t ∨ endBlock < t.relayBlockNumber ∧
        ∃ event ∈ past, Closes poolId pool endBlock event) ∧
      (t.relayBlockNumber ≤ endBlock →
        s.exchange.amm.poolExists ⟨pool.assets.1, pool.assets.2⟩ = false →
          t.exchange.amm.poolExists ⟨pool.assets.1, pool.assets.2⟩ = false) by
    obtain ⟨-, sale, alone⟩ := kept
    refine ⟨sale.imp_right And.right, fun during => ⟨?_, alone during⟩⟩
    exact sale.resolve_right fun closed => absurd closed.1 (Nat.not_lt.mpr during)
  induction run with
  | start isStart =>
      obtain rfl := isStart
      exact ⟨⟨sound, started⟩, .inl ⟨stored, fun asset => le_rfl⟩, fun _ => id⟩
  | @extend past u t label _ taken ih =>
      rw [guarded_cons] at spared
      obtain ⟨⟨sound, started⟩, sale, alone⟩ := ih spared.2
      have later := relayBlockNumber_le_of_step taken
      refine ⟨⟨sound.step taken, started.trans later⟩, ?_, fun during absent => ?_⟩
      · obtain onSale | ⟨ended, event, listed, closes⟩ := sale
        · obtain onSale | closes := onSale.step sound address begins ends started spared.1 taken
          · exact .inl onSale
          · have ended : endBlock < u.relayBlockNumber := closes.choose_spec.2.2
            exact .inr ⟨ended.trans_le later, _, List.mem_cons_self, closes⟩
        · exact .inr ⟨ended.trans_le later, event, List.mem_cons_of_mem _ listed, closes⟩
      · have before := later.trans during
        have data := (sale.resolve_right fun closed =>
          absurd closed.1 (Nat.not_lt.mpr before)).data
        rw [address] at data
        exact absent_of_step sound data ends before (alone before absent) taken

section Reference

/-- Signer 0 opens two sales that started one relay block ago. -/
def launch : List Label :=
  [.lbp (.createPool Lbp.bootstrapping),
    .lbp (.updatePoolData 0 (Lbp.getPairId ⟨1, 2⟩) Lbp.saleUpdate),
    .lbp (.createPool { Lbp.bootstrapping with assetA := 3, assetB := 4 }),
    .lbp (.updatePoolData 0 (Lbp.getPairId ⟨3, 4⟩) Lbp.saleUpdate), .finalize [] 21]

/-- Signers 1 and 2 trade with the two pools, and signer 3 gives the first one something. -/
def tradedSale : List Label :=
  [.lbp (.buy 1 4 3 (10 ^ 7) (10 ^ 8)), .lbp (.sell 2 2 1 (10 ^ 7) 0), .finalize [] 5,
    .transfer 3 (Lbp.getPairId ⟨1, 2⟩) 1 70]

/-- In relay block 26 the first sale accounts for its trade, and it is alone. -/
theorem sale_undisturbed_traded :
    ∃ first second s t pool, simulate genesis launch = .ok (first, s) ∧
      simulate s tradedSale = .ok (second, t) ∧ t.relayBlockNumber = 26 ∧
      paidIn .reference second (Lbp.getPairId ⟨1, 2⟩) 2 = 10 ^ 7 ∧
      OnSale .reference (Lbp.getPairId ⟨1, 2⟩) pool s second t ∧
      t.exchange.amm.poolExists ⟨1, 2⟩ = false := by
  have computed : succeedsWith (do
      let opened ← simulate genesis launch
      let traded ← simulate opened.2 tradedSale
      return (opened, traded)) (fun result =>
        decide (namesPayers result.2.1 = true ∧
          result.1.2.exchange.amm.poolExists ⟨1, 2⟩ = false ∧ result.1.2.relayBlockNumber = 21) &&
        decide (result.2.2.relayBlockNumber = 26 ∧
          paidIn .reference result.2.1 (Lbp.getPairId ⟨1, 2⟩) 2 = 10 ^ 7) &&
        (result.1.2.lbp.poolData.lookup (Lbp.getPairId ⟨1, 2⟩)).any fun pool =>
          decide (pool.start = some 20) && decide (pool.endBlock = some 30) &&
            decide (pool.assets = (1, 2))) = true := by
    decide +kernel
  simp only [succeedsWith_iff, bind_eq_ok, return_eq_ok, Bool.and_eq_true, Option.any_eq_true,
    decide_eq_true_eq] at computed
  obtain ⟨_, ⟨⟨first, s⟩, opened, ⟨second, t⟩, traded, rfl⟩, ⟨⟨named, absent, began⟩, now, paid⟩,
    pool, stored, ⟨begins, ends⟩, assets⟩ := computed
  dsimp only at opened traded named absent began now paid stored
  have others (account : AccountId) (payer : isPayer account = true) :
      ¬ account = Lbp.getPairId ⟨1, 2⟩ := by
    rintro rfl
    exact absurd payer (by decide)
  have unguarded : Guarded (fun _ _ => True) first := fun _ _ => trivial
  have reachable := (reachable_of_simulate opened unguarded).reachable
  have during : t.relayBlockNumber ≤ 30 := by
    rw [now]
    decide
  obtain ⟨onSale, alone⟩ := (sale_undisturbed reachable stored begins ends (by omega)
    (run_of_simulate traded) (guarded_of_namesPayers others named)).2 during
  rw [assets] at alone
  exact ⟨first, second, s, t, pool, opened, traded, now, paid, onSale, alone absent⟩

end Reference

end Chain

end Basilisk
