/-
# The pools of the runtime

Signers trade with the pools, and so does the exchange when a block is finalized: it
quotes a trade in one state, sets the direct trade aside and executes the quoted
trade in the state after that.  Nobody else moves the balance of a pool, as long as
no call names a pool as a payer.  So the records of the pools agree in every state
of the runtime, the shares that all accounts hold add up to the recorded liquidity,
and the product of the reserves falls in no step but a call of a pool.
-/

import Basilisk.Runtime.Chain
import Basilisk.Runtime.Pairs
import Basilisk.Xyk.Trades

namespace Basilisk

open Basilisk.Math
open Basilisk.Math.Ledger (Changes Licence)

namespace Xyk

variable {cfg : Config} {s t u : State} {account : AccountId} {assets : AssetId × AssetId}
variable {token : AssetId} {liquidity : ℕ}

/-- The records of the pools are the same. -/
structure SameRecords (s t : State) : Prop where
  shareToken : t.shareToken = s.shareToken
  poolAssets : t.poolAssets = s.poolAssets
  totalLiquidity : t.totalLiquidity = s.totalLiquidity

theorem SameRecords.refl (s : State) : SameRecords s s := ⟨rfl, rfl, rfl⟩

theorem SameRecords.trans (first : SameRecords s t) (second : SameRecords t u) :
    SameRecords s u :=
  ⟨second.shareToken.trans first.shareToken, second.poolAssets.trans first.poolAssets,
    second.totalLiquidity.trans first.totalLiquidity⟩

/-- The pools and their shares are the same, and no product of reserves has fallen. -/
structure Upholds (cfg : Config) (s t : State) : Prop extends SameRecords s t where
  issuance : ∀ token, cfg.IsShareToken token → t.ledger.issuance token = s.ledger.issuance token
  product : ∀ {account assets token liquidity}, LivePool cfg s account assets token liquidity →
    product s account assets ≤ product t account assets

section Upholds

theorem LivePool.isShareToken (pool : LivePool cfg s account assets token liquidity) :
    cfg.IsShareToken token :=
  ⟨_, pool.registered⟩

/-- A positive product is one of positive reserves. -/
theorem Upholds.live (upholds : Upholds cfg s t)
    (pool : LivePool cfg s account assets token liquidity) :
    LivePool cfg t account assets token liquidity where
  recorded := upholds.poolAssets ▸ pool.recorded
  shareToken := upholds.shareToken ▸ pool.shareToken
  totalLiquidity := upholds.totalLiquidity ▸ pool.totalLiquidity
  distinct := pool.distinct
  pairAccount := pool.pairAccount
  registered := pool.registered
  issued := (upholds.issuance token pool.isShareToken).trans pool.issued
  positive := pool.positive
  reserves := by
    have before : 0 < Xyk.product s account assets := Nat.mul_pos pool.reserves.1 pool.reserves.2
    exact CanonicallyOrderedAdd.mul_pos.mp (before.trans_le (upholds.product pool))

theorem Upholds.agree (upholds : Upholds cfg s t) (agree : RecordsAgree cfg s) :
    RecordsAgree cfg t := by
  intro account
  obtain none | ⟨assets, token, liquidity, pool⟩ := agree account
  · refine .inl ⟨?_, ?_, ?_, ?_⟩
    · rw [upholds.poolAssets, none.recorded]
    · rw [upholds.shareToken, none.shareToken]
    · rw [upholds.totalLiquidity, none.totalLiquidity]
    · intro pair token place registered
      rw [upholds.issuance token ⟨pair, registered⟩]
      exact none.unissued pair token place registered
  · exact .inr ⟨assets, token, liquidity, upholds.live pool⟩

theorem Upholds.refl (s : State) : Upholds cfg s s :=
  ⟨.refl s, fun _ _ => rfl, fun _ => le_rfl⟩

theorem Upholds.trans (first : Upholds cfg s t) (second : Upholds cfg t u) : Upholds cfg s u where
  toSameRecords := first.toSameRecords.trans second.toSameRecords
  issuance token share := (second.issuance token share).trans (first.issuance token share)
  product pool := (first.product pool).trans (second.product (first.live pool))

theorem product_le_of_free_le
    (spared : ∀ asset, s.ledger.free account asset ≤ t.ledger.free account asset) :
    product s account assets ≤ product t account assets :=
  Nat.mul_le_mul (spared _) (spared _)

/-- Who neither lets a pool pay nor mints or burns shares upholds the pools. -/
theorem upholds_of_changes {licence : Licence AccountId AssetId} (records : SameRecords s t)
    (changes : Changes u128Bound licence.Permits s.ledger t.ledger)
    (spared : ∀ pair, ¬ licence.pays (getPairId pair))
    (unminted : ∀ token, cfg.IsShareToken token → ¬ licence.mints token)
    (unburned : ∀ token, cfg.IsShareToken token → ¬ licence.burns token) :
    Upholds cfg s t where
  toSameRecords := records
  issuance token share := by
    apply le_antisymm
    · refine changes.issuance_ge fun op permitted mints => ?_
      exact unminted token share (permitted.mints token mints)
    · refine changes.issuance_le fun op permitted burns => ?_
      exact unburned token share (permitted.burns token burns)
  product := by
    intro account assets token liquidity pool
    have place : account = getPairId ⟨assets.1, assets.2⟩ := pool.pairAccount
    exact product_le_of_free_le (changes.free_le_of_not_pays (place ▸ spared _))

theorem Traded.upholds {pair : AssetPair} {paidIn paidOut : ℕ} (lawful : cfg.Lawful)
    (traded : Traded cfg s t pair paidIn paidOut)
    (priced : s.ledger.free (getPairId pair) pair.assetIn *
        s.ledger.free (getPairId pair) pair.assetOut ≤
      (s.ledger.free (getPairId pair) pair.assetIn + paidIn) *
        (s.ledger.free (getPairId pair) pair.assetOut - paidOut)) :
    Upholds cfg s t where
  toSameRecords := ⟨traded.shareToken, traded.poolAssets, traded.totalLiquidity⟩
  issuance token share := by
    obtain ⟨_, registered⟩ := share
    exact traded.issuance token (lawful.notNative registered)
  product pool := traded.product_le pool priced

end Upholds

section Quotes

variable {key amount limit : ℕ} {pair : AssetPair} {discount : Bool} {transfer : AMMTransfer}
variable (lawful : cfg.Lawful) (agree : RecordsAgree cfg s)
variable (same : ∀ pair asset,
  u.ledger.free (getPairId pair) asset = s.ledger.free (getPairId pair) asset)
include lawful agree same

/-- A sale quoted in one state and executed in another one with the same reserves. -/
theorem upholds_of_executeSell
    (quoted : validateSell cfg s (.signer key) pair amount limit discount = .ok transfer)
    (executed : executeSell cfg u transfer = .ok t) : Upholds cfg u t := by
  obtain ⟨amountOut, fee, _, -, present, -, -, -, priced, -, -, below, -, -, rfl⟩ :=
    validateSell_ok quoted
  obtain ⟨_, _, _, pool⟩ := agree.live present
  obtain ⟨_, _, -, -, -, tokens, pairs, totals⟩ := executeSell_ok executed
  have traded := (executeSell_settles executed).traded pool.assets_ne tokens pairs totals
  refine traded.upholds lawful ?_
  apply product_le_of_exact_in
  dsimp only
  rw [same, same, ← lawful.math.outGivenIn priced]
  exact Nat.sub_le _ _

theorem upholds_of_executeBuy
    (quoted : validateBuy cfg s (.signer key) pair amount limit discount = .ok transfer)
    (executed : executeBuy cfg u transfer = .ok t) : Upholds cfg u t := by
  obtain ⟨buyPrice, fee, _, -, present, below, -, -, priced, -, fits, -, -, -, rfl⟩ :=
    validateBuy_ok quoted
  obtain ⟨_, _, _, pool⟩ := agree.live present
  obtain ⟨_, _, -, -, -, tokens, pairs, totals⟩ := executeBuy_ok executed
  have settles := executeBuy_settles executed
  rw [wrappingAdd_of_lt fits] at settles
  refine (settles.traded pool.assets_ne tokens pairs totals).upholds lawful ?_
  dsimp only
  rw [same, same]
  apply product_le_of_exact_out below
  intro positive
  rw [lawful.math.inGivenOut priced, if_neg positive.ne']
  omega

end Quotes

end Xyk

namespace Exchange

variable {cfg : Config} {s t u : State} {pool : AccountId} {main matched left : Intention}

/-- The pool has quoted the trade to a signer. -/
inductive Quoted (cfg : Config) (s : State) : IntentionType → Xyk.AMMTransfer → Prop
  | sell {key amount limit : ℕ} {pair : AssetPair} {discount : Bool} {transfer : Xyk.AMMTransfer}
      (valid : Xyk.validateSell cfg.amm s.amm (.signer key) pair amount limit discount =
        .ok transfer) : Quoted cfg s .sell transfer
  | buy {key amount limit : ℕ} {pair : AssetPair} {discount : Bool} {transfer : Xyk.AMMTransfer}
      (valid : Xyk.validateBuy cfg.amm s.amm (.signer key) pair amount limit discount =
        .ok transfer) : Quoted cfg s .buy transfer

theorem quoted_of_validate {x : Intention} {transfer : Xyk.AMMTransfer} (signed : x.who.IsSigner)
    (valid : validate cfg s x = .ok transfer) : Quoted cfg s x.sellOrBuy transfer := by
  obtain ⟨key, signed⟩ := signed
  unfold validate at valid
  split at valid
  next kind => exact kind ▸ .sell (signed ▸ valid)
  next kind => exact kind ▸ .buy (signed ▸ valid)

theorem quoted_of_validateRest {restIn restOut : ℕ} {transfer : Xyk.AMMTransfer}
    (signed : matched.who.IsSigner)
    (valid : validateRest cfg s main matched restIn restOut = .ok transfer) :
    Quoted cfg s matched.sellOrBuy transfer := by
  obtain ⟨key, signed⟩ := signed
  unfold validateRest at valid
  split at valid
  next kind => exact kind ▸ .sell (signed ▸ valid)
  next kind => exact kind ▸ .buy (signed ▸ valid)

section DirectTrades

variable {dt dt' : DirectTradeData}

/-- Setting a direct trade aside does not touch the pools. -/
theorem reserves_prepare {ready : Bool} (between : dt.Between AccountId.IsSigner)
    (prepared : dt.prepare cfg s pool = (t, dt', ready)) (pair : AssetPair) (asset : AssetId) :
    t.ledger.free (Xyk.getPairId pair) asset = s.ledger.free (Xyk.getPairId pair) asset := by
  obtain ⟨keyA, signedA⟩ := between.partyA
  obtain ⟨keyB, signedB⟩ := between.partyB
  have outcome := dt.preparation cfg pool s
  rw [prepared] at outcome
  cases outcome with
  | refusedB _ _ _ reservedA =>
      rw [signedA] at reservedA
      exact Ledger.free_reserve_of_ne reservedA (Xyk.getPairId_ne_signer _ _) asset
  | ready _ _ _ reservedA reservedB =>
      rw [signedA] at reservedA
      rw [signedB] at reservedB
      exact (Ledger.free_reserve_of_ne reservedB (Xyk.getPairId_ne_signer _ _) asset).trans
        (Ledger.free_reserve_of_ne reservedA (Xyk.getPairId_ne_signer _ _) asset)
  | _ => rfl

theorem sameRecords_prepare {ready : Bool}
    (prepared : dt.prepare cfg s pool = (t, dt', ready)) : Xyk.SameRecords s.amm t.amm := by
  have outcome := dt.preparation cfg pool s
  rw [prepared] at outcome
  cases outcome <;> exact ⟨rfl, rfl, rfl⟩

theorem sameRecords_foldl {Item : Type*} {turn : State → Item → State}
    (each : ∀ s item, Xyk.SameRecords s.amm (turn s item).amm) (items : List Item) (s : State) :
    Xyk.SameRecords s.amm (items.foldl turn s).amm := by
  induction items generalizing s with
  | nil => exact .refl _
  | cons item items ih => exact (each s item).trans (ih _)

theorem sameRecords_execute (dt : DirectTradeData) (s : State) :
    Xyk.SameRecords s.amm (dt.execute s).amm := by
  have announced (event : Event) : Xyk.SameRecords s.amm (s.depositEvent event).amm := .refl _
  apply (announced _).trans
  apply sameRecords_foldl
  intro s transfer
  unfold DirectTradeData.pay
  dsimp only
  split_ifs <;> exact ⟨rfl, rfl, rfl⟩

theorem sameRecords_revert (dt : DirectTradeData) (s : State) :
    Xyk.SameRecords s.amm (dt.revert s).amm := by
  apply sameRecords_foldl
  intro s transfer
  exact ⟨rfl, rfl, rfl⟩

/-- Signers alone pay for a direct trade. -/
theorem upholds_of_signers (records : Xyk.SameRecords s.amm t.amm)
    (changes : Changes u128Bound (parties AccountId.IsSigner).Permits s.ledger t.ledger) :
    Xyk.Upholds cfg.amm s.amm t.amm := by
  refine Xyk.upholds_of_changes records changes ?_ (fun _ _ => id) (fun _ _ => id)
  rintro pair ⟨key, same⟩
  exact Xyk.getPairId_ne_signer pair key same

end DirectTrades

section Finalization

variable (lawful : cfg.amm.Lawful)
include lawful

theorem upholds_of_executeAmmTransfer {kind : IntentionType} {intentionId : IntentionId}
    {transfer : Xyk.AMMTransfer} (agree : Xyk.RecordsAgree cfg.amm s.amm)
    (same : ∀ pair asset, u.amm.ledger.free (Xyk.getPairId pair) asset =
      s.amm.ledger.free (Xyk.getPairId pair) asset)
    (quoted : Quoted cfg s kind transfer)
    (executed : executeAmmTransfer cfg u kind intentionId transfer = .ok t) :
    Xyk.Upholds cfg.amm u.amm t.amm := by
  simp only [executeAmmTransfer, bind_eq_ok, return_eq_ok] at executed
  obtain ⟨amm, traded, rfl⟩ := executed
  cases quoted with
  | sell valid => exact Xyk.upholds_of_executeSell lawful agree same valid traded
  | buy valid => exact Xyk.upholds_of_executeBuy lawful agree same valid traded

theorem upholds_of_resolveSingleIntention (agree : Xyk.RecordsAgree cfg.amm s.amm) {x : Intention}
    (signed : x.who.IsSigner) : Xyk.Upholds cfg.amm s.amm (resolveSingleIntention cfg s x).amm := by
  unfold resolveSingleIntention
  split
  next transfer valid =>
    split
    next executed =>
      exact upholds_of_executeAmmTransfer lawful agree (fun _ _ => rfl)
        (quoted_of_validate signed valid) executed
    next => exact .refl _
  next => exact .refl _

theorem Turn.upholds {intention : Intention} (agree : Xyk.RecordsAgree cfg.amm s.amm)
    (signed : main.who.IsSigner) (signed' : matched.who.IsSigner)
    (turn : Turn cfg pool intention s main matched t left) :
    Xyk.Upholds cfg.amm s.amm t.amm := by
  have between := tradeOf_between signed signed'
  have empty := tradeOf_transfers main matched
  cases turn with
  | refused => exact .refl _
  | unprepared _ failed =>
      exact upholds_of_signers (sameRecords_prepare failed) (changes_of_prepare between failed)
  | @poolFailed prepared dt transfer error _ ready _ =>
      have reverted : Xyk.Upholds cfg.amm prepared.amm
          (dt.revert (prepared.sendIntentionErrorEvent matched (.amm error))).amm :=
        upholds_of_signers (s := prepared.sendIntentionErrorEvent matched (.amm error))
          (sameRecords_revert _ _) (changes_of_revert _ (between.sender empty ready))
      exact (upholds_of_signers (sameRecords_prepare ready)
        (changes_of_prepare between ready)).trans reverted
  | traded _ ready poolPart _ =>
      refine (upholds_of_signers (sameRecords_prepare ready)
        (changes_of_prepare between ready)).trans (.trans ?_
          (upholds_of_signers (sameRecords_execute _ _)
            (changes_of_execute _ (between.sender empty ready))))
      unfold PoolPart at poolPart
      split_ifs at poolPart
      · obtain ⟨transfer, valid, executed⟩ := poolPart
        exact upholds_of_executeAmmTransfer lawful agree (reserves_prepare between ready)
          (quoted_of_validateRest signed' valid) executed
      · rw [poolPart]
        exact .refl _

theorem Turns.upholds {intention : Intention} {group : List Intention}
    (agree : Xyk.RecordsAgree cfg.amm s.amm) (signed : main.who.IsSigner)
    (others : ∀ x ∈ group, x.who.IsSigner)
    (turns : Turns cfg pool intention s main group t left) :
    Xyk.Upholds cfg.amm s.amm t.amm := by
  induction turns with
  | done => exact .refl _
  | next resolved _ ih =>
      have turn := resolveMatched_ok resolved
      have once := turn.upholds lawful agree signed (others _ List.mem_cons_self)
      refine once.trans (ih (once.agree agree) (turn.same.who ▸ signed) ?_)
      exact fun x listed => others x (List.mem_cons_of_mem _ listed)

theorem Handing.Step.upholds {handing : Handing} (agree : Xyk.RecordsAgree cfg.amm s.amm)
    (signed : ∀ x ∈ handing.intentions, x.who.IsSigner) (taken : Handing.Step cfg s handing t) :
    Xyk.Upholds cfg.amm s.amm t.amm := by
  obtain ⟨pair, dispatch⟩ := handing
  cases dispatch with
  | rejected main =>
      obtain ⟨_, -, rfl⟩ := taken
      exact .refl _
  | matched main group =>
      obtain ⟨after, left, turns, rfl⟩ := resolveMatchedIntentions_ok taken.2
      have signedMain : main.who.IsSigner := signed main List.mem_cons_self
      have traded := turns.upholds lawful agree signedMain fun x listed =>
        signed x (List.mem_cons_of_mem _ listed)
      split_ifs
      · exact traded.trans (upholds_of_resolveSingleIntention lawful (traded.agree agree)
          (turns.same.who ▸ signedMain))
      · exact traded
  | single x =>
      obtain rfl := taken
      exact upholds_of_resolveSingleIntention lawful agree (signed x List.mem_cons_self)

theorem upholds_of_run {past : List (State × Handing)} (agree : Xyk.RecordsAgree cfg.amm s.amm)
    (signed : ∀ event ∈ past, ∀ x ∈ event.2.intentions, x.who.IsSigner)
    (run : Run (· = s) (Handing.Step cfg) past t) : Xyk.Upholds cfg.amm s.amm t.amm := by
  induction run with
  | start isStart => exact isStart ▸ .refl _
  | extend _ taken ih =>
      have before := ih fun event listed => signed event (List.mem_cons_of_mem _ listed)
      exact before.trans (taken.upholds lawful (before.agree agree) (signed _ List.mem_cons_self))

/-- The end of a block. -/
theorem upholds_of_finalize {order : List (AssetId × AssetId)} (registered : Registered cfg s)
    (agree : Xyk.RecordsAgree cfg.amm s.amm) (taken : Step cfg s (.finalize order) t) :
    Xyk.Upholds cfg.amm s.amm t.amm := by
  simp only [Step, exec, bind_eq_ok, ensure_eq_ok, exists_const, mapError_eq_ok,
    return_eq_ok] at taken
  obtain ⟨iterates, u, finalized, rfl⟩ := taken
  obtain ⟨last, run, all, -, rfl⟩ := onFinalize_ok registered iterates finalized
  have signed : ∀ event ∈ (handings cfg s order).reverse, ∀ x ∈ event.2.intentions,
      x.who.IsSigner := fun event listed x handed =>
    registered.isSigner ⟨x, registered_of_handings all event listed x handed, rfl⟩
  have upholds := upholds_of_run lawful agree signed run
  exact upholds

end Finalization

end Exchange

namespace Chain

variable {cfg : Config} {s t : State} {label : Label}

/-- Outside the pools and the exchange no pool pays. -/
theorem pools_spared (sound : Sound cfg s) (spared : Spares Xyk.IsPool s label)
    (outside : label.trades = false) (pair : AssetPair) :
    ¬ (licence cfg s label).pays (Xyk.getPairId pair) := by
  intro pays
  cases payer_of_licence sound pays with
  | signer isSigner =>
      obtain ⟨key, same⟩ := isSigner
      exact Xyk.getPairId_ne_signer pair key same
  | pool inside => exact absurd (outside.symm.trans inside) nofun
  | sale _ other same => exact Pairs.xyk_ne_lbp pair other same
  | pallet _ isPallet => exact isPallet
  | named charged => exact spared _ charged ⟨pair, rfl⟩

theorem sameRecords_of_taken (outside : label.trades = false) (taken : Taken cfg s label t) :
    Xyk.SameRecords s.exchange.amm t.exchange.amm := by
  cases taken with
  | xyk => exact absurd outside nofun
  | exchange => exact absurd outside nofun
  | finalize => exact absurd outside nofun
  | _ => exact ⟨rfl, rfl, rfl⟩

/-- Every step but a call of the pools upholds them. -/
theorem upholds_of_step (lawful : cfg.xyk.Lawful) (sound : Sound cfg s)
    (agree : Xyk.RecordsAgree cfg.xyk s.exchange.amm) (spared : Spares Xyk.IsPool s label)
    (inside : ∀ call, label ≠ .xyk call) (taken : Step cfg s label t) :
    Xyk.Upholds cfg.xyk s.exchange.amm t.exchange.amm := by
  by_cases outside : label.trades = false
  · refine Xyk.upholds_of_changes (sameRecords_of_taken outside (taken_of_step taken))
      (changes_of_step sound taken) (pools_spared sound spared outside) ?_ ?_
    all_goals
      cases label <;> first | exact fun _ _ => id | exact absurd outside nofun
  · cases taken_of_step taken with
    | xyk => exact absurd rfl (inside _)
    | exchange called =>
        rw [Exchange.amm_of_call called]
        exact .refl _
    | finalize finalized =>
        have upholds := Exchange.upholds_of_finalize lawful sound.registered agree finalized
        exact upholds
    | _ => exact absurd rfl outside

theorem agree_of_step (lawful : cfg.xyk.Lawful) (sound : Sound cfg s)
    (agree : Xyk.RecordsAgree cfg.xyk s.exchange.amm) (spared : Spares Xyk.IsPool s label)
    (taken : Step cfg s label t) : Xyk.RecordsAgree cfg.xyk t.exchange.amm := by
  by_cases inside : ∀ call, label ≠ .xyk call
  · exact (upholds_of_step lawful sound agree spared inside taken).agree agree
  · obtain ⟨call, here⟩ := not_forall.mp inside
    obtain rfl := not_not.mp here
    cases taken_of_step taken with
    | xyk called => exact agree.step lawful called

theorem agree_of_reachable (lawful : cfg.xyk.Lawful)
    (reachable : ReachableUnder (Initial cfg) (Step cfg) (Spares Xyk.IsPool) s) :
    Sound cfg s ∧ s.ledger.Balanced ∧ Xyk.RecordsAgree cfg.xyk s.exchange.amm := by
  refine ReachableUnder.invariant (fun s => Sound cfg s ∧ s.ledger.Balanced ∧
    Xyk.RecordsAgree cfg.xyk s.exchange.amm) ?_ ?_ reachable
  · intro s initial
    have genesis : Xyk.Genesis cfg.xyk s.exchange.amm := ⟨initial.exchange.1, initial.unissued⟩
    exact ⟨initial.sound, initial.balanced,
      Xyk.recordsAgree_of_reachable lawful ⟨[], .start genesis⟩⟩
  · rintro s label t ⟨sound, balanced, agree⟩ spared taken
    exact ⟨sound.step taken, (changes_of_step sound taken).balanced balanced,
      agree_of_step lawful sound agree spared taken⟩

/-- Where there is no pool, nobody holds a share. -/
theorem unheld_of_noPool {account : AccountId} {pair : AssetPair} {token : AssetId}
    (balanced : s.ledger.Balanced) (none : Xyk.NoPool cfg.xyk s.exchange.amm account)
    (place : account = Xyk.getPairId pair)
    (registered : cfg.xyk.getOrCreateSharedAsset pair.name = some token) (who : AccountId) :
    s.ledger.totalBalance who token = 0 := by
  have unissued : s.ledger.issuance token = 0 := none.unissued pair token place registered
  obtain ⟨accounts, held⟩ := balanced
  exact Nat.le_zero.mp (unissued ▸ held.totalBalance_le who token)

/-- In every run of the runtime in which no call names a pool as a payer, whatever the order of
the calls of all pallets: a pool has reserves of both assets, and the shares that all accounts
hold, in their pockets, reserved or deposited in a farm, add up to its recorded liquidity;
where there is no pool, nobody holds a share. -/
theorem shares_add_up (lawful : cfg.xyk.Lawful)
    (reachable : ReachableUnder (Initial cfg) (Step cfg) (Spares Xyk.IsPool) s)
    (pair : AssetPair) :
    (s.exchange.amm.poolExists pair = true →
      0 < s.ledger.free (Xyk.getPairId pair) pair.assetIn ∧
      0 < s.ledger.free (Xyk.getPairId pair) pair.assetOut ∧
      0 < s.exchange.amm.totalLiquidityOf (Xyk.getPairId pair) ∧
      ∑ᶠ who, s.ledger.totalBalance who (s.exchange.amm.getShareToken pair) =
        s.exchange.amm.totalLiquidityOf (Xyk.getPairId pair)) ∧
    (s.exchange.amm.poolExists pair = false →
      ∀ token, cfg.xyk.getOrCreateSharedAsset pair.name = some token →
        ∀ who, s.ledger.totalBalance who token = 0) := by
  obtain ⟨-, balanced, agree⟩ := agree_of_reachable lawful reachable
  refine ⟨fun present => ?_, fun absent token registered who => ?_⟩
  · obtain ⟨_, token, liquidity, pool⟩ := agree.live present
    rw [pool.total, pool.getShareToken]
    refine ⟨pool.reserves_pos.1, pool.reserves_pos.2, pool.positive, ?_⟩
    rw [balanced.finsum]
    exact pool.issued
  · exact unheld_of_noPool balanced (agree.none absent) rfl registered who

theorem reference_lawful : Config.reference.xyk.Lawful :=
  Xyk.fundedConfig_lawful

/-- Neither a signer nor the treasury is a pool. -/
theorem notPool_of_isPayer (account : AccountId) (payer : isPayer account = true) :
    ¬ Xyk.IsPool account := by
  rintro ⟨pair, rfl⟩
  have length := congrArg List.length (AccountId.hashed.inj (beq_iff_eq.mp payer))
  rw [fromAssetsBytes_eq] at length
  simp only [List.length_append, Xyk.identifier, List.length_cons, List.length_nil] at length
  omega

/-- The shares of the busy block are held by the pool's founder and by the farm. -/
theorem shares_add_up_busy :
    ∃ past s, simulate genesis busyBlock = .ok (past, s) ∧
      s.ledger.free .palletAccount 100 = 4000 ∧
      ∑ᶠ who, s.ledger.totalBalance who 100 = 10000 := by
  have computed : succeedsWith (simulate genesis busyBlock) (fun reached => decide
      (namesPayers reached.1 = true ∧ reached.2.exchange.amm.poolExists ⟨1, 2⟩ = true ∧
        reached.2.exchange.amm.getShareToken ⟨1, 2⟩ = 100 ∧
        reached.2.exchange.amm.totalLiquidityOf (Xyk.getPairId ⟨1, 2⟩) = 10000 ∧
        reached.2.ledger.free .palletAccount 100 = 4000)) = true := by
    decide +kernel
  simp only [succeedsWith_iff, decide_eq_true_eq] at computed
  obtain ⟨⟨past, s⟩, run, named, present, token, total, deposited⟩ := computed
  have reachable := reachable_of_simulate run (guarded_of_namesPayers notPool_of_isPayer named)
  obtain ⟨-, -, -, sum⟩ := (shares_add_up reference_lawful reachable ⟨1, 2⟩).1 present
  rw [token, total] at sum
  exact ⟨past, s, run, deposited, sum⟩

end Chain

end Basilisk
