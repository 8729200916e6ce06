/-
# What each pallet does to the ledger

All pallets of the runtime work on one ledger, through the operations of its
currencies only.  This module says for every pallet which operations those are: who
pays, whose balance is set aside or released, and what is minted and burned.  The
supply of every asset, and what one pallet may rely on in the balances it leaves to
the others, follow from these licences alone.
-/

import Basilisk.Duster.Model
import Basilisk.Exchange.Reserves
import Basilisk.Lbp.Terms
import Basilisk.LiquidityMining.Calls
import Basilisk.Marketplace.Reserves
import Basilisk.Math.Supply
import Basilisk.Nft.Deposits

namespace Basilisk

open Basilisk.Math
open Basilisk.Math.Ledger (Changes Licence)

/-- Somebody holds the key of the account. -/
def AccountId.IsSigner (account : AccountId) : Prop :=
  ∃ key, account = .signer key

/-- The accounts concerned pay, and have their balance set aside and released. -/
def parties (concerned : AccountId → Prop) : Licence AccountId AssetId where
  pays := concerned
  saves := concerned
  yields := concerned
  mints _ := False
  burns _ := False

/-- The accounts concerned pay, and all else stays. -/
def payments (payers : AccountId → Prop) : Licence AccountId AssetId :=
  { parties payers with
    saves _ := False
    yields _ := False }

theorem payments_within {payers others : AccountId → Prop}
    (among : ∀ account, payers account → others account) :
    (payments payers).Within (payments others) where
  pays := among
  saves _ := id
  yields _ := id
  mints _ := id
  burns _ := id

namespace Xyk

variable {cfg : Config} {s t : State} {call : Call}

/-- The asset is the share token of a pair. -/
def Config.IsShareToken (cfg : Config) (token : AssetId) : Prop :=
  ∃ pair : AssetPair, cfg.getOrCreateSharedAsset pair.name = some token

/-- The account is that of a pool. -/
def IsPool (account : AccountId) : Prop :=
  ∃ pair, account = getPairId pair

/-- The pool that pays in a call. -/
def Call.payingPool : Call → Option AccountId
  | .removeLiquidity _ assetA assetB _ => some (getPairId ⟨assetA, assetB⟩)
  | .sell _ assetIn assetOut _ _ _ => some (getPairId ⟨assetIn, assetOut⟩)
  | .buy _ assetOut assetIn _ _ _ => some (getPairId ⟨assetIn, assetOut⟩)
  | _ => none

theorem Call.isPool_of_payingPool {call : Call} {account : AccountId}
    (pays : call.payingPool = some account) : IsPool account := by
  cases call with
  | createPool => cases pays
  | addLiquidity => cases pays
  | _ => exact ⟨_, (Option.some.inj pays).symm⟩

/-- Who signs a call. -/
def Call.caller : Call → AccountId
  | .createPool who _ _ _ _ _ => .signer who
  | .addLiquidity who _ _ _ _ => .signer who
  | .removeLiquidity who _ _ _ => .signer who
  | .sell who _ _ _ _ _ => .signer who
  | .buy who _ _ _ _ _ => .signer who

theorem Call.caller_isSigner (call : Call) : call.caller.IsSigner := by
  cases call <;> exact ⟨_, rfl⟩

/-- The caller pays, and the pool that assets are taken from. -/
def Call.Pays (call : Call) (account : AccountId) : Prop :=
  account = call.caller ∨ call.payingPool = some account

/-- Shares are minted and burned, and the native asset is burned. -/
def licence (cfg : Config) (payers : AccountId → Prop) : Licence AccountId AssetId where
  pays := payers
  saves _ := False
  yields _ := False
  mints token := cfg.IsShareToken token
  burns token := token = cfg.nativeAssetId ∨ cfg.IsShareToken token

/-- The share token of an existing pool is registered. -/
theorem PoolsRegistered.isShareToken (registered : PoolsRegistered cfg s) {pair : AssetPair}
    (present : s.poolExists pair = true) : cfg.IsShareToken (s.getShareToken pair) := by
  obtain ⟨token, stored⟩ := Option.isSome_iff_exists.mp present
  obtain ⟨assetA, assetB, -, -, named⟩ := registered _ _ stored
  rw [State.getShareToken, stored, Option.getD_some]
  exact ⟨_, named⟩

section Trades

variable {payers : AccountId → Prop} {transfer : AMMTransfer} (trader : payers transfer.origin)
include trader

theorem changes_of_charge (charged : chargeDiscount cfg s transfer = .ok t) :
    Changes u128Bound (licence cfg payers).Permits s.ledger t.ledger := by
  rw [chargeDiscount_eq_withdraw, State.withdraw_eq_ok] at charged
  obtain ⟨ledger, burned, rfl⟩ := charged
  exact Licence.withdraw trader (.inl rfl) burned

theorem changes_of_executeSell (pool : payers (getPairId transfer.assets))
    (executed : executeSell cfg s transfer = .ok t) :
    Changes u128Bound (licence cfg payers).Permits s.ledger t.ledger := by
  obtain ⟨_, _, charged, movedIn, movedOut, -⟩ := executeSell_ok executed
  exact ((changes_of_charge trader charged).trans (Licence.transfer trader movedIn)).trans
    (Licence.transfer pool movedOut)

theorem changes_of_executeBuy (pool : payers (getPairId transfer.assets))
    (executed : executeBuy cfg s transfer = .ok t) :
    Changes u128Bound (licence cfg payers).Permits s.ledger t.ledger := by
  obtain ⟨_, _, charged, movedOut, movedIn, -⟩ := executeBuy_ok executed
  exact ((changes_of_charge trader charged).trans (Licence.transfer pool movedOut)).trans
    (Licence.transfer trader movedIn)

end Trades

theorem changes_of_step (registered : PoolsRegistered cfg s) (taken : Step cfg s call t) :
    Changes u128Bound (licence cfg call.Pays).Permits s.ledger t.ledger := by
  have caller : (licence cfg call.Pays).pays call.caller := .inl rfl
  cases call with
  | createPool key hooks assetA assetB amount initialPrice =>
      obtain ⟨_, _, _, _, _, -, -, -, -, -, -, named, movedA, movedB, minted, -⟩ :=
        createPool_ok taken
      exact ((Licence.transfer caller movedA).trans (Licence.transfer caller movedB)).trans
        (Licence.deposit ⟨_, named⟩ minted)
  | addLiquidity key assetA assetB amountA limit =>
      obtain ⟨_, _, _, _, present, -, -, -, -, movedA, movedB, minted, -⟩ := addLiquidity_ok taken
      exact ((Licence.transfer caller movedA).trans (Licence.transfer caller movedB)).trans
        (Licence.deposit (registered.isShareToken present) minted)
  | removeLiquidity key assetA assetB amount =>
      obtain ⟨_, _, _, _, present, -, -, -, movedA, movedB, burned, -⟩ := removeLiquidity_ok taken
      have pool : (licence cfg (Call.removeLiquidity key assetA assetB amount).Pays).pays
          (getPairId ⟨assetA, assetB⟩) := .inr rfl
      exact ((Licence.transfer pool movedA).trans (Licence.transfer pool movedB)).trans
        (Licence.withdraw caller (.inr (registered.isShareToken present)) burned)
  | sell key assetIn assetOut amount limit discount =>
      simp only [Step, dispatch, sell, bind_eq_ok] at taken
      obtain ⟨transfer, valid, executed⟩ := taken
      obtain ⟨_, _, _, -, -, -, -, -, -, -, -, -, -, -, rfl⟩ := validateSell_ok valid
      exact changes_of_executeSell (.inl rfl) (.inr rfl) executed
  | buy key assetOut assetIn amount limit discount =>
      simp only [Step, dispatch, buy, bind_eq_ok] at taken
      obtain ⟨transfer, valid, executed⟩ := taken
      obtain ⟨_, _, _, -, -, -, -, -, -, -, -, -, -, -, rfl⟩ := validateBuy_ok valid
      exact changes_of_executeBuy (.inl rfl) (.inr rfl) executed

end Xyk

namespace Exchange

variable {cfg : Config} {s t : State} {pool : AccountId} {main matched left : Intention}
variable {concerned : AccountId → Prop}

/-- What the pools do with the accounts concerned, and the reserves of these. -/
def licence (cfg : Config) (concerned : AccountId → Prop) : Licence AccountId AssetId :=
  { Xyk.licence cfg.amm fun account => concerned account ∨ Xyk.IsPool account with
    saves := concerned
    yields := concerned }

theorem trades_within : (Xyk.licence cfg.amm fun account =>
    concerned account ∨ Xyk.IsPool account).Within (licence cfg concerned) where
  pays _ := id
  saves _ := False.elim
  yields _ := False.elim
  mints _ := id
  burns _ := id

theorem parties_within : (parties concerned).Within (licence cfg concerned) where
  pays _ := .inl
  saves _ := id
  yields _ := id
  mints _ := False.elim
  burns _ := False.elim

/-- A validated trade is one of the intention's account. -/
theorem origin_of_validate {transfer : Xyk.AMMTransfer} {x : Intention}
    (valid : validate cfg s x = .ok transfer) : transfer.origin = x.who := by
  unfold validate at valid
  split at valid
  · obtain ⟨_, _, _, -, -, -, -, -, -, -, -, -, -, -, rfl⟩ := Xyk.validateSell_ok valid
    rfl
  · obtain ⟨_, _, _, -, -, -, -, -, -, -, -, -, -, -, rfl⟩ := Xyk.validateBuy_ok valid
    rfl

theorem origin_of_validateRest {transfer : Xyk.AMMTransfer} {restIn restOut : ℕ}
    (valid : validateRest cfg s main matched restIn restOut = .ok transfer) :
    transfer.origin = matched.who := by
  unfold validateRest at valid
  split at valid
  · obtain ⟨_, _, _, -, -, -, -, -, -, -, -, -, -, -, rfl⟩ := Xyk.validateSell_ok valid
    rfl
  · obtain ⟨_, _, _, -, -, -, -, -, -, -, -, -, -, -, rfl⟩ := Xyk.validateBuy_ok valid
    rfl

theorem changes_of_executeAmmTransfer {kind : IntentionType} {intentionId : IntentionId}
    {transfer : Xyk.AMMTransfer} (trader : concerned transfer.origin)
    (executed : executeAmmTransfer cfg s kind intentionId transfer = .ok t) :
    Changes u128Bound (licence cfg concerned).Permits s.ledger t.ledger := by
  simp only [executeAmmTransfer, bind_eq_ok, return_eq_ok] at executed
  obtain ⟨amm, traded, rfl⟩ := executed
  cases kind with
  | sell =>
      exact (Xyk.changes_of_executeSell (.inl trader) (.inr ⟨_, rfl⟩) traded).widen trades_within
  | buy =>
      exact (Xyk.changes_of_executeBuy (.inl trader) (.inr ⟨_, rfl⟩) traded).widen trades_within

theorem changes_of_resolveSingleIntention (s : State) {x : Intention} (party : concerned x.who) :
    Changes u128Bound (licence cfg concerned).Permits s.ledger
      (resolveSingleIntention cfg s x).ledger := by
  unfold resolveSingleIntention
  split
  next transfer valid =>
    split
    next executed =>
      exact changes_of_executeAmmTransfer (origin_of_validate valid ▸ party) executed
    next => exact .refl _
  next => exact .refl _

section DirectTrades

variable {dt dt' : DirectTradeData}

/-- Both parties of a direct trade are concerned. -/
structure DirectTradeData.Between (dt : DirectTradeData) (concerned : AccountId → Prop) :
    Prop where
  partyA : concerned dt.intentionA.who
  partyB : concerned dt.intentionB.who

theorem tradeOf_between (party : concerned main.who) (party' : concerned matched.who) :
    (tradeOf main matched).Between concerned := by
  refine ⟨?_, ?_⟩
  · rwa [tradeOf_intentionA]
  · rwa [tradeOf_intentionB]

theorem changes_of_prepare {ready : Bool} (between : dt.Between concerned)
    (prepared : dt.prepare cfg s pool = (t, dt', ready)) :
    Changes u128Bound (parties concerned).Permits s.ledger t.ledger := by
  have outcome := dt.preparation cfg pool s
  rw [prepared] at outcome
  have partyA : (parties concerned).pays dt.intentionA.who := between.partyA
  have partyB : (parties concerned).pays dt.intentionB.who := between.partyB
  cases outcome with
  | shortA => exact .refl _
  | shortB => exact .refl _
  | noFees => exact .refl _
  | refusedA => exact .refl _
  | refusedB _ _ _ reservedA => exact Licence.reserve partyA partyA reservedA
  | ready _ _ _ reservedA reservedB =>
      exact (Licence.reserve partyA partyA reservedA).trans
        (Licence.reserve partyB partyB reservedB)

/-- Every payment is one of the two parties. -/
theorem DirectTradeData.Between.sender (between : dt.Between concerned) (empty : dt.transfers = [])
    {ready : Bool} (prepared : dt.prepare cfg s pool = (t, dt', ready)) :
    ∀ transfer ∈ dt'.transfers, concerned transfer.sender := by
  have outcome := dt.preparation cfg pool s
  rw [prepared] at outcome
  cases outcome with
  | ready =>
      intro transfer listed
      have party : transfer.sender = dt.intentionA.who ∨ transfer.sender = dt.intentionB.who := by
        rw [empty, List.nil_append] at listed
        unfold DirectTradeData.payments at listed
        dsimp only at listed
        split at listed <;> simp only [List.mem_cons, List.not_mem_nil, or_false] at listed <;>
          rcases listed with rfl | rfl | rfl | rfl <;> simp
      rcases party with same | same
      · rw [same]
        exact between.partyA
      · rw [same]
        exact between.partyB
  | _ =>
      rw [empty]
      exact fun transfer listed => absurd listed List.not_mem_nil

theorem changes_of_execute (s : State)
    (senders : ∀ transfer ∈ dt.transfers, concerned transfer.sender) :
    Changes u128Bound (parties concerned).Permits s.ledger (dt.execute s).ledger := by
  rw [dt.ledger_execute, List.foldl_map]
  exact .foldl (fun ledger transfer listed => Licence.repatriate (senders transfer listed)) _

theorem changes_of_revert (s : State)
    (senders : ∀ transfer ∈ dt.transfers, concerned transfer.sender) :
    Changes u128Bound (parties concerned).Permits s.ledger (dt.revert s).ledger := by
  rw [dt.ledger_revert, List.foldl_map]
  exact .foldl (fun ledger transfer listed => Licence.unreserve (senders transfer listed)) _

end DirectTrades

section Finalization

theorem Turn.changes {intention : Intention} (party : concerned main.who)
    (party' : concerned matched.who) (turn : Turn cfg pool intention s main matched t left) :
    Changes u128Bound (licence cfg concerned).Permits s.ledger t.ledger := by
  have between := tradeOf_between party party'
  have empty := tradeOf_transfers main matched
  cases turn with
  | refused => exact .refl _
  | unprepared _ failed => exact (changes_of_prepare between failed).widen parties_within
  | poolFailed _ ready _ =>
      refine ((changes_of_prepare between ready).trans ?_).widen parties_within
      rw [← State.ledger_sendIntentionErrorEvent]
      exact changes_of_revert _ (between.sender empty ready)
  | traded _ ready poolPart _ =>
      refine ((changes_of_prepare between ready).widen parties_within).trans (.trans ?_
        ((changes_of_execute _ (between.sender empty ready)).widen parties_within))
      unfold PoolPart at poolPart
      split_ifs at poolPart
      · obtain ⟨transfer, valid, executed⟩ := poolPart
        exact changes_of_executeAmmTransfer (origin_of_validateRest valid ▸ party') executed
      · rw [poolPart]
        exact .refl _

theorem Turns.changes {intention : Intention} {group : List Intention} (party : concerned main.who)
    (others : ∀ x ∈ group, concerned x.who)
    (turns : Turns cfg pool intention s main group t left) :
    Changes u128Bound (licence cfg concerned).Permits s.ledger t.ledger := by
  induction turns with
  | done => exact .refl _
  | next resolved _ ih =>
      have turn := resolveMatched_ok resolved
      refine (turn.changes party (others _ List.mem_cons_self)).trans (ih ?_ ?_)
      · exact turn.same.who ▸ party
      · exact fun x listed => others x (List.mem_cons_of_mem _ listed)

theorem Handing.Step.changes {handing : Handing}
    (concerns : ∀ x ∈ handing.intentions, concerned x.who)
    (taken : Handing.Step cfg s handing t) :
    Changes u128Bound (licence cfg concerned).Permits s.ledger t.ledger := by
  obtain ⟨pair, dispatch⟩ := handing
  cases dispatch with
  | rejected main =>
      obtain ⟨_, -, rfl⟩ := taken
      exact .refl _
  | matched main group =>
      obtain ⟨after, left, turns, rfl⟩ := resolveMatchedIntentions_ok taken.2
      have party : concerned main.who := concerns main List.mem_cons_self
      have group := turns.changes party fun x listed =>
        concerns x (List.mem_cons_of_mem _ listed)
      split_ifs
      · exact group.trans (changes_of_resolveSingleIntention after (turns.same.who ▸ party))
      · exact group
  | single x =>
      obtain rfl := taken
      exact changes_of_resolveSingleIntention s (concerns x List.mem_cons_self)

theorem changes_of_run {past : List (State × Handing)}
    (concerns : ∀ event ∈ past, ∀ x ∈ event.2.intentions, concerned x.who)
    (run : Run (· = s) (Handing.Step cfg) past t) :
    Changes u128Bound (licence cfg concerned).Permits s.ledger t.ledger := by
  induction run with
  | start isStart => exact isStart ▸ .refl _
  | extend _ taken ih =>
      refine (ih fun event listed => concerns event (List.mem_cons_of_mem _ listed)).trans ?_
      exact taken.changes (concerns _ List.mem_cons_self)

/-- What a finalization hands over was registered. -/
theorem registered_of_handings {order : List (AssetId × AssetId)}
    (all : (handed (handings cfg s order)).Perm (order.flatMap s.sides)) :
    ∀ event ∈ (handings cfg s order).reverse, ∀ x ∈ event.2.intentions, s.IsRegistered x := by
  intro event listed x handedOver
  have handedIn : x ∈ handed (handings cfg s order) :=
    List.mem_flatMap.mpr ⟨event, List.mem_reverse.mp listed, handedOver⟩
  obtain ⟨pair, -, side⟩ := List.mem_flatMap.mp (all.mem_iff.mp handedIn)
  rcases List.mem_append.mp side with queued | queued
  · exact ⟨_, queued⟩
  · exact ⟨_, queued⟩

/-- The account waits for a trade. -/
def State.HasIntention (s : State) (account : AccountId) : Prop :=
  ∃ x, s.IsRegistered x ∧ x.who = account

theorem Registered.isSigner {account : AccountId} (registered : Registered cfg s)
    (waiting : s.HasIntention account) : account.IsSigner := by
  obtain ⟨x, ⟨queue, queued⟩, rfl⟩ := waiting
  exact (registered.queued queue x queued).signed

/-- The end of a block concerns the accounts that wait. -/
theorem changes_of_finalize {order : List (AssetId × AssetId)} (registered : Registered cfg s)
    (taken : Step cfg s (.finalize order) t) :
    Changes u128Bound (licence cfg s.HasIntention).Permits s.ledger t.ledger := by
  simp only [Step, exec, bind_eq_ok, ensure_eq_ok, exists_const, mapError_eq_ok,
    return_eq_ok] at taken
  obtain ⟨iterates, u, finalized, rfl⟩ := taken
  obtain ⟨last, run, all, -, rfl⟩ := onFinalize_ok registered iterates finalized
  refine changes_of_run (t := last) ?_ run
  exact fun event listed x handed => ⟨x, registered_of_handings all event listed x handed, rfl⟩

/-- Registering an intention moves nothing. -/
theorem amm_of_call {call : Call} (taken : Step cfg s (.call call) t) : t.amm = s.amm := by
  simp only [Step, exec, mapError_eq_ok] at taken
  obtain ⟨_, _, _, _, _, _, _, -, -, -, stored⟩ := dispatch_ok taken
  exact (registerIntention_ok stored).1

end Finalization

end Exchange

namespace Lbp

variable {cfg : Config} {s t : State} {call : Call}

/-- The account that pays for a new pool. -/
def Call.poolOwner : Call → Option AccountId
  | .createPool new => some new.poolOwner
  | _ => none

/-- Who signs a call; pools are created by the technical committee. -/
def Call.caller : Call → Option AccountId
  | .createPool _ => none
  | .updatePoolData who _ _ => some (.signer who)
  | .addLiquidity who _ _ _ _ => some (.signer who)
  | .removeLiquidity who _ => some (.signer who)
  | .sell who _ _ _ _ => some (.signer who)
  | .buy who _ _ _ _ => some (.signer who)

theorem Call.caller_isSigner {account : AccountId} (signed : call.caller = some account) :
    account.IsSigner := by
  cases call with
  | createPool => cases signed
  | _ => exact ⟨_, (Option.some.inj signed).symm⟩

/-- The caller, the pools and the owner of a new pool pay. -/
def licence (call : Call) : Licence AccountId AssetId :=
  payments fun account => call.caller = some account ∨ (∃ pair, account = getPairId pair) ∨
    call.poolOwner = some account

theorem changes_of_executeTrade (call : Call) {pool : Pool} {transfer : Xyk.AMMTransfer}
    (validated : Validated cfg s pool transfer) (signed : call.caller = some transfer.origin)
    (executed : executeTrade s transfer = .ok t) :
    Changes u128Bound (licence call).Permits s.ledger t.ledger := by
  obtain ⟨mid, after, ledger, movedIn, movedOut, movedFee, rfl⟩ :=
    (executeTrade_iff validated.stored validated.feeAsset).mp executed
  have trader : (licence call).pays transfer.origin := .inl signed
  have reserve : (licence call).pays (getPairId transfer.assets) := .inr (.inl ⟨_, rfl⟩)
  refine ((Licence.transfer trader movedIn).trans (Licence.transfer reserve movedOut)).trans
    (Licence.transfer ?_ movedFee)
  unfold feePayer
  split_ifs
  · exact trader
  · exact reserve

theorem changes_of_dispatch (reachable : Reachable Initial (Step cfg) s)
    (called : dispatch cfg s call = .ok t) :
    Changes u128Bound (licence call).Permits s.ledger t.ledger := by
  cases call with
  | createPool new =>
      cases effect_of_dispatch called with
      | created _ _ _ _ paidA paidB =>
          have owner : (licence (.createPool new)).pays new.poolOwner := .inr (.inr rfl)
          exact (Licence.transfer owner paidA).trans (Licence.transfer owner paidB)
      | traded asked => cases asked
  | updatePoolData key poolId update =>
      cases effect_of_dispatch called with
      | updated => exact .refl _
      | traded asked => cases asked
  | addLiquidity key assetA amountA assetB amountB =>
      cases effect_of_dispatch called with
      | funded _ _ paidA paidB =>
          have owner : (licence (.addLiquidity key assetA amountA assetB amountB)).pays
              (.signer key) := .inl rfl
          exact (Licence.transfer owner paidA).trans (Licence.transfer owner paidB)
      | traded asked => cases asked
  | removeLiquidity key poolId =>
      cases effect_of_dispatch called with
      | removed stored _ _ paidA paidB =>
          have reserve : (licence (.removeLiquidity key poolId)).pays poolId :=
            .inr (.inl ⟨⟨_, _⟩, address_of_reachable reachable poolId _ stored⟩)
          exact (Licence.transfer reserve paidA).trans (Licence.transfer reserve paidB)
      | traded asked => cases asked
  | sell key assetIn assetOut amount maxLimit =>
      simp only [dispatch, sell, executeSell, bind_eq_ok, return_eq_ok] at called
      obtain ⟨transfer, accepted, _, executed, rfl⟩ := called
      obtain ⟨pool, validated, trader, -⟩ := validated_of_validateSell accepted
      have settled := changes_of_executeTrade (.sell key assetIn assetOut amount maxLimit)
        validated (congrArg some trader.symm) executed
      exact settled
  | buy key assetOut assetIn amount maxLimit =>
      simp only [dispatch, buy, executeBuy, bind_eq_ok, return_eq_ok] at called
      obtain ⟨transfer, accepted, _, executed, rfl⟩ := called
      obtain ⟨pool, validated, trader, -⟩ := validated_of_validateBuy accepted
      have settled := changes_of_executeTrade (.buy key assetOut assetIn amount maxLimit)
        validated (congrArg some trader.symm) executed
      exact settled

end Lbp

namespace Marketplace

variable {cfg : Config} {s t : State} {call : Call} {concerned : AccountId → Prop}

/-- Every offer was made by a signer. -/
def OffersSigned (s : State) : Prop :=
  ∀ token offer, s.offers.lookup token = some offer → offer.maker.IsSigner

/-- Who signs a call. -/
def Call.caller : Call → AccountId
  | .buy who _ => .signer who
  | .setPrice who _ _ => .signer who
  | .makeOffer who _ _ _ => .signer who
  | .withdrawOffer who _ _ => .signer who
  | .acceptOffer who _ _ => .signer who
  | .addRoyalty who _ _ _ => .signer who

/-- The offer a call is about. -/
def Call.offer : Call → Option (Nft.Token × AccountId)
  | .withdrawOffer _ token maker => some (token, maker)
  | .acceptOffer _ token maker => some (token, maker)
  | _ => none

/-- The account has made the offer a call is about. -/
def Call.Takes (call : Call) (s : State) (account : AccountId) : Prop :=
  ∃ key offer, call.offer = some key ∧ s.offers.lookup key = some offer ∧ offer.maker = account

/-- A call concerns its caller and the maker of its offer. -/
def Call.Concerns (call : Call) (s : State) (account : AccountId) : Prop :=
  account = call.caller ∨ call.Takes s account

theorem changes_of_transfer {sender receiver : AccountId} {amount : ℕ} (party : concerned sender)
    (moved : s.transfer cfg sender receiver amount = .ok t) :
    Changes u128Bound (parties concerned).Permits s.ledger t.ledger := by
  unfold State.transfer at moved
  split_ifs at moved
  · obtain rfl := return_eq_ok.mp moved
    exact .refl _
  · simp only [bind_eq_ok, okOr_eq_ok, ensure_eq_ok, return_eq_ok, exists_const] at moved
    obtain ⟨ledger, paid, -, -, rfl⟩ := moved
    exact Licence.transfer party paid

theorem changes_of_reserveNamed {who : AccountId} {amount : ℕ} (party : concerned who)
    (reserved : s.reserveNamed cfg who amount = .ok t) :
    Changes u128Bound (parties concerned).Permits s.ledger t.ledger := by
  simp only [State.reserveNamed, bind_eq_ok, okOr_eq_ok, return_eq_ok] at reserved
  obtain ⟨ledger, aside, rfl⟩ := reserved
  exact Licence.reserve party party aside

theorem changes_of_doBuy {buyer : AccountId} {token : Nft.Token} {isOffer : Bool}
    (party : concerned buyer) (bought : doBuy cfg s buyer token isOffer = .ok t) :
    Changes u128Bound (parties concerned).Permits s.ledger t.ledger := by
  obtain ⟨owner, priced, price, settled, net, paid, nft, -, -, taking, royalty, paying, -, rfl⟩ :=
    doBuy_steps bought
  have unpriced : priced.ledger = s.ledger := by
    rcases takePrice_ok taking with ⟨-, rfl, -⟩ | ⟨-, rfl, -⟩
    · rfl
    · rfl
  have charged : Changes u128Bound (parties concerned).Permits priced.ledger settled.ledger := by
    rcases settleRoyalty_cases royalty with ⟨_, _, -, -, -, moved, rfl, -⟩ | ⟨-, rfl, -⟩
    · have paidAuthor := changes_of_transfer party moved
      exact paidAuthor
    · exact .refl _
  have paidOwner := changes_of_transfer party paying
  rw [unpriced] at charged
  exact charged.trans paidOwner

theorem changes_of_dispatch (called : dispatch cfg s call = .ok t) :
    Changes u128Bound (parties (call.Concerns s)).Permits s.ledger t.ledger := by
  have caller : call.Concerns s call.caller := .inl rfl
  cases call with
  | buy key token => exact changes_of_doBuy caller called
  | setPrice key token newPrice =>
      simp only [dispatch, setPrice, bind_eq_ok, ensure_eq_ok, exists_const, return_eq_ok] at called
      obtain ⟨-, rfl⟩ := called
      exact .refl _
  | makeOffer key token amount expires =>
      simp only [dispatch, makeOffer, bind_eq_ok, ensure_eq_ok, exists_const,
        return_eq_ok] at called
      obtain ⟨-, -, _, reserved, rfl⟩ := called
      have aside := changes_of_reserveNamed caller reserved
      exact aside
  | withdrawOffer key token maker =>
      simp only [dispatch, withdrawOffer, bind_eq_ok, okOr_eq_ok, ensure_eq_ok, exists_const,
        return_eq_ok] at called
      obtain ⟨offer, stored, _, -, -, rfl⟩ := called
      have party : (Call.withdrawOffer key token maker).Concerns s offer.maker :=
        .inr ⟨_, _, rfl, stored, rfl⟩
      exact Licence.unreserve party
  | acceptOffer key token maker =>
      obtain ⟨offer, bought, -, stored, buying, rfl⟩ := acceptOffer_steps called
      have party : (Call.acceptOffer key token maker).Concerns s offer.maker :=
        .inr ⟨_, _, rfl, stored, rfl⟩
      exact (Licence.unreserve party).trans (changes_of_doBuy party buying)
  | addRoyalty key token author royalty =>
      simp only [dispatch, addRoyalty, bind_eq_ok, okOr_eq_ok, ensure_eq_ok, exists_const,
        return_eq_ok] at called
      obtain ⟨-, -, _, -, -, _, reserved, rfl⟩ := called
      have aside := changes_of_reserveNamed caller reserved
      exact aside

theorem Call.Concerns.isSigner {account : AccountId} (concerns : call.Concerns s account)
    (offers : OffersSigned s) : account.IsSigner := by
  rcases concerns with rfl | ⟨_, offer, -, stored, rfl⟩
  · cases call <;> exact ⟨_, rfl⟩
  · exact offers _ _ stored

theorem OffersSigned.step {label : Label} (offers : OffersSigned s) (taken : Step cfg s label t) :
    OffersSigned t := by
  unfold OffersSigned
  cases effect_of_step taken with
  | kept _ unbooked =>
      rw [unbooked.offers]
      exact offers
  | @placed key _ _ _ _ stored =>
      rw [stored]
      exact AList.forall_lookup_insert ⟨key, rfl⟩ fun token offer _ known =>
        offers token offer known
  | closed _ _ erased =>
      rw [erased]
      exact AList.forall_lookup_erase fun token offer _ known => offers token offer known
  | bonded kept =>
      rw [kept]
      exact offers
  | chain kept =>
      rw [kept]
      exact offers

end Marketplace

namespace LiquidityMining

variable {cfg : Config} {s t : State} {call : Call}

/-- Who signs a call; farms are created by the root. -/
def Call.caller : Call → Option AccountId
  | .createFarm _ _ _ _ _ _ _ => none
  | .destroyFarm who _ => some (.signer who)
  | .withdrawUndistributedRewards who _ => some (.signer who)
  | .addLiquidityPool who _ _ _ _ => some (.signer who)
  | .updateLiquidityPool who _ _ _ => some (.signer who)
  | .cancelLiquidityPool who _ _ => some (.signer who)
  | .resumeLiquidityPool who _ _ _ => some (.signer who)
  | .removeLiquidityPool who _ _ => some (.signer who)
  | .depositShares who _ _ _ => some (.signer who)
  | .claimRewards who _ => some (.signer who)
  | .withdrawShares who _ => some (.signer who)

theorem Call.caller_isSigner {account : AccountId} (signed : call.caller = some account) :
    account.IsSigner := by
  cases call with
  | createFarm => cases signed
  | _ => exact ⟨_, (Option.some.inj signed).symm⟩

/-- The caller, the pallet's accounts and the owner of a new farm pay. -/
def licence (call : Call) : Licence AccountId AssetId :=
  payments fun account => call.caller = some account ∨ account.IsPallet ∨
    (Label.call call).owner = some account

/-- Only the pallet's accounts pay. -/
def palletLicence : Licence AccountId AssetId :=
  payments AccountId.IsPallet

theorem palletLicence_within (call : Call) : palletLicence.Within (licence call) :=
  payments_within fun _ pallet => .inr (.inl pallet)

theorem palletLicence_pays (number : ℕ) : palletLicence.pays (.palletSubAccount number) :=
  trivial

theorem changes_of_returned {assetPair : AssetPair} {who : AccountId} {shares : ℕ}
    {before after : Currencies} (returned : Returned s assetPair who shares before after) :
    Changes u128Bound palletLicence.Permits before after := by
  cases returned with
  | listed _ moved =>
      have pallet : palletLicence.pays accountId := trivial
      exact Licence.transfer pallet moved
  | unlisted _ same => exact same ▸ .refl _

theorem changes_of_maybeUpdatePools {s' : State} {globalPool globalPool' : GlobalPool}
    {liqPool liqPool' : LiquidityPoolYieldFarm} {now : ℕ}
    (updated : maybeUpdatePools cfg s globalPool liqPool now = .ok (s', globalPool', liqPool')) :
    Changes u128Bound palletLicence.Permits s.ledger s'.ledger := by
  cases broughtUp_of_maybeUpdatePools updated with
  | idle => exact .refl _
  | unvalued _ refreshed =>
      obtain ⟨⟨_, -, rfl⟩, -⟩ := refreshGlobalPool_frame refreshed
      exact .refl _
  | paid _ refreshed _ _ _ _ _ moved =>
      obtain ⟨⟨_, -, rfl⟩, -⟩ := refreshGlobalPool_frame refreshed
      exact Licence.transfer (palletLicence_pays _) moved

theorem changes_of_doClaimRewards {s' : State} {who : AccountId} {deposit deposit' : Deposit}
    {liqPool : LiquidityPoolYieldFarm} {now reward unclaimable : ℕ} {currency : AssetId}
    (claimed : doClaimRewards cfg s who deposit liqPool now currency =
      .ok (s', deposit', reward, unclaimable)) :
    Changes u128Bound palletLicence.Permits s.ledger s'.ledger := by
  obtain ⟨-, ⟨-, rfl, -⟩ | ⟨_, _, -, -, -, moved, rfl, -⟩⟩ := doClaimRewards_ok claimed
  · exact .refl _
  · exact Licence.transfer (palletLicence_pays _) moved

theorem changes_of_settleWithdrawal {who : AccountId} {slot : Slot} {deposit : Deposit}
    (settled : settleWithdrawal cfg s who slot deposit = .ok t) :
    Changes u128Bound palletLicence.Permits s.ledger t.ledger := by
  rcases settleWithdrawal_ok settled with ⟨-, rfl⟩ | ⟨liqPool, -, withdrawn⟩
  · exact .refl _
  · obtain ⟨_, _, _, _, _, _, _, _, _, _, left, rfl⟩ := withdrawFromLiqPool_ok withdrawn
    exact ((changes_of_maybeUpdatePools left.updated).trans
      (changes_of_doClaimRewards left.claimed)).trans
        (Licence.transfer (palletLicence_pays _) left.refund)

theorem changes_of_dispatch (called : dispatch cfg s call = .ok t) :
    Changes u128Bound (licence call).Permits s.ledger t.ledger := by
  have pallet (number : ℕ) : (licence call).pays (.palletSubAccount number) :=
    (palletLicence_within call).pays _ (palletLicence_pays number)
  have own {ledger : Currencies}
      (changes : Changes u128Bound palletLicence.Permits s.ledger ledger) :
      Changes u128Bound (licence call).Permits s.ledger ledger :=
    changes.widen (palletLicence_within call)
  cases call with
  | createFarm =>
      obtain ⟨-, -, -, _, funded, rfl⟩ := createFarm_ok called
      exact Licence.transfer (.inr (.inr rfl)) funded
  | destroyFarm =>
      obtain ⟨_, -, -, -, -, rfl⟩ := destroyFarm_ok called
      exact .refl _
  | withdrawUndistributedRewards =>
      obtain ⟨_, _, -, -, -, moved, rfl⟩ := withdrawUndistributedRewards_ok called
      exact Licence.transfer (pallet _) moved
  | addLiquidityPool =>
      obtain ⟨_, _, _, -, -, -, -, -, refreshed, -, rfl⟩ := addLiquidityPool_ok called
      obtain ⟨⟨_, -, rfl⟩, -⟩ := refreshGlobalPool_frame refreshed
      exact .refl _
  | updateLiquidityPool =>
      obtain ⟨_, _, s', _, _, _, settling, -, -, -, -, -, rfl⟩ := updateLiquidityPool_ok called
      change Changes _ _ s.ledger s'.ledger
      exact own (changes_of_maybeUpdatePools settling.updated)
  | cancelLiquidityPool =>
      obtain ⟨_, _, s', _, _, settling, -, -, -, rfl⟩ := cancelLiquidityPool_ok called
      change Changes _ _ s.ledger s'.ledger
      exact own (changes_of_maybeUpdatePools settling.updated)
  | resumeLiquidityPool =>
      obtain ⟨_, _, _, _, _, -, -, -, -, refreshed, -, -, rfl⟩ := resumeLiquidityPool_ok called
      obtain ⟨⟨_, -, rfl⟩, -⟩ := refreshGlobalPool_frame refreshed
      exact .refl _
  | removeLiquidityPool =>
      obtain ⟨_, _, _, -, -, -, -, -, moved, rfl⟩ := removeLiquidityPool_ok called
      exact Licence.transfer (pallet _) moved
  | depositShares =>
      obtain ⟨_, _, _, _, _, _, _, _, _, entered, rfl⟩ := depositShares_ok called
      exact (own (changes_of_maybeUpdatePools entered.updated)).trans
        (Licence.transfer (.inl rfl) entered.locked)
  | claimRewards =>
      obtain ⟨_, _, _, _, _, _, _, s'', _, _, _, done, rfl⟩ := claimRewards_eq_ok.mp called
      change Changes _ _ s.ledger s''.ledger
      exact own ((changes_of_maybeUpdatePools done.updated).trans
        (changes_of_doClaimRewards done.claimed))
  | withdrawShares =>
      obtain ⟨_, _, _, _, _, done, rfl⟩ := withdrawShares_ok called
      obtain ⟨_, _, returned, -, rfl⟩ := returnLpShares_ok done.handed
      exact own ((changes_of_settleWithdrawal done.settled).trans (changes_of_returned returned))

/-- A call leaves the clock to the rest of the chain. -/
theorem dispatch_blockNumber (consistent : Consistent cfg s.blockNumber s.toStorage)
    (called : dispatch cfg s call = .ok t) : t.blockNumber = s.blockNumber := by
  have path : Path cfg s (.call call) s t := path_of_step consistent called
  clear called
  induction path with
  | refl => rfl
  | tail _ moved ih =>
      obtain ⟨kind, inherits, move⟩ := moved
      rw [← ih]
      cases move with
      | external => exact absurd inherits.origin nofun
      | _ => rfl

end LiquidityMining

namespace Duster

variable {cfg : Config} {s t : State} {call : Call}

/-- The account a call wants to dust. -/
def Call.dusted : Call → Option AccountId
  | .dustAccount _ account _ => some account
  | _ => none

/-- The dusted account and the reward account pay. -/
def licence (s : State) (call : Call) : Licence AccountId AssetId :=
  payments fun account => call.dusted = some account ∨ s.rewardAccount = some account

theorem changes_of_dispatch (called : dispatch cfg s call = .ok t) :
    Changes u128Bound (licence s call).Permits s.ledger t.ledger := by
  cases call with
  | dustAccount who account currencyId =>
      obtain ⟨dest, ledger, -, -, -, -, moved, rewarded⟩ := dustAccount_ok called
      have dusted : Changes u128Bound
          (licence s (.dustAccount who account currencyId)).Permits s.ledger ledger :=
        Licence.transfer (.inl rfl) moved
      cases rewarded with
      | paid known granted => exact dusted.trans (Licence.transfer (.inr known) granted)
      | unpaid => exact dusted
  | addNondustableAccount account =>
      obtain rfl := return_eq_ok.mp called
      exact .refl _
  | removeNondustableAccount account =>
      simp only [dispatch, removeNondustableAccount, bind_eq_ok, ensure_eq_ok, exists_const,
        return_eq_ok] at called
      obtain ⟨-, rfl⟩ := called
      exact .refl _

end Duster

namespace Nft

/-- A call sets a deposit of the owner of a class aside, or gives it back. -/
theorem changes_of_settles {uniques : UniquesConfig} {s t : State} {call : Call}
    {ledger ledger' : Currencies} (settles : Settles uniques s t ledger ledger' call) :
    Changes u128Bound (parties fun account => call.depositor s = some account).Permits
      ledger ledger' := by
  cases settles with
  | @aside owner amount backs reserved =>
      have party : (parties fun account => call.depositor s = some account).pays owner := backs
      exact Licence.reserve party party reserved
  | @returned owner amount backs released =>
      have party : (parties fun account => call.depositor s = some account).yields owner := backs
      rw [released]
      exact Licence.unreserve party
  | kept unmoved =>
      rw [unmoved]
      exact .refl _

end Nft

end Basilisk
