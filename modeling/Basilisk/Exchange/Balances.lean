/-
# What accounts own during a finalization

A finalization moves balances in two ways: an intention trades with the pool, or two
parties trade directly.  `poolChange` and `Visit.change` say what such a trade brings to
an account, from the amounts and balances it begins with.  A buyer whose sum of amount
and fee wraps has reserved too little for it, and then only what is in reserve is paid.
After a finalization a signer owns what it owned before and the sum of these changes.
-/

import Basilisk.Exchange.Settlement
import Basilisk.Xyk.Execution
import Mathlib.Algebra.Order.Group.Int

namespace Basilisk.Exchange

open Basilisk.Math

variable {cfg : Config} {s t u : State} {pool : AccountId}
variable {x intention main left matched : Intention}

/-- What an account owns of an asset, reserved or not. -/
def State.owns (s : State) (who : AccountId) (asset : AssetId) : ℕ :=
  s.ledger.totalBalance who asset

section Pool

variable {kind : IntentionType} {intentionId : IntentionId} {transfer : Xyk.AMMTransfer}

/-- What the trader gives the pool. -/
def poolTakes (kind : IntentionType) (transfer : Xyk.AMMTransfer) : ℕ :=
  match kind with
  | .sell => transfer.amount
  | .buy => wrappingAdd u128Bound transfer.amountOut transfer.fee.2

/-- What the trader gets from the pool. -/
def poolGives (kind : IntentionType) (transfer : Xyk.AMMTransfer) : ℕ :=
  match kind with
  | .sell => transfer.amountOut
  | .buy => transfer.amount

/-- What a trade with the pool brings to an account; a discount is charged in the native
asset. -/
def poolChange (cfg : Config) (kind : IntentionType) (transfer : Xyk.AMMTransfer)
    (who : AccountId) (asset : AssetId) : ℤ :=
  Ledger.entry transfer.origin transfer.assets.assetOut (poolGives kind transfer) who asset -
    Ledger.entry transfer.origin transfer.assets.assetIn (poolTakes kind transfer) who asset -
    Ledger.entry transfer.origin cfg.amm.nativeAssetId transfer.burned who asset

/-- The trader can pay for a trade and the pool can deliver, from these balances. -/
def Affordable (cfg : Config) (free : AccountId → AssetId → ℕ) (kind : IntentionType)
    (transfer : Xyk.AMMTransfer) : Prop :=
  let charge := Ledger.entry transfer.origin cfg.amm.nativeAssetId transfer.burned
  let pool := Xyk.getPairId transfer.assets
  transfer.burned ≤ free transfer.origin cfg.amm.nativeAssetId ∧
    poolTakes kind transfer + charge transfer.origin transfer.assets.assetIn ≤
      free transfer.origin transfer.assets.assetIn ∧
    poolGives kind transfer + charge pool transfer.assets.assetOut ≤
      free pool transfer.assets.assetOut

instance (free : AccountId → AssetId → ℕ) : Decidable (Affordable cfg free kind transfer) :=
  inferInstanceAs (Decidable (_ ≤ _ ∧ _ ≤ _ ∧ _ ≤ _))

theorem owns_executeAmmTransfer
    (executed : executeAmmTransfer cfg s kind intentionId transfer = .ok t) (key : ℕ)
    (asset : AssetId) :
    (t.owns (.signer key) asset : ℤ) =
      s.owns (.signer key) asset + poolChange cfg kind transfer (.signer key) asset := by
  have settles : Xyk.Settles cfg.amm s.amm t.amm transfer.origin transfer.assets
      (poolTakes kind transfer) (poolGives kind transfer) transfer.burned := by
    simp only [executeAmmTransfer, bind_eq_ok, return_eq_ok] at executed
    obtain ⟨amm, traded, rfl⟩ := executed
    cases kind with
    | sell => exact Xyk.executeSell_settles traded
    | buy => exact Xyk.executeBuy_settles traded
  have notPool := (Xyk.getPairId_ne_signer transfer.assets key).symm
  have free := settles.free (.signer key) asset
  have reserved := congrFun₂ settles.reserved (.signer key) asset
  rw [Ledger.entry_of_ne_account notPool, Ledger.entry_of_ne_account notPool] at free
  unfold State.owns poolChange Ledger.totalBalance State.ledger
  omega

/-- The pool executes a validated trade exactly if it is affordable. -/
theorem executes_iff (distinct : x.assets.assetIn ≠ x.assets.assetOut)
    (valid : validate cfg u x = .ok transfer) (s : State) (intentionId : IntentionId) :
    (∃ t, executeAmmTransfer cfg s x.sellOrBuy intentionId transfer = .ok t) ↔
      Affordable cfg s.ledger.free x.sellOrBuy transfer := by
  unfold validate at valid
  unfold executeAmmTransfer Affordable
  cases kind : x.sellOrBuy with
  | sell =>
      simp only [kind] at valid
      obtain ⟨_, _, _, -, -, -, -, -, -, -, -, -, -, -, rfl⟩ := Xyk.validateSell_ok valid
      simp only [bind_eq_ok, return_eq_ok]
      rw [exists_comm]
      simp only [exists_and_left, exists_eq', and_true]
      exact Xyk.exists_executeSell_iff distinct
  | buy =>
      simp only [kind] at valid
      obtain ⟨_, _, _, -, -, -, -, -, -, -, fits, -, -, -, rfl⟩ := Xyk.validateBuy_ok valid
      simp only [bind_eq_ok, return_eq_ok]
      rw [exists_comm]
      simp only [exists_and_left, exists_eq', and_true]
      rw [Xyk.exists_executeBuy_iff distinct fits]
      simp only [poolTakes, poolGives, wrappingAdd_of_lt fits]
      exact and_congr_right fun _ => and_comm

/-- The trade with the pool an intention comes to in a state, if any. -/
def poolTrade (cfg : Config) (s : State) (x : Intention) : Option Xyk.AMMTransfer :=
  (validate cfg s x).toOption.filter (Affordable cfg s.ledger.free x.sellOrBuy)

/-- What an intention that is handed to the pool brings to an account. -/
def offerChange (cfg : Config) (offer : State × Intention) (who : AccountId) (asset : AssetId) :
    ℤ :=
  (poolTrade cfg offer.1 offer.2).elim 0 (poolChange cfg offer.2.sellOrBuy · who asset)

theorem owns_resolveSingleIntention (distinct : x.assets.assetIn ≠ x.assets.assetOut) (key : ℕ)
    (asset : AssetId) :
    ((resolveSingleIntention cfg s x).owns (.signer key) asset : ℤ) =
      s.owns (.signer key) asset + offerChange cfg (s, x) (.signer key) asset := by
  unfold resolveSingleIntention offerChange poolTrade
  dsimp only
  cases valid : validate cfg s x with
  | error => simp [State.owns, Except.toOption]
  | ok transfer =>
      have executes := executes_iff distinct valid s x.intentionId
      dsimp only [Except.toOption]
      cases executed : executeAmmTransfer cfg s x.sellOrBuy x.intentionId transfer with
      | ok after =>
          have affordable := executes.mp ⟨after, executed⟩
          rw [Option.filter_some, if_pos (decide_eq_true affordable)]
          exact owns_executeAmmTransfer executed key asset
      | error =>
          have unaffordable : ¬ Affordable cfg s.ledger.free x.sellOrBuy transfer := by
            rw [← executes, executed]
            rintro ⟨_, succeeded⟩
            cases succeeded
          simp [Option.filter_some, unaffordable, State.owns]

end Pool

section Direct

/-- What the pool trades in a turn: the rest of a matched intention that is larger than what is
left of the main one. -/
def restOf (main matched : Intention) : Intention :=
  { matched with
    amountIn := matched.amountIn - main.amountOut
    amountOut := matched.amountOut - main.amountIn
    tradeLimit :=
      match matched.sellOrBuy with
      | .sell => matched.tradeLimit - main.amountIn
      | .buy => matched.tradeLimit - main.amountOut }

theorem validateRest_eq : validateRest cfg s main matched (matched.amountIn - main.amountOut)
    (matched.amountOut - main.amountIn) = validate cfg s (restOf main matched) := by
  unfold validateRest validate restOf
  cases matched.sellOrBuy <;> rfl

namespace Visit

/-- The pool's part of a turn. -/
def rest (cfg : Config) (visit : Visit) : Option Xyk.AMMTransfer :=
  if visit.main.amountIn < visit.matched.amountOut then
    (validate cfg visit.state (restOf visit.main visit.matched)).toOption
  else none

/-- The free balances once both parties have reserved. -/
def leftFree (visit : Visit) (fees : ℕ × ℕ) (who : AccountId) (asset : AssetId) : ℕ :=
  let trade := tradeOf visit.main visit.matched
  visit.state.ledger.free who asset -
    Ledger.entry visit.main.who visit.main.assets.assetIn
      (toReserve visit.main trade.amountFromA fees.1) who asset -
    Ledger.entry visit.matched.who visit.main.assets.assetOut
      (toReserve visit.matched trade.amountFromB fees.2) who asset

/-- The fees of a turn that trades: the trade is prepared, and the pool's part of it can be
paid from what is left. -/
def traded (cfg : Config) (visit : Visit) : Option (ℕ × ℕ) :=
  (visit.prepared cfg).filter fun fees => ∀ transfer ∈ visit.rest cfg,
    Affordable cfg (visit.leftFree fees) visit.matched.sellOrBuy transfer

/-- What the party of the main intention then has in reserve. -/
def heldA (visit : Visit) (fees : ℕ × ℕ) : ℕ :=
  visit.state.ledger.reserved visit.main.who visit.main.assets.assetIn +
    toReserve visit.main (tradeOf visit.main visit.matched).amountFromA fees.1

/-- What the other party has. -/
def heldB (visit : Visit) (fees : ℕ × ℕ) : ℕ :=
  visit.state.ledger.reserved visit.matched.who visit.main.assets.assetOut +
    toReserve visit.matched (tradeOf visit.main visit.matched).amountFromB fees.2

/-- What the main intention pays: what is charged, as far as it is in reserve. -/
def mainPays (visit : Visit) (fees : ℕ × ℕ) : ℕ :=
  min (visit.main.charged visit.matched (tradeOf visit.main visit.matched).amountFromA fees.1)
    (visit.heldA fees)

/-- What the matched intention gets of it. -/
def matchedGets (visit : Visit) (fees : ℕ × ℕ) : ℕ :=
  min (visit.matched.earns (tradeOf visit.main visit.matched).amountFromA fees.1)
    (visit.heldA fees)

/-- What the matched intention pays. -/
def matchedPays (visit : Visit) (fees : ℕ × ℕ) : ℕ :=
  min (visit.matched.charged visit.main (tradeOf visit.main visit.matched).amountFromB fees.2)
    (visit.heldB fees)

/-- What the main intention gets of it. -/
def mainGets (visit : Visit) (fees : ℕ × ℕ) : ℕ :=
  min (visit.main.earns (tradeOf visit.main visit.matched).amountFromB fees.2)
    (visit.heldB fees)

/-- What the direct trade of a turn brings to an account. -/
def directChange (visit : Visit) (fees : ℕ × ℕ) (who : AccountId) (asset : AssetId) : ℤ :=
  Ledger.entry visit.main.who visit.main.assets.assetOut (visit.mainGets fees) who asset +
    Ledger.entry visit.matched.who visit.main.assets.assetIn (visit.matchedGets fees) who asset -
    Ledger.entry visit.main.who visit.main.assets.assetIn (visit.mainPays fees) who asset -
    Ledger.entry visit.matched.who visit.main.assets.assetOut (visit.matchedPays fees) who asset

/-- What a turn brings to an account. -/
def change (cfg : Config) (visit : Visit) (who : AccountId) (asset : AssetId) : ℤ :=
  (visit.traded cfg).elim 0 fun fees =>
    (visit.rest cfg).elim 0 (poolChange cfg visit.matched.sellOrBuy · who asset) +
      visit.directChange fees who asset

end Visit

section Payments

variable {dt dt' : DirectTradeData} {prepared after : State} {feeA feeB : ℕ}

/-- What the payments of a trade bring to everybody but the pool, out of these reserves. -/
theorem DirectTradeData.received_capped (opposed : Opposed dt.intentionA dt.intentionB)
    (reserved : AccountId → AssetId → ℕ) (who : AccountId) (notPool : who ≠ pool)
    (asset : AssetId) :
    received (Ledger.capped reserved ((dt.payments pool feeA feeB).map Transfer.payment)) who
        asset =
      Ledger.entry dt.intentionB.who dt.intentionA.assets.assetIn
        (min (dt.intentionB.earns dt.amountFromA feeA)
          (reserved dt.intentionA.who dt.intentionA.assets.assetIn)) who asset +
      Ledger.entry dt.intentionA.who dt.intentionA.assets.assetOut
        (min (dt.intentionA.earns dt.amountFromB feeB)
          (reserved dt.intentionB.who dt.intentionA.assets.assetOut)) who asset := by
  have distinct := opposed.distinct.symm
  unfold received payments Intention.earns Ledger.entry
  cases kindA : dt.intentionA.sellOrBuy <;> cases kindB : dt.intentionB.sellOrBuy <;>
    simp [kindA, kindB, Ledger.capped, Transfer.payment, Ledger.debit_apply, distinct, notPool]

theorem DirectTradeData.owns_execute (opposed : Opposed dt.intentionA dt.intentionB)
    (unpaid : dt.transfers = []) (known : dt.fees cfg = some (feeA, feeB))
    (ready : dt.prepare cfg s pool = (prepared, dt', true))
    (kept : after.ledger.reserved = prepared.ledger.reserved) (who : AccountId)
    (notPool : who ≠ pool) (asset : AssetId) :
    let heldA := s.ledger.reserved dt.intentionA.who dt.intentionA.assets.assetIn +
      toReserve dt.intentionA dt.amountFromA feeA
    let heldB := s.ledger.reserved dt.intentionB.who dt.intentionA.assets.assetOut +
      toReserve dt.intentionB dt.amountFromB feeB
    (dt'.execute after).owns who asset +
        (Ledger.entry dt.intentionA.who dt.intentionA.assets.assetIn
          (min (dt.intentionA.charged dt.intentionB dt.amountFromA feeA) heldA) who asset +
        Ledger.entry dt.intentionB.who dt.intentionA.assets.assetOut
          (min (dt.intentionB.charged dt.intentionA dt.amountFromB feeB) heldB) who asset) =
      after.owns who asset +
        (Ledger.entry dt.intentionB.who dt.intentionA.assets.assetIn
          (min (dt.intentionB.earns dt.amountFromA feeA) heldA) who asset +
        Ledger.entry dt.intentionA.who dt.intentionA.assets.assetOut
          (min (dt.intentionA.earns dt.amountFromB feeB) heldB) who asset) := by
  intro heldA heldB
  obtain ⟨_, _, known', rfl, reserved, -⟩ := prepare_true ready
  obtain ⟨rfl, rfl⟩ := Prod.mk.inj (Option.some.inj (known.symm.trans known'))
  have distinct := opposed.distinct
  have inReserve : prepared.ledger.reserved dt.intentionA.who dt.intentionA.assets.assetIn =
      heldA := by
    rw [reserved, Ledger.credit_apply, if_neg fun here => distinct here.2, Ledger.credit_apply,
      if_pos ⟨rfl, rfl⟩]
  have inReserve' : prepared.ledger.reserved dt.intentionB.who dt.intentionA.assets.assetOut =
      heldB := by
    rw [reserved, Ledger.credit_apply, if_pos ⟨rfl, rfl⟩, Ledger.credit_apply,
      if_neg fun here => distinct here.2.symm]
  obtain ⟨left, gained⟩ := Ledger.settle_any ((dt.payments pool feeA feeB).map Transfer.payment)
    after.ledger who asset
  rw [drawn_payments opposed.sold known] at left
  rw [received_capped opposed _ _ notPool, kept, inReserve, inReserve'] at gained
  unfold State.owns Ledger.totalBalance
  rw [ledger_execute, unpaid, List.nil_append, left, gained, kept]
  unfold Ledger.entry
  -- each reserve is charged by one party
  by_cases isA : who = dt.intentionA.who ∧ asset = dt.intentionA.assets.assetIn
  · have notB : ¬ (who = dt.intentionB.who ∧ asset = dt.intentionA.assets.assetOut) :=
      fun here => distinct (isA.2.symm.trans here.2)
    rw [if_pos isA, if_pos isA, if_neg notB, if_neg notB, isA.1, isA.2, inReserve]
    omega
  · by_cases isB : who = dt.intentionB.who ∧ asset = dt.intentionA.assets.assetOut
    · rw [if_neg isA, if_neg isA, if_pos isB, if_pos isB, isB.1, isB.2, inReserve']
      omega
    · rw [if_neg isA, if_neg isA, if_neg isB, if_neg isB]
      omega

end Payments

/-- The free balances after a preparation. -/
theorem free_prepared {dt : DirectTradeData} {prepared : State} {fees : ℕ × ℕ}
    (known : (tradeOf main matched).fees cfg = some fees)
    (ready : (tradeOf main matched).prepare cfg s pool = (prepared, dt, true)) :
    prepared.ledger.free = Visit.leftFree ⟨pool, s, intention, main, matched⟩ fees := by
  obtain ⟨_, _, known', -, reserved, totals⟩ := DirectTradeData.prepare_true ready
  obtain rfl := Option.some.inj (known.symm.trans known')
  funext who asset
  have total := totals who asset
  rw [tradeOf_intentionA, tradeOf_intentionB] at reserved
  unfold Ledger.totalBalance at total
  rw [reserved] at total
  unfold Visit.leftFree Ledger.entry
  simp only [Ledger.credit_apply] at total ⊢
  split_ifs at total ⊢ <;> omega

/-- The pool executes the rest of a matched intention exactly if it can be paid for from what the
reservations leave. -/
theorem executes_rest_iff {dt : DirectTradeData} {prepared : State} {transfer : Xyk.AMMTransfer}
    {fees : ℕ × ℕ} (opposed : Opposed main matched)
    (known : (tradeOf main matched).fees cfg = some fees)
    (ready : (tradeOf main matched).prepare cfg s pool = (prepared, dt, true))
    (valid : validateRest cfg s main matched (matched.amountIn - main.amountOut)
      (matched.amountOut - main.amountIn) = .ok transfer) (intention : Intention) :
    (∃ after, executeAmmTransfer cfg prepared matched.sellOrBuy matched.intentionId transfer =
      .ok after) ↔ Affordable cfg (Visit.leftFree ⟨pool, s, intention, main, matched⟩ fees)
        matched.sellOrBuy transfer := by
  have distinct : (restOf main matched).assets.assetIn ≠ (restOf main matched).assets.assetOut := by
    show matched.assets.assetIn ≠ matched.assets.assetOut
    rw [opposed.sold, opposed.bought]
    exact opposed.distinct.symm
  rw [validateRest_eq] at valid
  rw [← free_prepared known ready]
  exact executes_iff distinct valid prepared matched.intentionId

theorem rest_of_part {transfer : Xyk.AMMTransfer} (part : main.amountIn < matched.amountOut)
    (valid : validateRest cfg s main matched (matched.amountIn - main.amountOut)
      (matched.amountOut - main.amountIn) = .ok transfer) :
    Visit.rest cfg ⟨pool, s, intention, main, matched⟩ = some transfer := by
  rw [validateRest_eq] at valid
  rw [Visit.rest, if_pos part, valid]
  rfl

/-- What the direct trade of a turn does, once the pool has done its part. -/
theorem owns_execute {dt : DirectTradeData} {prepared after : State} {fees : ℕ × ℕ}
    (opposed : Opposed main matched) (known : (tradeOf main matched).fees cfg = some fees)
    (ready : (tradeOf main matched).prepare cfg s pool = (prepared, dt, true))
    (kept : after.ledger.reserved = prepared.ledger.reserved) (who : AccountId)
    (notPool : who ≠ pool) (asset : AssetId) (intention : Intention) :
    ((dt.execute after).owns who asset : ℤ) = after.owns who asset +
      Visit.directChange ⟨pool, s, intention, main, matched⟩ fees who asset := by
  have sides : Opposed (tradeOf main matched).intentionA (tradeOf main matched).intentionB := by
    rwa [tradeOf_intentionA, tradeOf_intentionB]
  have balance := DirectTradeData.owns_execute sides (tradeOf_transfers main matched) known ready
    kept who notPool asset
  simp only [tradeOf_intentionA, tradeOf_intentionB] at balance
  unfold Visit.directChange Visit.mainPays Visit.mainGets Visit.matchedPays Visit.matchedGets
    Visit.heldA Visit.heldB
  dsimp only
  omega

theorem owns_unprepared {dt dt' : DirectTradeData}
    (failed : dt.prepare cfg s pool = (t, dt', false)) (who : AccountId) (asset : AssetId) :
    t.owns who asset = s.owns who asset := by
  have outcome := dt.preparation cfg pool s
  rw [failed] at outcome
  cases outcome with
  | shortA => rfl
  | shortB => rfl
  | noFees => rfl
  | refusedA => rfl
  | refusedB _ _ _ reservedA _ => exact Ledger.totalBalance_reserve reservedA _ _

/-- How a turn ends, told from the amounts and balances it begins with: nobody owns anything
else and the main intention stays as it was, or both parties trade. -/
inductive Outcome (cfg : Config) (visit : Visit) (t : State) (left : Intention) : Prop
  | passed (untraded : visit.traded cfg = none) (same : left = visit.main)
      (owned : ∀ who asset, t.owns who asset = visit.state.owns who asset)
  | dealt {fees : ℕ × ℕ} (traded : visit.traded cfg = some fees)
      (leaves : Leaves cfg visit.main visit.matched left)
      (owned : ∀ key asset, (t.owns (.signer key) asset : ℤ) =
        visit.state.owns (.signer key) asset +
          ((visit.rest cfg).elim 0
            (poolChange cfg visit.matched.sellOrBuy · (.signer key) asset) +
          visit.directChange fees (.signer key) asset))

theorem Turn.outcome (opposed : Opposed main matched)
    (notPool : ∀ key, AccountId.signer key ≠ pool)
    (turn : Turn cfg pool intention s main matched t left) :
    Outcome cfg ⟨pool, s, intention, main, matched⟩ t left := by
  cases turn with
  | refused refusing =>
      refine .passed ?_ rfl fun _ _ => rfl
      rw [Visit.traded, prepared_of_refused refusing, Option.filter_none]
  | unprepared allowed failed =>
      refine .passed ?_ rfl (owns_unprepared failed)
      rw [Visit.traded, prepared_of_failed opposed failed, Option.filter_none]
  | @poolFailed prepared dt transfer error allowed ready failed part valid =>
      obtain ⟨feeA, feeB, known, -, -, totals⟩ := DirectTradeData.prepare_true ready
      have unaffordable := executes_rest_iff opposed known ready valid intention
      rw [failed] at unaffordable
      refine .passed ?_ rfl fun who asset => ?_
      · rw [Visit.traded, prepared_of_ready opposed allowed ready, known, rest_of_part part valid,
          Option.filter_some, if_neg (by simp [← unaffordable])]
      · have released := (Ledger.release_any (dt.transfers.map Transfer.payment) prepared.ledger
          who asset).2
        unfold State.owns
        rw [DirectTradeData.ledger_revert]
        exact released.trans (totals _ _)
  | @traded prepared after dt left allowed ready poolPart leaves =>
      obtain ⟨feeA, feeB, known, -, -, totals⟩ := DirectTradeData.prepare_true ready
      have direct := fun key asset => owns_execute opposed known ready poolPart.reserved
        (.signer key) (notPool key) asset intention
      have same : ∀ who asset, prepared.owns who asset = s.owns who asset := totals
      have attempted := (prepared_of_ready opposed allowed ready).trans known
      unfold PoolPart at poolPart
      split_ifs at poolPart with part
      · obtain ⟨transfer, valid, executed⟩ := poolPart
        have affordable :=
          (executes_rest_iff opposed known ready valid intention).mp ⟨after, executed⟩
        have rest : Visit.rest cfg ⟨pool, s, intention, main, matched⟩ = some transfer :=
          rest_of_part part valid
        have trades : Visit.traded cfg ⟨pool, s, intention, main, matched⟩ =
            some (feeA, feeB) := by
          rw [Visit.traded, attempted, rest, Option.filter_some,
            if_pos (by simpa using affordable)]
        refine .dealt trades leaves fun key asset => ?_
        rw [direct, owns_executeAmmTransfer executed, same, rest, Option.elim_some, add_assoc]
      · have rest : Visit.rest cfg ⟨pool, s, intention, main, matched⟩ = none := if_neg part
        have trades : Visit.traded cfg ⟨pool, s, intention, main, matched⟩ =
            some (feeA, feeB) := by
          rw [Visit.traded, attempted, rest, Option.filter_some, if_pos (by simp)]
        refine .dealt trades leaves fun key asset => ?_
        rw [direct, poolPart, same, rest, Option.elim_none, zero_add]

/-- What a turn does to what a signer owns. -/
theorem Turn.owns (opposed : Opposed main matched) (notPool : ∀ key, AccountId.signer key ≠ pool)
    (turn : Turn cfg pool intention s main matched t left) (key : ℕ) (asset : AssetId) :
    (t.owns (.signer key) asset : ℤ) = s.owns (.signer key) asset +
      Visit.change cfg ⟨pool, s, intention, main, matched⟩ (.signer key) asset := by
  unfold Visit.change
  cases turn.outcome opposed notPool with
  | passed untraded _ owned =>
      rw [untraded, owned, Option.elim_none, add_zero]
  | dealt traded _ owned =>
      rw [traded, owned, Option.elim_some]

end Direct

section Finalization

variable {order : List (AssetId × AssetId)}

/-- What one handing hands to the pool alone, with the state it does so in: a single intention,
or what the group leaves of a main one. -/
def Handing.offers (cfg : Config) (event : State × Handing) : List (State × Intention) :=
  match event.2.dispatch with
  | .rejected _ => []
  | .matched main group =>
      match group.foldlM (resolveMatched cfg event.2.pool main) (event.1, main) with
      | .ok (after, left) => if 0 < left.amountIn then [(after, left)] else []
      | .error _ => []
  | .single intention => [(event.1, intention)]

/-- What one handing brings to an account. -/
def Handing.change (cfg : Config) (event : State × Handing) (who : AccountId) (asset : AssetId) :
    ℤ :=
  ((Handing.visits cfg event).map (Visit.change cfg · who asset)).sum +
    ((Handing.offers cfg event).map (offerChange cfg · who asset)).sum

/-- What a finalization brings to an account: the sum over its turns and over what is handed to
the pool. -/
def change (cfg : Config) (s : State) (order : List (AssetId × AssetId)) (who : AccountId)
    (asset : AssetId) : ℤ :=
  ((handings cfg s order).map (Handing.change cfg · who asset)).sum

theorem Turns.owns {group : List Intention}
    (opposed : ∀ matched ∈ group, Opposed main matched)
    (notPool : ∀ key, AccountId.signer key ≠ pool)
    (turns : Turns cfg pool intention s main group t left) (key : ℕ) (asset : AssetId) :
    (t.owns (.signer key) asset : ℤ) = s.owns (.signer key) asset +
      ((groupVisits cfg pool intention s main group).map
        (Visit.change cfg · (.signer key) asset)).sum := by
  induction turns with
  | done => exact (add_zero _).symm
  | @next s after t main rest left matched group resolved _ ih =>
      have turn := resolveMatched_ok resolved
      rw [List.forall_mem_cons] at opposed
      rw [ih fun other listed => (opposed.2 other listed).of_same turn.same,
        turn.owns opposed.1 notPool, groupVisits_cons resolved, List.map_cons, List.sum_cons,
        add_assoc]

/-- One step of a finalization. -/
theorem Handing.Step.owns {handing : Handing}
    (distinct : ∀ x ∈ handing.intentions, x.assets.assetIn ≠ x.assets.assetOut)
    (facing : ∀ main group, handing.dispatch = .matched main group →
      ∀ matched ∈ group, Opposed main matched)
    (taken : Handing.Step cfg s handing t) (key : ℕ) (asset : AssetId) :
    (t.owns (.signer key) asset : ℤ) =
      s.owns (.signer key) asset + Handing.change cfg (s, handing) (.signer key) asset := by
  unfold Handing.Step at taken
  unfold Handing.change Handing.visits Handing.offers
  unfold Handing.intentions at distinct
  split at taken
  · next rejected =>
      obtain ⟨error, -, rfl⟩ := taken
      simp [rejected, State.owns]
  · next main group dispatched =>
      simp only [dispatched, Dispatch.mains, Dispatch.others, List.singleton_append,
        List.forall_mem_cons] at distinct ⊢
      obtain ⟨-, resolved⟩ := taken
      simp only [resolveMatchedIntentions, bind_eq_ok, return_eq_ok] at resolved
      obtain ⟨⟨after, left⟩, looped, rfl⟩ := resolved
      have turns := turns_of_foldlM looped
      have notPool : ∀ key, AccountId.signer key ≠ handing.pool :=
        fun key => (Xyk.getPairId_ne_signer _ key).symm
      have traded := turns.owns (facing main group dispatched) notPool key asset
      rw [looped]
      dsimp only
      split_ifs
      · have apart : left.assets.assetIn ≠ left.assets.assetOut := turns.same.assets ▸ distinct.1
        rw [owns_resolveSingleIntention apart, traded, List.map_singleton, List.sum_singleton]
        ring
      · rw [traded, List.map_nil, List.sum_nil, add_zero]
  · next x single =>
      simp only [single, Dispatch.mains, Dispatch.others, List.nil_append,
        List.forall_mem_singleton] at distinct ⊢
      rw [taken, owns_resolveSingleIntention distinct]
      simp

/-- What a signer owns after a finalization. -/
theorem owns_of_finalize (inv : Registered cfg s) (iterates : s.IterationOrder order)
    (finalized : onFinalize cfg s order = .ok t) (key : ℕ) (asset : AssetId) :
    (t.owns (.signer key) asset : ℤ) =
      s.owns (.signer key) asset + change cfg s order (.signer key) asset := by
  obtain ⟨last, run, once, -, rfl⟩ := onFinalize_ok inv iterates finalized
  obtain ⟨-, registered⟩ := inv.handed_once iterates once
  have orderly : Guarded (fun _ handing =>
      (∀ x ∈ handing.intentions, x.assets.assetIn ≠ x.assets.assetOut) ∧
      ∀ main group, handing.dispatch = .matched main group →
        ∀ matched ∈ group, Opposed main matched) (handings cfg s order).reverse := by
    rintro ⟨state, handing⟩ listed
    rw [List.mem_reverse] at listed
    refine ⟨fun x found => ?_, fun main group dispatched =>
      (inv.opposed listed main group dispatched).2⟩
    obtain ⟨queue, waiting⟩ := (registered x).mp (List.mem_flatMap.mpr ⟨_, listed, found⟩)
    have known := inv.queued queue x waiting
    rw [known.assets]
    exact known.distinct
  have owned := run.history_invariant
    (fun past t => (t.owns (.signer key) asset : ℤ) = s.owns (.signer key) asset +
      (past.reverse.map (Handing.change cfg · (.signer key) asset)).sum)
    (by rintro _ rfl; simp)
    (by
      intro past t handing u _ owned met taken
      rw [taken.owns met.1 met.2, owned, List.reverse_cons, List.map_append, List.sum_append,
        List.map_singleton, List.sum_singleton, add_assoc])
    orderly
  rw [List.reverse_reverse] at owned
  exact owned

end Finalization

end Basilisk.Exchange
