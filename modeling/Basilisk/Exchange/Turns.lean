/-
# What one turn of the resolver does

The three scenarios of the resolver differ in the amounts they trade, in what
they refuse beforehand and in what they leave of the main intention; the attempt
itself is the same.  This module reads a turn back as one of four outcomes:
refused with an error event, not prepared, prepared but given up because the pool
refused the rest, or traded.  Everything later is proved from these outcomes.
-/

import Basilisk.Exchange.Model
import Basilisk.Math.Escrow
import Basilisk.Xyk.Calls

namespace Basilisk.Exchange

open Basilisk.Math

variable {cfg : Config} {s t : State} {pool : AccountId}

section Views

variable (s)

@[simp]
theorem State.ledger_setLedger (ledger : Currencies) : (s.setLedger ledger).ledger = ledger := rfl

@[simp]
theorem State.ledger_sendIntentionErrorEvent (intention : Intention) (error : ErrorDetail) :
    (s.sendIntentionErrorEvent intention error).ledger = s.ledger := rfl

@[simp]
theorem State.setLedger_setLedger (ledger ledger' : Currencies) :
    (s.setLedger ledger).setLedger ledger' = s.setLedger ledger' := rfl

end Views

/-- The direct trade between what is left of a main intention and a matched one. -/
def tradeOf (main matched : Intention) : DirectTradeData :=
  if matched.amountOut < main.amountIn then
    ⟨main, matched, matched.amountOut, matched.amountIn, []⟩
  else if main.amountIn < matched.amountOut then
    ⟨main, matched, main.amountIn, main.amountOut, []⟩
  else ⟨main, matched, main.amountIn, matched.amountIn, []⟩

section TradeOf

variable (main matched : Intention)

@[simp]
theorem tradeOf_intentionA : (tradeOf main matched).intentionA = main := by
  unfold tradeOf
  split_ifs <;> rfl

@[simp]
theorem tradeOf_intentionB : (tradeOf main matched).intentionB = matched := by
  unfold tradeOf
  split_ifs <;> rfl

@[simp]
theorem tradeOf_transfers : (tradeOf main matched).transfers = [] := by
  unfold tradeOf
  split_ifs <;> rfl

end TradeOf

/-- What the resolver refuses before it attempts a direct trade: the intention the
error event names, and the error. -/
def refusal (cfg : Config) (s : State) (intention main matched : Intention) :
    Option (Intention × ErrorDetail) :=
  if matched.amountOut < main.amountIn then
    (limitError matched matched.amountOut matched.amountIn).map (matched, .exchange ·)
  else if main.amountIn < matched.amountOut then
    match validateRest cfg s main matched (matched.amountIn - main.amountOut)
      (matched.amountOut - main.amountIn) with
    | .error error => some (matched, .amm error)
    | .ok _ => none
  else
    match limitError intention matched.amountIn main.amountIn with
    | some error => some (intention, .exchange error)
    | none => (limitError matched main.amountIn matched.amountIn).map (matched, .exchange ·)

/-- What the pool trades of a matched intention before the direct trade of the
rest is executed. -/
def PoolPart (cfg : Config) (s : State) (main matched : Intention) (prepared after : State) :
    Prop :=
  if main.amountIn < matched.amountOut then
    ∃ transfer, validateRest cfg s main matched (matched.amountIn - main.amountOut)
        (matched.amountOut - main.amountIn) = .ok transfer ∧
      executeAmmTransfer cfg prepared matched.sellOrBuy matched.intentionId transfer = .ok after
  else after = prepared

/-- What a direct trade leaves of the main intention. -/
def Leaves (cfg : Config) (main matched left : Intention) : Prop :=
  if matched.amountOut < main.amountIn then
    ∃ limit, matched.amountIn ≤ main.amountOut ∧ restLimit cfg main matched = .ok limit ∧
      left = { main with
        amountIn := main.amountIn - matched.amountOut
        amountOut := main.amountOut - matched.amountIn
        tradeLimit := limit }
  else left = { main with amountIn := 0 }

section Parts

variable {main matched : Intention}

theorem poolPart_refl (direct : ¬ main.amountIn < matched.amountOut) (prepared : State) :
    PoolPart cfg s main matched prepared prepared := by
  rw [PoolPart, if_neg direct]

theorem leaves_nothing (consumed : ¬ matched.amountOut < main.amountIn) :
    Leaves cfg main matched { main with amountIn := 0 } := by
  rw [Leaves, if_neg consumed]

end Parts

/-- The outcomes of one turn. -/
inductive Turn (cfg : Config) (pool : AccountId) (intention : Intention) (s : State)
    (main matched : Intention) : State → Intention → Prop
  | refused {named : Intention} {error : ErrorDetail}
      (refusing : refusal cfg s intention main matched = some (named, error)) :
      Turn cfg pool intention s main matched (s.sendIntentionErrorEvent named error) main
  | unprepared {after : State} {dt : DirectTradeData}
      (allowed : refusal cfg s intention main matched = none)
      (failed : (tradeOf main matched).prepare cfg s pool = (after, dt, false)) :
      Turn cfg pool intention s main matched after main
  | poolFailed {prepared : State} {dt : DirectTradeData} {transfer : Xyk.AMMTransfer}
      {error : Xyk.Error} (allowed : refusal cfg s intention main matched = none)
      (ready : (tradeOf main matched).prepare cfg s pool = (prepared, dt, true))
      (failed : executeAmmTransfer cfg prepared matched.sellOrBuy matched.intentionId
        transfer = .error error)
      (part : main.amountIn < matched.amountOut)
      (valid : validateRest cfg s main matched (matched.amountIn - main.amountOut)
        (matched.amountOut - main.amountIn) = .ok transfer) :
      Turn cfg pool intention s main matched
        (dt.revert (prepared.sendIntentionErrorEvent matched (.amm error))) main
  | traded {prepared after : State} {dt : DirectTradeData} {left : Intention}
      (allowed : refusal cfg s intention main matched = none)
      (ready : (tradeOf main matched).prepare cfg s pool = (prepared, dt, true))
      (poolPart : PoolPart cfg s main matched prepared after)
      (leaves : Leaves cfg main matched left) :
      Turn cfg pool intention s main matched (dt.execute after) left

section Preparation

variable {dt dt' : DirectTradeData}

/-- The fees of a direct trade, unless they cannot be computed or exceed the
amounts. -/
def DirectTradeData.fees (cfg : Config) (dt : DirectTradeData) : Option (ℕ × ℕ) :=
  match cfg.amm.math.calculatePoolTradeFee dt.amountFromA cfg.amm.getExchangeFee,
    cfg.amm.math.calculatePoolTradeFee dt.amountFromB cfg.amm.getExchangeFee with
  | some feeA, some feeB =>
      if dt.amountFromA < feeA ∨ dt.amountFromB < feeB then none else some (feeA, feeB)
  | _, _ => none

/-- What a party has to reserve: a buyer pays the fee on top. -/
def toReserve (intention : Intention) (amount fee : ℕ) : ℕ :=
  match intention.sellOrBuy with
  | .sell => amount
  | .buy => wrappingAdd u128Bound amount fee

/-- The payments of a prepared trade. -/
def DirectTradeData.payments (dt : DirectTradeData) (pool : AccountId) (feeA feeB : ℕ) :
    List Transfer :=
  let a := dt.intentionA
  let b := dt.intentionB
  match a.sellOrBuy, b.sellOrBuy with
  | .sell, .sell =>
      [⟨a.who, b.who, a.assets.assetIn, dt.amountFromA - feeA, false⟩,
        ⟨b.who, a.who, a.assets.assetOut, dt.amountFromB - feeB, false⟩,
        ⟨a.who, pool, a.assets.assetIn, feeA, true⟩,
        ⟨b.who, pool, b.assets.assetIn, feeB, true⟩]
  | .buy, .buy =>
      [⟨a.who, b.who, a.assets.assetIn, dt.amountFromA, false⟩,
        ⟨b.who, a.who, a.assets.assetOut, dt.amountFromB, false⟩,
        ⟨a.who, pool, a.assets.assetIn, feeA, true⟩,
        ⟨b.who, pool, b.assets.assetIn, feeB, true⟩]
  | .buy, .sell =>
      [⟨a.who, b.who, a.assets.assetIn, dt.amountFromA - feeA, false⟩,
        ⟨b.who, a.who, a.assets.assetOut, dt.amountFromB, false⟩,
        ⟨a.who, pool, a.assets.assetIn, wrappingMul u128Bound 2 feeA, true⟩]
  | .sell, .buy =>
      [⟨a.who, b.who, a.assets.assetIn, dt.amountFromA, false⟩,
        ⟨b.who, a.who, a.assets.assetOut, dt.amountFromB - feeB, false⟩,
        ⟨b.who, pool, b.assets.assetIn, wrappingMul u128Bound 2 feeB, true⟩]

/-- The four combinations reserve and pay by the same rule. -/
theorem DirectTradeData.prepare_eq :
    dt.prepare cfg s pool =
      if s.ledger.free dt.intentionA.who dt.intentionA.assets.assetIn < dt.amountFromA then
        (s.sendInsufficientBalanceEvent dt.intentionA dt.intentionA.assets.assetIn, dt, false)
      else if s.ledger.free dt.intentionB.who dt.intentionA.assets.assetOut <
          dt.amountFromB then
        (s.sendInsufficientBalanceEvent dt.intentionB dt.intentionA.assets.assetOut, dt, false)
      else match dt.fees cfg with
        | none => (s, dt, false)
        | some (feeA, feeB) =>
            dt.reserveBoth s (toReserve dt.intentionA dt.amountFromA feeA)
              (toReserve dt.intentionB dt.amountFromB feeB) (dt.payments pool feeA feeB) := by
  unfold prepare fees
  dsimp only
  split_ifs with lackingA lackingB
  · rfl
  · rfl
  · cases cfg.amm.math.calculatePoolTradeFee dt.amountFromA cfg.amm.getExchangeFee with
    | none => rfl
    | some feeA =>
        cases cfg.amm.math.calculatePoolTradeFee dt.amountFromB cfg.amm.getExchangeFee with
        | none => rfl
        | some feeB =>
            dsimp only
            split_ifs
            · rfl
            · cases kindA : dt.intentionA.sellOrBuy <;> cases kindB : dt.intentionB.sellOrBuy <;>
                simp only [toReserve, payments, kindA, kindB]

/-- How a preparation ends. -/
inductive Preparation (cfg : Config) (pool : AccountId) (s : State) (dt : DirectTradeData) :
    State × DirectTradeData × Bool → Prop
  | shortA (lacking : s.ledger.free dt.intentionA.who dt.intentionA.assets.assetIn <
        dt.amountFromA) :
      Preparation cfg pool s dt
        (s.sendInsufficientBalanceEvent dt.intentionA dt.intentionA.assets.assetIn, dt, false)
  | shortB (covered : dt.amountFromA ≤
        s.ledger.free dt.intentionA.who dt.intentionA.assets.assetIn)
      (lacking : s.ledger.free dt.intentionB.who dt.intentionA.assets.assetOut <
        dt.amountFromB) :
      Preparation cfg pool s dt
        (s.sendInsufficientBalanceEvent dt.intentionB dt.intentionA.assets.assetOut, dt, false)
  | noFees (covered : dt.amountFromB ≤
        s.ledger.free dt.intentionB.who dt.intentionA.assets.assetOut)
      (unknown : dt.fees cfg = none) : Preparation cfg pool s dt (s, dt, false)
  | refusedA {feeA feeB : ℕ} (covered : dt.amountFromB ≤
        s.ledger.free dt.intentionB.who dt.intentionA.assets.assetOut)
      (known : dt.fees cfg = some (feeA, feeB))
      (refused : s.ledger.reserve dt.intentionA.assets.assetIn dt.intentionA.who
        (toReserve dt.intentionA dt.amountFromA feeA) = none) :
      Preparation cfg pool s dt (s, dt, false)
  | refusedB {feeA feeB : ℕ} {afterA : Currencies}
      (coveredA : dt.amountFromA ≤
        s.ledger.free dt.intentionA.who dt.intentionA.assets.assetIn)
      (coveredB : dt.amountFromB ≤
        s.ledger.free dt.intentionB.who dt.intentionA.assets.assetOut)
      (known : dt.fees cfg = some (feeA, feeB))
      (reservedA : s.ledger.reserve dt.intentionA.assets.assetIn dt.intentionA.who
        (toReserve dt.intentionA dt.amountFromA feeA) = some afterA)
      (refused : afterA.reserve dt.intentionA.assets.assetOut dt.intentionB.who
        (toReserve dt.intentionB dt.amountFromB feeB) = none) :
      Preparation cfg pool s dt (s.setLedger afterA, dt, false)
  | ready {feeA feeB : ℕ} {afterA afterB : Currencies}
      (coveredA : dt.amountFromA ≤
        s.ledger.free dt.intentionA.who dt.intentionA.assets.assetIn)
      (coveredB : dt.amountFromB ≤
        s.ledger.free dt.intentionB.who dt.intentionA.assets.assetOut)
      (known : dt.fees cfg = some (feeA, feeB))
      (reservedA : s.ledger.reserve dt.intentionA.assets.assetIn dt.intentionA.who
        (toReserve dt.intentionA dt.amountFromA feeA) = some afterA)
      (reservedB : afterA.reserve dt.intentionA.assets.assetOut dt.intentionB.who
        (toReserve dt.intentionB dt.amountFromB feeB) = some afterB) :
      Preparation cfg pool s dt (s.setLedger afterB,
        { dt with transfers := dt.transfers ++ dt.payments pool feeA feeB }, true)

theorem DirectTradeData.preparation (cfg : Config) (pool : AccountId) (s : State)
    (dt : DirectTradeData) : Preparation cfg pool s dt (dt.prepare cfg s pool) := by
  rw [prepare_eq]
  split_ifs with lackingA lackingB
  · exact .shortA lackingA
  · exact .shortB (not_lt.mp lackingA) lackingB
  · split
    · next unknown => exact .noFees (not_lt.mp lackingB) unknown
    · next feeA feeB known =>
        unfold reserveBoth State.reserveIfCan
        cases reservingA : s.ledger.reserve dt.intentionA.assets.assetIn dt.intentionA.who
          (toReserve dt.intentionA dt.amountFromA feeA) with
        | none => exact .refusedA (not_lt.mp lackingB) known reservingA
        | some afterA =>
            cases reservingB : afterA.reserve dt.intentionA.assets.assetOut
              dt.intentionB.who (toReserve dt.intentionB dt.amountFromB feeB) with
            | none =>
                simp only [Option.map_some, State.ledger_setLedger, reservingB,
                  Option.map_none]
                exact .refusedB (not_lt.mp lackingA) (not_lt.mp lackingB) known reservingA
                  reservingB
            | some afterB =>
                simp only [Option.map_some, State.ledger_setLedger, reservingB,
                  State.setLedger_setLedger]
                exact .ready (not_lt.mp lackingA) (not_lt.mp lackingB) known reservingA
                  reservingB

/-- A failed preparation has recorded no payments. -/
theorem DirectTradeData.prepare_false (failed : dt.prepare cfg s pool = (t, dt', false)) :
    dt' = dt := by
  have outcome := dt.preparation cfg pool s
  rw [failed] at outcome
  cases outcome <;> rfl

/-- A successful preparation has set aside what both parties have to reserve, and recorded the
payments. -/
theorem DirectTradeData.prepare_true (ready : dt.prepare cfg s pool = (t, dt', true)) :
    ∃ feeA feeB, dt.fees cfg = some (feeA, feeB) ∧
      dt' = { dt with transfers := dt.transfers ++ dt.payments pool feeA feeB } ∧
      t.ledger.reserved =
        Ledger.credit (Ledger.credit s.ledger.reserved dt.intentionA.who
          dt.intentionA.assets.assetIn (toReserve dt.intentionA dt.amountFromA feeA))
          dt.intentionB.who dt.intentionA.assets.assetOut
          (toReserve dt.intentionB dt.amountFromB feeB) ∧
      ∀ who asset, t.ledger.totalBalance who asset = s.ledger.totalBalance who asset := by
  have outcome := dt.preparation cfg pool s
  rw [ready] at outcome
  obtain _ | _ | _ | _ | _ | ⟨-, -, known, reservedA, reservedB⟩ := outcome
  refine ⟨_, _, known, rfl, ?_, fun who asset => ?_⟩
  · rw [State.ledger_setLedger, (Ledger.reserve_eq_some_iff.mp reservedB).2,
      (Ledger.reserve_eq_some_iff.mp reservedA).2]
  · rw [State.ledger_setLedger, Ledger.totalBalance_reserve reservedB,
      Ledger.totalBalance_reserve reservedA]

end Preparation

section Turns

variable {intention main matched left : Intention}

theorem resolveWhole_ok (whole : matched.amountOut < main.amountIn)
    (resolved : resolveWhole cfg pool main matched s = .ok (t, left)) :
    Turn cfg pool intention s main matched t left := by
  have trade : tradeOf main matched =
      ⟨main, matched, matched.amountOut, matched.amountIn, []⟩ := if_pos whole
  have refusing : refusal cfg s intention main matched =
      (limitError matched matched.amountOut matched.amountIn).map (matched, .exchange ·) :=
    if_pos whole
  unfold resolveWhole at resolved
  rw [← trade] at resolved
  dsimp only at resolved
  split at resolved
  · next error limited =>
      obtain ⟨rfl, rfl⟩ := Prod.mk.inj (Except.ok.inj resolved)
      rw [trade] at limited
      apply Turn.refused
      rw [refusing, limited, Option.map_some]
  · next limited =>
      rw [trade] at limited
      have allowed : refusal cfg s intention main matched = none := by
        rw [refusing, limited, Option.map_none]
      split at resolved
      · next prepared dt ready =>
          simp only [bind_eq_ok, okOr_eq_ok, checkedSub_eq_some, return_eq_ok,
            Prod.mk.injEq] at resolved
          obtain ⟨_, ⟨enough, rfl⟩, limit, limitLeft, rfl, rfl⟩ := resolved
          have direct : ¬ main.amountIn < matched.amountOut := by omega
          refine .traded allowed ready (poolPart_refl direct _) ?_
          unfold Leaves
          rw [if_pos whole]
          exact ⟨limit, enough, limitLeft, rfl⟩
      · next after dt failed =>
          obtain ⟨rfl, rfl⟩ := Prod.mk.inj (Except.ok.inj resolved)
          obtain rfl := DirectTradeData.prepare_false failed
          rw [DirectTradeData.revert, tradeOf_transfers, List.foldl_nil]
          exact .unprepared allowed failed

theorem resolvePart_ok (part : main.amountIn < matched.amountOut)
    (resolved : resolvePart cfg pool main matched s = .ok (t, left)) :
    Turn cfg pool intention s main matched t left := by
  have consumed : ¬ matched.amountOut < main.amountIn := by omega
  have trade : tradeOf main matched = ⟨main, matched, main.amountIn, main.amountOut, []⟩ := by
    rw [tradeOf, if_neg consumed, if_pos part]
  simp only [resolvePart, ← trade, bind_eq_ok, okOr_eq_ok, checkedSub_eq_some] at resolved
  obtain ⟨_, ⟨-, rfl⟩, resolved⟩ := resolved
  split at resolved
  · next error invalid =>
      obtain ⟨rfl, rfl⟩ := Prod.mk.inj (Except.ok.inj resolved)
      apply Turn.refused
      rw [refusal, if_neg consumed, if_pos part, invalid]
  · next transfer valid =>
      have allowed : refusal cfg s intention main matched = none := by
        rw [refusal, if_neg consumed, if_pos part, valid]
      split at resolved
      · next prepared dt ready =>
          split at resolved
          · next after executed =>
              obtain ⟨rfl, rfl⟩ := Prod.mk.inj (Except.ok.inj resolved)
              refine .traded allowed ready ?_ (leaves_nothing consumed)
              unfold PoolPart
              rw [if_pos part]
              exact ⟨transfer, valid, executed⟩
          · next error failed =>
              obtain ⟨rfl, rfl⟩ := Prod.mk.inj (Except.ok.inj resolved)
              exact .poolFailed allowed ready failed part valid
      · next after dt failed =>
          obtain ⟨rfl, rfl⟩ := Prod.mk.inj (Except.ok.inj resolved)
          obtain rfl := DirectTradeData.prepare_false failed
          rw [DirectTradeData.revert, tradeOf_transfers, List.foldl_nil]
          exact .unprepared allowed failed

theorem resolveExact_turn (same : main.amountIn = matched.amountOut) :
    Turn cfg pool intention s main matched
      (resolveExact cfg pool intention main matched s).1
      (resolveExact cfg pool intention main matched s).2 := by
  have notWhole : ¬ matched.amountOut < main.amountIn := by omega
  have notPart : ¬ main.amountIn < matched.amountOut := by omega
  have trade : tradeOf main matched =
      ⟨main, matched, main.amountIn, matched.amountIn, []⟩ := by
    rw [tradeOf, if_neg notWhole, if_neg notPart]
  have refusing : refusal cfg s intention main matched =
      match limitError intention matched.amountIn main.amountIn with
      | some error => some (intention, .exchange error)
      | none =>
          (limitError matched main.amountIn matched.amountIn).map (matched, .exchange ·) := by
    rw [refusal, if_neg notWhole, if_neg notPart]
  unfold resolveExact
  rw [← trade]
  dsimp only
  split
  · next error limited =>
      rw [trade] at limited
      apply Turn.refused
      rw [refusing, limited]
  · next limited =>
      rw [trade] at limited
      rw [limited] at refusing
      dsimp only at refusing
      split
      · next error limited' =>
          rw [trade] at limited'
          apply Turn.refused
          rw [refusing, limited', Option.map_some]
      · next limited' =>
          rw [trade] at limited'
          have allowed : refusal cfg s intention main matched = none := by
            rw [refusing, limited', Option.map_none]
          split
          · next prepared dt ready =>
              exact .traded allowed ready (poolPart_refl notPart _) (leaves_nothing notWhole)
          · next after dt failed =>
              obtain rfl := DirectTradeData.prepare_false failed
              rw [DirectTradeData.revert, tradeOf_transfers, List.foldl_nil]
              exact .unprepared allowed failed

/-- One turn of the loop. -/
theorem resolveMatched_ok
    (resolved : resolveMatched cfg pool intention (s, main) matched = .ok (t, left)) :
    Turn cfg pool intention s main matched t left := by
  unfold resolveMatched at resolved
  dsimp only at resolved
  split_ifs at resolved with whole part
  · exact resolveWhole_ok whole resolved
  · exact resolvePart_ok part resolved
  · have same : main.amountIn = matched.amountOut := by omega
    obtain ⟨rfl, rfl⟩ := Prod.mk.inj (Except.ok.inj resolved)
    exact resolveExact_turn same

/-- The same intention, up to its amounts and limit. -/
structure Intention.Same (x y : Intention) : Prop where
  who : y.who = x.who
  assets : y.assets = x.assets
  discount : y.discount = x.discount
  sellOrBuy : y.sellOrBuy = x.sellOrBuy
  intentionId : y.intentionId = x.intentionId

theorem Intention.Same.refl (x : Intention) : x.Same x := ⟨rfl, rfl, rfl, rfl, rfl⟩

theorem Intention.Same.trans {x y z : Intention} (first : x.Same y) (second : y.Same z) :
    x.Same z :=
  ⟨second.who.trans first.who, second.assets.trans first.assets,
    second.discount.trans first.discount, second.sellOrBuy.trans first.sellOrBuy,
    second.intentionId.trans first.intentionId⟩

theorem Leaves.same (leaves : Leaves cfg main matched left) : main.Same left := by
  unfold Leaves at leaves
  split_ifs at leaves
  · obtain ⟨_, -, -, rfl⟩ := leaves
    exact ⟨rfl, rfl, rfl, rfl, rfl⟩
  · subst leaves
    exact ⟨rfl, rfl, rfl, rfl, rfl⟩

/-- A turn changes nothing but the amounts and the limit of the main intention. -/
theorem Turn.same (turn : Turn cfg pool intention s main matched t left) : main.Same left := by
  cases turn with
  | refused => exact .refl main
  | unprepared => exact .refl main
  | poolFailed => exact .refl main
  | traded _ _ _ leaves => exact leaves.same

/-- The turns of a loop over a group. -/
inductive Turns (cfg : Config) (pool : AccountId) (intention : Intention) :
    State → Intention → List Intention → State → Intention → Prop
  | done {s : State} {main : Intention} : Turns cfg pool intention s main [] s main
  | next {s after t : State} {main rest left matched : Intention} {group : List Intention}
      (resolved : resolveMatched cfg pool intention (s, main) matched = .ok (after, rest))
      (others : Turns cfg pool intention after rest group t left) :
      Turns cfg pool intention s main (matched :: group) t left

theorem turns_of_foldlM {group : List Intention}
    (looped : group.foldlM (resolveMatched cfg pool intention) (s, main) = .ok (t, left)) :
    Turns cfg pool intention s main group t left := by
  induction group generalizing s main with
  | nil =>
      obtain ⟨rfl, rfl⟩ : s = t ∧ main = left := by simpa using looped
      exact .done
  | cons matched group ih =>
      rw [List.foldlM_cons, bind_eq_ok] at looped
      obtain ⟨⟨after, rest⟩, resolved, looped⟩ := looped
      exact .next resolved (ih looped)

theorem Turns.same {group : List Intention}
    (turns : Turns cfg pool intention s main group t left) : main.Same left := by
  induction turns with
  | done => exact .refl _
  | next resolved _ ih => exact (resolveMatched_ok resolved).same.trans ih

/-- A resolved group: all its turns, and then the pool for what is left of the main
intention. -/
theorem resolveMatchedIntentions_ok {group : List Intention}
    (resolved : resolveMatchedIntentions cfg pool s intention group = .ok t) :
    ∃ after left, Turns cfg pool intention s intention group after left ∧
      t = if 0 < left.amountIn then resolveSingleIntention cfg after left else after := by
  simp only [resolveMatchedIntentions, bind_eq_ok, return_eq_ok] at resolved
  obtain ⟨⟨after, left⟩, looped, rfl⟩ := resolved
  exact ⟨after, left, turns_of_foldlM looped, rfl⟩

end Turns

end Basilisk.Exchange
