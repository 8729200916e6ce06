/-
# Settlement of a direct trade

The four combinations of sales and purchases reserve and split amounts
differently, but settle by one rule: a seller pays the gross amount and gets the
other side's less the fee on it, a buyer pays the fee on top and gets the other
side's gross amount, and the pool gets the difference.  The rule holds as long as
no sum of an amount and its fee leaves the machine word; the sums are not checked,
and a buyer whose sum wraps reserves too little.
-/

import Basilisk.Exchange.Reserves

namespace Basilisk.Exchange

open Basilisk.Math

variable {cfg : Config} {s : State} {pool : AccountId}

/-- What a party pays: a buyer pays the fee on top of the gross amount. -/
def Intention.owes (x : Intention) (amount fee : ℕ) : ℕ :=
  match x.sellOrBuy with
  | .sell => amount
  | .buy => amount + fee

/-- What a party gets of the other side's gross amount: a seller gets the fee less. -/
def Intention.earns (x : Intention) (amount fee : ℕ) : ℕ :=
  match x.sellOrBuy with
  | .sell => amount - fee
  | .buy => amount

theorem Intention.earns_le_owes (x y : Intention) (amount fee : ℕ) :
    x.earns amount fee ≤ y.owes amount fee := by
  unfold earns owes
  cases x.sellOrBuy <;> cases y.sellOrBuy <;> dsimp only <;> omega

namespace DirectTradeData

/-- The trade is settled between two ledgers. -/
structure Settled (dt : DirectTradeData) (pool : AccountId) (feeA feeB : ℕ)
    (before after : Currencies) : Prop where
  reserved : after.reserved = before.reserved
  paidA : after.free dt.intentionA.who dt.intentionA.assets.assetIn +
      dt.intentionA.owes dt.amountFromA feeA =
    before.free dt.intentionA.who dt.intentionA.assets.assetIn
  gotA : after.free dt.intentionA.who dt.intentionA.assets.assetOut =
    before.free dt.intentionA.who dt.intentionA.assets.assetOut +
      dt.intentionA.earns dt.amountFromB feeB
  paidB : after.free dt.intentionB.who dt.intentionB.assets.assetIn +
      dt.intentionB.owes dt.amountFromB feeB =
    before.free dt.intentionB.who dt.intentionB.assets.assetIn
  gotB : after.free dt.intentionB.who dt.intentionB.assets.assetOut =
    before.free dt.intentionB.who dt.intentionB.assets.assetOut +
      dt.intentionB.earns dt.amountFromA feeA
  /-- What A pays over what B gets. -/
  poolA : after.free pool dt.intentionA.assets.assetIn +
      dt.intentionB.earns dt.amountFromA feeA =
    before.free pool dt.intentionA.assets.assetIn + dt.intentionA.owes dt.amountFromA feeA
  /-- What B pays over what A gets. -/
  poolB : after.free pool dt.intentionB.assets.assetIn +
      dt.intentionA.earns dt.amountFromB feeB =
    before.free pool dt.intentionB.assets.assetIn + dt.intentionB.owes dt.amountFromB feeB
  totals : ∀ asset,
    after.totalBalance dt.intentionA.who asset + after.totalBalance dt.intentionB.who asset +
        after.totalBalance pool asset =
      before.totalBalance dt.intentionA.who asset +
        before.totalBalance dt.intentionB.who asset + before.totalBalance pool asset

section Payments

variable {dt dt' : DirectTradeData} {feeA feeB : ℕ} {prepared : State}

theorem fees_known (known : dt.fees cfg = some (feeA, feeB)) :
    cfg.amm.math.calculatePoolTradeFee dt.amountFromA cfg.amm.getExchangeFee = some feeA ∧
      cfg.amm.math.calculatePoolTradeFee dt.amountFromB cfg.amm.getExchangeFee = some feeB := by
  unfold fees at known
  split at known
  · next knownA knownB =>
      split_ifs at known
      obtain ⟨rfl, rfl⟩ := Prod.mk.inj (Option.some.inj known)
      exact ⟨knownA, knownB⟩
  · cases known

/-- What a party has to reserve is what it owes, unless the sum wraps. -/
theorem toReserve_eq_owes {x : Intention} {amount fee : ℕ}
    (fits : x.sellOrBuy = .buy → amount + fee < u128Bound) :
    toReserve x amount fee = x.owes amount fee := by
  unfold toReserve Intention.owes
  cases kind : x.sellOrBuy with
  | sell => rfl
  | buy => exact Nat.mod_eq_of_lt (fits kind)

/-- The payments of a prepared trade then draw what the parties owe. -/
theorem drawn_eq_owes (sold : dt.intentionB.assets.assetIn = dt.intentionA.assets.assetOut)
    (known : dt.fees cfg = some (feeA, feeB)) (fit : dt.SumsFit cfg) (who : AccountId)
    (asset : AssetId) :
    drawn ((dt.payments pool feeA feeB).map Transfer.payment) who asset =
      Ledger.entry dt.intentionA.who dt.intentionA.assets.assetIn
        (dt.intentionA.owes dt.amountFromA feeA) who asset +
      Ledger.entry dt.intentionB.who dt.intentionA.assets.assetOut
        (dt.intentionB.owes dt.amountFromB feeB) who asset := by
  obtain ⟨lessA, lessB⟩ := fees_le known
  obtain ⟨fitA, fitB⟩ := fit _ known
  rw [drawn_payments sold known, charged_eq_toReserve _ _ lessA fitA,
    charged_eq_toReserve _ _ lessB fitB, toReserve_eq_owes fitA, toReserve_eq_owes fitB]

/-- The doubled fee of the mixed cases is bounded by the checked sum. -/
theorem double_fees (known : dt.fees cfg = some (feeA, feeB)) (fit : dt.SumsFit cfg) :
    (dt.intentionA.sellOrBuy = .buy → wrappingMul u128Bound 2 feeA = 2 * feeA) ∧
    (dt.intentionB.sellOrBuy = .buy → wrappingMul u128Bound 2 feeB = 2 * feeB) := by
  obtain ⟨lessA, lessB⟩ := fees_le known
  obtain ⟨fitA, fitB⟩ := fit _ known
  constructor
  · intro isBuy
    have bound := fitA isBuy
    exact Nat.mod_eq_of_lt (by omega)
  · intro isBuy
    have bound := fitB isBuy
    exact Nat.mod_eq_of_lt (by omega)

/-- A prepared trade has set aside what it is going to pay, and nothing else. -/
theorem ready_draws (sold : dt.intentionB.assets.assetIn = dt.intentionA.assets.assetOut)
    (fit : dt.SumsFit cfg) (unpaid : dt.transfers = [])
    (ready : dt.prepare cfg s pool = (prepared, dt', true)) (who : AccountId) (asset : AssetId) :
    prepared.ledger.reserved who asset =
        s.ledger.reserved who asset + drawn (dt'.transfers.map Transfer.payment) who asset ∧
      prepared.ledger.totalBalance who asset = s.ledger.totalBalance who asset := by
  obtain ⟨feeA, feeB, known, rfl, reserved, totals⟩ := prepare_true ready
  obtain ⟨fitA, fitB⟩ := fit _ known
  refine ⟨?_, totals who asset⟩
  rw [unpaid, List.nil_append, drawn_eq_owes sold known fit, reserved, toReserve_eq_owes fitA,
    toReserve_eq_owes fitB]
  unfold Ledger.entry
  simp only [Ledger.credit_apply]
  split_ifs <;> omega

theorem covered_of_ready (sold : dt.intentionB.assets.assetIn = dt.intentionA.assets.assetOut)
    (fit : dt.SumsFit cfg) (unpaid : dt.transfers = [])
    (ready : dt.prepare cfg s pool = (prepared, dt', true)) (who : AccountId) (asset : AssetId) :
    drawn (dt'.transfers.map Transfer.payment) who asset ≤ prepared.ledger.reserved who asset := by
  rw [(ready_draws sold fit unpaid ready who asset).1]
  exact Nat.le_add_left _ _

/-- What the payments of a trade bring to everybody but the pool. -/
theorem received_payments (who : AccountId) (notPool : who ≠ pool) (asset : AssetId) :
    received ((dt.payments pool feeA feeB).map Transfer.payment) who asset =
      (if who = dt.intentionB.who ∧ asset = dt.intentionA.assets.assetIn then
        dt.intentionB.earns dt.amountFromA feeA else 0) +
      (if who = dt.intentionA.who ∧ asset = dt.intentionA.assets.assetOut then
        dt.intentionA.earns dt.amountFromB feeB else 0) := by
  unfold received payments Intention.earns
  cases kindA : dt.intentionA.sellOrBuy <;> cases kindB : dt.intentionB.sellOrBuy <;>
    simp [kindA, kindB, Transfer.payment, notPool]

/-- The pool receives what the parties pay over what they get. -/
theorem received_pool (sold : dt.intentionB.assets.assetIn = dt.intentionA.assets.assetOut)
    (known : dt.fees cfg = some (feeA, feeB)) (fit : dt.SumsFit cfg)
    (notA : dt.intentionA.who ≠ pool) (notB : dt.intentionB.who ≠ pool) (asset : AssetId) :
    received ((dt.payments pool feeA feeB).map Transfer.payment) pool asset =
      (if asset = dt.intentionA.assets.assetIn then
        dt.intentionA.owes dt.amountFromA feeA - dt.intentionB.earns dt.amountFromA feeA
        else 0) +
      (if asset = dt.intentionA.assets.assetOut then
        dt.intentionB.owes dt.amountFromB feeB - dt.intentionA.earns dt.amountFromB feeB
        else 0) := by
  obtain ⟨lessA, lessB⟩ := fees_le known
  obtain ⟨doubleA, doubleB⟩ := double_fees known fit
  unfold received payments Transfer.payment Intention.owes Intention.earns
  cases kindA : dt.intentionA.sellOrBuy with
  | sell =>
      cases kindB : dt.intentionB.sellOrBuy with
      | sell =>
          simp only [kindA, kindB, List.map_cons, List.map_nil, List.sum_cons, List.sum_nil, sold,
            notA.symm, notB.symm, false_and, true_and, if_false]
          split_ifs <;> omega
      | buy =>
          simp only [kindA, kindB, List.map_cons, List.map_nil, List.sum_cons, List.sum_nil, sold,
            notA.symm, notB.symm, false_and, true_and, if_false, doubleB kindB]
          split_ifs <;> omega
  | buy =>
      cases kindB : dt.intentionB.sellOrBuy with
      | sell =>
          simp only [kindA, kindB, List.map_cons, List.map_nil, List.sum_cons, List.sum_nil,
            notA.symm, notB.symm, false_and, true_and, if_false, doubleA kindA]
          split_ifs <;> omega
      | buy =>
          simp only [kindA, kindB, List.map_cons, List.map_nil, List.sum_cons, List.sum_nil, sold,
            notA.symm, notB.symm, false_and, true_and, if_false]
          split_ifs <;> omega

/-- The balances after a trade. -/
theorem balances_execute (sold : dt.intentionB.assets.assetIn = dt.intentionA.assets.assetOut)
    (fit : dt.SumsFit cfg) (unpaid : dt.transfers = [])
    (ready : dt.prepare cfg s pool = (prepared, dt', true)) (who : AccountId)
    (asset : AssetId) :
    (dt'.execute prepared).ledger.reserved who asset = s.ledger.reserved who asset ∧
    (dt'.execute prepared).ledger.free who asset +
        drawn (dt'.transfers.map Transfer.payment) who asset =
      s.ledger.free who asset + received (dt'.transfers.map Transfer.payment) who asset := by
  obtain ⟨left, gained⟩ := Ledger.settle_all (covered_of_ready sold fit unpaid ready) who asset
  obtain ⟨moved, kept⟩ := ready_draws sold fit unpaid ready who asset
  unfold Ledger.totalBalance at kept
  rw [ledger_execute]
  omega

/-- Reverting a prepared trade gives everything back. -/
theorem balances_revert (sold : dt.intentionB.assets.assetIn = dt.intentionA.assets.assetOut)
    (fit : dt.SumsFit cfg) (unpaid : dt.transfers = [])
    (ready : dt.prepare cfg s pool = (prepared, dt', true)) (who : AccountId)
    (asset : AssetId) :
    (dt'.revert prepared).ledger.free who asset = s.ledger.free who asset ∧
      (dt'.revert prepared).ledger.reserved who asset = s.ledger.reserved who asset := by
  obtain ⟨left, total⟩ :=
    Ledger.release_any (dt'.transfers.map Transfer.payment) prepared.ledger who asset
  obtain ⟨moved, kept⟩ := ready_draws sold fit unpaid ready who asset
  unfold Ledger.totalBalance at kept total
  rw [ledger_revert]
  omega

/-- A prepared trade between two accounts is settled by executing it. -/
theorem settled_execute (opposed : Opposed dt.intentionA dt.intentionB)
    (apart : dt.intentionA.who ≠ dt.intentionB.who) (notA : dt.intentionA.who ≠ pool)
    (notB : dt.intentionB.who ≠ pool) (known : dt.fees cfg = some (feeA, feeB))
    (fit : dt.SumsFit cfg) (unpaid : dt.transfers = [])
    (ready : dt.prepare cfg s pool = (prepared, dt', true))
    (transfers : dt'.transfers = dt.payments pool feeA feeB) :
    dt.Settled pool feeA feeB s.ledger (dt'.execute prepared).ledger := by
  have distinct := opposed.distinct
  have reserved : (dt'.execute prepared).ledger.reserved = s.ledger.reserved :=
    funext₂ fun who asset => (balances_execute opposed.sold fit unpaid ready who asset).1
  have lessA := dt.intentionB.earns_le_owes dt.intentionA dt.amountFromA feeA
  have lessB := dt.intentionA.earns_le_owes dt.intentionB dt.amountFromB feeB
  have balance := fun who asset => (balances_execute opposed.sold fit unpaid ready who asset).2
  simp only [transfers, drawn_eq_owes opposed.sold known fit, Ledger.entry] at balance
  -- one line of the balance sheet for each of the three accounts
  have lineA : ∀ asset, (dt'.execute prepared).ledger.free dt.intentionA.who asset +
      (if asset = dt.intentionA.assets.assetIn then
        dt.intentionA.owes dt.amountFromA feeA else 0) =
      s.ledger.free dt.intentionA.who asset +
      (if asset = dt.intentionA.assets.assetOut then
        dt.intentionA.earns dt.amountFromB feeB else 0) := by
    intro asset
    have line := balance dt.intentionA.who asset
    rw [received_payments _ notA] at line
    simpa [apart] using line
  have lineB : ∀ asset, (dt'.execute prepared).ledger.free dt.intentionB.who asset +
      (if asset = dt.intentionA.assets.assetOut then
        dt.intentionB.owes dt.amountFromB feeB else 0) =
      s.ledger.free dt.intentionB.who asset +
      (if asset = dt.intentionA.assets.assetIn then
        dt.intentionB.earns dt.amountFromA feeA else 0) := by
    intro asset
    have line := balance dt.intentionB.who asset
    rw [received_payments _ notB] at line
    simpa [apart.symm] using line
  have linePool : ∀ asset, (dt'.execute prepared).ledger.free pool asset =
      s.ledger.free pool asset +
      ((if asset = dt.intentionA.assets.assetIn then
        dt.intentionA.owes dt.amountFromA feeA - dt.intentionB.earns dt.amountFromA feeA
        else 0) +
      (if asset = dt.intentionA.assets.assetOut then
        dt.intentionB.owes dt.amountFromB feeB - dt.intentionA.earns dt.amountFromB feeB
        else 0)) := by
    intro asset
    have line := balance pool asset
    rw [received_pool opposed.sold known fit notA notB] at line
    simpa [notA.symm, notB.symm] using line
  constructor
  case reserved => exact reserved
  case paidA => simpa [distinct] using lineA dt.intentionA.assets.assetIn
  case gotA => simpa [distinct.symm] using lineA dt.intentionA.assets.assetOut
  case paidB =>
    rw [opposed.sold]
    simpa [distinct.symm] using lineB dt.intentionA.assets.assetOut
  case gotB =>
    rw [opposed.bought]
    simpa [distinct] using lineB dt.intentionA.assets.assetIn
  case poolA =>
    have line := linePool dt.intentionA.assets.assetIn
    rw [if_pos rfl, if_neg distinct] at line
    omega
  case poolB =>
    rw [opposed.sold]
    have line := linePool dt.intentionA.assets.assetOut
    rw [if_neg distinct.symm, if_pos rfl] at line
    omega
  case totals =>
    intro asset
    have first := lineA asset
    have second := lineB asset
    have third := linePool asset
    unfold Ledger.totalBalance
    rw [reserved]
    split_ifs at first second third <;> omega

end Payments

end DirectTradeData

section Iff

variable {dt dt' : DirectTradeData} {prepared : State}

/-- A buyer can only pay what is owed if the sum does not wrap. -/
theorem fits_of_owes_le {x : Intention} {amount fee : ℕ}
    (enough : x.owes amount fee ≤ toReserve x amount fee) (isBuy : x.sellOrBuy = .buy) :
    amount + fee < u128Bound := by
  unfold Intention.owes toReserve at enough
  simp only [isBuy] at enough
  exact enough.trans_lt (Nat.mod_lt _ (by decide))

/-- Nothing but the reservation is taken from a party's free balance. -/
theorem owes_le_of_paid {before reserved after : Currencies} {who : AccountId} {asset : AssetId}
    {owed toReserve : ℕ} {payments : List (Payment AccountId AssetId)}
    (reserving : before.reserve asset who toReserve = some reserved)
    (kept : after.free who asset = reserved.free who asset)
    (paid : (payments.foldl Ledger.settle after).free who asset + owed = before.free who asset) :
    owed ≤ toReserve := by
  obtain ⟨covered, rfl⟩ := Ledger.reserve_eq_some_iff.mp reserving
  have later := Ledger.free_le_settle payments after who asset
  rw [kept] at later
  dsimp only at later
  rw [Ledger.debit_apply, if_pos ⟨rfl, rfl⟩] at later
  omega

/-- Every prepared trade between two accounts and a pool is settled exactly when it is
executed and undone exactly when it is reverted, if and only if no buyer's sum of amount and
fee leaves the machine word. -/
theorem direct_trade_settled_iff (opposed : Opposed dt.intentionA dt.intentionB)
    (apart : dt.intentionA.who ≠ dt.intentionB.who) (notA : dt.intentionA.who ≠ pool)
    (notB : dt.intentionB.who ≠ pool) (unpaid : dt.transfers = [])
    (ready : dt.prepare cfg s pool = (prepared, dt', true)) :
    ∃ feeA feeB,
      cfg.amm.math.calculatePoolTradeFee dt.amountFromA cfg.amm.getExchangeFee = some feeA ∧
      cfg.amm.math.calculatePoolTradeFee dt.amountFromB cfg.amm.getExchangeFee = some feeB ∧
      ((dt.Settled pool feeA feeB s.ledger (dt'.execute prepared).ledger ∧
        (dt'.revert prepared).ledger.free = s.ledger.free ∧
        (dt'.revert prepared).ledger.reserved = s.ledger.reserved) ↔
      (dt.intentionA.sellOrBuy = .buy → dt.amountFromA + feeA < u128Bound) ∧
        (dt.intentionB.sellOrBuy = .buy → dt.amountFromB + feeB < u128Bound)) := by
  have outcome := dt.preparation cfg pool s
  rw [ready] at outcome
  obtain _ | _ | _ | _ | _ | ⟨-, -, known, reservedA, reservedB⟩ := outcome
  rename_i feeA feeB afterA afterB
  obtain ⟨knownA, knownB⟩ := DirectTradeData.fees_known known
  refine ⟨feeA, feeB, knownA, knownB, ?_, ?_⟩
  · rintro ⟨settled, -⟩
    rw [DirectTradeData.ledger_execute, State.ledger_setLedger] at settled
    constructor
    · apply fits_of_owes_le
      exact owes_le_of_paid reservedA
        (Ledger.free_reserve_of_ne_currency reservedB _ opposed.distinct) settled.paidA
    · apply fits_of_owes_le
      have before := Ledger.free_reserve_of_ne_currency reservedA dt.intentionB.who
        opposed.distinct.symm
      have paid := settled.paidB
      rw [opposed.sold, ← before] at paid
      exact owes_le_of_paid reservedB rfl paid
  · rintro ⟨fitA, fitB⟩
    have fit : dt.SumsFit cfg := by
      intro fees known'
      obtain rfl := Option.some.inj (known.symm.trans known')
      exact ⟨fitA, fitB⟩
    refine ⟨DirectTradeData.settled_execute opposed apart notA notB known fit unpaid ready ?_,
      ?_, ?_⟩
    · rw [unpaid, List.nil_append]
    · exact funext₂ fun who asset =>
        (DirectTradeData.balances_revert opposed.sold fit unpaid ready who asset).1
    · exact funext₂ fun who asset =>
        (DirectTradeData.balances_revert opposed.sold fit unpaid ready who asset).2

/-- Signer 1 gives asset 1 to signer 2 for asset 2. -/
def sampleTrade (kindA kindB : IntentionType) (fromA fromB : ℕ) : DirectTradeData where
  intentionA := ⟨.signer 1, ⟨1, 2⟩, fromA, fromB, 0, false, kindA, ⟨0, .signer 1, 1, (1, 2)⟩⟩
  intentionB := ⟨.signer 2, ⟨2, 1⟩, fromB, fromA, 0, false, kindB, ⟨1, .signer 2, 1, (1, 2)⟩⟩
  amountFromA := fromA
  amountFromB := fromB
  transfers := []

/-- A purchase for 500000 of asset 1 meets a sale of 400000 of asset 2. -/
theorem direct_trade_settled_mixed :
    ∃ s prepared dt,
      (sampleTrade .buy .sell 500000 400000).prepare .reference s .palletAccount =
        (prepared, dt, true) ∧
      (sampleTrade .buy .sell 500000 400000).Settled .palletAccount 1000 800 s.ledger
        (dt.execute prepared).ledger := by
  have computed : ((sampleTrade .buy .sell 500000 400000).prepare .reference genesis
      .palletAccount).2.2 = true ∧
      Config.reference.amm.math.calculatePoolTradeFee 500000
        Config.reference.amm.getExchangeFee = some 1000 ∧
      Config.reference.amm.math.calculatePoolTradeFee 400000
        Config.reference.amm.getExchangeFee = some 800 := by
    decide +kernel
  obtain ⟨succeeded, knownA, knownB⟩ := computed
  rcases ready : (sampleTrade .buy .sell 500000 400000).prepare .reference genesis
    .palletAccount with ⟨prepared, dt, ok⟩
  rw [ready] at succeeded
  obtain rfl : ok = true := succeeded
  obtain ⟨feeA, feeB, knownA', knownB', settled⟩ := direct_trade_settled_iff
    ⟨rfl, by decide⟩ (by decide) (by decide) (by decide) rfl ready
  obtain rfl : 1000 = feeA := Option.some.inj (knownA.symm.trans knownA')
  obtain rfl : 800 = feeB := Option.some.inj (knownB.symm.trans knownB')
  exact ⟨genesis, _, _, ready, (settled.mpr ⟨by decide, by decide⟩).1⟩

/-- Signer 1 holds the largest balance there is of asset 1, and signer 2 some of asset 2. -/
def wealthy : State :=
  genesis.setLedger
    { free := fun who asset =>
        if who = .signer 1 ∧ asset = 1 then u128Bound - 1
        else if who = .signer 2 ∧ asset = 2 then 400000 else 0
      reserved := fun _ _ => 0
      issuance := fun asset =>
        if asset = 1 then u128Bound - 1 else if asset = 2 then 400000 else 0 }

/-- A purchase with the largest balance: the fee on top of it wraps, almost nothing is
reserved, and the buyer does not pay. -/
theorem direct_trade_unsettled :
    ¬ ∀ (cfg : Config) (s prepared : State) (pool : AccountId) (dt dt' : DirectTradeData)
        (feeA feeB : ℕ),
      cfg.amm.math.Lawful → Opposed dt.intentionA dt.intentionB →
      dt.intentionA.who ≠ dt.intentionB.who → dt.intentionA.who ≠ pool →
      dt.intentionB.who ≠ pool → dt.transfers = [] →
      dt.prepare cfg s pool = (prepared, dt', true) →
      cfg.amm.math.calculatePoolTradeFee dt.amountFromA cfg.amm.getExchangeFee = some feeA →
      cfg.amm.math.calculatePoolTradeFee dt.amountFromB cfg.amm.getExchangeFee = some feeB →
      dt.Settled pool feeA feeB s.ledger (dt'.execute prepared).ledger := by
  intro claim
  have computed : ((sampleTrade .buy .sell (u128Bound - 1) 400000).prepare .reference wealthy
      .palletAccount).2.2 = true ∧
      Config.reference.amm.math.calculatePoolTradeFee (u128Bound - 1)
        Config.reference.amm.getExchangeFee = some ((u128Bound - 1) / 1000 * 2) ∧
      Config.reference.amm.math.calculatePoolTradeFee 400000
        Config.reference.amm.getExchangeFee = some 800 := by
    decide +kernel
  obtain ⟨succeeded, knownA, knownB⟩ := computed
  rcases ready : (sampleTrade .buy .sell (u128Bound - 1) 400000).prepare .reference wealthy
    .palletAccount with ⟨prepared, dt, ok⟩
  rw [ready] at succeeded
  obtain rfl : ok = true := succeeded
  have settled := claim .reference wealthy prepared .palletAccount _ dt _ _
    Xyk.Math.reference_lawful ⟨rfl, by decide⟩ (by decide) (by decide) (by decide) rfl ready
    knownA knownB
  have paid : _ + (u128Bound - 1 + (u128Bound - 1) / 1000 * 2) = u128Bound - 1 := settled.paidA
  have positive : 0 < (u128Bound - 1) / 1000 * 2 := by decide
  omega

end Iff

end Basilisk.Exchange
