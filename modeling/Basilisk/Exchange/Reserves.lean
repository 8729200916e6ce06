/-
# Reserves during a finalization

A prepared trade reserves what its payments draw, so executing or reverting it
leaves the reserves as they were, with two exceptions.  A preparation that fails
after its first reservation has recorded no payment: nothing is released, and the
amount stays reserved for good.  And a buyer whose sum of amount and fee leaves the
machine word reserves too little, so that the payments draw on whatever else the
account has in reserve.
-/

import Basilisk.Exchange.Completion

namespace Basilisk.Exchange

open Basilisk.Math

variable {cfg : Config} {s t u : State} {pool : AccountId}
variable {intention main left matched : Intention}

/-- The payment a transfer makes out of the sender's reserve. -/
def Transfer.payment (transfer : Transfer) : Payment AccountId AssetId :=
  ⟨transfer.sender, transfer.receiver, transfer.asset, transfer.amount⟩

theorem DirectTradeData.ledger_execute (dt : DirectTradeData) (s : State) :
    (dt.execute s).ledger = (dt.transfers.map Transfer.payment).foldl Ledger.settle s.ledger := by
  have paid : ∀ (transfers : List Transfer) (s : State), (transfers.foldl dt.pay s).ledger =
      (transfers.map Transfer.payment).foldl Ledger.settle s.ledger := by
    intro transfers
    induction transfers with
    | nil => exact fun _ => rfl
    | cons transfer transfers ih =>
        intro s
        have first : (dt.pay s transfer).ledger = s.ledger.settle transfer.payment := by
          unfold pay
          dsimp only
          split_ifs <;> rfl
        rw [List.foldl_cons, ih, first, List.map_cons, List.foldl_cons]
  exact paid dt.transfers _

theorem DirectTradeData.ledger_revert (dt : DirectTradeData) (s : State) :
    (dt.revert s).ledger = (dt.transfers.map Transfer.payment).foldl Ledger.release s.ledger := by
  have released : ∀ (transfers : List Transfer) (s : State),
      (transfers.foldl (fun s transfer => s.setLedger
        (s.ledger.unreserve transfer.asset transfer.sender transfer.amount)) s).ledger =
      (transfers.map Transfer.payment).foldl Ledger.release s.ledger := by
    intro transfers
    induction transfers with
    | nil => exact fun _ => rfl
    | cons transfer transfers ih => exact fun s => ih _
  exact released dt.transfers s

/-- The pool's part of a trade leaves reserves alone. -/
theorem reserved_executeAmmTransfer {kind : IntentionType} {intentionId : IntentionId}
    {transfer : Xyk.AMMTransfer}
    (executed : executeAmmTransfer cfg s kind intentionId transfer = .ok t) :
    t.ledger.reserved = s.ledger.reserved := by
  simp only [executeAmmTransfer, bind_eq_ok, return_eq_ok] at executed
  obtain ⟨amm, traded, rfl⟩ := executed
  cases kind with
  | sell => exact (Xyk.executeSell_settles traded).reserved
  | buy => exact (Xyk.executeBuy_settles traded).reserved

theorem reserved_resolveSingleIntention (s : State) (intention : Intention) :
    (resolveSingleIntention cfg s intention).ledger.reserved = s.ledger.reserved := by
  unfold resolveSingleIntention
  split
  · split
    · next executed => exact reserved_executeAmmTransfer executed
    · rfl
  · rfl

theorem PoolPart.reserved {prepared after : State}
    (poolPart : PoolPart cfg s main matched prepared after) :
    after.ledger.reserved = prepared.ledger.reserved := by
  unfold PoolPart at poolPart
  split_ifs at poolPart
  · obtain ⟨_, -, executed⟩ := poolPart
    exact reserved_executeAmmTransfer executed
  · rw [poolPart]

section Drawn

variable {dt dt' : DirectTradeData} {prepared after : State} {feeA feeB amount fee : ℕ}

/-- What the payments of a direct trade with `y` draw from a party's reserve. -/
def Intention.charged (x y : Intention) (amount fee : ℕ) : ℕ :=
  match x.sellOrBuy, y.sellOrBuy with
  | .sell, _ => amount
  | .buy, .buy => amount + fee
  | .buy, .sell => amount - fee + wrappingMul u128Bound 2 fee

/-- What they draw over what the party has reserved for them. -/
def Intention.overdraft (x y : Intention) (amount fee : ℕ) : ℕ :=
  x.charged y amount fee - toReserve x amount fee

theorem DirectTradeData.fees_le (known : dt.fees cfg = some (feeA, feeB)) :
    feeA ≤ dt.amountFromA ∧ feeB ≤ dt.amountFromB := by
  unfold fees at known
  split at known
  · split_ifs at known with exceeding
    obtain ⟨rfl, rfl⟩ := Prod.mk.inj (Option.some.inj known)
    omega
  · exact absurd known nofun

/-- Wrapping makes a reservation smaller than what is drawn, never larger. -/
theorem toReserve_le_charged (x y : Intention) (less : fee ≤ amount) :
    toReserve x amount fee ≤ x.charged y amount fee := by
  unfold toReserve Intention.charged
  cases x.sellOrBuy with
  | sell => exact le_rfl
  | buy =>
      cases y.sellOrBuy with
      | buy => exact Nat.mod_le _ _
      | sell =>
          have sum : amount + fee = amount - fee + 2 * fee := by omega
          dsimp only [wrappingAdd, wrappingMul]
          rw [sum, ← Nat.add_mod_mod]
          exact Nat.mod_le _ _

theorem DirectTradeData.drawn_payments
    (sold : dt.intentionB.assets.assetIn = dt.intentionA.assets.assetOut)
    (known : dt.fees cfg = some (feeA, feeB)) (who : AccountId) (asset : AssetId) :
    drawn ((dt.payments pool feeA feeB).map Transfer.payment) who asset =
      Ledger.entry dt.intentionA.who dt.intentionA.assets.assetIn
        (dt.intentionA.charged dt.intentionB dt.amountFromA feeA) who asset +
      Ledger.entry dt.intentionB.who dt.intentionA.assets.assetOut
        (dt.intentionB.charged dt.intentionA dt.amountFromB feeB) who asset := by
  obtain ⟨lessA, lessB⟩ := fees_le known
  unfold drawn payments Transfer.payment Intention.charged Ledger.entry
  cases kindA : dt.intentionA.sellOrBuy <;> cases kindB : dt.intentionB.sellOrBuy <;>
    simp only [kindA, kindB, List.map_cons, List.map_nil, List.sum_cons, List.sum_nil, sold] <;>
    split_ifs <;> omega

section Settling

variable (sold : dt.intentionB.assets.assetIn = dt.intentionA.assets.assetOut)
  (unpaid : dt.transfers = []) (known : dt.fees cfg = some (feeA, feeB))
  (ready : dt.prepare cfg s pool = (prepared, dt', true))
include sold unpaid known ready

/-- What a prepared trade leaves of the reserves when its payments are drawn from them. -/
theorem DirectTradeData.reserved_less (who : AccountId) (asset : AssetId) :
    prepared.ledger.reserved who asset - drawn (dt'.transfers.map Transfer.payment) who asset =
      s.ledger.reserved who asset -
        (Ledger.entry dt.intentionA.who dt.intentionA.assets.assetIn
          (dt.intentionA.overdraft dt.intentionB dt.amountFromA feeA) who asset +
        Ledger.entry dt.intentionB.who dt.intentionA.assets.assetOut
          (dt.intentionB.overdraft dt.intentionA dt.amountFromB feeB) who asset) := by
  obtain ⟨_, _, known', rfl, reserved, -⟩ := prepare_true ready
  obtain ⟨rfl, rfl⟩ := Prod.mk.inj (Option.some.inj (known.symm.trans known'))
  obtain ⟨lessA, lessB⟩ := fees_le known
  have moreA := toReserve_le_charged dt.intentionA dt.intentionB lessA
  have moreB := toReserve_le_charged dt.intentionB dt.intentionA lessB
  rw [unpaid, List.nil_append, drawn_payments sold known, reserved]
  unfold Intention.overdraft Ledger.entry
  simp only [Ledger.credit_apply]
  split_ifs <;> omega

/-- The reserves after a prepared trade is executed. -/
theorem DirectTradeData.reserved_execute
    (kept : after.ledger.reserved = prepared.ledger.reserved) (who : AccountId)
    (asset : AssetId) :
    (dt'.execute after).ledger.reserved who asset = s.ledger.reserved who asset -
      (Ledger.entry dt.intentionA.who dt.intentionA.assets.assetIn
        (dt.intentionA.overdraft dt.intentionB dt.amountFromA feeA) who asset +
      Ledger.entry dt.intentionB.who dt.intentionA.assets.assetOut
        (dt.intentionB.overdraft dt.intentionA dt.amountFromB feeB) who asset) := by
  rw [← reserved_less sold unpaid known ready, ledger_execute,
    (Ledger.settle_any _ after.ledger who asset).1, kept]

/-- The same is left when it is reverted. -/
theorem DirectTradeData.reserved_revert
    (kept : after.ledger.reserved = prepared.ledger.reserved) (who : AccountId)
    (asset : AssetId) :
    (dt'.revert after).ledger.reserved who asset = s.ledger.reserved who asset -
      (Ledger.entry dt.intentionA.who dt.intentionA.assets.assetIn
        (dt.intentionA.overdraft dt.intentionB dt.amountFromA feeA) who asset +
      Ledger.entry dt.intentionB.who dt.intentionA.assets.assetOut
        (dt.intentionB.overdraft dt.intentionA dt.amountFromB feeB) who asset) := by
  rw [← reserved_less sold unpaid known ready, ledger_revert,
    (Ledger.release_any _ after.ledger who asset).1, kept]

end Settling

end Drawn

section Fitting

/-- No sum of an amount and a fee leaves the machine word. -/
def DirectTradeData.SumsFit (cfg : Config) (dt : DirectTradeData) : Prop :=
  ∀ fees ∈ dt.fees cfg,
    (dt.intentionA.sellOrBuy = .buy → dt.amountFromA + fees.1 < u128Bound) ∧
    (dt.intentionB.sellOrBuy = .buy → dt.amountFromB + fees.2 < u128Bound)

instance (cfg : Config) (dt : DirectTradeData) : Decidable (dt.SumsFit cfg) :=
  inferInstanceAs (Decidable (∀ fees ∈ dt.fees cfg,
    (dt.intentionA.sellOrBuy = .buy → dt.amountFromA + fees.1 < u128Bound) ∧
    (dt.intentionB.sellOrBuy = .buy → dt.amountFromB + fees.2 < u128Bound)))

/-- Without wrapping a party reserves what is drawn. -/
theorem charged_eq_toReserve (x y : Intention) {amount fee : ℕ} (less : fee ≤ amount)
    (fits : x.sellOrBuy = .buy → amount + fee < u128Bound) :
    x.charged y amount fee = toReserve x amount fee := by
  unfold toReserve Intention.charged
  cases kind : x.sellOrBuy with
  | sell => rfl
  | buy =>
      have bound := fits kind
      dsimp only [wrappingAdd, wrappingMul]
      rw [Nat.mod_eq_of_lt bound]
      cases y.sellOrBuy with
      | buy => rfl
      | sell =>
          dsimp only
          rw [Nat.mod_eq_of_lt (by omega)]
          omega

/-- The turn's sums fit. -/
def Visit.SumsFit (cfg : Config) (visit : Visit) : Prop :=
  (tradeOf visit.main visit.matched).SumsFit cfg

instance (cfg : Config) (visit : Visit) : Decidable (visit.SumsFit cfg) :=
  inferInstanceAs (Decidable ((tradeOf visit.main visit.matched).SumsFit cfg))

end Fitting

section Turns

/-- What a turn leaves reserved for the main intention: the trade is not refused, both parties
have the amounts and the first reservation goes through, but the second does not. -/
def Visit.stranded (cfg : Config) (visit : Visit) : ℕ :=
  let trade := tradeOf visit.main visit.matched
  let freeA := visit.state.ledger.free visit.main.who visit.main.assets.assetIn
  let freeB := visit.state.ledger.free visit.matched.who visit.main.assets.assetOut
  if refusal cfg visit.state visit.intention visit.main visit.matched = none ∧
      trade.amountFromA ≤ freeA ∧ trade.amountFromB ≤ freeB then
    ((trade.fees cfg).filter fun fees =>
      toReserve visit.main trade.amountFromA fees.1 ≤ freeA ∧
        freeB < toReserve visit.matched trade.amountFromB fees.2).elim 0
      fun fees => toReserve visit.main trade.amountFromA fees.1
  else 0

/-- The turn leaves something reserved. -/
def Visit.Strands (cfg : Config) (visit : Visit) : Prop :=
  0 < visit.stranded cfg

instance (cfg : Config) (visit : Visit) : Decidable (visit.Strands cfg) :=
  inferInstanceAs (Decidable (0 < visit.stranded cfg))

/-- What the turn adds to a reserve. -/
def Visit.strands (cfg : Config) (visit : Visit) (who : AccountId) (asset : AssetId) : ℕ :=
  Ledger.entry visit.main.who visit.main.assets.assetIn (visit.stranded cfg) who asset

/-- What a prepared trade takes from a reserve beyond what was reserved for it. -/
def Visit.overdraws (cfg : Config) (visit : Visit) (who : AccountId) (asset : AssetId) : ℕ :=
  let trade := tradeOf visit.main visit.matched
  (visit.prepared cfg).elim 0 fun fees =>
    Ledger.entry visit.main.who visit.main.assets.assetIn
      (visit.main.overdraft visit.matched trade.amountFromA fees.1) who asset +
    Ledger.entry visit.matched.who visit.main.assets.assetOut
      (visit.matched.overdraft visit.main trade.amountFromB fees.2) who asset

/-- The reserve these turns leave of what is held before them. -/
def reserveAfter (cfg : Config) (who : AccountId) (asset : AssetId) (held : ℕ)
    (turns : List Visit) : ℕ :=
  turns.foldl
    (fun held visit => held + visit.strands cfg who asset - visit.overdraws cfg who asset) held

theorem stranded_of_prepared {visit : Visit} {fees : ℕ × ℕ}
    (prepared : visit.prepared cfg = some fees) : visit.stranded cfg = 0 := by
  obtain ⟨attempted, known, -, enough⟩ := Visit.prepared_eq_some_iff.mp prepared
  unfold Visit.stranded
  dsimp only
  rw [if_pos attempted, known, Option.filter_some, if_neg]
  · rfl
  · rw [decide_eq_true_eq, not_and, not_lt]
    exact fun _ => enough

/-- What a failed preparation leaves reserved. -/
theorem reserved_unprepared {dt : DirectTradeData} (opposed : Opposed main matched)
    (allowed : refusal cfg s intention main matched = none)
    (failed : (tradeOf main matched).prepare cfg s pool = (t, dt, false)) (who : AccountId)
    (asset : AssetId) :
    t.ledger.reserved who asset = s.ledger.reserved who asset +
      Visit.strands cfg ⟨pool, s, intention, main, matched⟩ who asset := by
  unfold Visit.strands Visit.stranded
  dsimp only
  have outcome := (tradeOf main matched).preparation cfg pool s
  rw [failed] at outcome
  cases outcome with
  | shortA lacking =>
      rw [tradeOf_intentionA] at lacking
      rw [if_neg fun attempted => absurd attempted.2.1 (not_le.mpr lacking), Ledger.entry_zero]
      rfl
  | shortB _ lacking =>
      rw [tradeOf_intentionA, tradeOf_intentionB] at lacking
      rw [if_neg fun attempted => absurd attempted.2.2 (not_le.mpr lacking), Ledger.entry_zero]
      rfl
  | noFees _ unknown =>
      rw [unknown, Option.filter_none, Option.elim_none, ite_self, Ledger.entry_zero]
      rfl
  | refusedA _ known refused =>
      rw [tradeOf_intentionA, Ledger.reserve_eq_none_iff] at refused
      simp [known, Option.filter_some, not_le.mpr refused]
  | @refusedB feeA feeB afterA coveredA coveredB known reservedA refused =>
      rw [tradeOf_intentionA] at reservedA coveredA
      rw [tradeOf_intentionA, tradeOf_intentionB] at refused coveredB
      obtain ⟨enough, ledger⟩ := Ledger.reserve_eq_some_iff.mp reservedA
      -- the first reservation is in the other asset
      have lacking := Ledger.reserve_eq_none_iff.mp refused
      rw [Ledger.free_reserve_of_ne_currency reservedA _ opposed.distinct.symm] at lacking
      rw [if_pos ⟨allowed, coveredA, coveredB⟩, known, Option.filter_some,
        if_pos (decide_eq_true ⟨enough, lacking⟩), Option.elim_some, State.ledger_setLedger, ledger]
      dsimp only
      rw [Ledger.credit_apply, Ledger.entry]
      split_ifs <;> rfl

/-- What a turn does to a reserve. -/
theorem Turn.reserved (opposed : Opposed main matched)
    (turn : Turn cfg pool intention s main matched t left) (who : AccountId) (asset : AssetId) :
    t.ledger.reserved who asset = reserveAfter cfg who asset (s.ledger.reserved who asset)
      [⟨pool, s, intention, main, matched⟩] := by
  have sides : Opposed (tradeOf main matched).intentionA (tradeOf main matched).intentionB := by
    rwa [tradeOf_intentionA, tradeOf_intentionB]
  unfold reserveAfter Visit.strands Visit.overdraws
  rw [List.foldl_cons, List.foldl_nil]
  dsimp only
  cases turn with
  | refused refusing =>
      have nothing : Visit.stranded cfg ⟨pool, s, intention, main, matched⟩ = 0 :=
        if_neg fun attempted => absurd (attempted.1.symm.trans refusing) nofun
      rw [prepared_of_refused refusing, nothing, Ledger.entry_zero]
      rfl
  | unprepared allowed failed =>
      rw [prepared_of_failed opposed failed, Option.elim_none, Nat.sub_zero]
      exact reserved_unprepared opposed allowed failed who asset
  | poolFailed allowed ready =>
      obtain ⟨feeA, feeB, known, -⟩ := DirectTradeData.prepare_true ready
      have prepared := (prepared_of_ready opposed allowed ready).trans known
      rw [stranded_of_prepared prepared, Ledger.entry_zero, prepared]
      refine (DirectTradeData.reserved_revert sides.sold (tradeOf_transfers main matched) known
        ready ?_ who asset).trans ?_
      · rfl
      · rw [tradeOf_intentionA, tradeOf_intentionB]
        rfl
  | traded allowed ready poolPart =>
      obtain ⟨feeA, feeB, known, -⟩ := DirectTradeData.prepare_true ready
      have prepared := (prepared_of_ready opposed allowed ready).trans known
      rw [stranded_of_prepared prepared, Ledger.entry_zero, prepared]
      refine (DirectTradeData.reserved_execute sides.sold (tradeOf_transfers main matched) known
        ready poolPart.reserved who asset).trans ?_
      rw [tradeOf_intentionA, tradeOf_intentionB]
      rfl

theorem Turns.reserved {group : List Intention}
    (opposed : ∀ matched ∈ group, Opposed main matched)
    (turns : Turns cfg pool intention s main group t left) (who : AccountId) (asset : AssetId) :
    t.ledger.reserved who asset = reserveAfter cfg who asset (s.ledger.reserved who asset)
      (groupVisits cfg pool intention s main group) := by
  induction turns with
  | done => rfl
  | @next s after t main rest left matched group resolved _ ih =>
      have turn := resolveMatched_ok resolved
      rw [List.forall_mem_cons] at opposed
      rw [ih fun other listed => (opposed.2 other listed).of_same turn.same,
        turn.reserved opposed.1, groupVisits_cons resolved]
      rfl

theorem Handing.Step.reserved {handing : Handing}
    (facing : ∀ main group, handing.dispatch = .matched main group →
      ∀ matched ∈ group, Opposed main matched)
    (taken : Handing.Step cfg s handing t) (who : AccountId) (asset : AssetId) :
    t.ledger.reserved who asset = reserveAfter cfg who asset (s.ledger.reserved who asset)
      (Handing.visits cfg (s, handing)) := by
  unfold Handing.Step at taken
  unfold Handing.visits
  split at taken
  · next rejected =>
      obtain ⟨error, -, rfl⟩ := taken
      rw [rejected]
      rfl
  · next main group dispatched =>
      simp only [dispatched]
      obtain ⟨after, left, turns, rfl⟩ := resolveMatchedIntentions_ok taken.2
      rw [← turns.reserved (facing main group dispatched)]
      split_ifs
      · rw [reserved_resolveSingleIntention]
      · rfl
  · next single =>
      rw [taken, reserved_resolveSingleIntention, single]
      rfl

end Turns

section Finalization

variable {order : List (AssetId × AssetId)}

/-- The reserves after a finalization, from what its turns strand and overdraw. -/
theorem reserved_of_finalize (inv : Registered cfg s) (iterates : s.IterationOrder order)
    (finalized : onFinalize cfg s order = .ok t) (who : AccountId) (asset : AssetId) :
    t.ledger.reserved who asset = reserveAfter cfg who asset (s.ledger.reserved who asset)
      (visits cfg s order) := by
  obtain ⟨last, run, -, -, rfl⟩ := onFinalize_ok inv iterates finalized
  have facing : Guarded (fun _ handing => ∀ main group, handing.dispatch = .matched main group →
      ∀ matched ∈ group, Opposed main matched) (handings cfg s order).reverse := by
    rintro ⟨state, handing⟩ listed main group dispatched
    exact (inv.opposed (List.mem_reverse.mp listed) main group dispatched).2
  have reserved := run.history_invariant
    (fun past t => t.ledger.reserved who asset = reserveAfter cfg who asset
      (s.ledger.reserved who asset) (past.reverse.flatMap (Handing.visits cfg)))
    (by rintro _ rfl; rfl)
    (by
      intro past t handing u _ reserved facing taken
      rw [taken.reserved facing, reserved, List.reverse_cons, List.flatMap_append,
        List.flatMap_singleton, reserveAfter, reserveAfter, reserveAfter, List.foldl_append])
    facing
  rwa [List.reverse_reverse] at reserved

/-- Where no turn overdraws, what the turns strand adds up. -/
theorem reserveAfter_of_drawn {turns : List Visit} {who : AccountId} {asset : AssetId}
    (drawn : ∀ visit ∈ turns, visit.overdraws cfg who asset = 0) (held : ℕ) :
    reserveAfter cfg who asset held turns =
      held + (turns.map (Visit.strands cfg · who asset)).sum := by
  induction turns generalizing held with
  | nil => rfl
  | cons visit turns ih =>
      rw [List.forall_mem_cons] at drawn
      have step : reserveAfter cfg who asset held (visit :: turns) =
          reserveAfter cfg who asset (held + visit.strands cfg who asset) turns := by
        rw [reserveAfter, List.foldl_cons, drawn.1, Nat.sub_zero]
        rfl
      rw [step, ih drawn.2, List.map_cons, List.sum_cons, Nat.add_assoc]

/-- Nothing is added to any reserve exactly if no turn strands an amount. -/
theorem strands_eq_zero_iff {turns : List Visit} :
    (∀ who asset, (turns.map (Visit.strands cfg · who asset)).sum = 0) ↔
      ∀ visit ∈ turns, ¬ visit.Strands cfg := by
  simp only [List.sum_eq_zero_iff, List.forall_mem_map]
  constructor
  · intro nothing visit listed strands
    have here := nothing visit.main.who visit.main.assets.assetIn visit listed
    rw [Visit.strands, Ledger.entry_self] at here
    exact absurd here strands.ne'
  · intro fine who asset visit listed
    rw [Visit.strands, Nat.eq_zero_of_not_pos (fine visit listed), Ledger.entry_zero]

/-- Reserves only grow over these turns, and do not if none of them strands an amount. -/
structure Retains (cfg : Config) (s : State) (turns : List Visit) (t : State) : Prop where
  grows : ∀ who asset, s.ledger.reserved who asset ≤ t.ledger.reserved who asset
  same : t.ledger.reserved = s.ledger.reserved ↔ ∀ visit ∈ turns, ¬ visit.Strands cfg

theorem retains_of_drawn {turns : List Visit}
    (after : ∀ who asset, t.ledger.reserved who asset =
      reserveAfter cfg who asset (s.ledger.reserved who asset) turns)
    (drawn : ∀ visit ∈ turns, ∀ who asset, visit.overdraws cfg who asset = 0) :
    Retains cfg s turns t := by
  have more : ∀ who asset, t.ledger.reserved who asset = s.ledger.reserved who asset +
      (turns.map (Visit.strands cfg · who asset)).sum := fun who asset => by
    rw [after, reserveAfter_of_drawn fun visit listed => drawn visit listed who asset]
  constructor
  · intro who asset
    rw [more]
    exact Nat.le_add_right _ _
  · rw [← strands_eq_zero_iff, funext_iff]
    simp only [funext_iff, more, Nat.add_eq_left]

/-- Where no sum wraps, nothing is overdrawn. -/
theorem Visit.SumsFit.overdraws {visit : Visit} (fit : visit.SumsFit cfg) (who : AccountId)
    (asset : AssetId) : visit.overdraws cfg who asset = 0 := by
  unfold Visit.overdraws
  dsimp only
  cases prepared : visit.prepared cfg with
  | none => rfl
  | some fees =>
      obtain ⟨-, known, -⟩ := Visit.prepared_eq_some_iff.mp prepared
      obtain ⟨lessA, lessB⟩ := DirectTradeData.fees_le known
      obtain ⟨fitA, fitB⟩ := fit fees known
      rw [tradeOf_intentionA] at fitA
      rw [tradeOf_intentionB] at fitB
      unfold Intention.overdraft
      rw [Option.elim_some, charged_eq_toReserve _ _ lessA fitA,
        charged_eq_toReserve _ _ lessB fitB, Nat.sub_self, Nat.sub_self, Ledger.entry_zero,
        Ledger.entry_zero]

/-- A finalization leaves all reserves as they were exactly if what its turns strand and what
they overdraw brings every reserve back to where it was.  Where no turn overdraws a reserve, that
is if in none of them the second reservation of a trade fails after the first. -/
theorem reserves_restored_iff (reachable : Reachable Initial (Step cfg) s)
    (iterates : s.IterationOrder order) (finalized : onFinalize cfg s order = .ok t) :
    ((∀ who asset, t.ledger.reserved who asset = s.ledger.reserved who asset) ↔
      ∀ who asset, reserveAfter cfg who asset (s.ledger.reserved who asset) (visits cfg s order) =
        s.ledger.reserved who asset) ∧
    ((∀ visit ∈ visits cfg s order, ∀ who asset, visit.overdraws cfg who asset = 0) →
      ((∀ who asset, t.ledger.reserved who asset = s.ledger.reserved who asset) ↔
        ∀ visit ∈ visits cfg s order, ¬ visit.Strands cfg)) := by
  have after := reserved_of_finalize (registered_of_reachable reachable) iterates finalized
  constructor
  · simp only [after]
  · intro drawn
    rw [← (retains_of_drawn after drawn).same, funext_iff]
    simp only [funext_iff]

/-- A sale of asset 2 matched with two purchases whose buyers can pay the fee. -/
theorem reserves_restored_matched :
    ∃ s t, onFinalize .reference s [(1, 2)] = .ok t ∧
      (visits .reference s [(1, 2)]).length = 2 ∧
      ∀ who asset, t.ledger.reserved who asset = s.ledger.reserved who asset := by
  have computed : succeedsWith (simulate FixedU128.one
      [.sell 0 2 1 20000000 1 false, .buy 1 2 1 9000000 10000000 false,
        .buy 2 2 1 8000000 10000000 false])
      (fun s => succeedsWith (onFinalize .reference s [(1, 2)]) (fun _ =>
        decide (s.IterationOrder [(1, 2)]) &&
        (decide ((visits .reference s [(1, 2)]).length = 2) &&
        (decide (∀ visit ∈ visits .reference s [(1, 2)], visit.SumsFit .reference) &&
        decide (∀ visit ∈ visits .reference s [(1, 2)], ¬ visit.Strands .reference))))) =
      true := by
    decide +kernel
  simp only [succeedsWith_iff, Bool.and_eq_true, decide_eq_true_eq] at computed
  obtain ⟨s, run, t, finalized, iterates, turns, fit, fine⟩ := computed
  exact ⟨s, t, finalized, turns,
    ((reserves_restored_iff (reachableUnder_of_simulate run).reachable iterates finalized).2
      fun visit listed => (fit visit listed).overdraws).mpr fine⟩

/-- A buyer who offers the whole balance cannot reserve the fee on top of it: what the
seller has reserved for this trade stays reserved. -/
theorem reserves_not_restored :
    ¬ ∀ (cfg : Config) (s t : State) (order : List (AssetId × AssetId)),
      cfg.amm.math.Lawful → Reachable Initial (Step cfg) s → s.IterationOrder order →
      onFinalize cfg s order = .ok t →
      ∀ who asset, t.ledger.reserved who asset = s.ledger.reserved who asset := by
  intro claim
  have computed : succeedsWith (simulate FixedU128.one
      [.sell 0 2 1 20000000 1 false, .buy 1 2 1 10000000 20000000 false])
      (fun s => succeedsWith (onFinalize .reference s [(1, 2)]) (fun t =>
        decide (s.IterationOrder [(1, 2)]) &&
        decide (t.ledger.reserved (.signer 0) 2 ≠ s.ledger.reserved (.signer 0) 2))) = true := by
    decide +kernel
  simp only [succeedsWith_iff, Bool.and_eq_true, decide_eq_true_eq] at computed
  obtain ⟨s, run, t, finalized, iterates, stranded⟩ := computed
  exact stranded (claim .reference s t [(1, 2)] Xyk.Math.reference_lawful
    (reachableUnder_of_simulate run).reachable iterates finalized (.signer 0) 2)

end Finalization

end Basilisk.Exchange
