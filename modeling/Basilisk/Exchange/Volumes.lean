/-
# Traded volumes

A sale spends at most the amount it registered, however it is filled.  A purchase gets
exactly the amount it asked for unless a failure event names it, or unless it misses
something in a turn.  A turn can pass over a matched purchase without an event; in an
exact match only the amounts of one asset are equal, so that a main purchase gets what
the matched intention was quoted, and not what it has left to buy; and a party whose sum
of amount and fee wraps has reserved less than it has to pay.  `Visit.misses` counts all
three.
-/

import Basilisk.Exchange.Balances
import Basilisk.Exchange.Outcomes

namespace Basilisk.Exchange

open Basilisk.Math

variable {cfg : Config} {s t u : State} {pool : AccountId} {visit : Visit}
variable {x intention main left matched : Intention}

/-- The intentions an event reports a failure of. -/
def Event.failedIds : Event → List IntentionId
  | .insufficientAssetBalanceEvent _ _ _ intentionId _ => [intentionId]
  | .intentionResolveErrorEvent _ _ _ intentionId _ => [intentionId]
  | .intentionRegistered .. => []
  | .intentionResolvedAMMTrade .. => []
  | .intentionResolvedDirectTrade .. => []
  | .intentionResolvedDirectTradeFees .. => []

/-- An event between two states reports a failure of the intention. -/
def Failed (s t : State) (x : Intention) : Prop :=
  ∃ event ∈ t.events.drop s.events.length, x.intentionId ∈ event.failedIds

instance : Decidable (Failed s t x) :=
  inferInstanceAs (Decidable (∃ event ∈ t.events.drop s.events.length, _))

/-- The volume of an intention is kept: a sale spends at most its amount, and a purchase whose
failure is not reported gets exactly its amount. -/
def VolumeKept (s t : State) (x : Intention) : Prop :=
  match x.sellOrBuy with
  | .sell => s.owns x.who x.assets.assetIn ≤ t.owns x.who x.assets.assetIn + x.amountIn
  | .buy => ¬ Failed s t x →
      t.owns x.who x.assets.assetOut = s.owns x.who x.assets.assetOut + x.amountOut

/-- What a purchase misses in a turn of what the turn should bring.  The matched intention should
get what is traded of the main one, and all of its amount if nothing is; the main intention what
a smaller matched one sells, and otherwise all it has left to buy. -/
def Visit.misses (cfg : Config) (intentionId : IntentionId) (visit : Visit) : ℤ :=
  if intentionId = visit.matched.intentionId then
    (visit.traded cfg).elim (visit.matched.amountOut : ℤ) fun fees =>
      (tradeOf visit.main visit.matched).amountFromA - visit.matchedGets fees
  else if intentionId = visit.main.intentionId then
    (visit.traded cfg).elim 0 fun fees =>
      (if visit.matched.amountOut < visit.main.amountIn then visit.matched.amountIn
        else visit.main.amountOut : ℕ) - visit.mainGets fees
  else 0

/-- What a purchase misses over these turns. -/
def missed (cfg : Config) (turns : List Visit) (intentionId : IntentionId) : ℤ :=
  (turns.map (Visit.misses cfg intentionId)).sum

/-- Between two states a sale spends at most its amount, and a purchase whose failure is not
reported gets its amount but for what it misses. -/
structure Accounted (s t : State) (x : Intention) (missed : ℤ) : Prop where
  spent : x.sellOrBuy = .sell →
    s.owns x.who x.assets.assetIn ≤ t.owns x.who x.assets.assetIn + x.amountIn
  filled : x.sellOrBuy = .buy → Failed s t x ∨
    (t.owns x.who x.assets.assetOut : ℤ) =
      s.owns x.who x.assets.assetOut + x.amountOut - missed

theorem Accounted.volumeKept_iff {missed : ℤ} (accounted : Accounted s t x missed) :
    VolumeKept s t x ↔ (x.sellOrBuy = .buy → ¬ Failed s t x → missed = 0) := by
  unfold VolumeKept
  cases kind : x.sellOrBuy with
  | sell => simpa using accounted.spent kind
  | buy =>
      simp only [true_imp_iff]
      refine imp_congr_right fun unreported => ?_
      obtain reported | filled := accounted.filled kind
      · exact absurd reported unreported
      · omega

section Failures

theorem Emits.extends {ids : List IntentionId} (emits : Emits s t ids) : s.events <+: t.events := by
  obtain ⟨new, emitted, -⟩ := emits
  exact ⟨new, emitted.symm⟩

theorem Failed.mono (later : t.events <+: u.events) (failed : Failed s t x) : Failed s u x := by
  obtain ⟨event, listed, named⟩ := failed
  exact ⟨event, (later.drop s.events.length).subset listed, named⟩

theorem Failed.of_later (earlier : s.events <+: t.events) (failed : Failed t u x) :
    Failed s u x := by
  obtain ⟨event, listed, named⟩ := failed
  exact ⟨event, (List.drop_sublist_drop_left _ earlier.length_le).subset listed, named⟩

theorem failed_sendIntentionErrorEvent (s : State) (x : Intention) (error : ErrorDetail) :
    Failed s (s.sendIntentionErrorEvent x error) x := by
  refine ⟨.intentionResolveErrorEvent x.who x.assets x.sellOrBuy x.intentionId error, ?_,
    List.mem_singleton_self _⟩
  show _ ∈ (s.events ++ [_]).drop s.events.length
  rw [List.drop_left]
  exact List.mem_singleton_self _

/-- An intention that owns the same and whose failure is reported. -/
theorem accounted_of_failed {missed : ℤ}
    (same : ∀ asset, t.owns x.who asset = s.owns x.who asset) (failed : Failed s t x) :
    Accounted s t x missed :=
  ⟨fun _ => same _ ▸ Nat.le_add_right _ _, fun _ => .inl failed⟩

end Failures

section Pool

variable {key : ℕ} {transfer : Xyk.AMMTransfer} {who : AccountId} {asset : AssetId}

theorem poolChange_of_ne {kind : IntentionType} (other : who ≠ transfer.origin) :
    poolChange cfg kind transfer who asset = 0 := by
  unfold poolChange
  rw [Ledger.entry_of_ne_account other, Ledger.entry_of_ne_account other,
    Ledger.entry_of_ne_account other]
  rfl

theorem origin_of_valid (valid : validate cfg s x = .ok transfer) : transfer.origin = x.who := by
  unfold validate at valid
  split at valid
  · obtain ⟨_, _, _, -, -, -, -, -, -, -, -, -, -, -, rfl⟩ := Xyk.validateSell_ok valid
    rfl
  · obtain ⟨_, _, _, -, -, -, -, -, -, -, -, -, -, -, rfl⟩ := Xyk.validateBuy_ok valid
    rfl

/-- A trade with the pool is of the whole intention.  A discount is only given where the
asset of the volume has a pool with the native asset, so it is charged in another one. -/
theorem volume_of_valid (registered : Xyk.PoolsRegistered cfg.amm s.amm)
    (distinct : x.assets.assetIn ≠ x.assets.assetOut) (valid : validate cfg s x = .ok transfer) :
    (x.sellOrBuy = .sell →
      poolChange cfg x.sellOrBuy transfer x.who x.assets.assetIn = -x.amountIn) ∧
    (x.sellOrBuy = .buy →
      poolChange cfg x.sellOrBuy transfer x.who x.assets.assetOut = x.amountOut) := by
  unfold validate at valid
  constructor
  · intro isSell
    simp only [isSell] at valid ⊢
    obtain ⟨_, _, _, -, -, -, native, -, -, -, -, -, -, -, rfl⟩ := Xyk.validateSell_ok valid
    have apart : x.discount = true → x.assets.assetIn ≠ cfg.amm.nativeAssetId :=
      fun discounted => registered.assets_ne (native discounted)
    unfold poolChange Xyk.AMMTransfer.burned poolGives poolTakes
    rw [Ledger.entry_of_ne_currency distinct, Ledger.entry_self]
    dsimp only
    split_ifs with discounted
    · rw [Ledger.entry_of_ne_currency (apart discounted)]
      simp
    · simp
  · intro isBuy
    simp only [isBuy] at valid ⊢
    obtain ⟨_, _, _, -, -, -, -, native, -, -, -, -, -, -, rfl⟩ := Xyk.validateBuy_ok valid
    have apart : x.discount = true → x.assets.assetOut ≠ cfg.amm.nativeAssetId :=
      fun discounted => registered.assets_ne (native discounted)
    unfold poolChange Xyk.AMMTransfer.burned poolGives poolTakes
    rw [Ledger.entry_of_ne_currency distinct.symm, Ledger.entry_self]
    dsimp only
    split_ifs with discounted
    · rw [Ledger.entry_of_ne_currency (apart discounted)]
      simp
    · simp

theorem offerChange_of_ne (other : who ≠ x.who) : offerChange cfg (s, x) who asset = 0 := by
  unfold offerChange poolTrade
  cases valid : validate cfg s x with
  | error => rfl
  | ok transfer =>
      dsimp only [Except.toOption]
      rw [Option.filter_some]
      split_ifs
      · rw [← origin_of_valid valid] at other
        exact poolChange_of_ne other
      · rfl

/-- Nobody else is concerned by it. -/
theorem owns_single_of_ne (who : x.who = .signer key) {y : Intention}
    (distinct : y.assets.assetIn ≠ y.assets.assetOut) (other : x.who ≠ y.who) (s : State)
    (asset : AssetId) :
    (resolveSingleIntention cfg s y).owns x.who asset = s.owns x.who asset := by
  have owned : ((resolveSingleIntention cfg s y).owns (.signer key) asset : ℤ) = _ :=
    owns_resolveSingleIntention distinct key asset
  rw [← who, offerChange_of_ne other] at owned
  omega

/-- A single intention is filled by the pool, or fails with an event and changes nothing. -/
theorem accounted_single (registered : Xyk.PoolsRegistered cfg.amm s.amm)
    (who : x.who = .signer key) (distinct : x.assets.assetIn ≠ x.assets.assetOut) :
    Accounted s (resolveSingleIntention cfg s x) x 0 := by
  unfold resolveSingleIntention
  split
  · next transfer valid =>
      split
      · next after executed =>
          obtain ⟨sold, bought⟩ := volume_of_valid registered distinct valid
          have owned := owns_executeAmmTransfer executed key
          rw [← who] at owned
          constructor
          · intro isSell
            have paid := owned x.assets.assetIn
            rw [sold isSell] at paid
            omega
          · intro isBuy
            have got := owned x.assets.assetOut
            rw [bought isBuy] at got
            right
            omega
      · exact accounted_of_failed (fun _ => rfl) (failed_sendIntentionErrorEvent s x _)
  · exact accounted_of_failed (fun _ => rfl) (failed_sendIntentionErrorEvent s x _)

end Pool

/-- What is known of two intentions that are matched, and of their pool. -/
structure Pairing (pool : AccountId) (main matched : Intention) : Prop where
  opposed : Opposed main matched
  signerA : ∃ key, main.who = .signer key
  signerB : ∃ key, matched.who = .signer key
  distinct : main.who ≠ matched.who
  ids : main.intentionId ≠ matched.intentionId
  notPool : ∀ key, AccountId.signer key ≠ pool

theorem Pairing.of_same (pairing : Pairing pool main matched) (same : main.Same left) :
    Pairing pool left matched where
  opposed := pairing.opposed.of_same same
  signerA := same.who ▸ pairing.signerA
  signerB := pairing.signerB
  distinct := same.who ▸ pairing.distinct
  ids := same.intentionId ▸ pairing.ids
  notPool := pairing.notPool

section Amounts

/-- A matched intention that is larger than what is left of the main one takes all of it. -/
theorem tradeOf_part (part : main.amountIn < matched.amountOut) :
    (tradeOf main matched).amountFromA = main.amountIn ∧
      (tradeOf main matched).amountFromB = main.amountOut := by
  rw [tradeOf, if_neg (by omega), if_pos part]
  exact ⟨rfl, rfl⟩

/-- Any other matched intention is traded completely. -/
theorem tradeOf_whole (whole : ¬ main.amountIn < matched.amountOut) :
    (tradeOf main matched).amountFromA = matched.amountOut ∧
      (tradeOf main matched).amountFromB = matched.amountIn := by
  unfold tradeOf
  split_ifs
  · exact ⟨rfl, rfl⟩
  · exact ⟨by dsimp only; omega, rfl⟩

/-- A seller has reserved what it pays. -/
theorem mainPays_of_sell (isSell : visit.main.sellOrBuy = .sell) (fees : ℕ × ℕ) :
    visit.mainPays fees = (tradeOf visit.main visit.matched).amountFromA := by
  unfold Visit.mainPays Visit.heldA Intention.charged toReserve
  simp only [isSell]
  exact min_eq_left (Nat.le_add_left _ _)

theorem matchedPays_of_sell (isSell : visit.matched.sellOrBuy = .sell) (fees : ℕ × ℕ) :
    visit.matchedPays fees = (tradeOf visit.main visit.matched).amountFromB := by
  unfold Visit.matchedPays Visit.heldB Intention.charged toReserve
  simp only [isSell]
  exact min_eq_left (Nat.le_add_left _ _)

/-- What the direct trade of a turn brings to each party. -/
theorem directChange_eq (pairing : Pairing pool visit.main visit.matched) (fees : ℕ × ℕ) :
    visit.directChange fees visit.main.who visit.main.assets.assetIn = -visit.mainPays fees ∧
    visit.directChange fees visit.main.who visit.main.assets.assetOut = visit.mainGets fees ∧
    visit.directChange fees visit.matched.who visit.main.assets.assetIn =
      visit.matchedGets fees ∧
    visit.directChange fees visit.matched.who visit.main.assets.assetOut =
      -visit.matchedPays fees := by
  have distinct := pairing.opposed.distinct
  have apart := pairing.distinct
  unfold Visit.directChange Ledger.entry
  simp [distinct, distinct.symm, apart, apart.symm]

theorem directChange_of_ne {who : AccountId} (notMain : who ≠ visit.main.who)
    (notMatched : who ≠ visit.matched.who) (fees : ℕ × ℕ) (asset : AssetId) :
    visit.directChange fees who asset = 0 := by
  unfold Visit.directChange Ledger.entry
  simp [notMain, notMatched]

/-- The pool's part of a turn is the rest of a larger matched intention. -/
theorem rest_of_traded {fees : ℕ × ℕ} (traded : visit.traded cfg = some fees) :
    (¬ visit.main.amountIn < visit.matched.amountOut ∧ visit.rest cfg = none) ∨
    (visit.main.amountIn < visit.matched.amountOut ∧
      ∃ transfer, validate cfg visit.state (restOf visit.main visit.matched) = .ok transfer ∧
        visit.rest cfg = some transfer) := by
  by_cases part : visit.main.amountIn < visit.matched.amountOut
  · right
    have prepared := (Option.filter_eq_some_iff.mp traded).1
    have allowed := (Visit.prepared_eq_some_iff.mp prepared).1.1
    rw [refusal, if_neg (by omega), if_pos part, validateRest_eq] at allowed
    unfold Visit.rest
    rw [if_pos part]
    cases valid : validate cfg visit.state (restOf visit.main visit.matched) with
    | error error =>
        rw [valid] at allowed
        cases allowed
    | ok transfer => exact ⟨part, transfer, rfl, rfl⟩
  · exact .inl ⟨part, if_neg part⟩

theorem restChange_of_ne {who : AccountId} (other : who ≠ visit.matched.who) (asset : AssetId) :
    (visit.rest cfg).elim 0 (poolChange cfg visit.matched.sellOrBuy · who asset) = 0 := by
  unfold Visit.rest
  split_ifs
  · cases valid : validate cfg visit.state (restOf visit.main visit.matched) with
    | error => rfl
    | ok transfer =>
        have origin : transfer.origin = (restOf visit.main visit.matched).who :=
          origin_of_valid valid
        exact poolChange_of_ne (origin ▸ other)
  · rfl

end Amounts

/-- What a main intention has left to buy.  Its `amountOut` is not reset when it is consumed. -/
def Intention.due (x : Intention) : ℕ :=
  if 0 < x.amountIn then x.amountOut else 0

section Turn

/-- Nobody but the parties is concerned by a turn. -/
theorem Outcome.owns_other {key : ℕ} (outcome : Outcome cfg visit t left)
    (notMain : AccountId.signer key ≠ visit.main.who)
    (notMatched : AccountId.signer key ≠ visit.matched.who) (asset : AssetId) :
    t.owns (.signer key) asset = visit.state.owns (.signer key) asset := by
  cases outcome with
  | passed _ _ owned => exact owned _ asset
  | dealt _ _ owned =>
      have same := owned key asset
      rw [restChange_of_ne notMatched, directChange_of_ne notMain notMatched] at same
      omega

/-- What a turn does to the volume of the main intention. -/
theorem Outcome.main_volume (pairing : Pairing pool visit.main visit.matched)
    (positive : 0 < visit.main.amountIn) (outcome : Outcome cfg visit t left) :
    (visit.main.sellOrBuy = .sell →
      t.owns visit.main.who visit.main.assets.assetIn + visit.main.amountIn =
        visit.state.owns visit.main.who visit.main.assets.assetIn + left.amountIn) ∧
    (visit.main.sellOrBuy = .buy →
      (t.owns visit.main.who visit.main.assets.assetOut : ℤ) + left.due =
        visit.state.owns visit.main.who visit.main.assets.assetOut + visit.main.amountOut -
          visit.misses cfg visit.main.intentionId) := by
  unfold Visit.misses
  rw [if_neg pairing.ids, if_pos rfl]
  cases outcome with
  | passed untraded same owned =>
      rw [untraded, same, owned, owned, Intention.due, if_pos positive]
      exact ⟨fun _ => rfl, fun _ => (sub_zero _).symm⟩
  | @dealt fees traded leaves owned =>
      obtain ⟨key, who⟩ := pairing.signerA
      obtain ⟨pays, gets, -, -⟩ := directChange_eq pairing fees
      have mine := owned key
      rw [← who] at mine
      have paid := mine visit.main.assets.assetIn
      have got := mine visit.main.assets.assetOut
      rw [restChange_of_ne pairing.distinct, pays] at paid
      rw [restChange_of_ne pairing.distinct, gets] at got
      rw [traded, Option.elim_some]
      unfold Leaves at leaves
      split_ifs at leaves ⊢ with whole
      · obtain ⟨limit, covered, -, rfl⟩ := leaves
        constructor
        · intro isSell
          rw [mainPays_of_sell isSell, (tradeOf_whole whole.not_gt).1] at paid
          dsimp only
          omega
        · intro _
          rw [Intention.due, if_pos (Nat.sub_pos_of_lt whole)]
          dsimp only
          omega
      · subst leaves
        have consumed : (tradeOf visit.main visit.matched).amountFromA = visit.main.amountIn := by
          rcases lt_or_eq_of_le (not_lt.mp whole) with part | exactly
          · exact (tradeOf_part part).1
          · rw [(tradeOf_whole exactly.not_lt).1, exactly]
        constructor
        · intro isSell
          rw [mainPays_of_sell isSell, consumed] at paid
          dsimp only
          omega
        · intro _
          rw [Intention.due, if_neg (lt_irrefl 0)]
          omega

/-- What a turn does to the volume of the matched intention. -/
theorem Outcome.matched_volume (pairing : Pairing pool visit.main visit.matched)
    (registered : Xyk.PoolsRegistered cfg.amm visit.state.amm)
    (enough : visit.main.amountIn < visit.matched.amountOut →
      visit.main.amountOut ≤ visit.matched.amountIn)
    (outcome : Outcome cfg visit t left) :
    (visit.matched.sellOrBuy = .sell →
      visit.state.owns visit.matched.who visit.matched.assets.assetIn ≤
        t.owns visit.matched.who visit.matched.assets.assetIn + visit.matched.amountIn) ∧
    (visit.matched.sellOrBuy = .buy →
      (t.owns visit.matched.who visit.matched.assets.assetOut : ℤ) =
        visit.state.owns visit.matched.who visit.matched.assets.assetOut +
          visit.matched.amountOut - visit.misses cfg visit.matched.intentionId) := by
  unfold Visit.misses
  rw [if_pos rfl]
  cases outcome with
  | passed untraded same owned =>
      rw [untraded, owned, owned, Option.elim_none]
      exact ⟨fun _ => Nat.le_add_right _ _, fun _ => by omega⟩
  | @dealt fees traded leaves owned =>
      obtain ⟨key, who⟩ := pairing.signerB
      obtain ⟨-, -, gets, pays⟩ := directChange_eq pairing fees
      have mine := owned key
      rw [← who] at mine
      have got := mine visit.main.assets.assetIn
      have paid := mine visit.main.assets.assetOut
      rw [pays] at paid
      rw [gets] at got
      rw [traded, Option.elim_some, pairing.opposed.sold, pairing.opposed.bought]
      obtain ⟨whole, rest⟩ | ⟨part, transfer, valid, rest⟩ := rest_of_traded traded
      · rw [rest, Option.elim_none] at got paid
        obtain ⟨fromA, fromB⟩ := tradeOf_whole whole
        constructor
        · intro isSell
          rw [matchedPays_of_sell isSell, fromB] at paid
          omega
        · intro _
          omega
      · rw [rest, Option.elim_some] at got paid
        obtain ⟨fromA, fromB⟩ := tradeOf_part part
        have covered := enough part
        have apart : (restOf visit.main visit.matched).assets.assetIn ≠
            (restOf visit.main visit.matched).assets.assetOut := by
          show visit.matched.assets.assetIn ≠ visit.matched.assets.assetOut
          rw [pairing.opposed.sold, pairing.opposed.bought]
          exact pairing.opposed.distinct.symm
        obtain ⟨sold, bought⟩ := volume_of_valid registered apart valid
        dsimp only [restOf] at sold bought
        rw [pairing.opposed.sold] at sold
        rw [pairing.opposed.bought] at bought
        constructor
        · intro isSell
          rw [sold isSell, matchedPays_of_sell isSell, fromB] at paid
          omega
        · intro isBuy
          rw [bought isBuy] at got
          omega

/-- A turn takes at most the amount of the matched intention off the main one. -/
theorem Outcome.amountIn_le (outcome : Outcome cfg visit t left) :
    visit.main.amountIn ≤ left.amountIn + visit.matched.amountOut := by
  cases outcome with
  | passed _ same => exact same ▸ Nat.le_add_right _ _
  | dealt _ leaves =>
      unfold Leaves at leaves
      split_ifs at leaves with whole
      · obtain ⟨_, -, -, rfl⟩ := leaves
        dsimp only
        omega
      · omega

end Turn

section Group

variable {group : List Intention}

theorem missed_cons (visit : Visit) (turns : List Visit) (intentionId : IntentionId) :
    missed cfg (visit :: turns) intentionId =
      visit.misses cfg intentionId + missed cfg turns intentionId :=
  List.sum_cons

theorem missed_append (turns turns' : List Visit) (intentionId : IntentionId) :
    missed cfg (turns ++ turns') intentionId =
      missed cfg turns intentionId + missed cfg turns' intentionId := by
  rw [missed, List.map_append, List.sum_append, ← missed, ← missed]

/-- Nobody but the main intention and the group is concerned by the turns over the group. -/
theorem Turns.other (pairing : ∀ matched ∈ group, Pairing pool main matched)
    (turns : Turns cfg pool intention s main group t left) :
    (∀ key, AccountId.signer key ≠ main.who →
      (∀ matched ∈ group, AccountId.signer key ≠ matched.who) →
      ∀ asset, t.owns (.signer key) asset = s.owns (.signer key) asset) ∧
    ∀ intentionId, intentionId ≠ main.intentionId →
      (∀ matched ∈ group, intentionId ≠ matched.intentionId) →
      missed cfg (groupVisits cfg pool intention s main group) intentionId = 0 := by
  induction turns with
  | done => exact ⟨fun _ _ _ _ => rfl, fun _ _ _ => rfl⟩
  | @next s after t main rest left matched group resolved _ ih =>
      have turn := resolveMatched_ok resolved
      have same := turn.same
      rw [List.forall_mem_cons] at pairing
      have outcome := turn.outcome pairing.1.opposed pairing.1.notPool
      obtain ⟨owned, unmissed⟩ := ih fun other listed => (pairing.2 other listed).of_same same
      constructor
      · intro key notMain notGroup asset
        rw [List.forall_mem_cons] at notGroup
        rw [owned key (same.who ▸ notMain) notGroup.2]
        exact outcome.owns_other notMain notGroup.1 asset
      · intro intentionId notMain notGroup
        rw [List.forall_mem_cons] at notGroup
        rw [groupVisits_cons resolved, missed_cons,
          unmissed _ (same.intentionId ▸ notMain) notGroup.2, Visit.misses, if_neg notGroup.1,
          if_neg notMain, add_zero]

/-- What the turns over a group do to the volume of the main intention.  Only the last member
can consume it. -/
theorem Turns.main_volume (pairing : ∀ matched ∈ group, Pairing pool main matched)
    (positive : 0 < main.amountIn)
    (covers : ∀ shorter, shorter <+: group → shorter ≠ group → bought shorter < main.amountIn)
    (turns : Turns cfg pool intention s main group t left) :
    (main.sellOrBuy = .sell →
      t.owns main.who main.assets.assetIn + main.amountIn =
        s.owns main.who main.assets.assetIn + left.amountIn) ∧
    (main.sellOrBuy = .buy →
      (t.owns main.who main.assets.assetOut : ℤ) + left.due =
        s.owns main.who main.assets.assetOut + main.amountOut -
          missed cfg (groupVisits cfg pool intention s main group) main.intentionId) := by
  induction turns with
  | done =>
      refine ⟨fun _ => rfl, fun _ => ?_⟩
      rw [Intention.due, if_pos positive]
      exact (sub_zero _).symm
  | @next s after t main rest left matched group resolved later ih =>
      have turn := resolveMatched_ok resolved
      have same := turn.same
      rw [List.forall_mem_cons] at pairing
      have outcome := turn.outcome pairing.1.opposed pairing.1.notPool
      obtain ⟨spent, filled⟩ := outcome.main_volume pairing.1 positive
      have within := outcome.amountIn_le
      dsimp only at spent filled within
      rw [groupVisits_cons resolved, missed_cons]
      by_cases more : 0 < rest.amountIn
      · obtain ⟨spent', filled'⟩ := ih (fun other listed => (pairing.2 other listed).of_same same)
          more (by
            intro shorter initial proper
            have below := covers (matched :: shorter) (List.cons_prefix_cons.mpr ⟨rfl, initial⟩)
              fun equal => proper (List.cons.inj equal).2
            rw [bought, List.map_cons, List.sum_cons, ← bought] at below
            omega)
        rw [same.sellOrBuy, same.who, same.assets] at spent' filled'
        rw [same.intentionId] at filled'
        constructor
        · intro isSell
          have first := spent isSell
          have second := spent' isSell
          omega
        · intro isBuy
          have first := filled isBuy
          have second := filled' isBuy
          rw [Intention.due, if_pos more] at first
          omega
      · -- the main intention is consumed, so this was the last turn
        obtain rfl : group = [] := by
          by_contra others
          have below := covers [matched] (List.prefix_append [matched] group)
            fun equal => others (List.cons.inj equal).2.symm
          rw [bought, List.map_singleton, List.sum_singleton] at below
          omega
        cases later
        rw [groupVisits, missed, List.map_nil, List.sum_nil, add_zero]
        exact ⟨spent, filled⟩

/-- What they do to the volume of a member. -/
theorem Turns.member_volume (pairing : ∀ matched ∈ group, Pairing pool main matched)
    (registered : Xyk.PoolsRegistered cfg.amm s.amm)
    (distinct : (group.map Intention.intentionId).Nodup) (apart : (group.map Intention.who).Nodup)
    (turns : Turns cfg pool intention s main group t left) (member : x ∈ group) :
    (x.sellOrBuy = .sell →
      s.owns x.who x.assets.assetIn ≤ t.owns x.who x.assets.assetIn + x.amountIn) ∧
    (x.sellOrBuy = .buy →
      (t.owns x.who x.assets.assetOut : ℤ) = s.owns x.who x.assets.assetOut + x.amountOut -
        missed cfg (groupVisits cfg pool intention s main group) x.intentionId) := by
  induction turns with
  | done => cases member
  | @next s after t main rest left matched group resolved later ih =>
      have turn := resolveMatched_ok resolved
      have same := turn.same
      rw [List.map_cons, List.nodup_cons] at distinct apart
      rw [List.forall_mem_cons] at pairing
      have outcome := turn.outcome pairing.1.opposed pairing.1.notPool
      have paired : ∀ other ∈ group, Pairing pool rest other := fun other listed =>
        (pairing.2 other listed).of_same same
      rw [groupVisits_cons resolved, missed_cons]
      obtain rfl | later' := List.mem_cons.mp member
      · -- the later turns leave it alone
        obtain ⟨owned, unmissed⟩ := later.other paired
        obtain ⟨key, who⟩ := pairing.1.signerB
        have kept : ∀ asset, t.owns x.who asset = after.owns x.who asset := by
          rw [who]
          refine owned key ?_ fun other listed equal => ?_
          · rw [same.who, ← who]
            exact pairing.1.distinct.symm
          · exact apart.1 (List.mem_map.mpr ⟨other, listed, equal.symm.trans who.symm⟩)
        have nothing := unmissed x.intentionId (by
          rw [same.intentionId]
          exact pairing.1.ids.symm) fun other listed equal =>
            distinct.1 (List.mem_map.mpr ⟨other, listed, equal.symm⟩)
        have enough : main.amountIn < x.amountOut → main.amountOut ≤ x.amountIn := by
          intro part
          have fine := (resolveMatched_ok_iff pairing.1.opposed).mp ⟨_, resolved⟩
          unfold Visit.Panics at fine
          dsimp only at fine
          rw [if_neg (by omega), not_and] at fine
          exact not_lt.mp (fine part)
        rw [nothing, add_zero, kept, kept]
        exact outcome.matched_volume pairing.1 registered enough
      · have paired' := pairing.2 x later'
        obtain ⟨key, who⟩ := paired'.signerB
        have kept : ∀ asset, after.owns x.who asset = s.owns x.who asset := by
          rw [who]
          refine outcome.owns_other ?_ ?_
          · exact who ▸ paired'.distinct.symm
          · intro equal
            exact apart.1 (List.mem_map.mpr ⟨x, later', who.trans equal⟩)
        have nothing : Visit.misses cfg x.intentionId ⟨pool, s, intention, main, matched⟩ = 0 := by
          rw [Visit.misses, if_neg, if_neg paired'.ids.symm]
          exact fun equal => distinct.1 (List.mem_map.mpr ⟨x, later', equal⟩)
        have volume := ih paired (turn.kept.poolsRegistered registered) distinct.2 apart.2 later'
        rw [kept, kept] at volume
        rw [nothing, zero_add]
        exact volume

end Group

section Finalization

variable {order : List (AssetId × AssetId)} {handing : Handing}

/-- What is known of an intention that is handed over. -/
structure Intention.Sound (x : Intention) : Prop where
  signer : ∃ key, x.who = .signer key
  distinct : x.assets.assetIn ≠ x.assets.assetOut
  amountIn : 0 < x.amountIn

/-- What is known of one handing. -/
structure Handing.Orderly (handing : Handing) : Prop where
  sound : ∀ x ∈ handing.intentions, x.Sound
  opposed : ∀ main group, handing.dispatch = .matched main group →
    0 < main.amountIn ∧ ∀ matched ∈ group, Opposed main matched
  covers : ∀ main group, handing.dispatch = .matched main group →
    ∀ shorter, shorter <+: group → shorter ≠ group → bought shorter < main.amountIn
  ids : (handing.intentions.map Intention.intentionId).Nodup
  accounts : (handing.intentions.map Intention.who).Nodup

/-- The members of a group are paired with the main intention. -/
theorem Handing.Orderly.pairing {group : List Intention} (orderly : handing.Orderly)
    (dispatched : handing.dispatch = .matched main group) :
    ∀ matched ∈ group, Pairing handing.pool main matched := by
  obtain ⟨sound, opposed, -, ids, accounts⟩ := orderly
  unfold Handing.intentions at sound ids accounts
  simp only [dispatched, Dispatch.mains, Dispatch.others, List.singleton_append, List.map_cons,
    List.nodup_cons, List.forall_mem_cons] at sound ids accounts
  intro matched listed
  constructor
  · exact (opposed main group dispatched).2 matched listed
  · exact sound.1.signer
  · exact (sound.2 matched listed).signer
  · exact fun same => accounts.1 (List.mem_map.mpr ⟨matched, listed, same.symm⟩)
  · exact fun same => ids.1 (List.mem_map.mpr ⟨matched, listed, same.symm⟩)
  · exact fun key => (Xyk.getPairId_ne_signer _ key).symm

/-- The main intention after its group, where the pool has taken what is left of it. -/
theorem accounted_main {after : State} {missed : ℤ} (same : main.Same left)
    (spent : main.sellOrBuy = .sell →
      after.owns main.who main.assets.assetIn + main.amountIn =
        s.owns main.who main.assets.assetIn + left.amountIn)
    (filled : main.sellOrBuy = .buy →
      (after.owns main.who main.assets.assetOut : ℤ) + left.due =
        s.owns main.who main.assets.assetOut + main.amountOut - missed)
    (extended : s.events <+: after.events)
    (rest : if 0 < left.amountIn then Accounted after t left 0 else t = after) :
    Accounted s t main missed := by
  split_ifs at rest with more
  · obtain ⟨spent', filled'⟩ := rest
    rw [same.sellOrBuy, same.who, same.assets] at spent' filled'
    constructor
    · intro isSell
      have first := spent isSell
      have second := spent' isSell
      omega
    · intro isBuy
      have first := filled isBuy
      rw [Intention.due, if_pos more] at first
      refine (filled' isBuy).imp (fun failed => ?_) fun second => ?_
      · have reported : Failed after t main := by
          unfold Failed at failed ⊢
          rwa [same.intentionId] at failed
        exact reported.of_later extended
      · omega
  · subst rest
    constructor
    · intro isSell
      have first := spent isSell
      omega
    · intro isBuy
      have first := filled isBuy
      rw [Intention.due, if_neg more] at first
      right
      omega

/-- A main intention with its group. -/
theorem accounted_matched {group : List Intention} (registered : Xyk.PoolsRegistered cfg.amm s.amm)
    (orderly : handing.Orderly) (dispatched : handing.dispatch = .matched main group)
    (resolved : resolveMatchedIntentions cfg handing.pool s main group = .ok t) :
    ∀ x ∈ main :: group, Accounted s t x
      (missed cfg (groupVisits cfg handing.pool main s main group) x.intentionId) := by
  have pairing := orderly.pairing dispatched
  obtain ⟨positive, opposed⟩ := orderly.opposed main group dispatched
  have ids := orderly.ids
  have accounts := orderly.accounts
  have sound := orderly.sound
  unfold Handing.intentions at ids accounts sound
  simp only [dispatched, Dispatch.mains, Dispatch.others, List.singleton_append,
    List.forall_mem_cons] at ids accounts sound
  obtain ⟨after, left, turns, finished⟩ := resolveMatchedIntentions_ok resolved
  have same := turns.same
  obtain ⟨_, emits, -, -, -⟩ := turns.emits opposed rfl ids
  rw [List.map_cons, List.nodup_cons] at ids accounts
  obtain ⟨key, who⟩ := sound.1.signer
  have apart : left.assets.assetIn ≠ left.assets.assetOut := same.assets ▸ sound.1.distinct
  rw [List.forall_mem_cons]
  constructor
  · obtain ⟨spent, filled⟩ :=
      turns.main_volume pairing positive (orderly.covers main group dispatched)
    refine accounted_main same spent filled emits.extends ?_
    split_ifs at finished ⊢
    · rw [finished]
      exact accounted_single (turns.kept.poolsRegistered registered) (same.who.trans who) apart
    · exact finished
  · intro x member
    obtain ⟨spent, filled⟩ := turns.member_volume pairing registered ids.2 accounts.2 member
    obtain ⟨key', who'⟩ := (sound.2 x member).signer
    have kept : ∀ asset, t.owns x.who asset = after.owns x.who asset := by
      intro asset
      split_ifs at finished
      · have other : x.who ≠ left.who := by
          rw [same.who]
          exact (pairing x member).distinct.symm
        rw [finished, owns_single_of_ne who' apart other]
      · rw [finished]
    rw [← kept] at spent filled
    exact ⟨spent, fun isBuy => .inr (filled isBuy)⟩

/-- One step of a finalization. -/
theorem Handing.Step.accounted (registered : Xyk.PoolsRegistered cfg.amm s.amm)
    (orderly : handing.Orderly) (taken : Handing.Step cfg s handing t) :
    ∀ x ∈ handing.intentions,
      Accounted s t x (missed cfg (Handing.visits cfg (s, handing)) x.intentionId) := by
  unfold Handing.Step at taken
  unfold Handing.visits
  have sound := orderly.sound
  unfold Handing.intentions at sound ⊢
  split at taken
  · next main rejected =>
      obtain ⟨error, -, rfl⟩ := taken
      simp only [rejected, Dispatch.mains, Dispatch.others, List.append_nil,
        List.forall_mem_singleton]
      exact accounted_of_failed (fun _ => rfl) (failed_sendIntentionErrorEvent s main _)
  · next main group dispatched =>
      simp only [dispatched, Dispatch.mains, Dispatch.others, List.singleton_append]
      exact accounted_matched registered orderly dispatched taken.2
  · next x single =>
      simp only [single, Dispatch.mains, Dispatch.others, List.nil_append,
        List.forall_mem_singleton] at sound ⊢
      obtain ⟨key, who⟩ := sound.signer
      exact taken ▸ accounted_single registered who sound.distinct

/-- Nobody but those whose intentions are handed over is concerned by it. -/
theorem Handing.Step.other (orderly : handing.Orderly) (taken : Handing.Step cfg s handing t)
    (signer : ∃ key, x.who = .signer key) (fresh : ∀ y ∈ handing.intentions,
      x.who ≠ y.who ∧ x.intentionId ≠ y.intentionId) :
    (∀ asset, t.owns x.who asset = s.owns x.who asset) ∧
      missed cfg (Handing.visits cfg (s, handing)) x.intentionId = 0 := by
  unfold Handing.Step at taken
  unfold Handing.visits
  have sound := orderly.sound
  obtain ⟨key, who⟩ := signer
  unfold Handing.intentions at sound fresh
  split at taken
  · next main rejected =>
      obtain ⟨error, -, rfl⟩ := taken
      simp only [rejected]
      exact ⟨fun _ => rfl, rfl⟩
  · next main group dispatched =>
      simp only [dispatched, Dispatch.mains, Dispatch.others, List.singleton_append,
        List.forall_mem_cons] at sound fresh ⊢
      obtain ⟨after, left, turns, rfl⟩ := resolveMatchedIntentions_ok taken.2
      obtain ⟨owned, unmissed⟩ := turns.other (orderly.pairing dispatched)
      refine ⟨fun asset => ?_, unmissed _ fresh.1.2 fun y listed => (fresh.2 y listed).2⟩
      have before : after.owns x.who asset = s.owns x.who asset := by
        rw [who]
        exact owned key (who ▸ fresh.1.1) (fun y listed => who ▸ (fresh.2 y listed).1) asset
      split_ifs
      · have same := turns.same
        have apart : left.assets.assetIn ≠ left.assets.assetOut := same.assets ▸ sound.1.distinct
        rw [owns_single_of_ne who apart (same.who ▸ fresh.1.1), before]
      · exact before
  · next y single =>
      simp only [single, Dispatch.mains, Dispatch.others, List.nil_append,
        List.forall_mem_singleton] at sound fresh ⊢
      exact ⟨taken ▸ owns_single_of_ne who sound.distinct fresh.1 s, rfl⟩

/-- What a whole finalization has done to an intention: nothing before it is handed over, and
afterwards it is accounted for. -/
theorem accounted_of_run {past : List (State × Handing)}
    (registered : Xyk.PoolsRegistered cfg.amm s.amm)
    (run : Run (· = s) (Handing.Step cfg) past t)
    (orderly : Guarded (fun _ handing => handing.Orderly) past)
    (signer : ∃ key, x.who = .signer key)
    (fresh : Guarded (fun _ handing => ∀ y ∈ handing.intentions, y ≠ x →
      x.who ≠ y.who ∧ x.intentionId ≠ y.intentionId) past)
    (once : (handed past.reverse).Nodup) :
    s.events <+: t.events ∧
      (x ∈ handed past.reverse →
        Accounted s t x (missed cfg (past.reverse.flatMap (Handing.visits cfg)) x.intentionId)) ∧
      (x ∉ handed past.reverse → (∀ asset, t.owns x.who asset = s.owns x.who asset) ∧
        missed cfg (past.reverse.flatMap (Handing.visits cfg)) x.intentionId = 0) := by
  induction run with
  | start isStart =>
      subst isStart
      exact ⟨List.prefix_rfl, fun found => absurd found List.not_mem_nil,
        fun _ => ⟨fun _ => rfl, rfl⟩⟩
  | @extend past t u handing prior taken ih =>
      rw [guarded_cons] at orderly fresh
      rw [handed_reverse_cons] at once
      have apart := (List.nodup_append'.mp once).2.2
      obtain ⟨extended, after, before⟩ := ih orderly.2 fresh.2 (List.nodup_append'.mp once).1
      obtain ⟨_, emits, -, -⟩ := taken.reports orderly.1.opposed orderly.1.ids
      have stillRegistered := (kept_of_run prior).poolsRegistered registered
      rw [handed_reverse_cons, List.reverse_cons, List.flatMap_append, List.flatMap_singleton,
        missed_append, List.mem_append]
      refine ⟨extended.trans emits.extends, ?_, ?_⟩
      · rintro (earlier | now)
        · -- it was handed over before, and this step leaves it alone
          have gone : x ∉ handing.intentions := fun now => apart earlier now
          obtain ⟨owned, nothing⟩ := taken.other orderly.1 signer fun y listed =>
            fresh.1 y listed fun same => gone (same ▸ listed)
          obtain ⟨spent, filled⟩ := after earlier
          rw [← owned] at spent filled
          rw [nothing, add_zero]
          exact ⟨spent, fun isBuy => (filled isBuy).imp_left (Failed.mono emits.extends)⟩
        · have waiting : x ∉ handed past.reverse := fun earlier => apart earlier now
          obtain ⟨owned, nothing⟩ := before waiting
          obtain ⟨spent, filled⟩ := taken.accounted stillRegistered orderly.1 x now
          rw [owned] at spent filled
          rw [nothing, zero_add]
          exact ⟨spent, fun isBuy => (filled isBuy).imp_left (Failed.of_later extended)⟩
      · intro waiting
        rw [not_or] at waiting
        obtain ⟨owned, nothing⟩ := before waiting.1
        obtain ⟨owned', nothing'⟩ := taken.other orderly.1 signer fun y listed =>
          fresh.1 y listed fun same => waiting.2 (same ▸ listed)
        refine ⟨fun asset => (owned' asset).trans (owned asset), ?_⟩
        rw [nothing, nothing', add_zero]

/-- If the registered intentions belong to different accounts, everything a finalization hands
over is in order. -/
theorem Registered.orderly (inv : Registered cfg s)
    (accounts : ∀ x y, s.IsRegistered x → s.IsRegistered y → x.who = y.who → x = y)
    (nodup : (handed (handings cfg s order)).Nodup)
    (isRegistered : ∀ event ∈ handings cfg s order, ∀ x ∈ event.2.intentions, s.IsRegistered x) :
    Guarded (fun _ handing => handing.Orderly) (handings cfg s order).reverse := by
  rintro ⟨state, handing⟩ listed
  rw [List.mem_reverse] at listed
  have own : handing.intentions.Nodup := (List.nodup_flatMap.mp nodup).1 _ listed
  constructor
  · intro x found
    obtain ⟨queue, waiting⟩ := isRegistered _ listed x found
    have queued := inv.queued queue x waiting
    refine ⟨queued.signed, ?_, queued.amountIn⟩
    rw [queued.assets]
    exact queued.distinct
  · exact inv.opposed listed
  · intro main group dispatched
    obtain ⟨pair, -, taken⟩ := handings_takenFrom listed
    obtain ⟨unmatched, -, rfl⟩ := taken.group main group dispatched
    exact (takeMatched_shortestCover main.amountIn unmatched).shortest
  · exact inv.nodup_ids own (isRegistered _ listed)
  · exact nodup_who own (isRegistered _ listed) accounts

/-- If the registered intentions belong to different accounts, a finalization lets every sale
spend at most its amount and gives every purchase without a failure event exactly its amount,
exactly if what such a purchase misses in its turns adds up to nothing. -/
theorem volumes_kept_iff (reachable : Reachable Initial (Step cfg) s)
    (iterates : s.IterationOrder order)
    (accounts : ∀ x y, s.IsRegistered x → s.IsRegistered y → x.who = y.who → x = y)
    (finalized : onFinalize cfg s order = .ok t) :
    (∀ x, s.IsRegistered x → VolumeKept s t x) ↔
    ∀ x, s.IsRegistered x → x.sellOrBuy = .buy → ¬ Failed s t x →
      missed cfg (visits cfg s order) x.intentionId = 0 := by
  have inv := registered_of_reachable reachable
  obtain ⟨last, run, once, -, rfl⟩ := onFinalize_ok inv iterates finalized
  obtain ⟨nodup, registered⟩ := inv.handed_once iterates once
  have isRegistered : ∀ event ∈ handings cfg s order, ∀ x ∈ event.2.intentions,
      s.IsRegistered x := fun event listed x found =>
    (registered x).mp (List.mem_flatMap.mpr ⟨event, listed, found⟩)
  refine forall₂_congr fun x waiting => ?_
  have fresh : Guarded (fun _ handing => ∀ y ∈ handing.intentions, y ≠ x →
      x.who ≠ y.who ∧ x.intentionId ≠ y.intentionId) (handings cfg s order).reverse := by
    rintro ⟨state, handing⟩ listed y found other
    have also := isRegistered _ (List.mem_reverse.mp listed) y found
    obtain ⟨queue, queued⟩ := waiting
    obtain ⟨queue', queued'⟩ := also
    refine ⟨fun same => other (accounts y x ⟨queue', queued'⟩ ⟨queue, queued⟩ same.symm),
      fun same => other (inv.unique _ _ y queued' x queued same.symm)⟩
  obtain ⟨queue, queued⟩ := waiting
  have outcome := (accounted_of_run inv.pools run (inv.orderly accounts nodup isRegistered)
    (inv.queued queue x queued).signed fresh
    (by rwa [List.reverse_reverse])).2.1
  rw [List.reverse_reverse] at outcome
  exact (outcome ((registered x).mpr ⟨queue, queued⟩)).volumeKept_iff

/-- A purchase of asset 1 that a sale and a purchase of asset 2 and, for the rest, the pool
fill. -/
theorem volumes_kept_matched :
    ∃ s t, simulate FixedU128.one [.buy 1 1 2 6000 9000 false, .buy 2 2 1 2000 9000 false,
        .sell 3 1 2 2500 1000 false] = .ok s ∧
      onFinalize .reference s [(1, 2)] = .ok t ∧ (visits .reference s [(1, 2)]).length = 2 ∧
      ∀ x, s.IsRegistered x → VolumeKept s t x := by
  have computed : succeedsWith (simulate FixedU128.one
      [.buy 1 1 2 6000 9000 false, .buy 2 2 1 2000 9000 false, .sell 3 1 2 2500 1000 false])
      (fun s => succeedsWith (onFinalize .reference s [(1, 2)]) (fun t =>
        decide (s.IterationOrder [(1, 2)]) &&
        (decide ((visits .reference s [(1, 2)]).length = 2) &&
        (decide (∀ x ∈ s.sides (1, 2), ∀ y ∈ s.sides (1, 2), x.who = y.who → x = y) &&
        decide (∀ x ∈ s.sides (1, 2), x.sellOrBuy = .buy → ¬ Failed s t x →
          missed .reference (visits .reference s [(1, 2)]) x.intentionId = 0))))) = true := by
    decide +kernel
  simp only [succeedsWith_iff, Bool.and_eq_true, decide_eq_true_eq] at computed
  obtain ⟨s, run, t, finalized, iterates, turns, accounts, complete⟩ := computed
  have reachable := (reachableUnder_of_simulate run).reachable
  have all := ((registered_of_reachable reachable).all_sides iterates).2
  rw [List.flatMap_singleton] at all
  exact ⟨s, t, run, finalized, turns, (volumes_kept_iff reachable iterates
    (fun x y here there => accounts x ((all x).mpr here) y ((all y).mpr there)) finalized).mpr
    fun x isRegistered => complete x ((all x).mpr isRegistered)⟩

/-- At three units of asset 1 for one of asset 2 a purchase of 3000001 of asset 1 is quoted
1000000, and so is a purchase of 1000000 of asset 2 for 3000000: the match is exact in one
asset only, and the first purchase is one unit short without an event. -/
theorem volumes_not_kept :
    ¬ ∀ (cfg : Config) (s t : State) (order : List (AssetId × AssetId)),
      cfg.amm.math.Lawful → Reachable Initial (Step cfg) s → s.IterationOrder order →
      (∀ x y, s.IsRegistered x → s.IsRegistered y → x.who = y.who → x = y) →
      onFinalize cfg s order = .ok t →
      ∀ x, s.IsRegistered x → VolumeKept s t x := by
  intro claim
  have computed : succeedsWith (simulate 333333333333333333
      [.buy 1 1 2 3000001 10000000 false, .buy 2 2 1 1000000 10000000 false])
      (fun s => succeedsWith (onFinalize .reference s [(1, 2)]) (fun t =>
        decide (s.IterationOrder [(1, 2)]) &&
        (decide (∀ x ∈ s.sides (1, 2), ∀ y ∈ s.sides (1, 2), x.who = y.who → x = y) &&
        decide (∃ x ∈ s.sides (1, 2), x.sellOrBuy = .buy ∧ ¬ Failed s t x ∧
          t.owns x.who x.assets.assetOut + 1 =
            s.owns x.who x.assets.assetOut + x.amountOut)))) = true := by
    decide +kernel
  simp only [succeedsWith_iff, Bool.and_eq_true, decide_eq_true_eq] at computed
  obtain ⟨s, run, t, finalized, iterates, accounts, x, listed, isBuy, unnamed, missed⟩ := computed
  have reachable := (reachableUnder_of_simulate run).reachable
  have all := ((registered_of_reachable reachable).all_sides iterates).2
  rw [List.flatMap_singleton] at all
  have kept := claim .reference s t [(1, 2)] Xyk.Math.reference_lawful reachable iterates
    (fun x y here there => accounts x ((all x).mpr here) y ((all y).mpr there)) finalized x
    ((all x).mp listed)
  simp only [VolumeKept, isBuy] at kept
  have received := kept unnamed
  omega

end Finalization

end Basilisk.Exchange
