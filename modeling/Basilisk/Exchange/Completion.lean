/-
# When a finalization completes

The resolver takes the amounts of matched intentions off the main one and panics
when the side that is bought runs out before the side that is sold.  Amounts are
quoted and rounded one by one, so this does happen.  `Visit.Panics` tells it from
the amounts and balances a turn begins with.  A finalization completes exactly if
none of the turns it takes panics, and only then is every registered intention
handed over once and both maps emptied.
-/

import Basilisk.Exchange.Registration

namespace Basilisk.Exchange

open Basilisk.Math

variable {cfg : Config} {s t : State} {pool : AccountId} {order : List (AssetId × AssetId)}
variable {intention main left matched : Intention}

section Prepared

/-- The fees of a turn's trade, if the trade is not refused and both parties can reserve what
they have to pay. -/
def Visit.prepared (cfg : Config) (visit : Visit) : Option (ℕ × ℕ) :=
  let trade := tradeOf visit.main visit.matched
  let freeA := visit.state.ledger.free visit.main.who visit.main.assets.assetIn
  let freeB := visit.state.ledger.free visit.matched.who visit.main.assets.assetOut
  if refusal cfg visit.state visit.intention visit.main visit.matched = none ∧
      trade.amountFromA ≤ freeA ∧ trade.amountFromB ≤ freeB then
    (trade.fees cfg).filter fun fees =>
      toReserve visit.main trade.amountFromA fees.1 ≤ freeA ∧
        toReserve visit.matched trade.amountFromB fees.2 ≤ freeB
  else none

theorem Visit.prepared_eq_some_iff {fees : ℕ × ℕ} :
    Visit.prepared cfg ⟨pool, s, intention, main, matched⟩ = some fees ↔
      (refusal cfg s intention main matched = none ∧
        (tradeOf main matched).amountFromA ≤ s.ledger.free main.who main.assets.assetIn ∧
        (tradeOf main matched).amountFromB ≤ s.ledger.free matched.who main.assets.assetOut) ∧
      (tradeOf main matched).fees cfg = some fees ∧
      toReserve main (tradeOf main matched).amountFromA fees.1 ≤
        s.ledger.free main.who main.assets.assetIn ∧
      toReserve matched (tradeOf main matched).amountFromB fees.2 ≤
        s.ledger.free matched.who main.assets.assetOut := by
  unfold prepared
  dsimp only
  split_ifs with attempted
  · simp [attempted, Option.filter_eq_some_iff]
  · simp [attempted]

/-- A trade that was prepared. -/
theorem prepared_of_ready {prepared : State} {dt : DirectTradeData}
    (opposed : Opposed main matched) (allowed : refusal cfg s intention main matched = none)
    (ready : (tradeOf main matched).prepare cfg s pool = (prepared, dt, true)) :
    Visit.prepared cfg ⟨pool, s, intention, main, matched⟩ = (tradeOf main matched).fees cfg := by
  have outcome := (tradeOf main matched).preparation cfg pool s
  rw [ready] at outcome
  obtain _ | _ | _ | _ | _ | ⟨coveredA, coveredB, known, reservedA, reservedB⟩ := outcome
  rw [tradeOf_intentionA] at coveredA reservedA
  rw [tradeOf_intentionA, tradeOf_intentionB] at coveredB reservedB
  have enoughA := (Ledger.reserve_eq_some_iff.mp reservedA).1
  have enoughB := (Ledger.reserve_eq_some_iff.mp reservedB).1
  rw [Ledger.free_reserve_of_ne_currency reservedA _ opposed.distinct.symm] at enoughB
  rw [known]
  exact Visit.prepared_eq_some_iff.mpr
    ⟨⟨allowed, coveredA, coveredB⟩, known, enoughA, enoughB⟩

/-- A trade that could not be prepared. -/
theorem prepared_of_failed {after : State} {dt : DirectTradeData}
    (opposed : Opposed main matched)
    (failed : (tradeOf main matched).prepare cfg s pool = (after, dt, false)) :
    Visit.prepared cfg ⟨pool, s, intention, main, matched⟩ = none := by
  rw [Option.eq_none_iff_forall_ne_some]
  intro fees prepared
  obtain ⟨⟨-, coveredA, coveredB⟩, known, enoughA, enoughB⟩ :=
    Visit.prepared_eq_some_iff.mp prepared
  have outcome := (tradeOf main matched).preparation cfg pool s
  rw [failed] at outcome
  cases outcome with
  | shortA lacking =>
      rw [tradeOf_intentionA] at lacking
      exact absurd coveredA (not_le.mpr lacking)
  | shortB _ lacking =>
      rw [tradeOf_intentionA, tradeOf_intentionB] at lacking
      exact absurd coveredB (not_le.mpr lacking)
  | noFees _ unknown => exact absurd (unknown.symm.trans known) nofun
  | refusedA _ known' refused =>
      obtain rfl := Option.some.inj (known'.symm.trans known)
      rw [tradeOf_intentionA, Ledger.reserve_eq_none_iff] at refused
      exact absurd enoughA (not_le.mpr refused)
  | refusedB _ _ known' reservedA refused =>
      obtain rfl := Option.some.inj (known'.symm.trans known)
      rw [tradeOf_intentionA] at reservedA
      rw [tradeOf_intentionA, tradeOf_intentionB, Ledger.reserve_eq_none_iff,
        Ledger.free_reserve_of_ne_currency reservedA _ opposed.distinct.symm] at refused
      exact absurd enoughB (not_le.mpr refused)

theorem prepared_of_refused {refused : Intention × ErrorDetail}
    (refusing : refusal cfg s intention main matched = some refused) :
    Visit.prepared cfg ⟨pool, s, intention, main, matched⟩ = none := by
  rw [Option.eq_none_iff_forall_ne_some]
  intro fees prepared
  have allowed := (Visit.prepared_eq_some_iff.mp prepared).1.1
  exact absurd (allowed.symm.trans refusing) nofun

end Prepared

section Panics

/-- The turn panics.  A matched intention that is smaller than what is left of the main one is
traded first, and then brings more than the main intention has left to buy, or in a build with
overflow checks costs more than the limit of a purchase has left; a larger one has less to give
than the main intention has left to buy. -/
def Visit.Panics (cfg : Config) (visit : Visit) : Prop :=
  let main := visit.main
  let matched := visit.matched
  if matched.amountOut < main.amountIn then
    (visit.prepared cfg).isSome = true ∧
      (main.amountOut < matched.amountIn ∨
        cfg.overflowChecks = true ∧ main.sellOrBuy = .buy ∧ main.tradeLimit < matched.amountOut)
  else main.amountIn < matched.amountOut ∧ matched.amountIn < main.amountOut

instance (cfg : Config) (visit : Visit) : Decidable (visit.Panics cfg) :=
  inferInstanceAs (Decidable (if visit.matched.amountOut < visit.main.amountIn then _ else _))

theorem restLimit_ok_iff :
    (∃ limit, restLimit cfg main matched = .ok limit) ↔
      ¬ (cfg.overflowChecks = true ∧ main.sellOrBuy = .buy ∧
        main.tradeLimit < matched.amountOut) := by
  unfold restLimit
  cases main.sellOrBuy with
  | sell => simp
  | buy =>
      dsimp only
      split_ifs with covered checks
      · simp [covered]
      · simp [checks, not_le.mp covered]
      · simp [checks]

theorem resolveWhole_ok_iff (opposed : Opposed main matched)
    (whole : matched.amountOut < main.amountIn) (intention : Intention) :
    (∃ result, resolveWhole cfg pool main matched s = .ok result) ↔
      ¬ ((Visit.prepared cfg ⟨pool, s, intention, main, matched⟩).isSome = true ∧
        (main.amountOut < matched.amountIn ∨ cfg.overflowChecks = true ∧
          main.sellOrBuy = .buy ∧ main.tradeLimit < matched.amountOut)) := by
  have trade : tradeOf main matched =
      ⟨main, matched, matched.amountOut, matched.amountIn, []⟩ := if_pos whole
  have refusing : refusal cfg s intention main matched =
      (limitError matched matched.amountOut matched.amountIn).map (matched, .exchange ·) :=
    if_pos whole
  unfold resolveWhole
  rw [← trade]
  dsimp only
  split
  · next error limited =>
      rw [trade] at limited
      rw [limited, Option.map_some] at refusing
      simp [prepared_of_refused refusing]
  · next limited =>
      rw [trade] at limited
      rw [limited, Option.map_none] at refusing
      split
      · next prepared dt ready =>
          obtain ⟨feeA, feeB, known, -⟩ := DirectTradeData.prepare_true ready
          rw [prepared_of_ready opposed refusing ready, known, Option.isSome_some, eq_self,
            true_and, not_or, ← restLimit_ok_iff, not_lt]
          simp only [bind_eq_ok, okOr_eq_ok, checkedSub_eq_some, return_eq_ok]
          constructor
          · rintro ⟨_, _, ⟨enough, -⟩, limit, limited, -⟩
            exact ⟨enough, limit, limited⟩
          · rintro ⟨enough, limit, limited⟩
            exact ⟨_, _, ⟨enough, rfl⟩, limit, limited, rfl⟩
      · next after dt failed => simp [prepared_of_failed opposed failed]

theorem resolvePart_ok_iff :
    (∃ result, resolvePart cfg pool main matched s = .ok result) ↔
      main.amountOut ≤ matched.amountIn := by
  simp only [resolvePart, bind_eq_ok, okOr_eq_ok, checkedSub_eq_some]
  constructor
  · rintro ⟨_, _, ⟨enough, -⟩, -⟩
    exact enough
  · intro enough
    rw [exists_comm]
    simp only [exists_and_left]
    refine ⟨_, ⟨enough, rfl⟩, ?_⟩
    -- whatever the pool and the reservations answer, the turn ends
    split
    · exact ⟨_, rfl⟩
    · split
      · split
        · exact ⟨_, rfl⟩
        · exact ⟨_, rfl⟩
      · exact ⟨_, rfl⟩

/-- A turn panics exactly if its amounts and balances say so. -/
theorem resolveMatched_ok_iff (opposed : Opposed main matched) :
    (∃ result, resolveMatched cfg pool intention (s, main) matched = .ok result) ↔
      ¬ Visit.Panics cfg ⟨pool, s, intention, main, matched⟩ := by
  unfold resolveMatched Visit.Panics
  dsimp only
  split_ifs with whole part
  · exact resolveWhole_ok_iff opposed whole intention
  · rw [resolvePart_ok_iff, and_iff_right part, not_lt]
  · simp [part]

end Panics

section Builds

/-- The same runtime, built with or without overflow checks. -/
def Config.built (cfg : Config) (checks : Bool) : Config :=
  { cfg with overflowChecks := checks }

variable {checks : Bool}

theorem restLimit_built {limit : ℕ} (stricter : cfg.overflowChecks = true → checks = true)
    (limited : restLimit (cfg.built checks) main matched = .ok limit) :
    restLimit cfg main matched = .ok limit := by
  unfold restLimit at limited ⊢
  cases kind : main.sellOrBuy with
  | sell =>
      simp only [kind] at limited ⊢
      exact limited
  | buy =>
      simp only [kind] at limited ⊢
      by_cases covered : matched.amountOut ≤ main.tradeLimit
      · rw [if_pos covered] at limited ⊢
        exact limited
      · rw [if_neg covered] at limited ⊢
        by_cases trapped : (cfg.built checks).overflowChecks = true
        · rw [if_pos trapped] at limited
          cases limited
        · rw [if_neg trapped] at limited
          rw [if_neg (mt stricter trapped)]
          exact limited

/-- What a turn does not trap in the stricter build, it does not trap in the other one, and the
result is the same. -/
theorem resolveMatched_built {result : State × Intention}
    (stricter : cfg.overflowChecks = true → checks = true)
    (resolved : resolveMatched (cfg.built checks) pool intention (s, main) matched = .ok result) :
    resolveMatched cfg pool intention (s, main) matched = .ok result := by
  unfold resolveMatched at resolved ⊢
  dsimp only at resolved ⊢
  split_ifs at resolved ⊢ with whole part
  · have prepares : ∀ dt : DirectTradeData,
        dt.prepare (cfg.built checks) s pool = dt.prepare cfg s pool := fun _ => rfl
    unfold resolveWhole at resolved ⊢
    dsimp only at resolved ⊢
    rw [prepares] at resolved
    split at resolved
    · exact resolved
    · split at resolved
      · simp only [bind_eq_ok, okOr_eq_ok, return_eq_ok] at resolved ⊢
        obtain ⟨amountOut, enough, limit, limited, same⟩ := resolved
        exact ⟨amountOut, enough, limit, restLimit_built stricter limited, same⟩
      · exact resolved
  · exact resolved
  · exact resolved

end Builds

section Lockstep

/-- A computation of a stricter build beside the same one of another build: what completes in
the stricter build does in the other, with the same result, and it completes exactly if none of
its turns panics there. -/
structure Lockstep {α : Type} (strict : Config) (checked plain : Except Panic α)
    (turns : List Visit) : Prop where
  same : ∀ result, checked = .ok result → plain = .ok result
  completes : (∃ result, checked = .ok result) ↔ ∀ visit ∈ turns, ¬ visit.Panics strict

variable {α β : Type} {strict : Config} {checks : Bool} {turns turns' : List Visit}
variable {pair : AssetId × AssetId} {group mains rest : List Intention}

theorem lockstep_ok (result : α) : Lockstep strict (.ok result) (.ok result) [] :=
  ⟨fun _ => id, by simp⟩

theorem Lockstep.bind {checked plain : Except Panic α} {next next' : α → Except Panic β}
    (first : Lockstep strict checked plain turns)
    (second : ∀ result, checked = .ok result →
      Lockstep strict (next result) (next' result) turns') :
    Lockstep strict (checked >>= next) (plain >>= next') (turns ++ turns') where
  same result completed := by
    obtain ⟨between, reached, completed⟩ := bind_eq_ok.mp completed
    exact bind_eq_ok.mpr ⟨between, first.same _ reached, (second _ reached).same _ completed⟩
  completes := by
    rw [List.forall_mem_append, ← first.completes]
    simp only [bind_eq_ok]
    constructor
    · rintro ⟨result, between, reached, completed⟩
      exact ⟨⟨between, reached⟩, (second _ reached).completes.mp ⟨result, completed⟩⟩
    · rintro ⟨⟨between, reached⟩, fine⟩
      obtain ⟨result, completed⟩ := (second _ reached).completes.mpr fine
      exact ⟨result, between, reached, completed⟩

section Finalizing

variable (stricter : cfg.overflowChecks = true → checks = true)
include stricter

theorem lockstep_turn (opposed : Opposed main matched) :
    Lockstep (cfg.built checks)
      (resolveMatched (cfg.built checks) pool intention (s, main) matched)
      (resolveMatched cfg pool intention (s, main) matched)
      [⟨pool, s, intention, main, matched⟩] where
  same _ := resolveMatched_built stricter
  completes := by
    rw [resolveMatched_ok_iff opposed, List.forall_mem_singleton]

/-- The turns over a group, by induction on the group. -/
theorem lockstep_group (opposed : ∀ matched ∈ group, Opposed main matched) :
    Lockstep (cfg.built checks)
      (group.foldlM (resolveMatched (cfg.built checks) pool intention) (s, main))
      (group.foldlM (resolveMatched cfg pool intention) (s, main))
      (groupVisits cfg pool intention s main group) := by
  induction group generalizing s main with
  | nil => exact lockstep_ok _
  | cons matched group ih =>
      rw [List.forall_mem_cons] at opposed
      rw [List.foldlM_cons, List.foldlM_cons, groupVisits, ← List.singleton_append]
      refine (lockstep_turn stricter opposed.1).bind ?_
      rintro ⟨after, left⟩ checked
      have resolved := resolveMatched_built stricter checked
      rw [resolved]
      exact ih fun other listed =>
        (opposed.2 other listed).of_same (resolveMatched_ok resolved).same

theorem lockstep_matched (opposed : ∀ matched ∈ group, Opposed main matched) :
    Lockstep (cfg.built checks) (resolveMatchedIntentions (cfg.built checks) pool s main group)
      (resolveMatchedIntentions cfg pool s main group)
      (groupVisits cfg pool main s main group) := by
  rw [← List.append_nil (groupVisits cfg pool main s main group)]
  exact (lockstep_group stricter opposed).bind fun _ _ => lockstep_ok _

omit stricter in
theorem handSingles_visits (pair : AssetId × AssetId) (s : State) (rest : List Intention) :
    (handSingles cfg pair s rest).flatMap (Handing.visits cfg) = [] := by
  induction rest generalizing s with
  | nil => rfl
  | cons intention rest ih =>
      rw [handSingles, List.flatMap_cons, ih]
      rfl

/-- The loop over the main intentions of a pair, by induction on them. -/
theorem lockstep_mains (opposed : ∀ main ∈ mains, ∀ matched ∈ rest, Opposed main matched) :
    Lockstep (cfg.built checks)
      (dispatchMains (cfg.built checks) (Xyk.getPairId ⟨pair.1, pair.2⟩) s mains rest)
      (dispatchMains cfg (Xyk.getPairId ⟨pair.1, pair.2⟩) s mains rest)
      ((handMains cfg pair s mains rest).flatMap (Handing.visits cfg)) := by
  induction mains generalizing s rest with
  | nil =>
      rw [handMains, handSingles_visits]
      exact lockstep_ok _
  | cons main mains ih =>
      rw [List.forall_mem_cons] at opposed
      have same : validate (cfg.built checks) s main = validate cfg s main := rfl
      rw [dispatchMains, dispatchMains, handMains, same]
      split
      · exact ih opposed.2
      · have group := takeMatched_shortestCover main.amountIn rest
        refine (lockstep_matched stricter fun matched listed =>
          opposed.1 matched (group.initial.subset listed)).bind ?_
        intro after checked
        have resolved := (lockstep_matched stricter fun matched listed =>
          opposed.1 matched (group.initial.subset listed)).same after checked
        rw [resolved]
        exact ih fun other listed matched found =>
          opposed.2 other listed matched (List.mem_of_mem_drop found)

theorem lockstep_pair (pair : AssetId × AssetId) (inv : Registered cfg s) :
    Lockstep (cfg.built checks) (finalizePair (cfg.built checks) s pair) (finalizePair cfg s pair)
      ((handPair cfg s pair).flatMap (Handing.visits cfg)) := by
  unfold finalizePair handPair
  split_ifs
  · exact lockstep_ok _
  · rw [processExchangeIntentions_eq, processExchangeIntentions_eq]
    refine lockstep_mains stricter fun main isMain matched isOther => ?_
    have known := inv.queued _ main ((List.perm_insertionSort _ _).mem_iff.mp isMain)
    have other := inv.queued _ matched ((List.perm_insertionSort _ _).mem_iff.mp isOther)
    constructor
    · rw [known.assets, other.assets]
      rfl
    · rw [known.assets]
      exact known.distinct

theorem lockstep_order (inv : Registered cfg s) :
    Lockstep (cfg.built checks) (order.foldlM (finalizePair (cfg.built checks)) s)
      (order.foldlM (finalizePair cfg) s) (visits cfg s order) := by
  induction order generalizing s with
  | nil => exact lockstep_ok _
  | cons pair order ih =>
      have first := lockstep_pair stricter pair inv
      rw [List.foldlM_cons, List.foldlM_cons, visits, handings, List.flatMap_append]
      refine first.bind fun after checked => ?_
      have finalized := first.same after checked
      rw [finalized]
      exact ih (inv.of_kept (kept_of_run (finalizePair_run finalized)))

/-- A whole finalization. -/
theorem lockstep_finalize (order : List (AssetId × AssetId)) (inv : Registered cfg s) :
    Lockstep (cfg.built checks) (onFinalize (cfg.built checks) s order) (onFinalize cfg s order)
      (visits cfg s order) := by
  rw [← List.append_nil (visits cfg s order)]
  exact (lockstep_order stricter inv).bind fun _ _ => lockstep_ok _

end Finalizing

end Lockstep

/-- A finalization completes without a panic, and trapping the subtraction from the limit would
make no difference to it, exactly if in none of the turns it takes the amounts or the limit of
the main intention run out. -/
theorem finalization_never_panics_iff (reachable : Reachable Initial (Step cfg) s) :
    (∃ t, onFinalize cfg s order = .ok t ∧ onFinalize (cfg.built true) s order = .ok t) ↔
      ∀ visit ∈ visits cfg s order, ¬ visit.Panics (cfg.built true) := by
  have both := lockstep_finalize (fun _ => rfl) order (registered_of_reachable reachable)
  rw [← both.completes]
  constructor
  · rintro ⟨t, -, checked⟩
    exact ⟨t, checked⟩
  · rintro ⟨t, checked⟩
    exact ⟨t, both.same t checked, checked⟩

/-- At 1000 of asset 1 for one of asset 2, a sale of 2000 of asset 2 is matched with
sales of 1000000 and of 999999 of asset 1, quoted at 1000 and 999. -/
theorem finalization_never_panics_rounded :
    ∃ s t, simulate (10 ^ 15) [.sell 1 2 1 2000 1 false, .sell 2 1 2 1000000 1 false,
        .sell 3 1 2 999999 1 false] = .ok s ∧
      (visits .reference s [(1, 2)]).length = 2 ∧ onFinalize .reference s [(1, 2)] = .ok t ∧
      onFinalize (Config.reference.built true) s [(1, 2)] = .ok t := by
  have computed : succeedsWith (simulate (10 ^ 15)
      [.sell 1 2 1 2000 1 false, .sell 2 1 2 1000000 1 false, .sell 3 1 2 999999 1 false])
      (fun s => decide ((visits .reference s [(1, 2)]).length = 2) &&
        decide (∀ visit ∈ visits .reference s [(1, 2)],
          ¬ visit.Panics (Config.reference.built true))) = true := by
    decide +kernel
  simp only [succeedsWith_iff, Bool.and_eq_true, decide_eq_true_eq] at computed
  obtain ⟨s, run, turns, fine⟩ := computed
  obtain ⟨t, plain, checked⟩ :=
    (finalization_never_panics_iff (reachableUnder_of_simulate run).reachable).mpr fine
  exact ⟨s, t, run, turns, plain, checked⟩

/-- With 1000999 in place of 1000000 the first of the two matched sales is rounded down by
almost one of asset 2, and the second one brings more of asset 1 than the main intention
has left to buy. -/
theorem finalization_panics :
    ¬ ∀ (cfg : Config) (s : State) (order : List (AssetId × AssetId)) (panic : Panic),
      cfg.amm.math.Lawful →
      ReachableUnder Initial (Step cfg) (fun _ label => label.isCall = true) s →
      s.IterationOrder order → onFinalize cfg s order ≠ .error panic := by
  intro claim
  have computed : succeedsWith (simulate (10 ^ 15)
      [.sell 1 2 1 2000 1 false, .sell 2 1 2 1000999 1 false, .sell 3 1 2 999999 1 false])
      (fun s => failsWith (onFinalize .reference s [(1, 2)]) .inOutCalculations &&
        decide (s.IterationOrder [(1, 2)])) = true := by
    decide +kernel
  simp only [succeedsWith_iff, Bool.and_eq_true, failsWith_iff, decide_eq_true_eq] at computed
  obtain ⟨s, run, stopped, iterates⟩ := computed
  exact claim .reference s [(1, 2)] .inOutCalculations Xyk.Math.reference_lawful
    (reachableUnder_of_simulate run) iterates stopped

/-- The finalization that ends in `t` has handed over every registered intention exactly once, in
the order of the sorted sides and in shortest groups, and has emptied both maps. -/
structure Dispatched (cfg : Config) (s : State) (order : List (AssetId × AssetId)) (t : State) :
    Prop where
  once : (handed (handings cfg s order)).Nodup
  all : ∀ x, x ∈ handed (handings cfg s order) ↔ s.IsRegistered x
  plan : ∀ pair ∈ order, ∃ mains others,
    mains.Perm (s.intentionsOf (pair.2, pair.1)) ∧
    others.Perm (s.intentionsOf (pair.1, pair.2)) ∧
    (mains.Pairwise fun x y => y.amountIn ≤ x.amountIn) ∧
    (others.Pairwise fun x y => y.amountIn ≤ x.amountIn) ∧
    Plan mains others (dispatchesOf pair (handings cfg s order)) [] []
  run : ∃ last, Run (· = s) (Handing.Step cfg) (handings cfg s order).reverse last ∧
    t = { last with intentionCount := ∅, intentions := ∅ }

theorem dispatched_of_ok (inv : Registered cfg s) (iterates : s.IterationOrder order)
    (finalized : onFinalize cfg s order = .ok t) : Dispatched cfg s order t := by
  obtain ⟨last, run, once, completed, rfl⟩ := onFinalize_ok inv iterates finalized
  have unrepeated : order.Nodup := iterates.nodup_iff.mpr s.intentionCount.nodupKeys
  obtain ⟨distinct, registered⟩ := inv.handed_once iterates once
  refine ⟨distinct, registered, fun pair listed => ?_, last, run, rfl⟩
  exact ⟨_, _, List.perm_insertionSort _ _, List.perm_insertionSort _ _,
    sortByAmountIn_sorted _, sortByAmountIn_sorted _,
    handings_plan (inv.idle iterates) unrepeated completed pair listed⟩

/-- Counts are the lengths of both queues, and nothing is ever handed over twice or without
being registered.  A finalization completes and hands every registered intention over exactly
once exactly if none of the turns it takes panics; otherwise it stops in a matched group. -/
theorem intentions_dispatched_once_iff (reachable : Reachable Initial (Step cfg) s)
    (iterates : s.IterationOrder order) :
    (∀ lo hi, lo < hi → s.countOf (lo, hi) =
      (s.intentionsOf (lo, hi)).length + (s.intentionsOf (hi, lo)).length) ∧
    ((∃ t, onFinalize cfg s order = .ok t ∧ Dispatched cfg s order t) ↔
      ∀ visit ∈ visits cfg s order, ¬ visit.Panics cfg) ∧
    ∀ panic, onFinalize cfg s order = .error panic →
      (handed (handings cfg s order)).Nodup ∧
      (∀ x ∈ handed (handings cfg s order), s.IsRegistered x) ∧
      ∃ before after pair main group,
        handings cfg s order = before ++ [(after, ⟨pair, .matched main group⟩)] ∧
        Run (· = s) (Handing.Step cfg) before.reverse after ∧
        resolveMatchedIntentions cfg (Xyk.getPairId ⟨pair.1, pair.2⟩) after main group =
          .error panic := by
  have inv := registered_of_reachable reachable
  have completes : (∃ t, onFinalize cfg s order = .ok t) ↔
      ∀ visit ∈ visits cfg s order, ¬ visit.Panics cfg :=
    (lockstep_finalize (id : cfg.overflowChecks = true → _) order inv).completes
  refine ⟨inv.counted, ?_, ?_⟩
  · rw [← completes]
    constructor
    · rintro ⟨t, finalized, -⟩
      exact ⟨t, finalized⟩
    · rintro ⟨t, finalized⟩
      exact ⟨t, finalized, dispatched_of_ok inv iterates finalized⟩
  · intro panic stopped
    simp only [onFinalize, bind_eq_error, return_ne_error, and_false, exists_false,
      or_false] at stopped
    obtain ⟨nodup, all⟩ := inv.all_sides iterates
    obtain ⟨before, after, pair, main, group, listed, run, failed, within⟩ :=
      handings_error (inv.idle iterates) stopped
    refine ⟨?_, fun x found => (all x).mp (within.subset found), before, after, pair, main,
      group, listed, run, failed⟩
    obtain ⟨sub, same, isSub⟩ := within
    exact same.nodup_iff.mp (nodup.sublist isSub)

/-- A sale of asset 2 against two purchases of it. -/
theorem intentions_dispatched_once_three :
    ∃ s t, simulate FixedU128.one [.sell 1 2 1 5000 1 false, .buy 2 2 1 2000 9000 false,
        .buy 3 2 1 2500 9000 false] = .ok s ∧ s.countOf (1, 2) = 3 ∧
      onFinalize .reference s [(1, 2)] = .ok t ∧ Dispatched .reference s [(1, 2)] t := by
  have computed : succeedsWith (simulate FixedU128.one
      [.sell 1 2 1 5000 1 false, .buy 2 2 1 2000 9000 false, .buy 3 2 1 2500 9000 false])
      (fun s => decide (s.countOf (1, 2) = 3) && (decide (s.IterationOrder [(1, 2)]) &&
        decide (∀ visit ∈ visits .reference s [(1, 2)], ¬ visit.Panics .reference))) = true := by
    decide +kernel
  simp only [succeedsWith_iff, Bool.and_eq_true, decide_eq_true_eq] at computed
  obtain ⟨s, run, counted, iterates, fine⟩ := computed
  obtain ⟨-, completes, -⟩ :=
    intentions_dispatched_once_iff (reachableUnder_of_simulate run).reachable iterates
  obtain ⟨t, finalized, dispatched⟩ := completes.mpr fine
  exact ⟨s, t, run, counted, finalized, dispatched⟩

/-- After the panic nothing more is handed over: of four intentions the sale of 1000 of asset 2
never is. -/
theorem intentions_not_dispatched :
    ¬ ∀ (cfg : Config) (s : State) (order : List (AssetId × AssetId)),
      cfg.amm.math.Lawful →
      ReachableUnder Initial (Step cfg) (fun _ label => label.isCall = true) s →
      s.IterationOrder order → ∀ x, s.IsRegistered x → x ∈ handed (handings cfg s order) := by
  intro claim
  have computed : succeedsWith (simulate (10 ^ 15)
      [.sell 1 2 1 2000 1 false, .sell 2 1 2 1000999 1 false, .sell 3 1 2 999999 1 false,
        .sell 4 2 1 1000 1 false])
      (fun s => decide (s.IterationOrder [(1, 2)]) &&
        decide (∃ x ∈ s.intentionsOf (2, 1), x ∉ handed (handings .reference s [(1, 2)]))) =
      true := by
    decide +kernel
  simp only [succeedsWith_iff, Bool.and_eq_true, decide_eq_true_eq] at computed
  obtain ⟨s, run, iterates, x, waiting, missing⟩ := computed
  exact missing (claim .reference s [(1, 2)] Xyk.Math.reference_lawful
    (reachableUnder_of_simulate run) iterates x ⟨(2, 1), waiting⟩)

end Basilisk.Exchange
