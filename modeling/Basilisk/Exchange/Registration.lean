/-
# Registered intentions and their dispatch

The count of an ordered pair is the number of intentions in its two queues, every
intention is queued under what it sells and buys, and the identifiers of a block
are pairwise different.  From this it follows that a finalization that completes
hands every registered intention to the resolver exactly once.
-/

import Basilisk.Exchange.Dispatch
import Basilisk.Xyk.Liquidity

namespace Basilisk.Exchange

open Basilisk.Math

variable {cfg : Config} {s t : State} {order : List (AssetId × AssetId)}

/-- What is known of an intention that waits in a queue. -/
structure Queued (s : State) (queue : AssetId × AssetId) (x : Intention) : Prop where
  assets : x.assets = ⟨queue.1, queue.2⟩
  distinct : queue.1 ≠ queue.2
  signed : ∃ key, x.who = .signer key
  amountIn : 0 < x.amountIn
  amountOut : 0 < x.amountOut
  idPair : x.intentionId.orderedPair = x.assets.orderedPair
  idCount : x.intentionId.count < s.countOf x.assets.orderedPair

/-- The storage invariant. -/
structure Registered (cfg : Config) (s : State) : Prop where
  pools : Xyk.PoolsRegistered cfg.amm s.amm
  ordered : ∀ pair ∈ s.intentionCount, pair.1 < pair.2
  counted : ∀ lo hi, lo < hi →
    s.countOf (lo, hi) = (s.intentionsOf (lo, hi)).length + (s.intentionsOf (hi, lo)).length
  queued : ∀ queue, ∀ x ∈ s.intentionsOf queue, Queued s queue x
  unique : ∀ queue queue', ∀ x ∈ s.intentionsOf queue, ∀ y ∈ s.intentionsOf queue',
    x.intentionId = y.intentionId → x = y
  nodup : ∀ queue, (s.intentionsOf queue).Nodup

/-- The intention waits in some queue. -/
def State.IsRegistered (s : State) (x : Intention) : Prop :=
  ∃ queue, x ∈ s.intentionsOf queue

section Registering

variable {who : AccountId} {kind : IntentionType} {assets : AssetPair}
variable {amountIn amountOut limit : ℕ} {discount : Bool}

theorem registerIntention_ok
    (registered : registerIntention s who kind assets amountIn amountOut limit discount =
      .ok t) :
    t.amm = s.amm ∧ t.blockNumber = s.blockNumber ∧
      t.intentionCount = s.intentionCount.insert assets.orderedPair
        (s.countOf assets.orderedPair + 1) ∧
      t.intentions = s.intentions.insert (assets.assetIn, assets.assetOut)
        (s.intentionsOf (assets.assetIn, assets.assetOut) ++
          [⟨who, assets, amountIn, amountOut, limit, discount, kind,
            generateIntentionId s who (s.countOf assets.orderedPair) assets⟩]) := by
  simp only [registerIntention, bind_eq_ok, okOr_eq_ok, checkedAdd_eq_some] at registered
  obtain ⟨_, ⟨-, rfl⟩, registered⟩ := registered
  cases kind with
  | sell =>
      obtain rfl := return_eq_ok.mp registered
      exact ⟨rfl, rfl, rfl, rfl⟩
  | buy =>
      obtain rfl := return_eq_ok.mp registered
      exact ⟨rfl, rfl, rfl, rfl⟩

/-- A call registers one intention of the signer, for a pair that has a pool and
with amounts that are not zero. -/
theorem dispatch_ok {call : Call} (called : dispatch cfg s call = .ok t) :
    ∃ key kind assets amountIn amountOut limit discount,
      s.amm.poolExists assets = true ∧ 0 < amountIn ∧ 0 < amountOut ∧
      registerIntention s (.signer key) kind assets amountIn amountOut limit discount =
        .ok t := by
  cases call with
  | sell key assetSell assetBuy amountSell minBought discount =>
      simp only [dispatch, sell, bind_eq_ok, ensure_eq_ok, exists_const] at called
      obtain ⟨enough, present, -, priced, registered⟩ := called
      have positive : 0 < amountSell := lt_of_lt_of_le (by decide) enough
      exact ⟨_, _, _, _, _, _, _, present, positive, Nat.pos_of_ne_zero priced, registered⟩
  | buy key assetBuy assetSell amountBuy maxSold discount =>
      simp only [dispatch, buy, bind_eq_ok, ensure_eq_ok, exists_const] at called
      obtain ⟨enough, present, priced, -, registered⟩ := called
      have positive : 0 < amountBuy := lt_of_lt_of_le (by decide) enough
      exact ⟨_, _, _, _, _, _, _, present, Nat.pos_of_ne_zero priced, positive, registered⟩

end Registering

section Invariant

/-- The two directions of a pair are counted together. -/
theorem orderedPair_eq_iff (queue : AssetId × AssetId) {lo hi : AssetId} (ordered : lo < hi) :
    AssetPair.orderedPair ⟨queue.1, queue.2⟩ = (lo, hi) ↔ queue = (lo, hi) ∨ queue = (hi, lo) := by
  obtain ⟨first, second⟩ := queue
  constructor
  · intro same
    unfold AssetPair.orderedPair at same
    split_ifs at same
    · exact .inl same
    · right
      obtain ⟨rfl, rfl⟩ := Prod.mk.inj same
      rfl
  · rintro (same | same)
    · obtain ⟨rfl, rfl⟩ := Prod.mk.inj same
      exact AssetPair.orderedPair_of_lt ordered
    · obtain ⟨rfl, rfl⟩ := Prod.mk.inj same
      exact AssetPair.orderedPair_of_not_lt (UInt32.lt_asymm ordered)

theorem orderedPair_lt {assets : AssetPair} (distinct : assets.assetIn ≠ assets.assetOut) :
    assets.orderedPair.1 < assets.orderedPair.2 := by
  unfold AssetPair.orderedPair
  split_ifs with le
  · exact UInt32.lt_of_le_of_ne le distinct
  · exact UInt32.not_le.mp le

theorem Registered.initial (initial : Initial s) : Registered cfg s := by
  have noCount : ∀ pair, s.countOf pair = 0 := fun pair => by
    rw [State.countOf, initial.intentionCount]
    rfl
  have noQueue : ∀ queue, s.intentionsOf queue = [] := fun queue => by
    rw [State.intentionsOf, initial.intentions]
    rfl
  constructor
  · intro account token stored
    rw [initial.amm.shareToken] at stored
    cases stored
  · intro pair listed
    rw [initial.intentionCount] at listed
    exact absurd listed (AList.notMem_empty pair)
  · intro lo hi _
    simp [noCount, noQueue]
  · simp [noQueue]
  · simp [noQueue]
  · simp [noQueue]

section Appending

variable {new : Intention} {assets : AssetPair}

theorem countOf_of_insert {pair : AssetId × AssetId} {count : ℕ}
    (counts : t.intentionCount = s.intentionCount.insert pair count) (other : AssetId × AssetId) :
    t.countOf other = if other = pair then count else s.countOf other := by
  rw [State.countOf, counts, AList.lookup_insert_eq_ite]
  split_ifs <;> rfl

theorem intentionsOf_of_insert {queue : AssetId × AssetId} {xs : List Intention}
    (queues : t.intentions = s.intentions.insert queue xs) (other : AssetId × AssetId) :
    t.intentionsOf other = if other = queue then xs else s.intentionsOf other := by
  rw [State.intentionsOf, queues, AList.lookup_insert_eq_ite]
  split_ifs <;> rfl

/-- Whatever is queued was queued before or is the new intention. -/
theorem queued_of_append {queue other : AssetId × AssetId} {x : Intention}
    (queues : t.intentions = s.intentions.insert queue (s.intentionsOf queue ++ [new]))
    (listed : x ∈ t.intentionsOf other) :
    x ∈ s.intentionsOf other ∨ other = queue ∧ x = new := by
  rw [intentionsOf_of_insert queues] at listed
  split_ifs at listed with here
  · obtain old | isNew := List.mem_append.mp listed
    · exact .inl (here ▸ old)
    · exact .inr ⟨here, List.mem_singleton.mp isNew⟩
  · exact .inl listed

/-- Older identifiers of the pair carry smaller counts. -/
theorem Registered.id_ne (inv : Registered cfg s) {queue : AssetId × AssetId} {x : Intention}
    (listed : x ∈ s.intentionsOf queue) (who : AccountId) (assets : AssetPair) :
    x.intentionId ≠ generateIntentionId s who (s.countOf assets.orderedPair) assets := by
  intro same
  have known := inv.queued queue x listed
  have pair : x.assets.orderedPair = assets.orderedPair :=
    known.idPair.symm.trans (congrArg IntentionId.orderedPair same)
  have below := known.idCount
  rw [pair, same] at below
  exact lt_irrefl _ below

/-- The count of a pair follows the queues of both its directions. -/
theorem Registered.counted_append (inv : Registered cfg s)
    (counts : t.intentionCount = s.intentionCount.insert assets.orderedPair
      (s.countOf assets.orderedPair + 1))
    (queues : t.intentions = s.intentions.insert (assets.assetIn, assets.assetOut)
      (s.intentionsOf (assets.assetIn, assets.assetOut) ++ [new]))
    (lo hi : AssetId) (lt : lo < hi) :
    t.countOf (lo, hi) =
      (t.intentionsOf (lo, hi)).length + (t.intentionsOf (hi, lo)).length := by
  have before := inv.counted lo hi lt
  have apart : (lo, hi) ≠ (hi, lo) := fun same =>
    UInt32.lt_irrefl lo ((Prod.mk.inj same).1 ▸ lt)
  have pair := orderedPair_eq_iff (assets.assetIn, assets.assetOut) lt
  rw [countOf_of_insert counts, intentionsOf_of_insert queues, intentionsOf_of_insert queues]
  by_cases low : (assets.assetIn, assets.assetOut) = (lo, hi)
  · rw [if_pos (pair.mpr (.inl low)).symm, if_pos low.symm,
      if_neg (low.symm ▸ apart.symm), List.length_append, low,
      (pair.mpr (.inl low) : assets.orderedPair = (lo, hi)), List.length_singleton]
    omega
  · by_cases high : (assets.assetIn, assets.assetOut) = (hi, lo)
    · rw [if_pos (pair.mpr (.inr high)).symm, if_neg (high.symm ▸ apart), if_pos high.symm,
        List.length_append, high, (pair.mpr (.inr high) : assets.orderedPair = (lo, hi)),
        List.length_singleton]
      omega
    · have other : ¬ (lo, hi) = assets.orderedPair := fun same =>
        (pair.mp same.symm).elim low high
      rw [if_neg other, if_neg (Ne.symm low), if_neg (Ne.symm high)]
      exact before

end Appending

/-- One more intention in the queue of its direction. -/
theorem Registered.register {key : ℕ} {kind : IntentionType} {assets : AssetPair}
    {amountIn amountOut limit : ℕ} {discount : Bool} (inv : Registered cfg s)
    (distinct : assets.assetIn ≠ assets.assetOut) (positiveIn : 0 < amountIn)
    (positiveOut : 0 < amountOut)
    (registered : registerIntention s (.signer key) kind assets amountIn amountOut limit
      discount = .ok t) : Registered cfg t := by
  obtain ⟨amm, -, counts, queues⟩ := registerIntention_ok registered
  have countOf := countOf_of_insert counts
  have grown : ∀ pair, s.countOf pair ≤ t.countOf pair := by
    intro pair
    rw [countOf]
    split_ifs with same
    · rw [same]
      omega
    · exact le_rfl
  constructor
  · rw [amm]
    exact inv.pools
  · intro pair listed
    rw [counts, AList.mem_insert] at listed
    obtain rfl | listed := listed
    · exact orderedPair_lt distinct
    · exact inv.ordered pair listed
  · exact inv.counted_append counts queues
  · intro queue x listed
    obtain old | ⟨rfl, rfl⟩ := queued_of_append queues listed
    · have known := inv.queued queue x old
      exact { known with idCount := known.idCount.trans_le (grown _) }
    · refine ⟨rfl, distinct, ⟨key, rfl⟩, positiveIn, positiveOut, rfl, ?_⟩
      rw [countOf, if_pos rfl]
      exact Nat.lt_succ_self _
  · intro queue queue' x listed y listed' same
    obtain old | ⟨-, rfl⟩ := queued_of_append queues listed
    · obtain old' | ⟨-, rfl⟩ := queued_of_append queues listed'
      · exact inv.unique queue queue' x old y old' same
      · exact absurd same (inv.id_ne old _ _)
    · obtain old' | ⟨-, rfl⟩ := queued_of_append queues listed'
      · exact absurd same.symm (inv.id_ne old' _ _)
      · rfl
  · intro queue
    rw [intentionsOf_of_insert queues]
    split_ifs
    · apply (inv.nodup _).append (List.nodup_singleton _)
      intro x old isNew
      rw [List.mem_singleton] at isNew
      exact inv.id_ne old _ _ (congrArg Intention.intentionId isNew)
    · exact inv.nodup queue

theorem Kept.poolsRegistered (kept : Kept s t)
    (registered : Xyk.PoolsRegistered cfg.amm s.amm) : Xyk.PoolsRegistered cfg.amm t.amm := by
  unfold Xyk.PoolsRegistered
  rw [kept.shareToken]
  exact registered

/-- The invariant does not depend on balances or events. -/
theorem Registered.of_kept (inv : Registered cfg s) (kept : Kept s t) : Registered cfg t := by
  constructor
  · exact kept.poolsRegistered inv.pools
  · rw [kept.intentionCount]
    exact inv.ordered
  · simp only [kept.countOf, kept.intentionsOf]
    exact inv.counted
  · intro queue x listed
    rw [kept.intentionsOf] at listed
    have known := inv.queued queue x listed
    exact { known with idCount := kept.countOf _ ▸ known.idCount }
  · simp only [kept.intentionsOf]
    exact inv.unique
  · simp only [kept.intentionsOf]
    exact inv.nodup

/-- Pairs without a count have no intentions. -/
theorem Registered.idle (inv : Registered cfg s) (iterates : s.IterationOrder order) :
    ∀ pair ∈ order, s.countOf pair = 0 → s.sides pair = [] := by
  intro pair listed empty
  have counted := inv.counted pair.1 pair.2 (inv.ordered pair (iterates.mem_iff.mp listed))
  rw [empty] at counted
  apply List.append_eq_nil_iff.mpr
  constructor <;> apply List.eq_nil_of_length_eq_zero <;> omega

/-- A completed block ends with the last handing and empty queues. -/
theorem onFinalize_ok (inv : Registered cfg s) (iterates : s.IterationOrder order)
    (finalized : onFinalize cfg s order = .ok t) :
    ∃ last, Run (· = s) (Handing.Step cfg) (handings cfg s order).reverse last ∧
      (handed (handings cfg s order)).Perm (order.flatMap s.sides) ∧
      order.foldlM (finalizePair cfg) s = .ok last ∧
      t = { last with intentionCount := ∅, intentions := ∅ } := by
  simp only [onFinalize, bind_eq_ok, return_eq_ok] at finalized
  obtain ⟨last, completed, rfl⟩ := finalized
  obtain ⟨run, all⟩ := handings_ok (inv.idle iterates) completed
  exact ⟨last, run, all, completed, rfl⟩

theorem Registered.step {label : Label} (inv : Registered cfg s) (taken : Step cfg s label t) :
    Registered cfg t := by
  cases label with
  | call call =>
      simp only [Step, exec, mapError_eq_ok] at taken
      obtain ⟨_, _, _, _, _, _, _, present, positiveIn, positiveOut, registered⟩ :=
        dispatch_ok taken
      exact inv.register (inv.pools.assets_ne present) positiveIn positiveOut registered
  | amm call =>
      simp only [Step, exec, bind_eq_ok, mapError_eq_ok, return_eq_ok] at taken
      obtain ⟨amm, called, rfl⟩ := taken
      exact { inv with
        pools := Xyk.poolsRegistered_of_step inv.pools called
        queued := fun queue x listed => { inv.queued queue x listed with } }
  | balances ledger =>
      obtain rfl := Except.ok.inj taken
      exact inv.of_kept (kept_setLedger s ledger)
  | finalize order =>
      simp only [Step, exec, bind_eq_ok, ensure_eq_ok, exists_const, mapError_eq_ok,
        return_eq_ok] at taken
      obtain ⟨iterates, u, finalized, rfl⟩ := taken
      obtain ⟨last, run, -, -, rfl⟩ := onFinalize_ok inv iterates finalized
      have pools := (inv.of_kept (kept_of_run run)).pools
      constructor
      · exact pools
      · intro pair listed
        exact absurd listed (AList.notMem_empty pair)
      · exact fun _ _ _ => rfl
      · exact fun _ _ listed => absurd listed List.not_mem_nil
      · exact fun _ _ _ listed => absurd listed List.not_mem_nil
      · exact fun _ => List.nodup_nil

theorem registered_of_reachable (reachable : Reachable Initial (Step cfg) s) :
    Registered cfg s := by
  refine Reachable.invariant (Registered cfg) ?_ ?_ reachable
  · intro s initial
    exact .initial initial
  · intro s label t inv taken
    exact inv.step taken

end Invariant

section ExactlyOnce

variable {pair : AssetId × AssetId} {x : Intention}

/-- The sides of a pair are the registered intentions that trade it. -/
theorem Registered.mem_sides_iff (inv : Registered cfg s) (lt : pair.1 < pair.2) :
    x ∈ s.sides pair ↔ s.IsRegistered x ∧ x.assets.orderedPair = pair := by
  rw [State.sides, List.mem_append]
  constructor
  · rintro (main | other)
    · have known := inv.queued _ x main
      rw [known.assets]
      exact ⟨⟨_, main⟩, (orderedPair_eq_iff _ lt).mpr (.inr rfl)⟩
    · have known := inv.queued _ x other
      rw [known.assets]
      exact ⟨⟨_, other⟩, (orderedPair_eq_iff _ lt).mpr (.inl rfl)⟩
  · rintro ⟨⟨queue, listed⟩, traded⟩
    rw [(inv.queued queue x listed).assets] at traded
    obtain rfl | rfl := (orderedPair_eq_iff queue lt).mp traded
    · exact .inr listed
    · exact .inl listed

theorem Registered.nodup_sides (inv : Registered cfg s) (lt : pair.1 < pair.2) :
    (s.sides pair).Nodup := by
  apply (inv.nodup _).append (inv.nodup _)
  intro x main other
  have mainAssets := (inv.queued _ x main).assets
  have otherAssets := (inv.queued _ x other).assets
  rw [mainAssets] at otherAssets
  have same : pair.2 = pair.1 := congrArg AssetPair.assetIn otherAssets
  exact UInt32.lt_irrefl pair.1 (same ▸ lt)

/-- The finalized pairs have every registered intention, and have it once. -/
theorem Registered.all_sides (inv : Registered cfg s) (iterates : s.IterationOrder order) :
    (order.flatMap s.sides).Nodup ∧ ∀ x, x ∈ order.flatMap s.sides ↔ s.IsRegistered x := by
  have ordered : ∀ pair ∈ order, pair.1 < pair.2 := fun pair listed =>
    inv.ordered pair (iterates.mem_iff.mp listed)
  constructor
  · rw [List.nodup_flatMap]
    constructor
    · exact fun pair listed => inv.nodup_sides (ordered pair listed)
    · have nodup : order.Nodup := iterates.nodup_iff.mpr s.intentionCount.nodupKeys
      refine List.Pairwise.imp_of_mem ?_ nodup
      intro pair pair' listed listed' apart x here there
      apply apart
      rw [← ((inv.mem_sides_iff (ordered pair listed)).mp here).2]
      exact ((inv.mem_sides_iff (ordered pair' listed')).mp there).2
  · intro x
    rw [List.mem_flatMap]
    constructor
    · rintro ⟨pair, listed, here⟩
      exact ((inv.mem_sides_iff (ordered pair listed)).mp here).1
    · rintro ⟨queue, waiting⟩
      have known := inv.queued queue x waiting
      have lt : x.assets.orderedPair.1 < x.assets.orderedPair.2 := by
        apply orderedPair_lt
        rw [known.assets]
        exact known.distinct
      have stored : x.assets.orderedPair ∈ s.intentionCount := by
        by_contra absent
        have none : s.countOf x.assets.orderedPair = 0 := by
          rw [State.countOf, AList.lookup_eq_none.mpr absent, Option.getD_none]
        have below := known.idCount
        omega
      exact ⟨_, iterates.mem_iff.mpr stored, (inv.mem_sides_iff lt).mpr ⟨⟨queue, waiting⟩, rfl⟩⟩

/-- The matched intention trades the pair of the main one the other way round. -/
structure Opposed (main matched : Intention) : Prop where
  assets : matched.assets = main.assets.swap
  distinct : main.assets.assetIn ≠ main.assets.assetOut

theorem Opposed.sold {main matched : Intention} (opposed : Opposed main matched) :
    matched.assets.assetIn = main.assets.assetOut := by
  rw [opposed.assets]
  rfl

theorem Opposed.bought {main matched : Intention} (opposed : Opposed main matched) :
    matched.assets.assetOut = main.assets.assetIn := by
  rw [opposed.assets]
  rfl

/-- What is left of the main intention is opposed to the same ones. -/
theorem Opposed.of_same {main left matched : Intention} (opposed : Opposed main matched)
    (same : main.Same left) : Opposed left matched := by
  constructor
  · rw [same.assets]
    exact opposed.assets
  · rw [same.assets]
    exact opposed.distinct

/-- Groups are matched with main intentions of the opposite direction. -/
theorem Registered.opposed (inv : Registered cfg s) {event : State × Handing}
    (listed : event ∈ handings cfg s order) (main : Intention) (group : List Intention)
    (dispatched : event.2.dispatch = .matched main group) :
    0 < main.amountIn ∧ ∀ matched ∈ group, Opposed main matched := by
  obtain ⟨pair, -, -, mains, others, -⟩ := handings_takenFrom listed
  rw [dispatched] at mains others
  have isMain := inv.queued _ main
    ((List.perm_insertionSort _ _).mem_iff.mp (mains main List.mem_cons_self))
  refine ⟨isMain.amountIn, fun matched among => ?_⟩
  have isOther := inv.queued _ matched
    ((List.perm_insertionSort _ _).mem_iff.mp (others matched among))
  constructor
  · rw [isMain.assets, isOther.assets]
    rfl
  · rw [isMain.assets]
    exact isMain.distinct

/-- What is handed over in a finalization is every registered intention, once. -/
theorem Registered.handed_once (inv : Registered cfg s) (iterates : s.IterationOrder order)
    (once : (handed (handings cfg s order)).Perm (order.flatMap s.sides)) :
    (handed (handings cfg s order)).Nodup ∧
      ∀ x, x ∈ handed (handings cfg s order) ↔ s.IsRegistered x := by
  obtain ⟨nodup, all⟩ := inv.all_sides iterates
  exact ⟨once.nodup_iff.mpr nodup, fun x => once.mem_iff.trans (all x)⟩

/-- The identifiers of what is handed over are pairwise different. -/
theorem Registered.nodup_ids (inv : Registered cfg s) {xs : List Intention} (nodup : xs.Nodup)
    (registered : ∀ x ∈ xs, s.IsRegistered x) : (xs.map Intention.intentionId).Nodup := by
  apply nodup.map_on
  intro x listed y listed' same
  obtain ⟨queue, waiting⟩ := registered x listed
  obtain ⟨queue', waiting'⟩ := registered y listed'
  exact inv.unique queue queue' x waiting y waiting' same

/-- So are their owners if no account has two intentions. -/
theorem nodup_who {xs : List Intention} (nodup : xs.Nodup)
    (registered : ∀ x ∈ xs, s.IsRegistered x)
    (accounts : ∀ x y, s.IsRegistered x → s.IsRegistered y → x.who = y.who → x = y) :
    (xs.map Intention.who).Nodup := by
  apply nodup.map_on
  intro x listed y listed'
  exact accounts x y (registered x listed) (registered y listed')

end ExactlyOnce

theorem sortByAmountIn_sorted (intentions : List Intention) :
    (sortByAmountIn intentions).Pairwise fun x y => y.amountIn ≤ x.amountIn := by
  have total : Std.Total fun x y : Intention => y.amountIn ≤ x.amountIn :=
    ⟨fun x y => le_total y.amountIn x.amountIn⟩
  have trans : IsTrans Intention fun x y => y.amountIn ≤ x.amountIn :=
    ⟨fun _ _ _ first second => second.trans first⟩
  exact List.pairwise_insertionSort _ intentions

section Reference

/-- The runtime with share token 100 for the pair of assets 1 and 2. -/
def Config.reference : Config where
  amm := Xyk.fundedConfig
  overflowChecks := false

/-- Signer 0 holds `10 ^ 15` of assets 1 and 2, everybody else `10 ^ 7`. -/
def genesis : State where
  amm :=
    { ledger :=
        { free := fun who asset =>
            match who with
            | .signer key =>
                if asset = 1 ∨ asset = 2 then (if key = 0 then 10 ^ 15 else 10 ^ 7) else 0
            | _ => 0
          reserved := fun _ _ => 0
          issuance := fun _ => 0 }
      shareToken := ∅
      totalLiquidity := ∅
      poolAssets := ∅
      events := [] }
  intentionCount := ∅
  intentions := ∅
  blockNumber := 1
  events := []

theorem genesis_initial : Initial genesis := ⟨⟨rfl, rfl, rfl⟩, rfl, rfl⟩

/-- Calls of the pallet and of the pools. -/
def Label.isCall : Label → Bool
  | .call _ => true
  | .amm _ => true
  | _ => false

/-- Execute a call. -/
def execCall (s : State) (label : Label) : Except Failure State := do
  ensure (label.isCall = true) .forbidden
  exec .reference s label

/-- Signer 0 opens a pool of the assets 1 and 2 with `10 ^ 12` of asset 1 at the given
price, and then the calls are made. -/
def simulate (initialPrice : ℕ) (calls : List Call) : Except Failure State :=
  (.amm (.createPool 0 ⟨true, true⟩ 1 2 (10 ^ 12) initialPrice) :: calls.map .call).foldlM
    execCall genesis

theorem reachableUnder_of_simulate {initialPrice : ℕ} {calls : List Call}
    (computed : simulate initialPrice calls = .ok s) :
    ReachableUnder Initial (Step .reference) (fun _ label => label.isCall = true) s := by
  refine reachableUnder_of_foldlM ?_ ⟨[], .start genesis_initial, guarded_nil⟩ computed
  intro s label t executed
  simp only [execCall, bind_eq_ok, ensure_eq_ok, exists_const] at executed
  exact ⟨label, executed⟩

end Reference

end Basilisk.Exchange
