/-
# Handing intentions to the resolver

Finalization walks through the sorted main intentions of every pair and hands
each to the resolver with the group it matched, and whatever is left of the other
side one by one.  `handings` lists what is handed over, each time with the state
it happens in; the finalization is the run of these steps.  `Plan` says how a
list of handings uses up the two sides of a pair.
-/

import Basilisk.Exchange.Turns
import Basilisk.Math.Run

namespace Basilisk.Exchange

open Basilisk.Math

variable {cfg : Config} {s t u : State}

/-- What is handed over at once. -/
inductive Dispatch
  | rejected (main : Intention)
  | matched (main : Intention) (group : List Intention)
  | single (intention : Intention)

namespace Dispatch

def mains : Dispatch → List Intention
  | rejected main => [main]
  | matched main _ => [main]
  | single _ => []

def others : Dispatch → List Intention
  | rejected _ => []
  | matched _ group => group
  | single intention => [intention]

end Dispatch

/-- Something handed over for a pair. -/
structure Handing where
  pair : AssetId × AssetId
  dispatch : Dispatch

namespace Handing

/-- The account of the pair's pool. -/
def pool (handing : Handing) : AccountId :=
  Xyk.getPairId ⟨handing.pair.1, handing.pair.2⟩

/-- The intentions handed over. -/
def intentions (handing : Handing) : List Intention :=
  handing.dispatch.mains ++ handing.dispatch.others

/-- One step of a finalization. -/
def Step (cfg : Config) (s : State) (handing : Handing) (t : State) : Prop :=
  match handing.dispatch with
  | .rejected main =>
      ∃ error, validate cfg s main = .error error ∧
        t = s.sendIntentionErrorEvent main (.amm error)
  | .matched main group =>
      (∃ transfer, validate cfg s main = .ok transfer) ∧
        resolveMatchedIntentions cfg handing.pool s main group = .ok t
  | .single intention => t = resolveSingleIntention cfg s intention

end Handing

/-- What is left of the other side, one by one. -/
def handSingles (cfg : Config) (pair : AssetId × AssetId) :
    State → List Intention → List (State × Handing)
  | _, [] => []
  | s, intention :: rest =>
      (s, ⟨pair, .single intention⟩) ::
        handSingles cfg pair (resolveSingleIntention cfg s intention) rest

/-- What is handed over for the main intentions and then for the rest of the other
side; a panic ends it. -/
def handMains (cfg : Config) (pair : AssetId × AssetId) :
    State → List Intention → List Intention → List (State × Handing)
  | s, [], rest => handSingles cfg pair s rest
  | s, main :: mains, rest =>
      match validate cfg s main with
      | .error error =>
          (s, ⟨pair, .rejected main⟩) ::
            handMains cfg pair (s.sendIntentionErrorEvent main (.amm error)) mains rest
      | .ok _ =>
          let group := takeMatched main.amountIn rest
          (s, ⟨pair, .matched main group⟩) ::
            match resolveMatchedIntentions cfg (Xyk.getPairId ⟨pair.1, pair.2⟩) s main group with
            | .ok s => handMains cfg pair s mains (rest.drop group.length)
            | .error _ => []

/-- What is handed over for one pair. -/
def handPair (cfg : Config) (s : State) (pair : AssetId × AssetId) : List (State × Handing) :=
  if s.countOf pair = 0 then []
  else
    handMains cfg pair s (sortByAmountIn (s.intentionsOf (pair.2, pair.1)))
      (sortByAmountIn (s.intentionsOf (pair.1, pair.2)))

/-- What is handed over in a finalization. -/
def handings (cfg : Config) : State → List (AssetId × AssetId) → List (State × Handing)
  | _, [] => []
  | s, pair :: order =>
      handPair cfg s pair ++
        match finalizePair cfg s pair with
        | .ok s => handings cfg s order
        | .error _ => []

section Kept

variable {pool : AccountId}

/-- The resolver changes balances and events only. -/
structure Kept (s t : State) : Prop where
  shareToken : t.amm.shareToken = s.amm.shareToken
  intentionCount : t.intentionCount = s.intentionCount
  intentions : t.intentions = s.intentions
  blockNumber : t.blockNumber = s.blockNumber

theorem Kept.refl (s : State) : Kept s s := ⟨rfl, rfl, rfl, rfl⟩

theorem Kept.trans (first : Kept s t) (second : Kept t u) : Kept s u :=
  ⟨second.shareToken.trans first.shareToken,
    second.intentionCount.trans first.intentionCount,
    second.intentions.trans first.intentions,
    second.blockNumber.trans first.blockNumber⟩

theorem Kept.countOf (kept : Kept s t) (pair : AssetId × AssetId) :
    t.countOf pair = s.countOf pair := by
  rw [State.countOf, kept.intentionCount, State.countOf]

theorem Kept.intentionsOf (kept : Kept s t) (pair : AssetId × AssetId) :
    t.intentionsOf pair = s.intentionsOf pair := by
  rw [State.intentionsOf, kept.intentions, State.intentionsOf]

theorem kept_foldl {α : Type*} {f : State → α → State} (each : ∀ s x, Kept s (f s x))
    (xs : List α) (s : State) : Kept s (xs.foldl f s) := by
  induction xs generalizing s with
  | nil => exact .refl s
  | cons x xs ih => exact (each s x).trans (ih (f s x))

theorem kept_setLedger (s : State) (ledger : Currencies) : Kept s (s.setLedger ledger) :=
  ⟨rfl, rfl, rfl, rfl⟩

theorem kept_depositEvent (s : State) (event : Event) : Kept s (s.depositEvent event) :=
  ⟨rfl, rfl, rfl, rfl⟩

theorem kept_prepare {dt dt' : DirectTradeData} {ready : Bool}
    (prepared : dt.prepare cfg s pool = (t, dt', ready)) : Kept s t := by
  have outcome := dt.preparation cfg pool s
  rw [prepared] at outcome
  cases outcome <;> exact ⟨rfl, rfl, rfl, rfl⟩

theorem kept_execute (dt : DirectTradeData) (s : State) : Kept s (dt.execute s) := by
  apply (kept_depositEvent s _).trans
  apply kept_foldl
  intro s transfer
  unfold DirectTradeData.pay
  dsimp only
  split_ifs <;> exact ⟨rfl, rfl, rfl, rfl⟩

theorem kept_revert (dt : DirectTradeData) (s : State) : Kept s (dt.revert s) :=
  kept_foldl (fun s _ => kept_setLedger s _) dt.transfers s

theorem kept_executeAmmTransfer {kind : IntentionType} {intentionId : IntentionId}
    {transfer : Xyk.AMMTransfer}
    (executed : executeAmmTransfer cfg s kind intentionId transfer = .ok t) : Kept s t := by
  simp only [executeAmmTransfer, bind_eq_ok, return_eq_ok] at executed
  obtain ⟨amm, traded, rfl⟩ := executed
  cases kind with
  | sell =>
      obtain ⟨_, _, -, -, -, tokens, -⟩ := Xyk.executeSell_ok traded
      exact ⟨tokens, rfl, rfl, rfl⟩
  | buy =>
      obtain ⟨_, _, -, -, -, tokens, -⟩ := Xyk.executeBuy_ok traded
      exact ⟨tokens, rfl, rfl, rfl⟩

theorem kept_resolveSingleIntention (s : State) (intention : Intention) :
    Kept s (resolveSingleIntention cfg s intention) := by
  unfold resolveSingleIntention
  split
  · split
    · next executed => exact kept_executeAmmTransfer executed
    · exact kept_depositEvent s _
  · exact kept_depositEvent s _

theorem Turn.kept {intention main matched left : Intention}
    (turn : Turn cfg pool intention s main matched t left) : Kept s t := by
  cases turn with
  | refused => exact kept_depositEvent s _
  | unprepared _ failed => exact kept_prepare failed
  | poolFailed _ ready =>
      exact (kept_prepare ready).trans ((kept_depositEvent _ _).trans (kept_revert _ _))
  | traded _ ready poolPart =>
      apply (kept_prepare ready).trans
      apply Kept.trans _ (kept_execute _ _)
      unfold PoolPart at poolPart
      split_ifs at poolPart
      · obtain ⟨_, -, executed⟩ := poolPart
        exact kept_executeAmmTransfer executed
      · exact poolPart ▸ .refl _

theorem Turns.kept {intention main left : Intention} {group : List Intention}
    (turns : Turns cfg pool intention s main group t left) : Kept s t := by
  induction turns with
  | done => exact .refl _
  | next resolved _ ih => exact (resolveMatched_ok resolved).kept.trans ih

theorem Handing.Step.kept {handing : Handing} (taken : Handing.Step cfg s handing t) :
    Kept s t := by
  unfold Handing.Step at taken
  split at taken
  · obtain ⟨error, -, rfl⟩ := taken
    exact kept_depositEvent s _
  · obtain ⟨after, left, turns, rfl⟩ := resolveMatchedIntentions_ok taken.2
    split_ifs
    · exact turns.kept.trans (kept_resolveSingleIntention _ _)
    · exact turns.kept
  · exact taken ▸ kept_resolveSingleIntention s _

theorem kept_of_run {past : List (State × Handing)}
    (run : Run (· = s) (Handing.Step cfg) past t) : Kept s t := by
  induction run with
  | start isStart => exact isStart ▸ .refl _
  | extend _ taken ih => exact ih.trans taken.kept

end Kept

section Cover

/-- The amount a list of intentions buys. -/
def bought (intentions : List Intention) : ℕ :=
  (intentions.map Intention.amountOut).sum

/-- The shortest initial part of a list that buys `amount`, or all of the list. -/
structure ShortestCover (amount : ℕ) (group rest : List Intention) : Prop where
  initial : group <+: rest
  shortest : ∀ shorter, shorter <+: group → shorter ≠ group → bought shorter < amount
  covers : amount ≤ bought group ∨ group = rest

theorem takeMatched_shortestCover (amount : ℕ) (rest : List Intention) :
    ShortestCover amount (takeMatched amount rest) rest := by
  induction rest generalizing amount with
  | nil =>
      refine ⟨List.nil_prefix, ?_, .inr rfl⟩
      intro shorter initial proper
      exact absurd (List.prefix_nil.mp initial) proper
  | cons x rest ih =>
      rw [takeMatched]
      split_ifs with left
      · obtain ⟨initial, shortest, covers⟩ := ih (amount - x.amountOut)
        refine ⟨List.prefix_cons_inj x |>.mpr initial, ?_, ?_⟩
        · intro shorter within proper
          cases shorter with
          | nil => simpa [bought] using left
          | cons y shorter =>
              obtain ⟨rfl, within⟩ := List.cons_prefix_cons.mp within
              have below := shortest shorter within (fun same => proper (same ▸ rfl))
              simp only [bought, List.map_cons, List.sum_cons] at below ⊢
              omega
        · obtain enough | all := covers
          · left
            simp only [bought, List.map_cons, List.sum_cons] at enough ⊢
            omega
          · exact .inr (congrArg (x :: ·) all)
      · refine ⟨List.nil_prefix, ?_, .inl (by omega)⟩
        intro shorter initial proper
        exact absurd (List.prefix_nil.mp initial) proper

/-- How handings use up the main intentions and the other side of a pair; the last
two lists are what is left of them. -/
inductive Plan : List Intention → List Intention → List Dispatch →
    List Intention → List Intention → Prop
  | stop {mains rest : List Intention} : Plan mains rest [] mains rest
  | rejected {main : Intention} {mains rest mainsLeft restLeft : List Intention}
      {dispatches : List Dispatch} (next : Plan mains rest dispatches mainsLeft restLeft) :
      Plan (main :: mains) rest (.rejected main :: dispatches) mainsLeft restLeft
  | matched {main : Intention} {mains group rest mainsLeft restLeft : List Intention}
      {dispatches : List Dispatch} (cover : ShortestCover main.amountIn group rest)
      (next : Plan mains (rest.drop group.length) dispatches mainsLeft restLeft) :
      Plan (main :: mains) rest (.matched main group :: dispatches) mainsLeft restLeft
  | single {intention : Intention} {rest restLeft : List Intention}
      {dispatches : List Dispatch} (next : Plan [] rest dispatches [] restLeft) :
      Plan [] (intention :: rest) (.single intention :: dispatches) [] restLeft

/-- The handings of a plan are the two sides, in order, up to what is left. -/
theorem Plan.uses {mains rest mainsLeft restLeft : List Intention}
    {dispatches : List Dispatch} (plan : Plan mains rest dispatches mainsLeft restLeft) :
    mains = dispatches.flatMap Dispatch.mains ++ mainsLeft ∧
      rest = dispatches.flatMap Dispatch.others ++ restLeft := by
  induction plan with
  | stop => exact ⟨rfl, rfl⟩
  | rejected _ ih => simpa [Dispatch.mains, Dispatch.others] using ih
  | @matched _ _ group rest _ _ _ cover _ ih =>
      obtain ⟨others, rfl⟩ := cover.initial
      rw [List.drop_left] at ih
      obtain ⟨usedMains, usedOthers⟩ := ih
      simp [Dispatch.mains, Dispatch.others, ← usedMains, ← usedOthers]
  | single _ ih => simpa [Dispatch.mains, Dispatch.others] using ih

end Cover

section Trace

variable {pair : AssetId × AssetId} {pool : AccountId}

/-- The loop over the main intentions, with the rest of the other side in place of
the number of those to skip. -/
def dispatchMains (cfg : Config) (pool : AccountId) :
    State → List Intention → List Intention → Except Panic State
  | s, [], rest => .ok (rest.foldl (resolveSingleIntention cfg) s)
  | s, main :: mains, rest =>
      match validate cfg s main with
      | .error error =>
          dispatchMains cfg pool (s.sendIntentionErrorEvent main (.amm error)) mains rest
      | .ok _ => do
          let group := takeMatched main.amountIn rest
          let s ← resolveMatchedIntentions cfg pool s main group
          dispatchMains cfg pool s mains (rest.drop group.length)

theorem foldlM_processMain (bIns mains : List Intention) (s : State) (toSkip : ℕ) :
    (do
      let (s, toSkip) ← mains.foldlM (processMain cfg pool bIns) (s, toSkip)
      return (bIns.drop toSkip).foldl (resolveSingleIntention cfg) s) =
    dispatchMains cfg pool s mains (bIns.drop toSkip) := by
  induction mains generalizing s toSkip with
  | nil => rfl
  | cons main mains ih =>
      rw [List.foldlM_cons, dispatchMains]
      cases valid : validate cfg s main with
      | error error =>
          simp only [processMain, verifyIntention, valid]
          exact ih _ toSkip
      | ok transfer =>
          simp only [processMain, verifyIntention, valid, bind_assoc]
          apply bind_congr
          intro after
          rw [List.drop_drop]
          exact ih after _

theorem processExchangeIntentions_eq (s : State) (aIns bIns : List Intention) :
    processExchangeIntentions cfg pool s aIns bIns =
      dispatchMains cfg pool s (sortByAmountIn aIns) (sortByAmountIn bIns) :=
  foldlM_processMain (sortByAmountIn bIns) (sortByAmountIn aIns) s 0

theorem handSingles_trace (s : State) (rest : List Intention) :
    Run (· = s) (Handing.Step cfg) (handSingles cfg pair s rest).reverse
        (rest.foldl (resolveSingleIntention cfg) s) ∧
      Plan [] rest ((handSingles cfg pair s rest).map (·.2.dispatch)) [] [] := by
  induction rest generalizing s with
  | nil => exact ⟨.start rfl, .stop⟩
  | cons intention rest ih =>
      obtain ⟨run, plan⟩ := ih (resolveSingleIntention cfg s intention)
      rw [handSingles, List.reverse_cons]
      exact ⟨run.prepend rfl, .single plan⟩

/-- A completed pair: its handings are the steps that were taken, and they use up
both sides. -/
theorem handMains_ok {mains rest : List Intention}
    (completed : dispatchMains cfg (Xyk.getPairId ⟨pair.1, pair.2⟩) s mains rest = .ok t) :
    Run (· = s) (Handing.Step cfg) (handMains cfg pair s mains rest).reverse t ∧
      Plan mains rest ((handMains cfg pair s mains rest).map (·.2.dispatch)) [] [] := by
  induction mains generalizing s rest with
  | nil =>
      obtain rfl := Except.ok.inj completed
      exact handSingles_trace s rest
  | cons main mains ih =>
      rw [dispatchMains] at completed
      rw [handMains]
      cases valid : validate cfg s main with
      | error error =>
          rw [valid] at completed
          obtain ⟨run, plan⟩ := ih completed
          rw [List.reverse_cons]
          exact ⟨run.prepend ⟨error, valid, rfl⟩, .rejected plan⟩
      | ok transfer =>
          simp only [valid, bind_eq_ok] at completed
          obtain ⟨after, resolved, completed⟩ := completed
          obtain ⟨run, plan⟩ := ih completed
          simp only [resolved, List.reverse_cons, List.map_cons]
          exact ⟨run.prepend ⟨⟨transfer, valid⟩, resolved⟩,
            .matched (takeMatched_shortestCover _ _) plan⟩

/-- A pair that panics does so while the resolver has a matched group; what was
handed over until then is part of both sides. -/
theorem handMains_error {mains rest : List Intention} {panic : Panic}
    (stopped : dispatchMains cfg (Xyk.getPairId ⟨pair.1, pair.2⟩) s mains rest =
      .error panic) :
    ∃ before after main group,
      handMains cfg pair s mains rest = before ++ [(after, ⟨pair, .matched main group⟩)] ∧
      Run (· = s) (Handing.Step cfg) before.reverse after ∧
      resolveMatchedIntentions cfg (Xyk.getPairId ⟨pair.1, pair.2⟩) after main group =
        .error panic ∧
      ∃ mainsLeft restLeft, Plan mains rest
        ((handMains cfg pair s mains rest).map (·.2.dispatch)) mainsLeft restLeft := by
  induction mains generalizing s rest with
  | nil => exact absurd stopped nofun
  | cons main mains ih =>
      rw [dispatchMains] at stopped
      rw [handMains]
      cases valid : validate cfg s main with
      | error error =>
          rw [valid] at stopped
          obtain ⟨before, after, main', group, listed, run, failed, left, right, plan⟩ := ih stopped
          refine ⟨(s, ⟨pair, .rejected main⟩) :: before, after, main', group, ?_, ?_, failed,
            left, right, .rejected plan⟩
          · rw [List.cons_append, ← listed]
          · rw [List.reverse_cons]
            exact run.prepend ⟨error, valid, rfl⟩
      | ok transfer =>
          simp only [valid, bind_eq_error] at stopped
          obtain failed | ⟨next, resolved, stopped⟩ := stopped
          · refine ⟨[], s, main, takeMatched main.amountIn rest, ?_, .start rfl, failed,
              mains, rest.drop (takeMatched main.amountIn rest).length, ?_⟩
            · simp only [failed, List.nil_append]
            · simp only [failed, List.map_cons, List.map_nil]
              exact .matched (takeMatched_shortestCover _ _) .stop
          · obtain ⟨before, after, main', group, listed, run, failed, left, right, plan⟩ :=
              ih stopped
            simp only [resolved]
            refine ⟨(s, ⟨pair, .matched main (takeMatched main.amountIn rest)⟩) :: before,
              after, main', group, ?_, ?_, failed, left, right,
              .matched (takeMatched_shortestCover _ _) plan⟩
            · rw [List.cons_append, ← listed]
            · rw [List.reverse_cons]
              exact run.prepend ⟨⟨transfer, valid⟩, resolved⟩

end Trace

section Finalization

variable {pair : AssetId × AssetId} {order : List (AssetId × AssetId)}

/-- The intentions registered for a pair, in both directions. -/
def State.sides (s : State) (pair : AssetId × AssetId) : List Intention :=
  s.intentionsOf (pair.2, pair.1) ++ s.intentionsOf (pair.1, pair.2)

/-- The intentions that were handed over. -/
def handed (past : List (State × Handing)) : List Intention :=
  past.flatMap (·.2.intentions)

/-- What was handed over for a pair. -/
def dispatchesOf (pair : AssetId × AssetId) (past : List (State × Handing)) :
    List Dispatch :=
  (past.filter (·.2.pair = pair)).map (·.2.dispatch)

theorem handed_append (past past' : List (State × Handing)) :
    handed (past ++ past') = handed past ++ handed past' :=
  List.flatMap_append

theorem handed_reverse_cons (event : State × Handing) (past : List (State × Handing)) :
    handed (event :: past).reverse = handed past.reverse ++ event.2.intentions := by
  rw [handed, List.reverse_cons, List.flatMap_append, List.flatMap_singleton]
  rfl

theorem handings_cons_ok (finalized : finalizePair cfg s pair = .ok t) :
    handings cfg s (pair :: order) = handPair cfg s pair ++ handings cfg t order := by
  rw [handings, finalized]

theorem handings_cons_error {panic : Panic} (stopped : finalizePair cfg s pair = .error panic) :
    handings cfg s (pair :: order) = handPair cfg s pair := by
  rw [handings, stopped, List.append_nil]

/-- The handings of a plan, with what is left, are both sides. -/
theorem Plan.perm {mains rest mainsLeft restLeft : List Intention}
    {past : List (State × Handing)}
    (plan : Plan mains rest (past.map (·.2.dispatch)) mainsLeft restLeft) :
    (handed past ++ (mainsLeft ++ restLeft)).Perm (mains ++ rest) := by
  obtain ⟨usedMains, usedOthers⟩ := plan.uses
  rw [List.flatMap_map] at usedMains usedOthers
  have split : (past.flatMap (·.2.dispatch.mains) ++ past.flatMap (·.2.dispatch.others)).Perm
      (handed past) :=
    List.flatMap_append_perm past (·.2.dispatch.mains) (·.2.dispatch.others)
  rw [usedMains, usedOthers]
  apply (split.symm.append_right _).trans
  simp only [List.append_assoc]
  apply List.Perm.append_left
  rw [← List.append_assoc, ← List.append_assoc]
  exact List.perm_append_comm.append_right _

theorem sides_perm (s : State) (pair : AssetId × AssetId) :
    (sortByAmountIn (s.intentionsOf (pair.2, pair.1)) ++
      sortByAmountIn (s.intentionsOf (pair.1, pair.2))).Perm (s.sides pair) :=
  (List.perm_insertionSort _ _).append (List.perm_insertionSort _ _)

/-- What a handing of a pair takes from the two sides. -/
structure Handing.TakenFrom (pair : AssetId × AssetId) (mains rest : List Intention)
    (handing : Handing) : Prop where
  pair : handing.pair = pair
  mains : ∀ x ∈ handing.dispatch.mains, x ∈ mains
  others : ∀ x ∈ handing.dispatch.others, x ∈ rest
  group : ∀ main group, handing.dispatch = .matched main group →
    ∃ unmatched, unmatched <:+ rest ∧ group = takeMatched main.amountIn unmatched

theorem Handing.TakenFrom.mono {mains mains' rest rest' : List Intention} {handing : Handing}
    (taken : handing.TakenFrom pair mains rest) (fewerMains : ∀ x ∈ mains, x ∈ mains')
    (fewerOthers : rest <:+ rest') : handing.TakenFrom pair mains' rest' where
  pair := taken.pair
  mains x listed := fewerMains x (taken.mains x listed)
  others x listed := fewerOthers.subset (taken.others x listed)
  group main group same :=
    let ⟨unmatched, isTail, taken⟩ := taken.group main group same
    ⟨unmatched, isTail.trans fewerOthers, taken⟩

theorem handSingles_takenFrom {rest : List Intention} {event : State × Handing}
    (listed : event ∈ handSingles cfg pair s rest) : event.2.TakenFrom pair [] rest := by
  induction rest generalizing s with
  | nil => exact absurd listed (List.not_mem_nil)
  | cons intention rest ih =>
      obtain rfl | listed := List.mem_cons.mp listed
      · refine ⟨rfl, fun _ => id,
          fun x found => List.mem_singleton.mp found ▸ List.mem_cons_self, ?_⟩
        intro main group same
        cases same
      · exact (ih listed).mono (fun _ => id) (List.suffix_cons _ _)

theorem handMains_takenFrom {mains rest : List Intention} {event : State × Handing}
    (listed : event ∈ handMains cfg pair s mains rest) : event.2.TakenFrom pair mains rest := by
  induction mains generalizing s rest with
  | nil => exact handSingles_takenFrom listed
  | cons main mains ih =>
      have isMain : ∀ x ∈ [main], x ∈ main :: mains := fun x found =>
        List.mem_singleton.mp found ▸ List.mem_cons_self
      have fewer : ∀ x ∈ mains, x ∈ main :: mains := fun _ => List.mem_cons_of_mem main
      rw [handMains] at listed
      split at listed
      · obtain rfl | listed := List.mem_cons.mp listed
        · refine ⟨rfl, isMain, fun _ found => absurd found List.not_mem_nil, ?_⟩
          intro main' group same
          cases same
        · exact (ih listed).mono fewer List.suffix_rfl
      · obtain rfl | listed := List.mem_cons.mp listed
        · refine ⟨rfl, isMain, ?_, ?_⟩
          · exact (takeMatched_shortestCover main.amountIn rest).initial.subset
          · intro main' group same
            obtain ⟨rfl, rfl⟩ := Dispatch.matched.inj same
            exact ⟨rest, List.suffix_rfl, rfl⟩
        · split at listed
          · exact (ih listed).mono fewer (List.drop_suffix _ _)
          · exact absurd listed (List.not_mem_nil)

theorem handPair_takenFrom {event : State × Handing} (listed : event ∈ handPair cfg s pair) :
    event.2.TakenFrom pair (sortByAmountIn (s.intentionsOf (pair.2, pair.1)))
      (sortByAmountIn (s.intentionsOf (pair.1, pair.2))) := by
  unfold handPair at listed
  split_ifs at listed
  · exact absurd listed (List.not_mem_nil)
  · exact handMains_takenFrom listed

theorem finalizePair_run (completed : finalizePair cfg s pair = .ok t) :
    Run (· = s) (Handing.Step cfg) (handPair cfg s pair).reverse t := by
  unfold finalizePair at completed
  unfold handPair
  split_ifs at completed ⊢
  · obtain rfl := Except.ok.inj completed
    exact .start rfl
  · rw [processExchangeIntentions_eq] at completed
    exact (handMains_ok completed).1

theorem finalizePair_plan (idle : s.countOf pair = 0 → s.sides pair = [])
    (completed : finalizePair cfg s pair = .ok t) :
    Plan (sortByAmountIn (s.intentionsOf (pair.2, pair.1)))
      (sortByAmountIn (s.intentionsOf (pair.1, pair.2)))
      ((handPair cfg s pair).map (·.2.dispatch)) [] [] := by
  unfold finalizePair at completed
  unfold handPair
  split_ifs at completed ⊢ with empty
  · obtain ⟨noMains, noOthers⟩ := List.append_eq_nil_iff.mp (idle empty)
    rw [noMains, noOthers]
    exact .stop
  · rw [processExchangeIntentions_eq] at completed
    exact (handMains_ok completed).2

theorem finalizePair_error {panic : Panic}
    (stopped : finalizePair cfg s pair = .error panic) :
    ∃ before after main group,
      handPair cfg s pair = before ++ [(after, ⟨pair, .matched main group⟩)] ∧
      Run (· = s) (Handing.Step cfg) before.reverse after ∧
      resolveMatchedIntentions cfg (Xyk.getPairId ⟨pair.1, pair.2⟩) after main group =
        .error panic ∧
      (handed (handPair cfg s pair)).Subperm (s.sides pair) := by
  unfold finalizePair at stopped
  unfold handPair
  split_ifs at stopped ⊢
  rw [processExchangeIntentions_eq] at stopped
  obtain ⟨before, after, main, group, listed, run, failed, left, right, plan⟩ :=
    handMains_error stopped
  refine ⟨before, after, main, group, listed, run, failed, ?_⟩
  exact (List.sublist_append_left _ _).subperm.trans (plan.perm.trans (sides_perm s pair)).subperm

/-- Pairs that are idle stay idle while others are finalized. -/
theorem Kept.sides (kept : Kept s t) : t.sides = s.sides := by
  funext pair
  simp only [State.sides, kept.intentionsOf]

theorem Kept.idle (kept : Kept s t)
    (idle : ∀ pair ∈ order, s.countOf pair = 0 → s.sides pair = []) :
    ∀ pair ∈ order, t.countOf pair = 0 → t.sides pair = [] := by
  intro pair listed empty
  rw [kept.sides]
  exact idle pair listed (kept.countOf pair ▸ empty)

/-- Every handing is for a pair of the iteration and takes from its two sides. -/
theorem handings_takenFrom {event : State × Handing} (listed : event ∈ handings cfg s order) :
    ∃ pair ∈ order, event.2.TakenFrom pair (sortByAmountIn (s.intentionsOf (pair.2, pair.1)))
      (sortByAmountIn (s.intentionsOf (pair.1, pair.2))) := by
  induction order generalizing s with
  | nil => exact absurd listed (List.not_mem_nil)
  | cons first order ih =>
      rw [handings] at listed
      obtain here | later := List.mem_append.mp listed
      · exact ⟨first, List.mem_cons_self, handPair_takenFrom here⟩
      · split at later
        · next finalized =>
            obtain ⟨pair, found, taken⟩ := ih later
            simp only [(kept_of_run (finalizePair_run finalized)).intentionsOf] at taken
            exact ⟨pair, List.mem_cons_of_mem _ found, taken⟩
        · exact absurd later (List.not_mem_nil)

/-- A completed finalization is the run of its handings, and these are all
intentions of the finalized pairs. -/
theorem handings_ok (idle : ∀ pair ∈ order, s.countOf pair = 0 → s.sides pair = [])
    (completed : order.foldlM (finalizePair cfg) s = .ok t) :
    Run (· = s) (Handing.Step cfg) (handings cfg s order).reverse t ∧
      (handed (handings cfg s order)).Perm (order.flatMap s.sides) := by
  induction order generalizing s with
  | nil =>
      obtain rfl : s = t := by simpa using completed
      exact ⟨.start rfl, .nil⟩
  | cons pair order ih =>
      rw [List.foldlM_cons, bind_eq_ok] at completed
      obtain ⟨after, first, completed⟩ := completed
      rw [List.forall_mem_cons] at idle
      have run := finalizePair_run first
      have plan := finalizePair_plan idle.1 first
      have kept := kept_of_run run
      obtain ⟨later, rest⟩ := ih (kept.idle idle.2) completed
      rw [kept.sides] at rest
      have used := plan.perm
      rw [List.append_nil, List.append_nil] at used
      rw [handings_cons_ok first, List.reverse_append, handed_append, List.flatMap_cons]
      exact ⟨run.append later, (used.trans (sides_perm s pair)).append rest⟩

/-- The handings of every pair follow a plan. -/
theorem handings_plan (idle : ∀ pair ∈ order, s.countOf pair = 0 → s.sides pair = [])
    (nodup : order.Nodup) (completed : order.foldlM (finalizePair cfg) s = .ok t) :
    ∀ pair ∈ order, Plan (sortByAmountIn (s.intentionsOf (pair.2, pair.1)))
      (sortByAmountIn (s.intentionsOf (pair.1, pair.2)))
      (dispatchesOf pair (handings cfg s order)) [] [] := by
  induction order generalizing s with
  | nil => exact fun _ listed => absurd listed (List.not_mem_nil)
  | cons first order ih =>
      rw [List.foldlM_cons, bind_eq_ok] at completed
      obtain ⟨after, finalized, completed⟩ := completed
      rw [List.forall_mem_cons] at idle
      have run := finalizePair_run finalized
      have plan := finalizePair_plan idle.1 finalized
      have kept := kept_of_run run
      obtain ⟨fresh, nodup⟩ := List.nodup_cons.mp nodup
      have planned := ih (kept.idle idle.2) nodup completed
      simp only [kept.intentionsOf] at planned
      intro pair listed
      rw [handings_cons_ok finalized]
      unfold dispatchesOf
      rw [List.filter_append, List.map_append]
      obtain rfl | listed := List.mem_cons.mp listed
      · -- later handings are for the pairs that follow
        have here : (handPair cfg s pair).filter (·.2.pair = pair) = handPair cfg s pair :=
          List.filter_eq_self.mpr fun event found => by
            simpa using (handPair_takenFrom found).pair
        have later : (handings cfg after order).filter (·.2.pair = pair) = [] := by
          apply List.filter_eq_nil_iff.mpr
          intro event found
          obtain ⟨other, among, taken⟩ := handings_takenFrom found
          have elsewhere : event.2.pair ≠ pair := fun same =>
            fresh (same ▸ taken.pair.symm ▸ among)
          simpa using elsewhere
        rw [here, later, List.map_nil, List.append_nil]
        exact plan
      · have here : (handPair cfg s first).filter (·.2.pair = pair) = [] := by
          apply List.filter_eq_nil_iff.mpr
          intro event found
          have elsewhere : first ≠ pair := fun same => fresh (same ▸ listed)
          simpa [(handPair_takenFrom found).pair] using elsewhere
        rw [here, List.map_nil, List.nil_append]
        exact planned pair listed

/-- A finalization that panics does so while the resolver has a matched group, and
has handed nothing over twice. -/
theorem handings_error {panic : Panic}
    (idle : ∀ pair ∈ order, s.countOf pair = 0 → s.sides pair = [])
    (stopped : order.foldlM (finalizePair cfg) s = .error panic) :
    ∃ before after pair main group,
      handings cfg s order = before ++ [(after, ⟨pair, .matched main group⟩)] ∧
      Run (· = s) (Handing.Step cfg) before.reverse after ∧
      resolveMatchedIntentions cfg (Xyk.getPairId ⟨pair.1, pair.2⟩) after main group =
        .error panic ∧
      (handed (handings cfg s order)).Subperm (order.flatMap s.sides) := by
  induction order generalizing s with
  | nil => exact absurd stopped nofun
  | cons pair order ih =>
      rw [List.foldlM_cons, bind_eq_error] at stopped
      rw [List.forall_mem_cons] at idle
      rw [List.flatMap_cons]
      obtain first | ⟨next, first, stopped⟩ := stopped
      · obtain ⟨before, after, main, group, listed, run, failed, within⟩ :=
          finalizePair_error first
        rw [handings_cons_error first]
        exact ⟨before, after, pair, main, group, listed, run, failed,
          within.trans (List.sublist_append_left _ _).subperm⟩
      · have run := finalizePair_run first
        have plan := finalizePair_plan idle.1 first
        have kept := kept_of_run run
        obtain ⟨before, after, pair', main, group, listed, later, failed, within⟩ :=
          ih (kept.idle idle.2) stopped
        rw [kept.sides] at within
        have used := plan.perm
        rw [List.append_nil, List.append_nil] at used
        rw [handings_cons_ok first, handed_append]
        refine ⟨handPair cfg s pair ++ before, after, pair', main, group, ?_, ?_, failed, ?_⟩
        · rw [listed, List.append_assoc]
        · rw [List.reverse_append]
          exact run.append later
        · apply ((used.trans (sides_perm s pair)).append_right _).subperm.trans
          exact (List.subperm_append_left _).mpr within

end Finalization

section Visits

/-- A turn of the resolver: the main intention as registered and as it is left, the
matched intention, and the state the turn begins in. -/
structure Visit where
  pool : AccountId
  state : State
  intention : Intention
  main : Intention
  matched : Intention

/-- The turns over a group. -/
def groupVisits (cfg : Config) (pool : AccountId) (intention : Intention) :
    State → Intention → List Intention → List Visit
  | _, _, [] => []
  | s, main, matched :: group =>
      ⟨pool, s, intention, main, matched⟩ ::
        match resolveMatched cfg pool intention (s, main) matched with
        | .ok (after, left) => groupVisits cfg pool intention after left group
        | .error _ => []

/-- The turns of one handing. -/
def Handing.visits (cfg : Config) (event : State × Handing) : List Visit :=
  match event.2.dispatch with
  | .matched main group => groupVisits cfg event.2.pool main event.1 main group
  | _ => []

/-- The turns of a finalization. -/
def visits (cfg : Config) (s : State) (order : List (AssetId × AssetId)) : List Visit :=
  (handings cfg s order).flatMap (Handing.visits cfg)

theorem groupVisits_cons {pool : AccountId} {intention main left matched : Intention}
    {group : List Intention}
    (resolved : resolveMatched cfg pool intention (s, main) matched = .ok (t, left)) :
    groupVisits cfg pool intention s main (matched :: group) =
      ⟨pool, s, intention, main, matched⟩ :: groupVisits cfg pool intention t left group := by
  rw [groupVisits, resolved]

end Visits

end Basilisk.Exchange
