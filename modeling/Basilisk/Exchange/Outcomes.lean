/-
# Which intentions a finalization reports

Every main intention is named in an outcome event: it is rejected, traded, or its
rest goes through the pool, which reports either way.  A matched intention is
named when it is traded or fails for a reason of its own.  When the trade fails
for a reason of the other party, or for its fees or reserves, nothing names it;
`Visit.Silent` is exactly that.
-/

import Basilisk.Exchange.Registration

namespace Basilisk.Exchange

open Basilisk.Math

variable {cfg : Config} {s t u : State} {pool : AccountId}
variable {intention main left matched : Intention}

/-- The intentions an outcome event names. -/
def Event.outcomeIds : Event → List IntentionId
  | .intentionResolvedAMMTrade _ _ intentionId _ _ _ => [intentionId]
  | .intentionResolvedDirectTrade _ _ idA idB _ _ => [idA, idB]
  | .insufficientAssetBalanceEvent _ _ _ intentionId _ => [intentionId]
  | .intentionResolveErrorEvent _ _ _ intentionId _ => [intentionId]
  | .intentionRegistered .. => []
  | .intentionResolvedDirectTradeFees .. => []

/-- The events between two states name these intentions, as far as `idsOf` counts. -/
def Names (idsOf : Event → List IntentionId) (s t : State) (ids : List IntentionId) : Prop :=
  ∃ new, t.events = s.events ++ new ∧ new.flatMap idsOf = ids

section Names

variable {idsOf : Event → List IntentionId}

theorem names_nil (same : t.events = s.events) : Names idsOf s t [] :=
  ⟨[], by rw [same, List.append_nil], rfl⟩

theorem Names.append {ids ids' : List IntentionId} (first : Names idsOf s t ids)
    (second : Names idsOf t u ids') : Names idsOf s u (ids ++ ids') := by
  obtain ⟨new, hnew, rfl⟩ := first
  obtain ⟨new', hnew', rfl⟩ := second
  exact ⟨new ++ new', by rw [hnew', hnew, List.append_assoc], List.flatMap_append⟩

theorem names_depositEvent (s : State) (event : Event) :
    Names idsOf s (s.depositEvent event) (idsOf event) :=
  ⟨[event], rfl, List.flatMap_singleton _ _⟩

/-- An executed trade reports the trade, and its fees. -/
theorem names_execute (dt : DirectTradeData) (s : State)
    (fees : ∀ who intentionId receiver asset fee,
      idsOf (.intentionResolvedDirectTradeFees who intentionId receiver asset fee) = []) :
    Names idsOf s (dt.execute s) (idsOf (.intentionResolvedDirectTrade dt.intentionA.who
      dt.intentionB.who dt.intentionA.intentionId dt.intentionB.intentionId dt.amountFromA
      dt.amountFromB)) := by
  have paid : ∀ (transfers : List Transfer) (s : State),
      Names idsOf s (transfers.foldl dt.pay s) [] := by
    intro transfers
    induction transfers with
    | nil => exact fun _ => names_nil rfl
    | cons transfer transfers ih =>
        intro s
        have first : Names idsOf s (dt.pay s transfer) [] := by
          unfold DirectTradeData.pay
          dsimp only
          split
          · refine ⟨[_], rfl, ?_⟩
            rw [List.flatMap_singleton, fees]
          · exact names_nil rfl
        exact first.append (ih _)
  rw [← List.append_nil (idsOf _)]
  exact (names_depositEvent s _).append (paid dt.transfers _)

theorem names_revert (dt : DirectTradeData) (s : State) : Names idsOf s (dt.revert s) [] := by
  have released : ∀ (transfers : List Transfer) (s : State),
      (transfers.foldl (fun s transfer => s.setLedger
        (s.ledger.unreserve transfer.asset transfer.sender transfer.amount)) s).events =
      s.events := by
    intro transfers
    induction transfers with
    | nil => exact fun _ => rfl
    | cons transfer transfers ih => exact fun s => ih _
  exact names_nil (released dt.transfers s)

/-- A prepared trade has reported nothing yet and is between the same parties. -/
theorem ready_quiet (idsOf : Event → List IntentionId) {dt dt' : DirectTradeData}
    {prepared : State}
    (ready : dt.prepare cfg s pool = (prepared, dt', true)) :
    Names idsOf s prepared [] ∧ dt'.intentionA = dt.intentionA ∧
      dt'.intentionB = dt.intentionB := by
  have outcome := dt.preparation cfg pool s
  rw [ready] at outcome
  obtain _ | _ | _ | _ | _ | _ := outcome
  exact ⟨names_nil rfl, rfl, rfl⟩

theorem names_executeAmmTransfer (idsOf : Event → List IntentionId) {kind : IntentionType}
    {intentionId : IntentionId} {transfer : Xyk.AMMTransfer}
    (executed : executeAmmTransfer cfg s kind intentionId transfer = .ok t) :
    ∃ who amount bought account, Names idsOf s t
      (idsOf (.intentionResolvedAMMTrade who kind intentionId amount bought account)) := by
  simp only [executeAmmTransfer, bind_eq_ok, return_eq_ok] at executed
  obtain ⟨amm, -, rfl⟩ := executed
  exact ⟨_, _, _, _, [_], rfl, List.flatMap_singleton _ _⟩

end Names

/-- The outcome events between two states name these intentions. -/
def Emits (s t : State) (ids : List IntentionId) : Prop :=
  ∃ new, t.events = s.events ++ new ∧ new.flatMap Event.outcomeIds = ids

section Emits

theorem emits_nil (same : t.events = s.events) : Emits s t [] :=
  names_nil same

theorem Emits.append {ids ids' : List IntentionId} (first : Emits s t ids)
    (second : Emits t u ids') : Emits s u (ids ++ ids') :=
  Names.append first second

theorem emits_depositEvent (s : State) (event : Event) :
    Emits s (s.depositEvent event) event.outcomeIds :=
  names_depositEvent s event

theorem emits_execute (dt : DirectTradeData) (s : State) :
    Emits s (dt.execute s) [dt.intentionA.intentionId, dt.intentionB.intentionId] :=
  names_execute dt s fun _ _ _ _ _ => rfl

theorem emits_revert (dt : DirectTradeData) (s : State) : Emits s (dt.revert s) [] :=
  names_revert dt s

theorem emits_executeAmmTransfer {kind : IntentionType} {intentionId : IntentionId}
    {transfer : Xyk.AMMTransfer}
    (executed : executeAmmTransfer cfg s kind intentionId transfer = .ok t) :
    Emits s t [intentionId] := by
  obtain ⟨_, _, _, _, named⟩ := names_executeAmmTransfer Event.outcomeIds executed
  exact named

/-- A single intention is always reported. -/
theorem emits_resolveSingleIntention (s : State) (intention : Intention) :
    Emits s (resolveSingleIntention cfg s intention) [intention.intentionId] := by
  unfold resolveSingleIntention
  split
  · split
    · next executed => exact emits_executeAmmTransfer executed
    · exact emits_depositEvent s _
  · exact emits_depositEvent s _

end Emits

/-- A turn that ends the matched intention without naming it: the error names the main
intention, which is short of balance or over its limit, or there is no event because
the fees or a reservation failed. -/
def Visit.Silent (cfg : Config) (visit : Visit) : Prop :=
  let trade := tradeOf visit.main visit.matched
  let freeA := visit.state.ledger.free visit.main.who visit.main.assets.assetIn
  let freeB := visit.state.ledger.free visit.matched.who visit.main.assets.assetOut
  match refusal cfg visit.state visit.intention visit.main visit.matched with
  | some (named, _) => named.intentionId ≠ visit.matched.intentionId
  | none =>
      freeA < trade.amountFromA ∨
      (trade.amountFromB ≤ freeB ∧ ∀ fees ∈ trade.fees cfg,
        freeA < toReserve visit.main trade.amountFromA fees.1 ∨
        freeB < toReserve visit.matched trade.amountFromB fees.2)

instance (cfg : Config) (visit : Visit) : Decidable (visit.Silent cfg) :=
  match refused : refusal cfg visit.state visit.intention visit.main visit.matched with
  | some (named, _) =>
      decidable_of_iff (named.intentionId ≠ visit.matched.intentionId)
        (by simp only [Visit.Silent, refused])
  | none =>
      decidable_of_iff
        (visit.state.ledger.free visit.main.who visit.main.assets.assetIn <
            (tradeOf visit.main visit.matched).amountFromA ∨
          ((tradeOf visit.main visit.matched).amountFromB ≤
              visit.state.ledger.free visit.matched.who visit.main.assets.assetOut ∧
            ∀ fees ∈ (tradeOf visit.main visit.matched).fees cfg,
              visit.state.ledger.free visit.main.who visit.main.assets.assetIn <
                toReserve visit.main (tradeOf visit.main visit.matched).amountFromA fees.1 ∨
              visit.state.ledger.free visit.matched.who visit.main.assets.assetOut <
                toReserve visit.matched (tradeOf visit.main visit.matched).amountFromB fees.2))
        (by simp only [Visit.Silent, refused])

section Turn

/-- A refusal names the main intention or the matched one. -/
theorem refusal_names {named : Intention} {error : ErrorDetail}
    (refusing : refusal cfg s intention main matched = some (named, error)) :
    named = intention ∨ named = matched := by
  unfold refusal at refusing
  split_ifs at refusing
  · simp only [Option.map_eq_some_iff, Prod.mk.injEq] at refusing
    obtain ⟨_, -, rfl, -⟩ := refusing
    exact .inr rfl
  · split at refusing
    · obtain ⟨rfl, -⟩ := Prod.mk.inj (Option.some.inj refusing)
      exact .inr rfl
    · exact absurd refusing nofun
  · split at refusing
    · obtain ⟨rfl, -⟩ := Prod.mk.inj (Option.some.inj refusing)
      exact .inl rfl
    · simp only [Option.map_eq_some_iff, Prod.mk.injEq] at refusing
      obtain ⟨_, -, rfl, -⟩ := refusing
      exact .inr rfl

theorem silent_iff_of_refused {named : Intention} {error : ErrorDetail}
    (refusing : refusal cfg s intention main matched = some (named, error)) :
    Visit.Silent cfg ⟨pool, s, intention, main, matched⟩ ↔
      named.intentionId ≠ matched.intentionId := by
  simp only [Visit.Silent, refusing]

theorem silent_iff_of_allowed (allowed : refusal cfg s intention main matched = none) :
    Visit.Silent cfg ⟨pool, s, intention, main, matched⟩ ↔
      s.ledger.free main.who main.assets.assetIn < (tradeOf main matched).amountFromA ∨
      ((tradeOf main matched).amountFromB ≤ s.ledger.free matched.who main.assets.assetOut ∧
        ∀ fees ∈ (tradeOf main matched).fees cfg,
          s.ledger.free main.who main.assets.assetIn <
            toReserve main (tradeOf main matched).amountFromA fees.1 ∨
          s.ledger.free matched.who main.assets.assetOut <
            toReserve matched (tradeOf main matched).amountFromB fees.2) := by
  simp only [Visit.Silent, allowed]

/-- A trade that could be prepared is not silent. -/
theorem not_silent_of_ready {prepared : State} {dt : DirectTradeData}
    (opposed : Opposed main matched) (allowed : refusal cfg s intention main matched = none)
    (ready : (tradeOf main matched).prepare cfg s pool = (prepared, dt, true)) :
    ¬ Visit.Silent cfg ⟨pool, s, intention, main, matched⟩ := by
  have outcome := (tradeOf main matched).preparation cfg pool s
  rw [ready] at outcome
  obtain _ | _ | _ | _ | _ | ⟨coveredA, coveredB, known, reservedA, reservedB⟩ := outcome
  rw [tradeOf_intentionA] at coveredA reservedA
  rw [tradeOf_intentionA, tradeOf_intentionB] at coveredB reservedB
  have enoughA := (Ledger.reserve_eq_some_iff.mp reservedA).1
  have enoughB := (Ledger.reserve_eq_some_iff.mp reservedB).1
  rw [Ledger.free_reserve_of_ne_currency reservedA _ opposed.distinct.symm] at enoughB
  rw [silent_iff_of_allowed allowed]
  rintro (short | ⟨-, refused⟩)
  · exact absurd coveredA (not_le.mpr short)
  · obtain shortA | shortB := refused _ known
    · exact absurd enoughA (not_le.mpr shortA)
    · exact absurd enoughB (not_le.mpr shortB)

/-- A trade that could not be prepared reports a party that is short of balance, and nobody
if the fees or a reservation failed. -/
theorem names_unprepared (idsOf : Event → List IntentionId) {after : State}
    {dt : DirectTradeData}
    (insufficient : ∀ who asset kind intentionId error,
      idsOf (.insufficientAssetBalanceEvent who asset kind intentionId error) = [intentionId])
    (opposed : Opposed main matched) (apart : main.intentionId ≠ matched.intentionId)
    (allowed : refusal cfg s intention main matched = none)
    (failed : (tradeOf main matched).prepare cfg s pool = (after, dt, false)) :
    ∃ ids, Names idsOf s after ids ∧
      (∀ id ∈ ids, id = main.intentionId ∨ id = matched.intentionId) ∧
      (matched.intentionId ∈ ids ↔ ¬ Visit.Silent cfg ⟨pool, s, intention, main, matched⟩) ∧
      (main.intentionId ∈ ids →
        s.ledger.free main.who main.assets.assetIn < (tradeOf main matched).amountFromA) ∧
      (matched.intentionId ∈ ids →
        s.ledger.free matched.who main.assets.assetOut <
          (tradeOf main matched).amountFromB) := by
  have outcome := (tradeOf main matched).preparation cfg pool s
  rw [failed] at outcome
  rw [silent_iff_of_allowed allowed]
  cases outcome with
  | shortA lacking =>
      rw [tradeOf_intentionA] at lacking ⊢
      refine ⟨_, names_depositEvent s _, ?_⟩
      rw [insufficient]
      refine ⟨by simp, ?_, fun _ => lacking, ?_⟩
      · simp [lacking, apart.symm]
      · simp [apart.symm]
  | shortB covered lacking =>
      rw [tradeOf_intentionA] at covered
      rw [tradeOf_intentionA, tradeOf_intentionB] at lacking ⊢
      refine ⟨_, names_depositEvent s _, ?_⟩
      rw [insufficient]
      refine ⟨by simp, ?_, ?_, fun _ => lacking⟩
      · simp [covered, lacking]
      · simp [apart]
  | noFees covered unknown =>
      rw [tradeOf_intentionA, tradeOf_intentionB] at covered
      refine ⟨[], names_nil rfl, by simp, ?_, by simp, by simp⟩
      simp [covered, unknown]
  | refusedA covered known refused =>
      rw [tradeOf_intentionA, Ledger.reserve_eq_none_iff] at refused
      rw [tradeOf_intentionA, tradeOf_intentionB] at covered
      refine ⟨[], names_nil rfl, by simp, ?_, by simp, by simp⟩
      simp [covered, known, refused]
  | refusedB _ covered known reservedA refused =>
      rw [tradeOf_intentionA] at reservedA
      rw [tradeOf_intentionA, tradeOf_intentionB] at covered
      rw [tradeOf_intentionA, tradeOf_intentionB, Ledger.reserve_eq_none_iff,
        Ledger.free_reserve_of_ne_currency reservedA _ opposed.distinct.symm] at refused
      refine ⟨[], names_nil rfl, by simp, ?_, by simp, by simp⟩
      simp [covered, known, refused]

/-- The pool's part reports the matched intention only. -/
theorem PoolPart.emits {prepared after : State}
    (poolPart : PoolPart cfg s main matched prepared after) :
    ∃ ids, Emits prepared after ids ∧ ∀ id ∈ ids, id = matched.intentionId := by
  unfold PoolPart at poolPart
  split_ifs at poolPart
  · obtain ⟨_, -, executed⟩ := poolPart
    exact ⟨_, emits_executeAmmTransfer executed, by simp⟩
  · exact ⟨[], emits_nil (by rw [poolPart]), by simp⟩

/-- What one turn reports: nobody but the two parties, the matched one exactly if the
turn is not silent, and the main one if it was traded. -/
theorem Turn.emits (opposed : Opposed main matched)
    (identity : intention.intentionId = main.intentionId)
    (apart : main.intentionId ≠ matched.intentionId)
    (turn : Turn cfg pool intention s main matched t left) :
    ∃ ids, Emits s t ids ∧
      (∀ id ∈ ids, id = main.intentionId ∨ id = matched.intentionId) ∧
      (matched.intentionId ∈ ids ↔ ¬ Visit.Silent cfg ⟨pool, s, intention, main, matched⟩) ∧
      (left = main ∨ main.intentionId ∈ ids) := by
  cases turn with
  | @refused named error refusing =>
      refine ⟨[named.intentionId], emits_depositEvent s _, ?_, ?_, .inl rfl⟩
      · obtain rfl | rfl := refusal_names refusing
        · simp [identity]
        · simp
      · rw [silent_iff_of_refused refusing, List.mem_singleton, not_not, eq_comm]
  | unprepared allowed failed =>
      obtain ⟨ids, emits, own, named, -⟩ :=
        names_unprepared Event.outcomeIds (fun _ _ _ _ _ => rfl) opposed apart allowed failed
      exact ⟨ids, emits, own, named, .inl rfl⟩
  | @poolFailed prepared dt transfer error allowed ready failed =>
      have quiet : Emits s prepared [] := (ready_quiet _ ready).1
      refine ⟨_, quiet.append ((emits_depositEvent prepared _).append (emits_revert dt _)), ?_, ?_,
        .inl rfl⟩
      · simp [Event.outcomeIds]
      · simp [Event.outcomeIds, not_silent_of_ready opposed allowed ready]
  | @traded prepared after dt left allowed ready poolPart leaves =>
      obtain ⟨quiet, partyA, partyB⟩ := ready_quiet Event.outcomeIds ready
      rw [tradeOf_intentionA] at partyA
      rw [tradeOf_intentionB] at partyB
      obtain ⟨ids, reported, own⟩ := poolPart.emits
      have whole := quiet.append (reported.append (emits_execute dt after))
      rw [partyA, partyB] at whole
      refine ⟨_, whole, ?_, ?_, .inr (by simp)⟩
      · intro id listed
        simp only [List.nil_append, List.mem_append, List.mem_cons, List.not_mem_nil,
          or_false] at listed
        obtain pooled | direct := listed
        · exact .inr (own id pooled)
        · exact direct
      · simp [not_silent_of_ready opposed allowed ready]

end Turn

section Reports

/-- The outcome events between two states name only these intentions, and name all of
them exactly if none of the turns is silent. -/
def Reports (cfg : Config) (s : State) (xs : List Intention) (turns : List Visit) (t : State) :
    Prop :=
  ∃ ids, Emits s t ids ∧ (∀ id ∈ ids, id ∈ xs.map Intention.intentionId) ∧
    ((∀ x ∈ xs, x.intentionId ∈ ids) ↔ ∀ visit ∈ turns, ¬ visit.Silent cfg)

/-- Reports about different intentions add up. -/
theorem Reports.append {xs ys : List Intention} {turns turns' : List Visit}
    (distinct : ((xs ++ ys).map Intention.intentionId).Nodup)
    (first : Reports cfg s xs turns t) (second : Reports cfg t ys turns' u) :
    Reports cfg s (xs ++ ys) (turns ++ turns') u := by
  obtain ⟨ids, emits, own, all⟩ := first
  obtain ⟨ids', emits', own', all'⟩ := second
  rw [List.map_append, List.nodup_append'] at distinct
  have apart := distinct.2.2
  refine ⟨ids ++ ids', emits.append emits', ?_, ?_⟩
  · intro id listed
    rw [List.map_append, List.mem_append]
    exact (List.mem_append.mp listed).imp (own id) (own' id)
  · rw [List.forall_mem_append, List.forall_mem_append, ← all, ← all']
    refine and_congr ?_ ?_
    · refine forall₂_congr fun x listed => ?_
      rw [List.mem_append, or_iff_left fun late => ?_]
      exact apart (List.mem_map_of_mem listed) (own' _ late)
    · refine forall₂_congr fun y listed => ?_
      rw [List.mem_append, or_iff_right fun early => ?_]
      exact apart (own _ early) (List.mem_map_of_mem listed)

/-- The turns over a group: the main intention is named once something is traded. -/
theorem Turns.emits {group : List Intention}
    (opposed : ∀ matched ∈ group, Opposed main matched)
    (identity : intention.intentionId = main.intentionId)
    (distinct : ((main :: group).map Intention.intentionId).Nodup)
    (turns : Turns cfg pool intention s main group t left) :
    ∃ ids, Emits s t ids ∧ (∀ id ∈ ids, id ∈ (main :: group).map Intention.intentionId) ∧
      ((∀ x ∈ group, x.intentionId ∈ ids) ↔
        ∀ visit ∈ groupVisits cfg pool intention s main group, ¬ visit.Silent cfg) ∧
      (left = main ∨ main.intentionId ∈ ids) := by
  induction turns with
  | done => exact ⟨[], emits_nil rfl, by simp, by simp [groupVisits], .inl rfl⟩
  | @next s after t main rest left matched group resolved _ ih =>
      have turn := resolveMatched_ok resolved
      have same := turn.same
      rw [List.forall_mem_cons] at opposed
      simp only [List.map_cons, List.nodup_cons, List.mem_cons, not_or] at distinct
      obtain ⟨⟨apart, mainFresh⟩, matchedFresh, groupDistinct⟩ := distinct
      have others : ∀ matched ∈ group, Opposed rest matched := fun matched listed =>
        (opposed.2 matched listed).of_same same
      obtain ⟨ids, emits, own, all, traded⟩ := turn.emits opposed.1 identity apart
      obtain ⟨ids', emits', own', all', traded'⟩ := ih others
        (identity.trans same.intentionId.symm) (by
          simp only [List.map_cons, List.nodup_cons, same.intentionId]
          exact ⟨mainFresh, groupDistinct⟩)
      simp only [List.map_cons, List.mem_cons, same.intentionId] at own' traded'
      rw [groupVisits_cons resolved]
      refine ⟨ids ++ ids', emits.append emits', ?_, ?_, ?_⟩
      · intro id listed
        simp only [List.map_cons, List.mem_cons]
        obtain early | late := List.mem_append.mp listed
        · obtain here | here := own id early
          · exact .inl here
          · exact .inr (.inl here)
        · obtain here | here := own' id late
          · exact .inl here
          · exact .inr (.inr here)
      · rw [List.forall_mem_cons, List.forall_mem_cons, ← all, ← all']
        refine and_congr ?_ ?_
        · rw [List.mem_append, or_iff_left fun late => ?_]
          obtain here | here := own' _ late
          · exact apart here.symm
          · exact matchedFresh here
        · refine forall₂_congr fun x listed => ?_
          rw [List.mem_append, or_iff_right fun early => ?_]
          have found := List.mem_map_of_mem (f := Intention.intentionId) listed
          obtain here | here := own _ early
          · exact mainFresh (here ▸ found)
          · exact matchedFresh (here ▸ found)
      · obtain rfl | named := traded
        · exact traded'.imp_right (List.mem_append_right ids)
        · exact .inr (List.mem_append_left ids' named)

theorem Handing.Step.reports {handing : Handing}
    (facing : ∀ main group, handing.dispatch = .matched main group →
      0 < main.amountIn ∧ ∀ matched ∈ group, Opposed main matched)
    (distinct : (handing.intentions.map Intention.intentionId).Nodup)
    (taken : Handing.Step cfg s handing t) :
    Reports cfg s handing.intentions (Handing.visits cfg (s, handing)) t := by
  unfold Handing.Step at taken
  unfold Handing.visits
  unfold Handing.intentions at distinct ⊢
  split at taken
  · next main rejected =>
      obtain ⟨error, -, rfl⟩ := taken
      simp only [rejected]
      exact ⟨_, emits_depositEvent s _, by simp [Event.outcomeIds, Dispatch.mains],
        by simp [Event.outcomeIds, Dispatch.mains, Dispatch.others]⟩
  · next main group dispatched =>
      obtain ⟨positive, opposed⟩ := facing main group dispatched
      simp only [dispatched, Dispatch.mains, Dispatch.others, List.singleton_append] at distinct ⊢
      obtain ⟨after, left, turns, rfl⟩ := resolveMatchedIntentions_ok taken.2
      obtain ⟨ids, emits, own, all, traded⟩ := turns.emits opposed rfl distinct
      rw [List.map_cons, List.nodup_cons] at distinct
      split_ifs with something
      · -- the rest goes through the pool, which names the main intention
        have rest : Emits after (resolveSingleIntention cfg after left) [main.intentionId] :=
          turns.same.intentionId ▸ emits_resolveSingleIntention after left
        refine ⟨_, emits.append rest, ?_, ?_⟩
        · intro id listed
          obtain early | late := List.mem_append.mp listed
          · exact own id early
          · rw [List.mem_singleton.mp late]
            exact List.mem_cons_self
        · rw [List.forall_mem_cons, ← all]
          refine ⟨fun named => ?_, fun named => ⟨by simp, fun x listed => ?_⟩⟩
          · intro x listed
            obtain early | late := List.mem_append.mp (named.2 x listed)
            · exact early
            · rw [← List.mem_singleton.mp late] at distinct
              exact absurd (List.mem_map_of_mem listed) distinct.1
          · exact List.mem_append_left _ (named x listed)
      · have named : main.intentionId ∈ ids := by
          obtain rfl | named := traded
          · exact absurd positive something
          · exact named
        refine ⟨ids, emits, own, ?_⟩
        rw [List.forall_mem_cons, ← all]
        exact and_iff_right named
  · next single =>
      subst taken
      simp only [single]
      exact ⟨_, emits_resolveSingleIntention s _, by simp [Dispatch.mains, Dispatch.others],
        by simp [Dispatch.mains, Dispatch.others]⟩

end Reports

section Finalization

variable {order : List (AssetId × AssetId)}

/-- The run of a finalization reports on everything that is handed over. -/
theorem reports_of_run {past : List (State × Handing)}
    (run : Run (· = s) (Handing.Step cfg) past t)
    (guarded : Guarded (fun _ handing => ∀ main group,
      handing.dispatch = .matched main group →
        0 < main.amountIn ∧ ∀ matched ∈ group, Opposed main matched) past)
    (distinct : ((handed past.reverse).map Intention.intentionId).Nodup) :
    Reports cfg s (handed past.reverse) (past.reverse.flatMap (Handing.visits cfg)) t := by
  refine run.history_invariant (fun past t =>
    ((handed past.reverse).map Intention.intentionId).Nodup →
      Reports cfg s (handed past.reverse) (past.reverse.flatMap (Handing.visits cfg)) t)
    ?_ ?_ guarded distinct
  · rintro s rfl -
    exact ⟨[], emits_nil rfl, by simp, by simp [handed]⟩
  · intro past t handing u _ reported met taken distinct
    have split : handed ((t, handing) :: past).reverse =
        handed past.reverse ++ handing.intentions := by
      rw [List.reverse_cons, handed_append]
      exact congrArg _ (List.flatMap_singleton _ _)
    rw [split] at distinct ⊢
    rw [List.reverse_cons, List.flatMap_append, List.flatMap_singleton]
    have parts := distinct
    rw [List.map_append, List.nodup_append'] at parts
    exact (reported parts.1).append distinct (taken.reports met parts.2.1)

/-- A finalization names every registered intention in an outcome event exactly if none
of its turns is silent. -/
theorem all_named_iff (reachable : Reachable Initial (Step cfg) s)
    (iterates : s.IterationOrder order) (finalized : onFinalize cfg s order = .ok t) :
    (∀ x, s.IsRegistered x → ∃ event ∈ t.events.drop s.events.length,
      x.intentionId ∈ event.outcomeIds) ↔
    ∀ visit ∈ visits cfg s order, ¬ visit.Silent cfg := by
  have inv := registered_of_reachable reachable
  obtain ⟨last, run, once, -, rfl⟩ := onFinalize_ok inv iterates finalized
  obtain ⟨nodup, registered⟩ := inv.handed_once iterates once
  have distinct := inv.nodup_ids nodup fun x => (registered x).mp
  have guarded : Guarded (fun _ handing => ∀ main group,
      handing.dispatch = .matched main group →
        0 < main.amountIn ∧ ∀ matched ∈ group, Opposed main matched)
      (handings cfg s order).reverse := fun event listed =>
    inv.opposed (List.mem_reverse.mp listed)
  have reported := reports_of_run run guarded (by rwa [List.reverse_reverse])
  rw [List.reverse_reverse] at reported
  obtain ⟨ids, ⟨new, emitted, rfl⟩, -, named⟩ := reported
  rw [visits, ← named]
  refine forall_congr' fun x => ?_
  rw [registered]
  refine imp_congr_right fun _ => ?_
  show (∃ event ∈ last.events.drop s.events.length, _) ↔ _
  rw [emitted, List.drop_left, List.mem_flatMap]

/-- A sale of asset 2 and the three purchases it is matched with, one of them over its
limit. -/
theorem all_named_matched :
    ∃ s t, onFinalize .reference s [(1, 2)] = .ok t ∧ s.countOf (1, 2) = 4 ∧
      ∀ x, s.IsRegistered x → ∃ event ∈ t.events.drop s.events.length,
        x.intentionId ∈ event.outcomeIds := by
  have computed : succeedsWith (simulate FixedU128.one
      [.sell 0 2 1 20000000 1 false, .buy 1 2 1 9000000 10000000 false,
        .buy 2 2 1 8000000 100 false, .buy 3 2 1 7000000 10000000 false])
      (fun s => succeedsWith (onFinalize .reference s [(1, 2)]) (fun _ =>
        decide (s.IterationOrder [(1, 2)]) && (decide (s.countOf (1, 2) = 4) &&
        decide (∀ visit ∈ visits .reference s [(1, 2)], ¬ visit.Silent .reference)))) =
      true := by
    decide +kernel
  simp only [succeedsWith_iff, Bool.and_eq_true, decide_eq_true_eq] at computed
  obtain ⟨s, run, t, finalized, iterates, counted, loud⟩ := computed
  exact ⟨s, t, finalized, counted,
    (all_named_iff (reachableUnder_of_simulate run).reachable iterates finalized).mpr loud⟩

/-- The purchase of a buyer who cannot pay the fee on top of the whole balance disappears
without an event. -/
theorem not_all_named :
    ¬ ∀ (cfg : Config) (s t : State) (order : List (AssetId × AssetId)),
      cfg.amm.math.Lawful → Reachable Initial (Step cfg) s → s.IterationOrder order →
      onFinalize cfg s order = .ok t →
      ∀ x, s.IsRegistered x → ∃ event ∈ t.events.drop s.events.length,
        x.intentionId ∈ event.outcomeIds := by
  intro claim
  have computed : succeedsWith (simulate FixedU128.one
      [.sell 0 2 1 20000000 1 false, .buy 1 2 1 10000000 20000000 false])
      (fun s => succeedsWith (onFinalize .reference s [(1, 2)]) (fun t =>
        decide (s.IterationOrder [(1, 2)]) &&
        decide (∃ x ∈ s.intentionsOf (1, 2), ¬ ∃ event ∈ t.events.drop s.events.length,
          x.intentionId ∈ event.outcomeIds))) = true := by
    decide +kernel
  simp only [succeedsWith_iff, Bool.and_eq_true, decide_eq_true_eq] at computed
  obtain ⟨s, run, t, finalized, iterates, x, waiting, unnamed⟩ := computed
  exact unnamed (claim .reference s t [(1, 2)] Xyk.Math.reference_lawful
    (reachableUnder_of_simulate run).reachable iterates finalized x ⟨(1, 2), waiting⟩)

end Finalization

end Basilisk.Exchange
