/-
# Reserved money

An offer reserves its amount and a royalty reserves a bond, both from the signer's
native balance and both under the pallet's one identifier.  The reserve of an
account is therefore the sum of its outstanding offers and its bonds, which are
never given back.  Withdrawing or accepting an offer releases the amount of that
offer and nothing else.

The maker of an offer gets the amount back by withdrawing it, but `withdraw_offer`
looks the owner of the token up first, so the money is stuck while the token does
not exist.
-/

import Basilisk.Marketplace.Consent

namespace Basilisk.Marketplace

open Basilisk.Math

variable {cfg : Config} {s t u : State} {label : Label} {token : Nft.Token}
variable {past : List (State × Label)} {who maker : AccountId} {amount : ℕ}

/-- Empty storage, with nothing reserved for the pallet. -/
structure Fresh (s : State) : Prop extends Initial s where
  named : s.named = fun _ => 0

/-- What an account has on offer. -/
def State.offered (s : State) (who : AccountId) : ℕ :=
  s.offers.total fun _ offer => if offer.maker = who then offer.amount else 0

/-- The account that reserves a bond in this step. -/
def Label.bonder : Label → Option AccountId
  | .market (.addRoyalty key ..) => some (.signer key)
  | _ => none

/-- How many royalties an account has added. -/
def royaltiesAdded (past : List (State × Label)) (who : AccountId) : ℕ :=
  past.countP fun event => event.2.bonder = some who

section Effects

variable {buyer sender receiver : AccountId}

/-- Offers and reserves are as they were. -/
structure Unbooked (s t : State) : Prop where
  offers : t.offers = s.offers
  named : t.named = s.named
  reserved : t.ledger.reserved = s.ledger.reserved

theorem Unbooked.trans (first : Unbooked s t) (second : Unbooked t u) : Unbooked s u where
  offers := second.offers.trans first.offers
  named := second.named.trans first.named
  reserved := second.reserved.trans first.reserved

/-- More is reserved for the pallet. -/
structure SetAside (cfg : Config) (s t : State) (who : AccountId) (amount : ℕ) : Prop where
  named : t.named = Function.update s.named who (s.named who + amount)
  reserved : t.ledger.reserved =
    Ledger.credit s.ledger.reserved who cfg.nativeAssetId amount

theorem transfer_unbooked (moved : s.transfer cfg sender receiver amount = .ok t) :
    Unbooked s t := by
  unfold State.transfer at moved
  split_ifs at moved
  · obtain rfl := return_eq_ok.mp moved
    exact ⟨rfl, rfl, rfl⟩
  · simp only [bind_eq_ok, okOr_eq_ok, ensure_eq_ok, return_eq_ok, exists_const] at moved
    rcases moved with ⟨ledger, moved, -, -, rfl⟩
    exact ⟨rfl, rfl, (Ledger.reserved_transfer moved).1⟩

theorem settleRoyalty_unbooked {owner : AccountId} {price net : ℕ}
    (settled : settleRoyalty cfg s buyer owner token price = .ok (t, net)) : Unbooked s t := by
  rcases settleRoyalty_cases settled with ⟨_, _, -, -, -, moved, rfl, -⟩ | ⟨-, rfl, -⟩
  · have kept := transfer_unbooked moved
    exact ⟨kept.offers, kept.named, kept.reserved⟩
  · exact ⟨rfl, rfl, rfl⟩

theorem takePrice_unbooked {isOffer : Bool} {price : ℕ}
    (taken : takePrice s buyer token isOffer = .ok (t, price)) : Unbooked s t := by
  rcases takePrice_ok taken with ⟨-, rfl, -⟩ | ⟨-, rfl, -⟩
  · exact ⟨rfl, rfl, rfl⟩
  · exact ⟨rfl, rfl, rfl⟩

/-- A sale pays from free balances. -/
theorem doBuy_unbooked {isOffer : Bool} (bought : doBuy cfg s buyer token isOffer = .ok t) :
    Unbooked s t := by
  obtain ⟨owner, priced, price, settled, net, paid, nft, -, -, taking, royalty, paying, -, rfl⟩ :=
    doBuy_steps bought
  have before := (takePrice_unbooked taking).trans (settleRoyalty_unbooked royalty)
  have after := before.trans (transfer_unbooked paying)
  exact ⟨after.offers, after.named, after.reserved⟩

theorem reserveNamed_ok (reserving : s.reserveNamed cfg who amount = .ok t) :
    SetAside cfg s t who amount ∧ t.offers = s.offers := by
  simp only [State.reserveNamed, bind_eq_ok, okOr_eq_ok, return_eq_ok] at reserving
  rcases reserving with ⟨ledger, reserved, rfl⟩
  obtain ⟨-, rfl⟩ := Ledger.reserve_eq_some_iff.mp reserved
  exact ⟨⟨rfl, rfl⟩, rfl⟩

/-- The pallet's part of the reserve is really there. -/
def Covered (cfg : Config) (s : State) : Prop :=
  ∀ who, s.named who ≤ s.ledger.reserved who cfg.nativeAssetId

/-- The amounts of an offer that was closed went from the reserve to the free balance, as far
as they were reserved for the pallet. -/
structure Released (cfg : Config) (s t : State) (who : AccountId) (amount : ℕ) : Prop where
  named : t.named = (s.unreserveNamed cfg who amount).named
  reserved : t.ledger.reserved = (s.unreserveNamed cfg who amount).ledger.reserved

/-- What a step does to offers and reserves. -/
inductive Effect (cfg : Config) (s t : State) : Label → Prop
  | kept {label : Label} (unbonded : label.bonder = none) (unbooked : Unbooked s t) :
      Effect cfg s t label
  | placed {key amount expires : ℕ} {token : Nft.Token}
      (absent : s.offers.lookup (token, .signer key) = none)
      (offers : t.offers =
        s.offers.insert (token, .signer key) ⟨.signer key, amount, expires⟩)
      (aside : SetAside cfg s t (.signer key) amount) :
      Effect cfg s t (.market (.makeOffer key token amount expires))
  | closed {label : Label} {token : Nft.Token} {maker : AccountId} {offer : Offer}
      (unbonded : label.bonder = none)
      (stored : s.offers.lookup (token, maker) = some offer)
      (offers : t.offers = s.offers.erase (token, maker))
      (released : Released cfg s t offer.maker offer.amount) : Effect cfg s t label
  | bonded {key royalty : ℕ} {token : Nft.Token} {author : AccountId}
      (offers : t.offers = s.offers)
      (aside : SetAside cfg s t (.signer key) cfg.royaltyBondAmount) :
      Effect cfg s t (.market (.addRoyalty key token author royalty))
  | chain {blockNumber : ℕ} {ledger : Currencies} (offers : t.offers = s.offers)
      (named : t.named = s.named) (replaced : t.ledger = ledger) :
      Effect cfg s t (.chain blockNumber ledger)

theorem effect_of_dispatch {call : Call} (executed : dispatch cfg s call = .ok t) :
    Effect cfg s t (.market call) := by
  cases call with
  | buy key token => exact .kept rfl (doBuy_unbooked executed)
  | setPrice key token newPrice =>
      simp only [dispatch, setPrice, bind_eq_ok, ensure_eq_ok, return_eq_ok,
        exists_const] at executed
      rcases executed with ⟨-, rfl⟩
      exact .kept rfl ⟨rfl, rfl, rfl⟩
  | makeOffer key token amount expires =>
      simp only [dispatch, makeOffer, bind_eq_ok, ensure_eq_ok, return_eq_ok,
        exists_const] at executed
      rcases executed with ⟨-, absent, reserved, reserving, rfl⟩
      obtain ⟨aside, offers⟩ := reserveNamed_ok reserving
      exact .placed absent offers ⟨aside.named, aside.reserved⟩
  | withdrawOffer key token maker =>
      simp only [dispatch, withdrawOffer, bind_eq_ok, okOr_eq_ok, ensure_eq_ok, return_eq_ok,
        exists_const] at executed
      rcases executed with ⟨offer, stored, owner, -, -, rfl⟩
      exact .closed rfl stored rfl ⟨rfl, rfl⟩
  | acceptOffer key token maker =>
      obtain ⟨offer, bought, -, stored, buying, rfl⟩ := acceptOffer_steps executed
      have unbooked := doBuy_unbooked buying
      refine .closed rfl stored ?_ ⟨unbooked.named, unbooked.reserved⟩
      show bought.offers.erase (token, maker) = _
      rw [unbooked.offers]
      rfl
  | addRoyalty key token author royalty =>
      simp only [dispatch, addRoyalty, bind_eq_ok, okOr_eq_ok, ensure_eq_ok, return_eq_ok,
        exists_const] at executed
      rcases executed with ⟨-, -, owner, -, -, reserved, reserving, rfl⟩
      obtain ⟨aside, offers⟩ := reserveNamed_ok reserving
      exact .bonded offers ⟨aside.named, aside.reserved⟩

theorem effect_of_step (taken : Step cfg s label t) : Effect cfg s t label := by
  cases label with
  | market call => exact effect_of_dispatch taken
  | nft call =>
      simp only [Step, exec, bind_eq_ok, mapError_eq_ok, return_eq_ok] at taken
      rcases taken with ⟨nft, -, rfl⟩
      exact .kept rfl ⟨rfl, rfl, rfl⟩
  | chain blockNumber ledger =>
      obtain rfl := Except.ok.inj taken
      exact .chain rfl rfl rfl

end Effects

/-- The books: what is reserved under the pallet's identifier is on offer or bonded, and every
offer is stored under the signer who made it. -/
structure Booked (cfg : Config) (past : List (State × Label)) (s : State) : Prop where
  named : ∀ who, s.named who = s.offered who + cfg.royaltyBondAmount * royaltiesAdded past who
  makers : ∀ key offer, s.offers.lookup key = some offer →
    offer.maker = key.2 ∧ ∃ signer, key.2 = .signer signer

theorem royaltiesAdded_cons (who : AccountId) :
    royaltiesAdded ((s, label) :: past) who =
      royaltiesAdded past who + if label.bonder = some who then 1 else 0 := by
  simp [royaltiesAdded, List.countP_cons]

theorem royaltiesAdded_of_unbonded (unbonded : label.bonder = none) (who : AccountId) :
    royaltiesAdded ((s, label) :: past) who = royaltiesAdded past who := by
  simp [royaltiesAdded_cons, unbonded]

theorem offered_congr (offers : t.offers = s.offers) (who : AccountId) :
    t.offered who = s.offered who := by
  rw [State.offered, offers, State.offered]

/-- A stored offer is covered by its maker's reserve. -/
theorem Booked.amount_le (booked : Booked cfg past s) {offer : Offer}
    (stored : s.offers.lookup (token, maker) = some offer) :
    offer.amount ≤ s.named offer.maker := by
  have counted := AList.weight_le_total
    (fun _ (stored : Offer) => if stored.maker = offer.maker then stored.amount else 0) stored
  rw [if_pos rfl] at counted
  rw [booked.named]
  exact counted.trans (Nat.le_add_right _ _)

/-- One step keeps the books. -/
theorem Booked.step (booked : Booked cfg past s) (effect : Effect cfg s t label) :
    Booked cfg ((s, label) :: past) t := by
  cases effect with
  | kept unbonded unbooked =>
      refine ⟨fun who => ?_, fun key offer stored => ?_⟩
      · rw [unbooked.named, offered_congr unbooked.offers, royaltiesAdded_of_unbonded unbonded]
        exact booked.named who
      · rw [unbooked.offers] at stored
        exact booked.makers key offer stored
  | @placed key amount expires token absent offers aside =>
      refine ⟨fun who => ?_, ?_⟩
      · have more : t.offered who =
            s.offered who + if AccountId.signer key = who then amount else 0 := by
          rw [State.offered, offers, AList.total_insert_of_none _ absent]
          rfl
        have same := booked.named who
        rw [aside.named, more, royaltiesAdded_of_unbonded rfl, Function.update_apply]
        by_cases mine : who = .signer key
        · rw [if_pos mine, if_pos mine.symm, ← mine]
          omega
        · rw [if_neg mine, if_neg (Ne.symm mine)]
          omega
      · rw [offers]
        exact AList.forall_lookup_insert ⟨rfl, key, rfl⟩ fun key' offer _ stored =>
          booked.makers key' offer stored
  | @closed _ token maker offer unbonded stored offers released =>
      refine ⟨fun who => ?_, ?_⟩
      · have less : t.offered who + (if offer.maker = who then offer.amount else 0) =
            s.offered who := by
          rw [State.offered, offers]
          exact AList.total_erase_add
            (fun _ (stored : Offer) => if stored.maker = who then stored.amount else 0) stored
        have same := booked.named who
        have covered := booked.amount_le stored
        rw [released.named, royaltiesAdded_of_unbonded unbonded]
        show Function.update s.named _ _ who = _
        rw [Function.update_apply, min_eq_left covered]
        by_cases mine : who = offer.maker
        · rw [if_pos mine.symm] at less
          rw [if_pos mine, ← mine]
          omega
        · rw [if_neg (Ne.symm mine)] at less
          rw [if_neg mine]
          omega
      · rw [offers]
        exact AList.forall_lookup_erase fun key' offer' _ stored' =>
          booked.makers key' offer' stored'
  | @bonded key royalty token author offers aside =>
      refine ⟨fun who => ?_, fun key' offer stored => ?_⟩
      · have same := booked.named who
        have bonder : (Label.market (.addRoyalty key token author royalty)).bonder =
            some (.signer key) := rfl
        rw [aside.named, offered_congr offers, royaltiesAdded_cons, bonder,
          Function.update_apply]
        by_cases mine : who = .signer key
        · rw [if_pos mine, mine, if_pos rfl, Nat.mul_add, ← mine]
          omega
        · rw [if_neg mine, if_neg fun other => mine (Option.some.inj other).symm]
          exact same
      · rw [offers] at stored
        exact booked.makers key' offer stored
  | chain offers named =>
      refine ⟨fun who => ?_, fun key offer stored => ?_⟩
      · rw [named, offered_congr offers, royaltiesAdded_of_unbonded rfl]
        exact booked.named who
      · rw [offers] at stored
        exact booked.makers key offer stored

theorem booked_of_run (run : Run Fresh (Step cfg) past s) : Booked cfg past s := by
  have unguarded : Guarded (fun _ _ => True) past := fun _ _ => trivial
  refine run.history_invariant (Booked cfg) ?_ ?_ unguarded
  · intro s fresh
    refine ⟨fun who => ?_, fun key offer stored => ?_⟩
    · rw [fresh.named, State.offered, fresh.offers]
      rfl
    · rw [fresh.offers] at stored
      cases stored
  · intro past s label t _ booked _ taken
    exact booked.step (effect_of_step taken)

/-- Every account's reserve under the pallet's identifier is the sum of its outstanding offers
and one bond for each royalty it added, and every offer is stored under its maker. -/
theorem named_reserve_accounted (run : Run Fresh (Step cfg) past s) :
    (∀ who, s.named who =
      (s.offers.entries.map fun entry =>
        if entry.2.maker = who then entry.2.amount else 0).sum +
      cfg.royaltyBondAmount * past.countP fun event => event.2.bonder = some who) ∧
    ∀ token maker offer, s.offers.lookup (token, maker) = some offer → offer.maker = maker := by
  have booked := booked_of_run run
  exact ⟨booked.named, fun token maker offer stored => (booked.makers _ offer stored).1⟩

section Reference

theorem fresh_of_simulate {labels : List Label} (computed : simulate labels = .ok (past, s)) :
    Run Fresh (Step .reference) past s :=
  run_of_recording (fun _ _ _ executed => executed) (.start ⟨⟨rfl, rfl, rfl⟩, rfl⟩) computed

/-- The step is a call of one of the two pallets. -/
def Label.isCall : Label → Bool
  | .chain .. => false
  | .market _ | .nft _ => true

end Reference

/-- Signer 1 adds a royalty to the token and makes an offer of 10000 units for another one that
does not exist: 12000 units are reserved. -/
theorem named_reserve_accounted_bonded :
    ∃ (past : List (State × Label)) (s : State), s.named (.signer 1) = 12000 * 10 ^ 12 ∧
      s.named (.signer 1) =
        (s.offers.entries.map fun entry =>
          if entry.2.maker = .signer 1 then entry.2.amount else 0).sum +
        Config.reference.royaltyBondAmount *
          past.countP fun event => event.2.bonder = some (.signer 1) := by
  have computed : succeedsWith (simulate
      [.market (.addRoyalty 1 (1000000, 7) (.signer 3) 10),
        .market (.makeOffer 1 (1000000, 8) (10000 * 10 ^ 12) 100)])
      (fun result => decide (result.2.named (.signer 1) = 12000 * 10 ^ 12)) = true := by
    decide +kernel
  simp only [succeedsWith_iff, decide_eq_true_eq] at computed
  obtain ⟨⟨past, s⟩, recorded, named⟩ := computed
  exact ⟨past, s, named, (named_reserve_accounted (fresh_of_simulate recorded)).1 (.signer 1)⟩

section Withdrawal

variable {offer : Offer}

/-- The rest of the chain does not take what is reserved for the pallet. -/
def SparesReserve (cfg : Config) (s : State) : Label → Prop
  | .chain _ ledger => ∀ who, s.named who ≤ ledger.reserved who cfg.nativeAssetId
  | .market _ | .nft _ => True

/-- Calls of the two pallets are no concern of the rest of the chain. -/
theorem spares_of_calls (calls : past.all (fun event => event.2.isCall) = true) :
    Guarded (SparesReserve cfg) past := by
  intro event listed
  have called := List.all_eq_true.mp calls event listed
  rcases event with ⟨state, label⟩
  cases label with
  | market | nft => trivial
  | chain => cases called

theorem SetAside.covered (aside : SetAside cfg s t who amount) (covered : Covered cfg s) :
    Covered cfg t := by
  intro other
  have before := covered other
  rw [aside.named, aside.reserved, Function.update_apply, Ledger.credit_apply]
  by_cases here : other = who
  · rw [if_pos here, if_pos ⟨here, rfl⟩, ← here]
    exact Nat.add_le_add_right before amount
  · rw [if_neg here, if_neg fun both => here both.1]
    exact before

theorem Released.covered (released : Released cfg s t who amount) (covered : Covered cfg s) :
    Covered cfg t := by
  intro other
  have before := covered other
  rw [released.named, released.reserved]
  show Function.update s.named _ _ other ≤ Ledger.debit _ _ _ _ other _
  rw [Function.update_apply, Ledger.debit_apply]
  by_cases here : other = who
  · subst here
    rw [if_pos rfl, if_pos ⟨rfl, rfl⟩]
    omega
  · rw [if_neg here, if_neg fun both => here both.1]
    exact before

theorem Covered.step (covered : Covered cfg s) (spared : SparesReserve cfg s label)
    (effect : Effect cfg s t label) : Covered cfg t := by
  cases effect with
  | kept _ unbooked =>
      intro who
      rw [unbooked.named, unbooked.reserved]
      exact covered who
  | placed _ _ aside => exact aside.covered covered
  | closed _ _ _ released => exact released.covered covered
  | bonded _ aside => exact aside.covered covered
  | chain _ named replaced =>
      intro who
      rw [named, replaced]
      exact spared who

theorem covered_of_reachable
    (reachable : ReachableUnder Fresh (Step cfg) (SparesReserve cfg) s) : Covered cfg s := by
  refine reachable.invariant (Covered cfg) ?_ ?_
  · intro s fresh who
    rw [fresh.named]
    exact Nat.zero_le _
  · intro s label t covered spared taken
    exact covered.step spared (effect_of_step taken)

/-- The offer is gone and its maker has the amount back; nobody else's reserve moved. -/
structure Refunded (cfg : Config) (s t : State) (token : Nft.Token) (offer : Offer) : Prop where
  offers : t.offers = s.offers.erase (token, offer.maker)
  named : t.named offer.maker + offer.amount = s.named offer.maker
  others : ∀ who, who ≠ offer.maker → t.named who = s.named who
  reserved : t.ledger.reserved offer.maker cfg.nativeAssetId + offer.amount =
    s.ledger.reserved offer.maker cfg.nativeAssetId
  free : t.ledger.free offer.maker cfg.nativeAssetId =
    s.ledger.free offer.maker cfg.nativeAssetId + offer.amount

/-- What a release takes from the reserve, if it is there. -/
theorem reserved_unreserveNamed (enough : amount ≤ s.named who) (covered : Covered cfg s) :
    (s.unreserveNamed cfg who amount).ledger.reserved who cfg.nativeAssetId + amount =
      s.ledger.reserved who cfg.nativeAssetId := by
  have there := covered who
  show Ledger.debit _ _ _ _ _ _ + _ = _
  rw [Ledger.debit_apply, if_pos ⟨rfl, rfl⟩]
  omega

/-- With the books in order a release gives exactly the amount back. -/
theorem refunded_of_unreserve (enough : offer.amount ≤ s.named offer.maker)
    (covered : Covered cfg s) {t : State} (offers : t.offers = s.offers.erase (token, offer.maker))
    (named : t.named = (s.unreserveNamed cfg offer.maker offer.amount).named)
    (ledger : t.ledger = (s.unreserveNamed cfg offer.maker offer.amount).ledger) :
    Refunded cfg s t token offer := by
  have there := covered offer.maker
  have lowered : t.named = Function.update s.named offer.maker
      (s.named offer.maker - offer.amount) := by
    rw [named, State.unreserveNamed, min_eq_left enough]
  refine ⟨offers, ?_, fun who other => ?_, ?_, ?_⟩
  · rw [lowered, Function.update_self]
    omega
  · rw [lowered, Function.update_of_ne other]
  · rw [ledger]
    exact reserved_unreserveNamed enough covered
  · rw [ledger]
    show Ledger.credit _ _ _ _ _ _ = _
    rw [Ledger.credit_apply, if_pos ⟨rfl, rfl⟩]
    omega

/-- A withdrawal by the maker or by the owner of the token goes through. -/
theorem withdrawOffer_succeeds (cfg : Config) {sender owner : AccountId}
    (placed : s.offers.lookup (token, maker) = some offer)
    (held : s.nft.owner token = some owner) (authorised : sender = offer.maker ∨ sender = owner) :
    ∃ t, withdrawOffer cfg s sender token maker = .ok t ∧
      t.offers = s.offers.erase (token, maker) ∧
      t.named = (s.unreserveNamed cfg offer.maker offer.amount).named ∧
      t.ledger = (s.unreserveNamed cfg offer.maker offer.amount).ledger := by
  refine ⟨{ (s.unreserveNamed cfg offer.maker offer.amount).depositEvent
    (.offerWithdrawn sender token) with offers := s.offers.erase (token, maker) }, ?_, rfl, rfl,
    rfl⟩
  simp only [withdrawOffer, bind_eq_ok, okOr_eq_ok, ensure_eq_ok, return_eq_ok, exists_const]
  exact ⟨offer, placed, owner, held, authorised, rfl⟩

/-- The maker of an outstanding offer can withdraw it and gets exactly the amount back, if and
only if the token has an owner. -/
theorem offer_withdrawable_iff
    (reachable : ReachableUnder Fresh (Step cfg) (SparesReserve cfg) s)
    (placed : s.offers.lookup (token, maker) = some offer) :
    (∃ key t, maker = .signer key ∧
      dispatch cfg s (.withdrawOffer key token maker) = .ok t ∧ offer.maker = maker ∧
      Refunded cfg s t token offer) ↔
    ∃ owner, s.nft.owner token = some owner := by
  obtain ⟨past, run, spared⟩ := reachable
  have booked := booked_of_run run
  have covered := covered_of_reachable ⟨past, run, spared⟩
  obtain ⟨made, key, signed⟩ := booked.makers _ _ placed
  dsimp only at made signed
  constructor
  · rintro ⟨key, t, -, executed, -⟩
    simp only [dispatch, withdrawOffer, bind_eq_ok, okOr_eq_ok] at executed
    obtain ⟨_, _, owner, held, _⟩ := executed
    exact ⟨owner, held⟩
  · rintro ⟨owner, held⟩
    obtain ⟨t, withdrawn, offers, named, ledger⟩ := withdrawOffer_succeeds cfg placed held
      (.inl (made.trans signed).symm)
    rw [← made] at offers
    exact ⟨key, t, signed, withdrawn, made,
      refunded_of_unreserve (booked.amount_le placed) covered offers named ledger⟩

/-- Signer 2 makes an offer for the listed token and can withdraw it. -/
theorem offer_withdrawable_listed :
    ∃ s t offer, dispatch .reference s (.withdrawOffer 2 (1000000, 7) (.signer 2)) = .ok t ∧
      offer.amount = 50000 * 10 ^ 12 ∧ Refunded .reference s t (1000000, 7) offer := by
  have computed : succeedsWith (simulate
      [.market (.makeOffer 2 (1000000, 7) (50000 * 10 ^ 12) 100)])
      (fun result => decide (result.2.offers.lookup ((1000000, 7), .signer 2) =
          some ⟨.signer 2, 50000 * 10 ^ 12, 100⟩) &&
        decide (result.2.nft.owner (1000000, 7) = some (.signer 1)) &&
        result.1.all fun event => event.2.isCall) = true := by
    decide +kernel
  simp only [succeedsWith_iff, Bool.and_eq_true, decide_eq_true_eq] at computed
  obtain ⟨⟨past, s⟩, recorded, ⟨placed, held⟩, calls⟩ := computed
  have reachable : ReachableUnder Fresh (Step .reference) (SparesReserve .reference) s :=
    ⟨past, fresh_of_simulate recorded, spares_of_calls calls⟩
  obtain ⟨key, t, signed, executed, -, refunded⟩ :=
    (offer_withdrawable_iff reachable placed).mpr ⟨_, held⟩
  obtain rfl : key = 2 := by
    injection signed with same
    exact same.symm
  exact ⟨s, t, _, executed, rfl, refunded⟩

/-- Signer 2 makes an offer and signer 1 burns the token: the offer cannot be withdrawn. -/
theorem offer_trapped :
    ¬ ∀ (cfg : Config) (s : State) (token : Nft.Token) (maker : AccountId) (offer : Offer),
      ReachableUnder Fresh (Step cfg) (SparesReserve cfg) s →
      s.offers.lookup (token, maker) = some offer →
      ∃ key t, maker = .signer key ∧
        dispatch cfg s (.withdrawOffer key token maker) = .ok t ∧ Refunded cfg s t token offer := by
  intro claim
  have computed : succeedsWith (simulate
      [.market (.makeOffer 2 (1000000, 7) (50000 * 10 ^ 12) 100),
        .nft (.burn 1 (1000000, 7))])
      (fun result => decide (result.2.offers.lookup ((1000000, 7), .signer 2) =
          some ⟨.signer 2, 50000 * 10 ^ 12, 100⟩) &&
        failsWith (dispatch .reference result.2 (.withdrawOffer 2 (1000000, 7) (.signer 2)))
          .classOrInstanceUnknown &&
        result.1.all fun event => event.2.isCall) = true := by
    decide +kernel
  simp only [succeedsWith_iff, Bool.and_eq_true, decide_eq_true_eq, failsWith_iff] at computed
  obtain ⟨⟨past, s⟩, recorded, ⟨placed, fails⟩, calls⟩ := computed
  obtain ⟨key, t, signed, executed, -⟩ := claim .reference s (1000000, 7) (.signer 2) _
    ⟨past, fresh_of_simulate recorded, spares_of_calls calls⟩ placed
  obtain rfl : key = 2 := by
    injection signed with same
    exact same.symm
  rw [fails] at executed
  cases executed

end Withdrawal

end Basilisk.Marketplace
