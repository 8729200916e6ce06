/-
# How a sale settles

A purchase pays the listed price.  An accepted offer is first released from the
buyer's reserve and then paid like a purchase, which is why the payment is counted in
total balances; the buyer's other offers stay reserved.
-/

import Basilisk.Marketplace.Reserves

namespace Basilisk.Marketplace

open Basilisk.Math

variable {cfg : Config} {s t : State} {token : Nft.Token} {buyer owner : AccountId}
variable {price : ℕ}

/-- All that an account has on offer is reserved for the pallet, and the reserve is there. -/
def OffersReserved (cfg : Config) (s : State) (who : AccountId) : Prop :=
  s.offered who ≤ s.named who ∧ s.named who ≤ s.ledger.reserved who cfg.nativeAssetId

/-- Offers are reserved after every step that the rest of the chain may take. -/
theorem offersReserved_of_step {label : Label}
    (reachable : ReachableUnder Fresh (Step cfg) (SparesReserve cfg) s)
    (taken : Step cfg s label t) (spared : SparesReserve cfg s label) (who : AccountId) :
    OffersReserved cfg t who := by
  obtain ⟨past, run, guarded⟩ := reachable
  have effect := effect_of_step taken
  have booked := (booked_of_run run).step effect
  have covered := (covered_of_reachable ⟨past, run, guarded⟩).step spared effect
  constructor
  · rw [booked.named who]
    exact Nat.le_add_right _ _
  · exact covered who

/-- A purchase at the listed price. -/
theorem buy_settles (executed : buy cfg s buyer token = .ok t)
    (stranger : ∀ info, s.marketplaceInstances.lookup token = some info → info.author ≠ buyer) :
    ∃ owner price, s.nft.owner token = some owner ∧ s.prices.lookup token = some price ∧
      Sold cfg s t token buyer owner price ∧ t.prices.lookup token = none ∧
      t.offers = s.offers := by
  obtain ⟨-, -, -, -, -, -, owners, prices, -⟩ := doBuy_ok executed
  obtain ⟨owner, price, held, distinct, listed, -, moved⟩ := doBuy_priceMoved executed
  have handedOver := (owners token).trans (if_pos rfl)
  have sold := moved.sold distinct stranger handedOver
  have taken : t.prices.lookup token = none := by
    rw [prices]
    exact AList.lookup_erase _ _
  exact ⟨owner, price, held, listed rfl, sold, taken, (doBuy_unbooked executed).offers⟩

/-- A sale for an offer that is stored under its maker and covered by the maker's reserve. -/
theorem acceptOffer_settles {sender : AccountId} {offer : Offer}
    (stored : s.offers.lookup (token, offer.maker) = some offer)
    (enough : offer.amount ≤ s.named offer.maker) (covered : Covered cfg s)
    (accepted : acceptOffer cfg s sender token offer.maker = .ok t)
    (stranger : ∀ info, s.marketplaceInstances.lookup token = some info →
      info.author ≠ offer.maker) :
    Sold cfg s t token offer.maker sender offer.amount ∧
      t.offers = s.offers.erase (token, offer.maker) ∧
      t.ledger.reserved offer.maker cfg.nativeAssetId + offer.amount =
        s.ledger.reserved offer.maker cfg.nativeAssetId := by
  obtain ⟨_, bought, held, again, buying, rfl⟩ := acceptOffer_steps accepted
  obtain rfl := Option.some.inj (stored.symm.trans again)
  obtain ⟨-, -, -, -, -, -, owners, -⟩ := doBuy_ok buying
  obtain ⟨_, _, held', distinct, -, offered, author, cut, royalty, total⟩ :=
    doBuy_priceMoved buying
  obtain rfl := Option.some.inj (held.symm.trans held')
  -- `do_buy` reads the offer that is being accepted
  obtain ⟨_, read, rfl⟩ := offered rfl
  obtain rfl := Option.some.inj (stored.symm.trans read)
  have unbooked := doBuy_unbooked buying
  have handedOver := (owners token).trans (if_pos rfl)
  have released : ∀ account asset,
      (s.unreserveNamed cfg offer.maker offer.amount).ledger.totalBalance account asset =
        s.ledger.totalBalance account asset :=
    Ledger.totalBalance_unreserve _ _ _ _
  simp only [released] at total
  refine ⟨PriceMoved.sold ⟨author, cut, royalty, total⟩ distinct stranger handedOver, ?_, ?_⟩
  · show bought.offers.erase _ = _
    rw [unbooked.offers]
    rfl
  · show bought.ledger.reserved _ _ + _ = _
    rw [unbooked.reserved]
    exact reserved_unreserveNamed enough covered

/-- **Settlement of a sale.**  The buyer's total falls by the price.  If the token has a royalty
and an author who is not the owner, the author gains the percentage and the owner the rest;
otherwise the owner gains the price.  Nobody else gains or loses, the buyer owns the token,
the listing or the offer is gone, and the buyer's other offers are still reserved. -/
theorem sale_settles (reachable : ReachableUnder Fresh (Step cfg) (SparesReserve cfg) s)
    (key : ℕ) (token : Nft.Token) :
    (∀ t, dispatch cfg s (.buy key token) = .ok t →
      (∀ info, s.marketplaceInstances.lookup token = some info → info.author ≠ .signer key) →
      ∃ owner price, s.nft.owner token = some owner ∧ s.prices.lookup token = some price ∧
        Sold cfg s t token (.signer key) owner price ∧ t.prices.lookup token = none ∧
        t.offers = s.offers ∧ OffersReserved cfg t (.signer key)) ∧
    ∀ maker t, dispatch cfg s (.acceptOffer key token maker) = .ok t →
      (∀ info, s.marketplaceInstances.lookup token = some info → info.author ≠ maker) →
      ∃ owner offer, s.nft.owner token = some owner ∧
        s.offers.lookup (token, maker) = some offer ∧
        Sold cfg s t token maker owner offer.amount ∧
        t.offers = s.offers.erase (token, maker) ∧
        t.ledger.reserved maker cfg.nativeAssetId + offer.amount =
          s.ledger.reserved maker cfg.nativeAssetId ∧
        OffersReserved cfg t maker := by
  constructor
  · intro t executed stranger
    obtain ⟨owner, price, held, listed, sold, taken, offers⟩ := buy_settles executed stranger
    have reserved := offersReserved_of_step reachable
      (show Step cfg s (.market (.buy key token)) t from executed) trivial (.signer key)
    exact ⟨owner, price, held, listed, sold, taken, offers, reserved⟩
  · intro maker t executed stranger
    have reserved := offersReserved_of_step reachable
      (show Step cfg s (.market (.acceptOffer key token maker)) t from executed) trivial maker
    have covered := covered_of_reachable reachable
    obtain ⟨past, run, -⟩ := reachable
    have booked := booked_of_run run
    obtain ⟨offer, _, held, stored, -⟩ := acceptOffer_steps executed
    obtain rfl : offer.maker = maker := (booked.makers _ _ stored).1
    obtain ⟨sold, offers, released⟩ := acceptOffer_settles stored (booked.amount_le stored)
      covered executed stranger
    exact ⟨.signer key, offer, held, stored, sold, offers, released, reserved⟩

/-- Signer 1 adds a royalty of 10% for signer 3, and accepts the offer of signer 2, who has
another one standing; or signer 4 buys the token at the listed price. -/
theorem sale_settles_with_royalty :
    ∃ s t u, dispatch .reference s (.acceptOffer 1 (1000000, 7) (.signer 2)) = .ok t ∧
      Sold .reference s t (1000000, 7) (.signer 2) (.signer 1) (50000 * 10 ^ 12) ∧
      t.ledger.totalBalance (.signer 3) 0 =
        s.ledger.totalBalance (.signer 3) 0 + 5000 * 10 ^ 12 ∧
      OffersReserved .reference t (.signer 2) ∧ t.offered (.signer 2) = 10000 * 10 ^ 12 ∧
      dispatch .reference s (.buy 4 (1000000, 7)) = .ok u ∧
      Sold .reference s u (1000000, 7) (.signer 4) (.signer 1) (20000 * 10 ^ 12) := by
  have computed : succeedsWith (do
      let (past, s) ← simulate
        [.market (.addRoyalty 1 (1000000, 7) (.signer 3) 10),
          .market (.makeOffer 2 (1000000, 7) (50000 * 10 ^ 12) 100),
          .market (.makeOffer 2 (1000000, 8) (10000 * 10 ^ 12) 100)]
      let t ← dispatch .reference s (.acceptOffer 1 (1000000, 7) (.signer 2))
      let u ← dispatch .reference s (.buy 4 (1000000, 7))
      return (past, s, t, u)) (fun (past, s, t, _) =>
        (past.all fun event => event.2.isCall) && decide
          (s.nft.owner (1000000, 7) = some (.signer 1) ∧
            s.prices.lookup (1000000, 7) = some (20000 * 10 ^ 12) ∧
            s.offers.lookup ((1000000, 7), .signer 2) =
              some ⟨.signer 2, 50000 * 10 ^ 12, 100⟩ ∧
            s.marketplaceInstances.lookup (1000000, 7) = some ⟨.signer 3, 10⟩ ∧
            t.offered (.signer 2) = 10000 * 10 ^ 12)) = true := by
    decide +kernel
  simp only [succeedsWith_iff, bind_eq_ok, return_eq_ok, Prod.exists, Bool.and_eq_true,
    decide_eq_true_eq, Prod.mk.injEq] at computed
  obtain ⟨_, _, _, _, ⟨past, s, recorded, t, accepted, u, bought, rfl, rfl, rfl, rfl⟩, calls, held,
    listed, placed, royalty, standing⟩ := computed
  have reachable : ReachableUnder Fresh (Step .reference) (SparesReserve .reference) s :=
    ⟨past, fresh_of_simulate recorded, spares_of_calls calls⟩
  have stranger : ∀ buyer, AccountId.signer 3 ≠ buyer → ∀ info,
      s.marketplaceInstances.lookup (1000000, 7) = some info → info.author ≠ buyer := by
    intro buyer other info known
    obtain rfl := Option.some.inj (royalty.symm.trans known)
    exact other
  obtain ⟨_, offer, held', placed', sold, -, -, reserved⟩ :=
    (sale_settles reachable 1 (1000000, 7)).2 (.signer 2) t accepted (stranger _ (by decide))
  obtain ⟨_, price, held'', listed', sold', -⟩ :=
    (sale_settles reachable 4 (1000000, 7)).1 u bought (stranger _ (by decide))
  obtain rfl := Option.some.inj (held.symm.trans held')
  obtain rfl := Option.some.inj (held.symm.trans held'')
  obtain rfl := Option.some.inj (placed.symm.trans placed')
  obtain rfl := Option.some.inj (listed.symm.trans listed')
  have authorGains := (sold.withRoyalty _ royalty (by decide) (by decide)).1
  exact ⟨s, t, u, accepted, sold, authorGains, reserved, standing, bought, sold'⟩

end Basilisk.Marketplace
