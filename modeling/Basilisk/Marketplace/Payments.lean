/-
# What a sale pays

A sale moves the price in two payments, the royalty to the author and the rest to
the owner.  The amounts are counted as total balances, free and reserved together;
what a sale does to every account is one equation per currency.
-/

import Basilisk.Marketplace.Model

namespace Basilisk.Marketplace

open Basilisk.Math

variable {cfg : Config} {s t : State} {token : Nft.Token} {buyer owner : AccountId}
variable {price : ℕ}

/-- A percentage is at most the whole, also where it is rounded up. -/
theorem percentOf_le (part amount : ℕ) : percentOf part amount ≤ amount := by
  have capped : min part 100 ≤ 100 := Nat.min_le_right _ _
  have hundreds : amount / 100 * min part 100 ≤ amount / 100 * 100 :=
    Nat.mul_le_mul_left _ capped
  have units : amount % 100 * min part 100 ≤ amount % 100 * 100 := Nat.mul_le_mul_left _ capped
  have split := Nat.div_add_mod amount 100
  unfold percentOf
  dsimp only
  generalize amount % 100 * min part 100 = rest at units ⊢
  split_ifs <;> omega

/-- What a payment does to total balances, also where it does nothing. -/
theorem transfer_total {sender receiver : AccountId} {amount : ℕ}
    (moved : s.transfer cfg sender receiver amount = .ok t) (account : AccountId)
    (asset : AssetId) :
    t.ledger.totalBalance account asset +
        Ledger.entry sender cfg.nativeAssetId amount account asset =
      s.ledger.totalBalance account asset +
        Ledger.entry receiver cfg.nativeAssetId amount account asset := by
  unfold State.transfer at moved
  split_ifs at moved with idle
  · obtain rfl := return_eq_ok.mp moved
    rcases idle with rfl | rfl
    · simp only [Ledger.entry_zero]
    · rfl
  · simp only [bind_eq_ok, okOr_eq_ok, ensure_eq_ok, return_eq_ok, exists_const] at moved
    rcases moved with ⟨ledger, moved, -, -, rfl⟩
    exact Ledger.totalBalance_transfer_add_entry moved account asset

/-- The royalty of a sale: the author's percentage if there is one and the author is not the
owner, and nothing otherwise. -/
def RoyaltyIs (s : State) (token : Nft.Token) (owner : AccountId) (price : ℕ)
    (author : AccountId) (cut : ℕ) : Prop :=
  (∃ info, s.marketplaceInstances.lookup token = some info ∧ info.author ≠ owner ∧
    info.royalty ≠ 0 ∧ author = info.author ∧ cut = percentOf info.royalty price) ∨
  ((∀ info, s.marketplaceInstances.lookup token = some info →
    info.author = owner ∨ info.royalty = 0) ∧ cut = 0)

/-- The price moves from the buyer, the royalty to the author and the rest to the owner: one
equation for every account and asset. -/
def PriceMoved (cfg : Config) (s t : State) (token : Nft.Token) (buyer owner : AccountId)
    (price : ℕ) : Prop :=
  ∃ author cut, RoyaltyIs s token owner price author cut ∧ ∀ account asset,
    t.ledger.totalBalance account asset +
        Ledger.entry buyer cfg.nativeAssetId price account asset =
      s.ledger.totalBalance account asset +
        Ledger.entry author cfg.nativeAssetId cut account asset +
        Ledger.entry owner cfg.nativeAssetId (price - cut) account asset

/-- The two payments of a sale. -/
theorem priceMoved_of_payments {settled paid : State} {net : ℕ}
    (royalty : settleRoyalty cfg s buyer owner token price = .ok (settled, net))
    (paying : settled.transfer cfg buyer owner net = .ok paid) :
    PriceMoved cfg s paid token buyer owner price := by
  have second := transfer_total paying
  rcases settleRoyalty_cases royalty with
    ⟨info, _, set, other, positive, moved, rfl, rfl⟩ | ⟨spared, rfl, rfl⟩
  · have first := transfer_total moved
    have least := percentOf_le info.royalty price
    refine ⟨info.author, percentOf info.royalty price,
      .inl ⟨info, set, other.symm, positive, rfl, rfl⟩, fun account asset => ?_⟩
    have whole := Ledger.entry_add buyer account cfg.nativeAssetId asset
      (percentOf info.royalty price) (price - percentOf info.royalty price)
    rw [Nat.add_sub_cancel' least] at whole
    have royaltyPaid := first account asset
    have restPaid : paid.ledger.totalBalance account asset + _ = _ + _ := second account asset
    dsimp only [State.depositEvent] at restPaid
    omega
  · refine ⟨owner, 0, .inr ⟨fun info set => (spared info set).imp_left Eq.symm, rfl⟩,
      fun account asset => ?_⟩
    rw [Ledger.entry_zero, Nat.add_zero, Nat.sub_zero]
    exact second account asset

/-- A sale at a price: what everybody has afterwards, in total. -/
structure Sold (cfg : Config) (s t : State) (token : Nft.Token) (buyer owner : AccountId)
    (price : ℕ) : Prop where
  paid : t.ledger.totalBalance buyer cfg.nativeAssetId + price =
    s.ledger.totalBalance buyer cfg.nativeAssetId
  withRoyalty : ∀ info, s.marketplaceInstances.lookup token = some info →
    info.author ≠ owner → info.royalty ≠ 0 →
      t.ledger.totalBalance info.author cfg.nativeAssetId =
        s.ledger.totalBalance info.author cfg.nativeAssetId + percentOf info.royalty price ∧
      t.ledger.totalBalance owner cfg.nativeAssetId =
        s.ledger.totalBalance owner cfg.nativeAssetId +
          (price - percentOf info.royalty price)
  withoutRoyalty : (∀ info, s.marketplaceInstances.lookup token = some info →
    info.author = owner ∨ info.royalty = 0) →
      t.ledger.totalBalance owner cfg.nativeAssetId =
        s.ledger.totalBalance owner cfg.nativeAssetId + price
  others : ∀ account, account ≠ buyer → account ≠ owner →
    (∀ info, s.marketplaceInstances.lookup token = some info → info.royalty ≠ 0 →
      account ≠ info.author) → ∀ asset,
      t.ledger.totalBalance account asset = s.ledger.totalBalance account asset
  foreign : ∀ account asset, asset ≠ cfg.nativeAssetId →
    t.ledger.totalBalance account asset = s.ledger.totalBalance account asset
  handedOver : t.nft.owner token = some buyer

/-- A sale to somebody other than the author. -/
theorem PriceMoved.sold (moved : PriceMoved cfg s t token buyer owner price)
    (distinct : buyer ≠ owner)
    (stranger : ∀ info, s.marketplaceInstances.lookup token = some info → info.author ≠ buyer)
    (handedOver : t.nft.owner token = some buyer) : Sold cfg s t token buyer owner price := by
  obtain ⟨author, cut, royalty, total⟩ := moved
  have foreign : ∀ account asset, asset ≠ cfg.nativeAssetId →
      t.ledger.totalBalance account asset = s.ledger.totalBalance account asset := by
    intro account asset other
    have entries := total account asset
    simp only [Ledger.entry_of_ne_currency other, Nat.add_zero] at entries
    exact entries
  rcases royalty with ⟨info, set, other, positive, rfl, rfl⟩ | ⟨spared, rfl⟩
  · have notBuyer := stranger info set
    refine ⟨?_, ?_, ?_, ?_, foreign, handedOver⟩
    · have entries := total buyer cfg.nativeAssetId
      rw [Ledger.entry_self, Ledger.entry_of_ne_account notBuyer.symm,
        Ledger.entry_of_ne_account distinct] at entries
      exact entries
    · intro found known _ _
      obtain rfl := Option.some.inj (set.symm.trans known)
      constructor
      · have entries := total info.author cfg.nativeAssetId
        rw [Ledger.entry_self, Ledger.entry_of_ne_account notBuyer,
          Ledger.entry_of_ne_account other] at entries
        exact entries
      · have entries := total owner cfg.nativeAssetId
        rw [Ledger.entry_self, Ledger.entry_of_ne_account distinct.symm,
          Ledger.entry_of_ne_account other.symm] at entries
        exact entries
    · intro spared
      rcases spared info set with same | zero
      · exact absurd same other
      · exact absurd zero positive
    · intro account notBuying notOwner notAuthor asset
      have entries := total account asset
      rw [Ledger.entry_of_ne_account notBuying, Ledger.entry_of_ne_account notOwner,
        Ledger.entry_of_ne_account (notAuthor info set positive)] at entries
      exact entries
  · simp only [Ledger.entry_zero, Nat.add_zero, Nat.sub_zero] at total
    refine ⟨?_, ?_, ?_, ?_, foreign, handedOver⟩
    · have entries := total buyer cfg.nativeAssetId
      rw [Ledger.entry_self, Ledger.entry_of_ne_account distinct] at entries
      exact entries
    · intro found known apart positive
      rcases spared found known with same | zero
      · exact absurd same apart
      · exact absurd zero positive
    · intro _
      have entries := total owner cfg.nativeAssetId
      rw [Ledger.entry_self, Ledger.entry_of_ne_account distinct.symm] at entries
      exact entries
    · intro account notBuying notOwner _ asset
      have entries := total account asset
      rw [Ledger.entry_of_ne_account notBuying, Ledger.entry_of_ne_account notOwner] at entries
      exact entries

/-- A sale moves the listed price or the amount of the buyer's offer. -/
theorem doBuy_priceMoved {isOffer : Bool} (bought : doBuy cfg s buyer token isOffer = .ok t) :
    ∃ owner price, s.nft.owner token = some owner ∧ buyer ≠ owner ∧
      (isOffer = false → s.prices.lookup token = some price) ∧
      (isOffer = true → ∃ offer, s.offers.lookup (token, buyer) = some offer ∧
        offer.amount = price) ∧
      PriceMoved cfg s t token buyer owner price := by
  obtain ⟨owner, priced, price, settled, net, paid, nft, held, distinct, taking, royalty, paying,
    -, rfl⟩ := doBuy_steps bought
  have moved := priceMoved_of_payments royalty paying
  rcases takePrice_ok taking with ⟨rfl, rfl, offer, stored, rfl⟩ | ⟨rfl, rfl, listed⟩
  · exact ⟨owner, offer.amount, held, distinct, nofun, fun _ => ⟨offer, stored, rfl⟩, moved⟩
  · exact ⟨owner, price, held, distinct, fun _ => listed, nofun, moved⟩

end Basilisk.Marketplace
