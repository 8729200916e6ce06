/-
# The marketplace pallet

Owners list their tokens at a price, and anybody can buy a listed token; or
somebody makes an offer, reserving the amount, and the owner accepts it.  Either
way `do_buy` settles the royalty and the price and has the NFT pallet hand the
token over.  Prices are kept per token and offers per token and maker.

The native currency is the native asset of the chain's ledger.  A transfer that
keeps accounts alive refuses to leave either party below the existential deposit.
Amounts reserved under the pallet's own identifier are counted separately,
because only they can be released under it.
-/

import Basilisk.Math.Run
import Basilisk.Math.StorageMap
import Basilisk.Nft.Calls

namespace Basilisk.Marketplace

open Basilisk.Math

/-- `Offer`. -/
structure Offer where
  maker : AccountId
  amount : ℕ
  expires : ℕ
  deriving DecidableEq, Repr

/-- `Royalty`: the percentage of each sale that goes to the author. -/
structure Royalty where
  author : AccountId
  royalty : ℕ
  deriving DecidableEq, Repr

inductive Event
  | tokenPriceUpdated (owner : AccountId) (token : Nft.Token) (price : Option ℕ)
  | tokenSold (owner buyer : AccountId) (token : Nft.Token) (price : ℕ)
  | offerPlaced (offerer : AccountId) (token : Nft.Token) (price expires : ℕ)
  | offerWithdrawn (sender : AccountId) (token : Nft.Token)
  | offerAccepted (sender : AccountId) (token : Nft.Token) (price : ℕ)
  | royaltyPaid (token : Nft.Token) (author : AccountId) (royalty royaltyAmount : ℕ)
  | royaltyAdded (token : Nft.Token) (author : AccountId) (royalty : ℕ)
  deriving DecidableEq, Repr

/-- Pallet errors; the last two come from the pallets it calls. -/
inductive Error
  | notTheTokenOwner
  | buyFromSelf
  | notForSale
  | classOrInstanceUnknown
  | offerTooLow
  | unknownOffer
  | offerExpired
  | alreadyOffered
  | withdrawNotAuthorized
  | acceptNotAuthorized
  | royaltyAlreadySet
  | notInRange
  | currency
  | nft (reason : Nft.Error)
  deriving DecidableEq, Repr

structure Config where
  minimumOfferAmount : ℕ
  royaltyBondAmount : ℕ
  existentialDeposit : ℕ
  nativeAssetId : AssetId
  nft : Nft.Config

/-- The pallet's own storage, and the block number, the ledger with the amounts reserved for
the pallet, and the NFT pallet. -/
structure State where
  prices : AList fun _ : Nft.Token => ℕ
  offers : AList fun _ : Nft.Token × AccountId => Offer
  marketplaceInstances : AList fun _ : Nft.Token => Royalty
  events : List Event
  blockNumber : ℕ
  ledger : Currencies
  named : AccountId → ℕ
  nft : Nft.State

namespace State

variable (cfg : Config) (s : State)

def depositEvent (event : Event) : State :=
  { s with events := s.events ++ [event] }

/-- `Currency::transfer` with `KeepAlive`: to oneself or of nothing it does nothing. -/
def transfer (sender receiver : AccountId) (amount : ℕ) : Except Error State :=
  if amount = 0 ∨ sender = receiver then return s
  else do
    let ledger ← okOr (s.ledger.transfer cfg.nativeAssetId sender receiver amount) .currency
    ensure (cfg.existentialDeposit ≤ ledger.totalBalance receiver cfg.nativeAssetId) .currency
    ensure (cfg.existentialDeposit ≤ ledger.totalBalance sender cfg.nativeAssetId) .currency
    return { s with ledger }

/-- `Currency::reserve_named` under `RESERVE_ID`. -/
def reserveNamed (who : AccountId) (amount : ℕ) : Except Error State := do
  let ledger ← okOr (s.ledger.reserve cfg.nativeAssetId who amount) .currency
  return { s with ledger, named := Function.update s.named who (s.named who + amount) }

/-- `Currency::unreserve_named` under `RESERVE_ID`. -/
def unreserveNamed (who : AccountId) (amount : ℕ) : State :=
  let actual := min amount (s.named who)
  { s with
    ledger := s.ledger.unreserve cfg.nativeAssetId who actual
    named := Function.update s.named who (s.named who - actual) }

end State

/-- `Percent::from_percent(part) * amount`, rounded to the nearest integer. -/
def percentOf (part amount : ℕ) : ℕ :=
  let rest := amount % 100 * min part 100
  amount / 100 * min part 100 + rest / 100 + if 50 < rest % 100 then 1 else 0

/-- The royalty part of `do_buy`: what is left of the price for the owner. -/
def settleRoyalty (cfg : Config) (s : State) (buyer owner : AccountId) (token : Nft.Token)
    (price : ℕ) : Except Error (State × ℕ) :=
  match s.marketplaceInstances.lookup token with
  | none => return (s, price)
  | some info =>
      let royaltyAmount := percentOf info.royalty price
      if owner ≠ info.author ∧ info.royalty ≠ 0 then do
        let s ← s.transfer cfg buyer info.author royaltyAmount
        return (s.depositEvent (.royaltyPaid token info.author info.royalty royaltyAmount),
          price - royaltyAmount)
      else return (s, price)

/-- The price in `do_buy`: a purchase takes the listing of the token, the settlement of an
offer does not look at it. -/
def takePrice (s : State) (buyer : AccountId) (token : Nft.Token) (isOffer : Bool) :
    Except Error (State × ℕ) :=
  if isOffer = true then do
    let offer ← okOr (s.offers.lookup (token, buyer)) .unknownOffer
    return (s, offer.amount)
  else do
    let price ← okOr (s.prices.lookup token) .notForSale
    return ({ s with prices := s.prices.erase token }, price)

/-- `do_buy`. -/
def doBuy (cfg : Config) (s : State) (buyer : AccountId) (token : Nft.Token)
    (isOffer : Bool) : Except Error State := do
  let owner ← okOr (s.nft.owner token) .classOrInstanceUnknown
  ensure (buyer ≠ owner) .buyFromSelf
  let (s, price) ← takePrice s buyer token isOffer
  let (s, price) ← settleRoyalty cfg s buyer owner token price
  let s ← s.transfer cfg buyer owner price
  let nft ← (Nft.transfer s.nft owner token buyer).mapError .nft
  return { s with nft }.depositEvent (.tokenSold owner buyer token price)

/-- `buy`. -/
def buy (cfg : Config) (s : State) (sender : AccountId) (token : Nft.Token) :
    Except Error State :=
  doBuy cfg s sender token false

/-- `set_price`. -/
def setPrice (s : State) (sender : AccountId) (token : Nft.Token) (newPrice : Option ℕ) :
    Except Error State := do
  ensure (s.nft.owner token = some sender) .notTheTokenOwner
  let prices :=
    match newPrice with
    | some price => s.prices.insert token price
    | none => s.prices.erase token
  return { s with prices }.depositEvent (.tokenPriceUpdated sender token newPrice)

/-- `make_offer`. -/
def makeOffer (cfg : Config) (s : State) (sender : AccountId) (token : Nft.Token)
    (amount expires : ℕ) : Except Error State := do
  ensure (cfg.minimumOfferAmount ≤ amount) .offerTooLow
  ensure (s.offers.lookup (token, sender) = none) .alreadyOffered
  let s := { s with offers := s.offers.insert (token, sender) ⟨sender, amount, expires⟩ }
  let s ← s.reserveNamed cfg sender amount
  return s.depositEvent (.offerPlaced sender token amount expires)

/-- `withdraw_offer`. -/
def withdrawOffer (cfg : Config) (s : State) (sender : AccountId) (token : Nft.Token)
    (maker : AccountId) : Except Error State := do
  let offer ← okOr (s.offers.lookup (token, maker)) .unknownOffer
  let owner ← okOr (s.nft.owner token) .classOrInstanceUnknown
  ensure (sender = offer.maker ∨ sender = owner) .withdrawNotAuthorized
  let s := (s.unreserveNamed cfg offer.maker offer.amount).depositEvent
    (.offerWithdrawn sender token)
  return { s with offers := s.offers.erase (token, maker) }

/-- `accept_offer`: the offer is removed after the trade, which still reads it. -/
def acceptOffer (cfg : Config) (s : State) (sender : AccountId) (token : Nft.Token)
    (maker : AccountId) : Except Error State := do
  let owner ← okOr (s.nft.owner token) .classOrInstanceUnknown
  ensure (sender = owner) .acceptNotAuthorized
  let offer ← okOr (s.offers.lookup (token, maker)) .unknownOffer
  ensure (s.blockNumber < offer.expires) .offerExpired
  let s ← doBuy cfg (s.unreserveNamed cfg offer.maker offer.amount) offer.maker token true
  let s := s.depositEvent (.offerAccepted sender token offer.amount)
  return { s with offers := s.offers.erase (token, maker) }

/-- `add_royalty`. -/
def addRoyalty (cfg : Config) (s : State) (sender : AccountId) (token : Nft.Token)
    (author : AccountId) (royalty : ℕ) : Except Error State := do
  ensure (s.marketplaceInstances.lookup token = none) .royaltyAlreadySet
  ensure (royalty ≤ 100) .notInRange
  let owner ← okOr (s.nft.owner token) (.nft .classUnknown)
  ensure (sender = owner) (.nft .notPermitted)
  let s ← s.reserveNamed cfg sender cfg.royaltyBondAmount
  let s := { s with
    marketplaceInstances := s.marketplaceInstances.insert token ⟨author, royalty⟩ }
  return s.depositEvent (.royaltyAdded token author royalty)

/-- The pallet's extrinsics; `who` is the key that signed. -/
inductive Call
  | buy (who : ℕ) (token : Nft.Token)
  | setPrice (who : ℕ) (token : Nft.Token) (newPrice : Option ℕ)
  | makeOffer (who : ℕ) (token : Nft.Token) (amount expires : ℕ)
  | withdrawOffer (who : ℕ) (token : Nft.Token) (maker : AccountId)
  | acceptOffer (who : ℕ) (token : Nft.Token) (maker : AccountId)
  | addRoyalty (who : ℕ) (token : Nft.Token) (author : AccountId) (royalty : ℕ)
  deriving DecidableEq, Repr

def dispatch (cfg : Config) (s : State) : Call → Except Error State
  | .buy who token => buy cfg s (.signer who) token
  | .setPrice who token newPrice => setPrice s (.signer who) token newPrice
  | .makeOffer who token amount expires => makeOffer cfg s (.signer who) token amount expires
  | .withdrawOffer who token maker => withdrawOffer cfg s (.signer who) token maker
  | .acceptOffer who token maker => acceptOffer cfg s (.signer who) token maker
  | .addRoyalty who token author royalty => addRoyalty cfg s (.signer who) token author royalty

/-- A call of either pallet, or the rest of the chain: blocks pass and balances change. -/
inductive Label
  | market (call : Call)
  | nft (call : Nft.Call)
  | chain (blockNumber : ℕ) (ledger : Currencies)

def exec (cfg : Config) (s : State) : Label → Except Error State
  | .market call => dispatch cfg s call
  | .nft call => do
      let nft ← (Nft.dispatch cfg.nft s.nft call).mapError .nft
      return { s with nft }
  | .chain blockNumber ledger => .ok { s with blockNumber, ledger }

def Step (cfg : Config) (s : State) (label : Label) (t : State) : Prop :=
  exec cfg s label = .ok t

/-- Empty storage. -/
structure Initial (s : State) : Prop where
  prices : s.prices = ∅
  offers : s.offers = ∅
  marketplaceInstances : s.marketplaceInstances = ∅

section Effects

variable {cfg : Config} {s t : State} {sender receiver buyer : AccountId} {token : Nft.Token}

/-- Everything the pallet and the NFT pallet store is as it was. -/
structure Paid (s t : State) : Prop where
  prices : t.prices = s.prices
  offers : t.offers = s.offers
  nft : t.nft = s.nft
  blockNumber : t.blockNumber = s.blockNumber

theorem transfer_paid {amount : ℕ} (moved : s.transfer cfg sender receiver amount = .ok t) :
    Paid s t := by
  unfold State.transfer at moved
  split_ifs at moved
  · obtain rfl := return_eq_ok.mp moved
    exact ⟨rfl, rfl, rfl, rfl⟩
  · simp only [bind_eq_ok, okOr_eq_ok, ensure_eq_ok, return_eq_ok, exists_const] at moved
    obtain ⟨ledger, -, -, -, rfl⟩ := moved
    exact ⟨rfl, rfl, rfl, rfl⟩

theorem reserveNamed_paid {amount : ℕ} (reserved : s.reserveNamed cfg sender amount = .ok t) :
    Paid s t := by
  simp only [State.reserveNamed, bind_eq_ok, okOr_eq_ok, return_eq_ok] at reserved
  obtain ⟨ledger, -, rfl⟩ := reserved
  exact ⟨rfl, rfl, rfl, rfl⟩

/-- The price of a sale is the amount of the buyer's offer, or the listing, which is taken. -/
theorem takePrice_ok {isOffer : Bool} {price : ℕ}
    (taken : takePrice s buyer token isOffer = .ok (t, price)) :
    (isOffer = true ∧ t = s ∧
      ∃ offer, s.offers.lookup (token, buyer) = some offer ∧ offer.amount = price) ∨
    (isOffer = false ∧ t = { s with prices := s.prices.erase token } ∧
      s.prices.lookup token = some price) := by
  unfold takePrice at taken
  split_ifs at taken with offered
  · simp only [bind_eq_ok, okOr_eq_ok, return_eq_ok, Prod.mk.injEq] at taken
    rcases taken with ⟨offer, stored, rfl, rfl⟩
    exact .inl ⟨offered, rfl, offer, stored, rfl⟩
  · simp only [bind_eq_ok, okOr_eq_ok, return_eq_ok, Prod.mk.injEq] at taken
    rcases taken with ⟨_, known, rfl, rfl⟩
    exact .inr ⟨Bool.eq_false_iff.mpr offered, rfl, known⟩

/-- The steps of a sale. -/
theorem doBuy_steps {isOffer : Bool} (bought : doBuy cfg s buyer token isOffer = .ok t) :
    ∃ owner priced price settled net paid nft, s.nft.owner token = some owner ∧ buyer ≠ owner ∧
      takePrice s buyer token isOffer = .ok (priced, price) ∧
      settleRoyalty cfg priced buyer owner token price = .ok (settled, net) ∧
      settled.transfer cfg buyer owner net = .ok paid ∧
      Nft.transfer paid.nft owner token buyer = .ok nft ∧
      t = { paid with nft }.depositEvent (.tokenSold owner buyer token net) := by
  simp only [doBuy, bind_eq_ok, okOr_eq_ok, ensure_eq_ok, mapError_eq_ok, return_eq_ok,
    exists_const] at bought
  rcases bought with ⟨owner, held, distinct, ⟨priced, price⟩, taking, ⟨settled, net⟩, royalty,
    paid, paying, nft, transferred, rfl⟩
  exact ⟨owner, priced, price, settled, net, paid, nft, held, distinct, taking, royalty, paying,
    transferred, rfl⟩

/-- The steps of `accept_offer`: the amount is released, and the maker of the offer buys. -/
theorem acceptOffer_steps {maker : AccountId}
    (accepted : acceptOffer cfg s sender token maker = .ok t) :
    ∃ offer bought, s.nft.owner token = some sender ∧
      s.offers.lookup (token, maker) = some offer ∧
      doBuy cfg (s.unreserveNamed cfg offer.maker offer.amount) offer.maker token true =
        .ok bought ∧
      t = { bought.depositEvent (.offerAccepted sender token offer.amount) with
        offers := bought.offers.erase (token, maker) } := by
  simp only [acceptOffer, bind_eq_ok, okOr_eq_ok, ensure_eq_ok, return_eq_ok,
    exists_const] at accepted
  rcases accepted with ⟨owner, held, rfl, offer, stored, -, bought, buying, rfl⟩
  exact ⟨offer, bought, held, stored, buying, rfl⟩

/-- The author is paid from the price if the token has a royalty and another owner. -/
theorem settleRoyalty_cases {owner : AccountId} {price net : ℕ}
    (settled : settleRoyalty cfg s buyer owner token price = .ok (t, net)) :
    (∃ info paid, s.marketplaceInstances.lookup token = some info ∧ owner ≠ info.author ∧
      info.royalty ≠ 0 ∧
      s.transfer cfg buyer info.author (percentOf info.royalty price) = .ok paid ∧
      t = paid.depositEvent (.royaltyPaid token info.author info.royalty
        (percentOf info.royalty price)) ∧
      net = price - percentOf info.royalty price) ∨
    ((∀ info, s.marketplaceInstances.lookup token = some info →
      owner = info.author ∨ info.royalty = 0) ∧ t = s ∧ net = price) := by
  unfold settleRoyalty at settled
  split at settled
  next unset =>
    obtain ⟨rfl, rfl⟩ := Prod.mk.inj (return_eq_ok.mp settled)
    exact .inr ⟨fun info known => absurd (unset.symm.trans known) nofun, rfl, rfl⟩
  next info known =>
    dsimp only at settled
    split_ifs at settled with due
    · simp only [bind_eq_ok, return_eq_ok, Prod.mk.injEq] at settled
      rcases settled with ⟨paid, moved, rfl, rfl⟩
      exact .inl ⟨info, paid, known, due.1, due.2, moved, rfl, rfl⟩
    · obtain ⟨rfl, rfl⟩ := Prod.mk.inj (return_eq_ok.mp settled)
      refine .inr ⟨fun other found => ?_, rfl, rfl⟩
      obtain rfl := Option.some.inj (known.symm.trans found)
      simpa only [ne_eq, not_and_or, not_not] using due

/-- The owner's part is the price less the royalty. -/
theorem settleRoyalty_paid {owner : AccountId} {price net : ℕ}
    (settled : settleRoyalty cfg s buyer owner token price = .ok (t, net)) :
    Paid s t ∧ net ≤ price := by
  rcases settleRoyalty_cases settled with ⟨_, _, -, -, -, moved, rfl, rfl⟩ | ⟨-, rfl, rfl⟩
  · have kept := transfer_paid moved
    exact ⟨⟨kept.prices, kept.offers, kept.nft, kept.blockNumber⟩, Nat.sub_le _ _⟩
  · exact ⟨⟨rfl, rfl, rfl, rfl⟩, le_rfl⟩

end Effects

end Basilisk.Marketplace
