/-
# Consent to a sale

A token may be bought at a price only if its present owner has asked that price
since getting the token.  `set_price` checks the owner and `buy` uses the listing
up, but the other ways of changing hands, an accepted offer, a transfer and a
burn, leave the listing where it is, so that it binds the next owner.  In runs
that take tokens off the list first, every listing is the present owner's.
-/

import Basilisk.Marketplace.Payments

namespace Basilisk.Marketplace

open Basilisk.Math

variable {cfg : Config} {s t : State} {label : Label} {token : Nft.Token}
variable {past : List (State × Label)}

section Calls

variable {buyer sender : AccountId} {isOffer : Bool}

/-- What a sale did: who sold, at which price, and what became of the listing. -/
theorem doBuy_ok (bought : doBuy cfg s buyer token isOffer = .ok t) :
    ∃ owner price net,
      s.nft.owner token = some owner ∧
      (isOffer = false → s.prices.lookup token = some price) ∧ net ≤ price ∧
      (∀ other, t.nft.owner other = if other = token then some buyer else s.nft.owner other) ∧
      t.prices = (if isOffer = true then s.prices else s.prices.erase token) ∧
      t.nft.classes = s.nft.classes ∧ t.blockNumber = s.blockNumber ∧
      .tokenSold owner buyer token net ∈ t.events := by
  obtain ⟨owner, taken, price, settled, net, paid, nft, held, distinct, priced, royalty, paying,
    transferred, rfl⟩ := doBuy_steps bought
  obtain ⟨settledPaid, less⟩ := settleRoyalty_paid royalty
  have paidOnly := transfer_paid paying
  have listing : taken.nft = s.nft ∧ taken.blockNumber = s.blockNumber ∧
      (isOffer = false → s.prices.lookup token = some price) ∧
      taken.prices = if isOffer = true then s.prices else s.prices.erase token := by
    rcases takePrice_ok priced with ⟨rfl, rfl, -⟩ | ⟨rfl, rfl, known⟩
    · exact ⟨rfl, rfl, nofun, rfl⟩
    · exact ⟨rfl, rfl, fun _ => known, rfl⟩
  obtain ⟨sameNft, sameBlock, asked, prices⟩ := listing
  have before : paid.nft = s.nft := by rw [paidOnly.nft, settledPaid.nft, sameNft]
  rw [before] at transferred
  obtain ⟨⟨same, -⟩ | ⟨-, -, owners⟩, classes⟩ := Nft.transfer_ok transferred
  · exact absurd same.symm distinct
  · refine ⟨owner, price, net, held, asked, less, owners, ?_, classes, ?_, ?_⟩
    · rw [← prices, ← settledPaid.prices, ← paidOnly.prices]
      rfl
    · rw [← sameBlock, ← settledPaid.blockNumber, ← paidOnly.blockNumber]
      rfl
    · exact List.mem_append_right _ List.mem_cons_self

/-- Tokens only change hands. -/
structure HandedOn (s t : State) : Prop where
  present : ∀ token, (t.nft.owner token).isSome = (s.nft.owner token).isSome
  classes : t.nft.classes = s.nft.classes
  blockNumber : t.blockNumber = s.blockNumber

theorem handedOn_of_paid (paid : Paid s t) : HandedOn s t where
  present token := by rw [paid.nft]
  classes := by rw [paid.nft]
  blockNumber := paid.blockNumber

theorem handedOn_of_doBuy (bought : doBuy cfg s buyer token isOffer = .ok t) :
    HandedOn s t := by
  obtain ⟨owner, _, _, held, -, -, owners, -, classes, blockNumber, -⟩ := doBuy_ok bought
  refine ⟨?_, classes, blockNumber⟩
  intro other
  rw [owners]
  split_ifs with here
  · rw [here, held]
    rfl
  · rfl

/-- A call hands tokens on, and neither makes nor ends any. -/
theorem handedOn_of_dispatch {call : Call} (called : dispatch cfg s call = .ok t) :
    HandedOn s t := by
  cases call with
  | buy => exact handedOn_of_doBuy called
  | setPrice =>
      simp only [dispatch, setPrice, bind_eq_ok, ensure_eq_ok, return_eq_ok,
        exists_const] at called
      obtain ⟨-, rfl⟩ := called
      exact ⟨fun _ => rfl, rfl, rfl⟩
  | makeOffer =>
      simp only [dispatch, makeOffer, bind_eq_ok, ensure_eq_ok, return_eq_ok,
        exists_const] at called
      obtain ⟨-, -, reserved, reserving, rfl⟩ := called
      have handed := handedOn_of_paid (reserveNamed_paid reserving)
      exact ⟨handed.present, handed.classes, handed.blockNumber⟩
  | withdrawOffer =>
      simp only [dispatch, withdrawOffer, bind_eq_ok, okOr_eq_ok, ensure_eq_ok, return_eq_ok,
        exists_const] at called
      obtain ⟨_, -, _, -, -, rfl⟩ := called
      exact ⟨fun _ => rfl, rfl, rfl⟩
  | acceptOffer =>
      obtain ⟨_, after, -, -, bought, rfl⟩ := acceptOffer_steps called
      have sold := handedOn_of_doBuy bought
      exact ⟨sold.present, sold.classes, sold.blockNumber⟩
  | addRoyalty =>
      simp only [dispatch, addRoyalty, bind_eq_ok, okOr_eq_ok, ensure_eq_ok, return_eq_ok,
        exists_const] at called
      obtain ⟨-, -, _, -, -, reserved, reserving, rfl⟩ := called
      have handed := handedOn_of_paid (reserveNamed_paid reserving)
      exact ⟨handed.present, handed.classes, handed.blockNumber⟩

/-- What a step does to the listing and to the owner of a token. -/
inductive TokenStep (s t : State) (token : Nft.Token) : Label → Prop
  | kept {label : Label} (owner : t.nft.owner token = s.nft.owner token)
      (listing : t.prices.lookup token = s.prices.lookup token) : TokenStep s t token label
  | sold {who : ℕ} (unlisted : t.prices.lookup token = none) :
      TokenStep s t token (.market (.buy who token))
  | listed {who : ℕ} {newPrice : Option ℕ} (held : s.nft.owner token = some (.signer who))
      (owner : t.nft.owner token = s.nft.owner token)
      (listing : t.prices.lookup token = newPrice) :
      TokenStep s t token (.market (.setPrice who token newPrice))
  | accepted {who : ℕ} {maker : AccountId}
      (listing : t.prices.lookup token = s.prices.lookup token) :
      TokenStep s t token (.market (.acceptOffer who token maker))
  | moved {call : Nft.Call} (moves : call.Moves s.nft t.nft token)
      (listing : t.prices.lookup token = s.prices.lookup token) :
      TokenStep s t token (.nft call)

theorem tokenStep_of_step (taken : Step cfg s label t) (token : Nft.Token) :
    TokenStep s t token label := by
  cases label with
  | chain blockNumber ledger =>
      obtain rfl := Except.ok.inj taken
      exact .kept rfl rfl
  | nft call =>
      simp only [Step, exec, bind_eq_ok, mapError_eq_ok, return_eq_ok] at taken
      obtain ⟨nft, called, rfl⟩ := taken
      obtain same | moves := Nft.owner_dispatch called token
      · exact .kept same rfl
      · exact .moved moves rfl
  | market call =>
      cases call with
      | buy who bought =>
          obtain ⟨owner, price, net, -, -, -, owners, prices, -⟩ := doBuy_ok taken
          rw [if_neg Bool.false_ne_true] at prices
          by_cases here : token = bought
          · subst here
            apply TokenStep.sold
            rw [prices, AList.lookup_erase]
          · apply TokenStep.kept
            · rw [owners, if_neg here]
            · rw [prices, AList.lookup_erase_ne here]
      | setPrice who priced newPrice =>
          simp only [Step, exec, dispatch, setPrice, bind_eq_ok, ensure_eq_ok, return_eq_ok,
            exists_const] at taken
          obtain ⟨held, rfl⟩ := taken
          by_cases here : token = priced
          · subst here
            refine .listed held rfl ?_
            cases newPrice with
            | some price => exact AList.lookup_insert _
            | none => exact AList.lookup_erase _ _
          · refine .kept rfl ?_
            cases newPrice with
            | some price => exact AList.lookup_insert_ne here
            | none => exact AList.lookup_erase_ne here
      | makeOffer who offered amount expires =>
          simp only [Step, exec, dispatch, makeOffer, bind_eq_ok, ensure_eq_ok, return_eq_ok,
            exists_const] at taken
          obtain ⟨-, -, reserved, reserving, rfl⟩ := taken
          have paid := reserveNamed_paid reserving
          exact .kept (congrArg (·.owner token) paid.nft) (congrArg (·.lookup token) paid.prices)
      | withdrawOffer who offered maker =>
          simp only [Step, exec, dispatch, withdrawOffer, bind_eq_ok, okOr_eq_ok, ensure_eq_ok,
            return_eq_ok, exists_const] at taken
          obtain ⟨offer, -, owner, -, -, rfl⟩ := taken
          exact .kept rfl rfl
      | acceptOffer who sold maker =>
          obtain ⟨offer, after, -, -, bought, rfl⟩ := acceptOffer_steps taken
          obtain ⟨_, _, _, -, -, -, owners, prices, -⟩ := doBuy_ok bought
          rw [if_pos rfl] at prices
          have listing : after.prices.lookup token = s.prices.lookup token :=
            congrArg (·.lookup token) prices
          by_cases here : token = sold
          · subst here
            exact .accepted listing
          · refine .kept ?_ listing
            exact (owners token).trans (if_neg here)
      | addRoyalty who added author royalty =>
          simp only [Step, exec, dispatch, addRoyalty, bind_eq_ok, okOr_eq_ok, ensure_eq_ok,
            return_eq_ok, exists_const] at taken
          obtain ⟨-, -, owner, -, -, reserved, reserving, rfl⟩ := taken
          have paid := reserveNamed_paid reserving
          exact .kept (congrArg (·.owner token) paid.nft) (congrArg (·.lookup token) paid.prices)

end Calls

/-- The owner asked this price with `set_price`, and has owned the token from then on. -/
structure Consented (past : List (State × Label)) (s : State) (token : Nft.Token)
    (owner : AccountId) (price : ℕ) : Prop where
  holds : s.nft.owner token = some owner
  asked : ∃ key before recent earlier, owner = .signer key ∧
    past = recent ++ (before, .market (.setPrice key token (some price))) :: earlier ∧
    before.nft.owner token = some owner ∧
    ∀ event ∈ recent, event.1.nft.owner token = some owner

/-- Accepting an offer, transferring and burning are done to unlisted tokens only. -/
def Delisted (s : State) : Label → Prop
  | .market (.acceptOffer _ token _) => s.prices.lookup token = none
  | .nft (.transfer who token dest) => s.prices.lookup token = none ∨ .signer who = dest
  | .nft (.burn _ token) => s.prices.lookup token = none
  | _ => True

/-- Consent lasts as long as nothing happens to the token. -/
theorem Consented.keep {owner : AccountId} {price : ℕ}
    (consented : Consented past s token owner price)
    (same : t.nft.owner token = s.nft.owner token) :
    Consented ((s, label) :: past) t token owner price := by
  obtain ⟨holds, key, before, recent, earlier, isSigner, rfl, held, since⟩ := consented
  refine ⟨same.trans holds, key, before, (s, label) :: recent, earlier, isSigner, rfl, held, ?_⟩
  rw [List.forall_mem_cons]
  exact ⟨holds, since⟩

/-- One step: a listing is kept with its consent or made by the owner. -/
theorem consented_step
    (inv : ∀ token price, s.prices.lookup token = some price →
      ∃ owner, Consented past s token owner price)
    (careful : Delisted s label) (taken : Step cfg s label t) {price : ℕ}
    (asked : t.prices.lookup token = some price) :
    ∃ owner, Consented ((s, label) :: past) t token owner price := by
  cases tokenStep_of_step taken token with
  | kept owner listing =>
      obtain ⟨holder, consented⟩ := inv token price (listing ▸ asked)
      exact ⟨holder, consented.keep owner⟩
  | sold unlisted => exact absurd (unlisted.symm.trans asked) nofun
  | @listed who newPrice held owner listing =>
      obtain rfl : newPrice = some price := listing.symm.trans asked
      exact ⟨.signer who, owner.trans held, who, s, [], past, rfl, rfl, held,
        fun _ listed => absurd listed List.not_mem_nil⟩
  | accepted listing => exact absurd (careful.symm.trans (listing.symm.trans asked)) nofun
  | moved moves listing =>
      have before : s.prices.lookup token = some price := listing.symm.trans asked
      cases moves with
      | mint unowned =>
          obtain ⟨holder, consented⟩ := inv token price before
          exact absurd (unowned.symm.trans consented.holds) nofun
      | transfer distinct =>
          obtain unlisted | same := careful
          · exact absurd (unlisted.symm.trans before) nofun
          · exact absurd same distinct
      | burn => exact absurd (careful.symm.trans before) nofun

/-- In runs that change owners only by purchase or of unlisted tokens, every listing is the
present owner's, and a purchase pays exactly the price that this owner asked: what it pays, the
author of a royalty and the owner get. -/
theorem bought_with_consent (run : Run Initial (Step cfg) past s)
    (careful : Guarded Delisted past) :
    (∀ token price, s.prices.lookup token = some price →
      ∃ owner, Consented past s token owner price) ∧
    ∀ key token t, buy cfg s (.signer key) token = .ok t →
      ∃ owner price net, Consented past s token owner price ∧
        s.prices.lookup token = some price ∧ net ≤ price ∧
        .tokenSold owner (.signer key) token net ∈ t.events ∧
        t.nft.owner token = some (.signer key) ∧ t.prices.lookup token = none ∧
        PriceMoved cfg s t token (.signer key) owner price ∧
        ((∀ info, s.marketplaceInstances.lookup token = some info →
            info.author ≠ .signer key) →
          Sold cfg s t token (.signer key) owner price) := by
  have listings : ∀ token price, s.prices.lookup token = some price →
      ∃ owner, Consented past s token owner price := by
    refine run.history_invariant (fun past s => ∀ token price,
      s.prices.lookup token = some price → ∃ owner, Consented past s token owner price)
      ?_ ?_ careful
    · intro s initial token price asked
      rw [initial.prices] at asked
      exact absurd asked nofun
    · intro past s label t _ inv careful taken token price asked
      exact consented_step inv careful taken asked
  refine ⟨listings, fun key token t bought => ?_⟩
  obtain ⟨owner, price, net, held, asked, less, owners, prices, -, -, sold⟩ := doBuy_ok bought
  obtain ⟨owner', price', held', distinct, asked', -, moved⟩ := doBuy_priceMoved bought
  obtain rfl : owner' = owner := Option.some.inj (held'.symm.trans held)
  obtain rfl : price' = price := Option.some.inj ((asked' rfl).symm.trans (asked rfl))
  obtain ⟨holder, consented⟩ := listings token price' (asked rfl)
  obtain rfl : owner' = holder := Option.some.inj (held.symm.trans consented.holds)
  have handedOver : t.nft.owner token = some (.signer key) := by
    rw [owners, if_pos rfl]
  refine ⟨owner', price', net, consented, asked rfl, less, sold, handedOver, ?_, moved, ?_⟩
  · rw [prices, if_neg nofun, AList.lookup_erase]
  · intro stranger
    exact moved.sold distinct stranger handedOver

section Reference

/-- The constants of the runtime. -/
def Config.reference : Config where
  minimumOfferAmount := 10000 * 10 ^ 12
  royaltyBondAmount := 2000 * 10 ^ 12
  existentialDeposit := 10 ^ 12
  nativeAssetId := 0
  nft := ⟨999999⟩

/-- Every signer holds a hundred thousand units. -/
def genesis : State where
  prices := ∅
  offers := ∅
  marketplaceInstances := ∅
  events := []
  blockNumber := 1
  ledger :=
    { free := fun who asset =>
        match who with
        | .signer _ => if asset = 0 then 10 ^ 17 else 0
        | _ => 0
      reserved := fun _ _ => 0
      issuance := fun _ => 0 }
  named := fun _ => 0
  nft := ⟨⟨∅, ∅⟩, ∅, ∅, []⟩

/-- Signer 1 mints a token of class 1000000 and asks 20000 units for it. -/
def listedToken : List Label :=
  [.nft (.createClass 1 1000000 .marketplace []), .nft (.mint 1 (1000000, 7) []),
    .market (.setPrice 1 (1000000, 7) (some (20000 * 10 ^ 12)))]

/-- Take steps, starting with the listed token, and record them. -/
def simulate (labels : List Label) : Except Error (List (State × Label) × State) :=
  (listedToken ++ labels).foldlM (recording (exec .reference) fun _ label => label) ([], genesis)

theorem run_of_simulate {labels : List Label} (computed : simulate labels = .ok (past, s)) :
    Run Initial (Step .reference) past s :=
  run_of_recording (fun _ _ _ executed => executed) (.start ⟨rfl, rfl, rfl⟩) computed

instance (s : State) (label : Label) : Decidable (Delisted s label) :=
  match label with
  | .market (.acceptOffer _ token _) => inferInstanceAs (Decidable (s.prices.lookup token = none))
  | .nft (.transfer who token dest) =>
      inferInstanceAs (Decidable (s.prices.lookup token = none ∨ .signer who = dest))
  | .nft (.burn _ token) => inferInstanceAs (Decidable (s.prices.lookup token = none))
  | .market (.buy ..) | .market (.setPrice ..) | .market (.makeOffer ..)
  | .market (.withdrawOffer ..) | .market (.addRoyalty ..) | .nft (.createClass ..)
  | .nft (.mint ..) | .nft (.destroyClass ..) | .chain .. => .isTrue trivial

/-- The step is a price asked by this account. -/
def Label.isPriceOf (key : ℕ) : Label → Bool
  | .market (.setPrice who _ _) => who == key
  | _ => false

end Reference

/-- Signer 2 buys the token and gives it to signer 3, who asks another price, at which
signer 4 buys it. -/
theorem bought_with_consent_again :
    ∃ past s t, buy .reference s (.signer 4) (1000000, 7) = .ok t ∧
      Consented past s (1000000, 7) (.signer 3) (30000 * 10 ^ 12) ∧
      Sold .reference s t (1000000, 7) (.signer 4) (.signer 3) (30000 * 10 ^ 12) := by
  have computed : succeedsWith (simulate
      [.market (.buy 2 (1000000, 7)), .nft (.transfer 2 (1000000, 7) (.signer 3)),
        .market (.setPrice 3 (1000000, 7) (some (30000 * 10 ^ 12)))])
      (fun result => succeedsWith (buy .reference result.2 (.signer 4) (1000000, 7)) (fun _ =>
        decide (∀ event ∈ result.1, Delisted event.1 event.2) &&
        (decide (result.2.nft.owner (1000000, 7) = some (.signer 3)) &&
        decide (result.2.prices.lookup (1000000, 7) = some (30000 * 10 ^ 12)) &&
        decide (result.2.marketplaceInstances.lookup (1000000, 7) = none)))) = true := by
    decide +kernel
  simp only [succeedsWith_iff, Bool.and_eq_true, decide_eq_true_eq] at computed
  obtain ⟨⟨past, s⟩, recorded, t, bought, careful, ⟨held, asked⟩, noRoyalty⟩ := computed
  dsimp only at noRoyalty
  obtain ⟨owner, price, _, consented, priced, -, -, -, -, -, sold⟩ :=
    (bought_with_consent (run_of_simulate recorded) careful).2 4 (1000000, 7) t bought
  obtain rfl : owner = .signer 3 := Option.some.inj (consented.holds.symm.trans held)
  obtain rfl : price = 30000 * 10 ^ 12 := Option.some.inj (priced.symm.trans asked)
  have stranger (info : _) (set : s.marketplaceInstances.lookup (1000000, 7) = some info) :
      info.author ≠ .signer 4 :=
    absurd (noRoyalty.symm.trans set) nofun
  exact ⟨past, s, t, bought, consented, sold stranger⟩

/-- Signer 1 accepts an offer of signer 2 for the listed token.  The listing stays, and
signer 3 buys the token from signer 2, who never asked a price. -/
theorem bought_without_consent :
    ¬ ∀ (cfg : Config) (past : List (State × Label)) (s t : State) (key : ℕ) (token : Nft.Token),
      Run Initial (Step cfg) past s → buy cfg s (.signer key) token = .ok t →
      ∃ owner price, s.prices.lookup token = some price ∧
        Consented past s token owner price := by
  intro claim
  have computed : succeedsWith (simulate
      [.market (.makeOffer 2 (1000000, 7) (50000 * 10 ^ 12) 100),
        .market (.acceptOffer 1 (1000000, 7) (.signer 2))])
      (fun result => succeedsWith (buy .reference result.2 (.signer 3) (1000000, 7)) (fun _ =>
        decide (result.2.nft.owner (1000000, 7) = some (.signer 2)) &&
        decide (∀ event ∈ result.1, event.2.isPriceOf 2 = false))) = true := by
    decide +kernel
  simp only [succeedsWith_iff, Bool.and_eq_true, decide_eq_true_eq] at computed
  obtain ⟨⟨past, s⟩, recorded, t, bought, held, never⟩ := computed
  obtain ⟨owner, price, -, holds, key, before, recent, earlier, rfl, rfl, -⟩ :=
    claim .reference past s t 3 (1000000, 7) (run_of_simulate recorded) bought
  obtain rfl : key = 2 := by
    injection Option.some.inj (holds.symm.trans held)
  have asked := never _ (List.mem_append_right recent List.mem_cons_self)
  exact absurd asked nofun

end Basilisk.Marketplace
