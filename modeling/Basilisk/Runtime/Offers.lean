/-
# Offers among the reserves of others

The amount of an offer is reserved in the native asset under the identifier of the
marketplace, but the reserve itself is one number per account.  The registry of the
NFTs puts the storage deposits into the same number, and the exchange reserves,
releases and pays from it while it settles the trades of a block.  This module shows
that none of them draws on more than it has set aside itself, so that whatever
happens, the reserve of an account covers all of its outstanding offers, and every
offer can be withdrawn as long as its token exists.  What is reserved beyond the
offers, bonds and deposits is what the exchange has stranded, and it stays there.
-/

import Basilisk.Exchange.Reserves
import Basilisk.Math.ReserveBook
import Basilisk.Runtime.Chain

namespace Basilisk

open Basilisk.Math

namespace Exchange

variable {cfg : Config} {s t : State} {order : List (AssetId × AssetId)}

/-- The end of a block leaves every reserve at least what it was, and exactly that if no turn
strands an amount. -/
theorem retains_of_finalize (registered : Registered cfg s)
    (fit : ∀ visit ∈ visits cfg s order, visit.SumsFit cfg)
    (taken : Step cfg s (.finalize order) t) : Retains cfg s (visits cfg s order) t := by
  simp only [Step, exec, bind_eq_ok, ensure_eq_ok, exists_const, mapError_eq_ok,
    return_eq_ok] at taken
  obtain ⟨iterates, u, finalized, rfl⟩ := taken
  have retained : Retains cfg s (visits cfg s order) u :=
    retains_of_drawn (reserved_of_finalize registered iterates finalized)
      fun visit listed => (fit visit listed).overdraws
  exact ⟨retained.grows, retained.same⟩

end Exchange

namespace Chain

variable {cfg : Config} {s t : State} {label : Label}

/-- The sums of the direct trades at the end of a block fit a machine word. -/
def SumsFit (cfg : Config) (s : State) (label : Label) : Prop :=
  ∀ order relayBlocks, label = .finalize order relayBlocks →
    ∀ visit ∈ Exchange.visits cfg.exchange s.exchange order, visit.SumsFit cfg.exchange

/-- In no direct trade at the end of a block the second reservation fails after the first. -/
def StrandsNothing (cfg : Config) (s : State) (label : Label) : Prop :=
  ∀ order relayBlocks, label = .finalize order relayBlocks →
    ∀ visit ∈ Exchange.visits cfg.exchange s.exchange order, ¬ visit.Strands cfg.exchange

/-- The reserves, and what the marketplace and the registry of the NFTs know of them: offers,
bonds and storage deposits, all in the native asset. -/
def State.reserveBook (cfg : Config) (s : State) : ReserveBook AccountId AssetId where
  reserved := s.ledger.reserved
  booked who asset := if asset = cfg.market.nativeAssetId then
    s.market.named who + s.nft.deposited cfg.uniques who else 0

/-- What a step is to the marketplace, if it is one of its calls. -/
def Label.onMarket (s : State) : Label → List (Marketplace.State × Marketplace.Label)
  | .market call => [(s.marketView, .market call)]
  | _ => []

/-- The calls of the marketplace in a run. -/
def marketCalls (past : List (State × Label)) : List (Marketplace.State × Marketplace.Label) :=
  past.flatMap fun event => event.2.onMarket event.1

/-- A step keeps the books of the marketplace in order. -/
theorem booked_of_step {calls : List (Marketplace.State × Marketplace.Label)}
    (booked : Marketplace.Booked cfg.market calls s.marketView) (taken : Step cfg s label t) :
    Marketplace.Booked cfg.market (label.onMarket s ++ calls) t.marketView := by
  have kept (market : t.market = s.market) :
      Marketplace.Booked cfg.market calls t.marketView := by
    have named : t.marketView.named = s.marketView.named := congrArg (·.named) market
    have offers : t.marketView.offers = s.marketView.offers := congrArg (·.offers) market
    refine ⟨fun who => ?_, fun key offer stored => ?_⟩
    · rw [named, Marketplace.offered_congr offers]
      exact booked.named who
    · rw [offers] at stored
      exact booked.makers key offer stored
  cases taken_of_step taken with
  | market called =>
      have booked' := booked.step (Marketplace.effect_of_dispatch called)
      exact ⟨booked'.named, booked'.makers⟩
  | _ => exact kept rfl

/-- In every run the marketplace has under its identifier what is on offer and bonded. -/
theorem booked_of_run {past : List (State × Label)} (initial : Initial cfg s)
    (run : Run (· = s) (Step cfg) past t) :
    Marketplace.Booked cfg.market (marketCalls past) t.marketView := by
  induction run with
  | start isStart =>
      obtain rfl := isStart
      exact Marketplace.booked_of_run (.start initial.market)
  | extend _ taken ih => exact booked_of_step ih taken

/-- The books of the marketplace are in order, and everything that is booked is reserved. -/
structure Reserved (cfg : Config) (s : State) : Prop where
  market : ∃ past, Marketplace.Booked cfg.market past s.marketView
  covered : (s.reserveBook cfg).Covered

theorem Reserved.le (reserved : Reserved cfg s) (who : AccountId) :
    s.market.named who + s.nft.deposited cfg.uniques who ≤
      s.ledger.reserved who cfg.market.nativeAssetId := by
  have covered := reserved.covered who cfg.market.nativeAssetId
  dsimp only [State.reserveBook] at covered
  rwa [if_pos rfl] at covered

section Bookings

open Basilisk.Math.ReserveBook

variable {who : AccountId} {amount : ℕ}

/-- One account has more on the books. -/
theorem booked_eq_credit (more : ∀ other,
      t.market.named other + t.nft.deposited cfg.uniques other =
        s.market.named other + s.nft.deposited cfg.uniques other +
          if who = other then amount else 0) :
    (t.reserveBook cfg).booked =
      Ledger.credit (s.reserveBook cfg).booked who cfg.market.nativeAssetId amount := by
  funext other asset
  rw [Ledger.credit_apply]
  dsimp only [State.reserveBook]
  by_cases native : asset = cfg.market.nativeAssetId
  · rw [if_pos native, if_pos native, more other]
    by_cases same : who = other
    · rw [if_pos same, if_pos ⟨same.symm, native⟩]
    · rw [if_neg same, if_neg fun both => same both.1.symm, Nat.add_zero]
  · rw [if_neg native, if_neg native, if_neg fun both => native both.2]

theorem booked_eq (named : t.market.named = s.market.named)
    (deposited : t.nft.deposited cfg.uniques = s.nft.deposited cfg.uniques) :
    (t.reserveBook cfg).booked = (s.reserveBook cfg).booked := by
  dsimp only [State.reserveBook]
  rw [named, deposited]

/-- A call of the marketplace reserves and releases what it books. -/
theorem sameBeyond_of_market {call : Marketplace.Call} (reserved : Reserved cfg s)
    (called : Marketplace.dispatch cfg.market s.marketView call = .ok t.marketView)
    (deposited : t.nft.deposited cfg.uniques = s.nft.deposited cfg.uniques) :
    SameBeyond (s.reserveBook cfg) (t.reserveBook cfg) := by
  have aside {who : AccountId} {amount : ℕ}
      (aside : Marketplace.SetAside cfg.market s.marketView t.marketView who amount) :
      SameBeyond (s.reserveBook cfg) (t.reserveBook cfg) := by
    refine sameBeyond_of_credit aside.reserved (booked_eq_credit fun other => ?_)
    have named : t.market.named = Function.update s.market.named who
        (s.market.named who + amount) := aside.named
    have moved := update_apply_add s.market.named who other (s.market.named who + amount)
    rw [named, deposited]
    split_ifs at moved ⊢ <;> omega
  cases Marketplace.effect_of_dispatch called with
  | kept _ unbooked => exact .of_eq unbooked.reserved (booked_eq unbooked.named deposited)
  | placed _ _ placed => exact aside placed
  | bonded _ bonded => exact aside bonded
  | @closed _ token maker offer _ stored _ released =>
      obtain ⟨past, booked⟩ := reserved.market
      have enough : offer.amount ≤ s.market.named offer.maker := booked.amount_le stored
      have named : t.market.named = Function.update s.market.named offer.maker
          (s.market.named offer.maker - min offer.amount (s.market.named offer.maker)) :=
        released.named
      have lowered : t.ledger.reserved = Ledger.debit s.ledger.reserved offer.maker
          cfg.market.nativeAssetId (min (min offer.amount (s.market.named offer.maker))
            (s.ledger.reserved offer.maker cfg.market.nativeAssetId)) := released.reserved
      rw [min_eq_left enough] at named lowered
      refine sameBeyond_of_debit reserved.covered lowered (booked_eq_credit fun other => ?_)
      have moved := update_apply_add s.market.named offer.maker other
        (s.market.named offer.maker - offer.amount)
      rw [named, deposited]
      split_ifs at moved ⊢ <;> omega

/-- A call of the NFT pallet reserves and releases deposits. -/
theorem sameBeyond_of_nft {call : Nft.Call} (reserved : Reserved cfg s)
    (settles : Nft.Settles cfg.uniques s.nft t.nft s.ledger t.ledger call)
    (named : t.market.named = s.market.named) :
    SameBeyond (s.reserveBook cfg) (t.reserveBook cfg) := by
  cases settles with
  | aside _ aside more =>
      obtain ⟨-, ledger⟩ := Ledger.reserve_eq_some_iff.mp aside
      have raised := congrArg (·.reserved) ledger
      rw [cfg.depositCurrency] at raised
      refine sameBeyond_of_credit raised (booked_eq_credit fun other => ?_)
      rw [named, more, Nat.add_assoc]
  | returned _ released less =>
      have lowered := congrArg (·.reserved) released
      rw [cfg.depositCurrency] at lowered
      refine sameBeyond_of_debit reserved.covered lowered (booked_eq_credit fun other => ?_)
      rw [named, less, Nat.add_assoc]
  | kept unmoved same =>
      exact .of_eq (congrArg (·.reserved) unmoved) (booked_eq named (funext same))

/-- A step leaves what is reserved beyond the books, unless it strands something. -/
theorem grows_of_step (sound : Sound cfg s) (reserved : Reserved cfg s)
    (fit : SumsFit cfg s label) (taken : Step cfg s label t) :
    GrowsBeyond (s.reserveBook cfg) (t.reserveBook cfg) ∧
      (SameBeyond (s.reserveBook cfg) (t.reserveBook cfg) ↔ StrandsNothing cfg s label) := by
  have still (quiet : ∀ order relayBlocks, label ≠ .finalize order relayBlocks)
      (same : SameBeyond (s.reserveBook cfg) (t.reserveBook cfg)) :
      GrowsBeyond (s.reserveBook cfg) (t.reserveBook cfg) ∧
        (SameBeyond (s.reserveBook cfg) (t.reserveBook cfg) ↔ StrandsNothing cfg s label) :=
    ⟨same.grows, iff_of_true same fun order relayBlocks finalizes =>
      absurd finalizes (quiet order relayBlocks)⟩
  have changes := changes_of_step sound taken
  have deposited (other : ∀ call, label ≠ .nft call) :
      t.nft.deposited cfg.uniques = s.nft.deposited cfg.uniques :=
    (sound.books.handled cfg.uniques sound.unbacked
      ((taken_of_step taken).handled sound other)).2.2
  -- these pallets have no licence to reserve or to release
  have unreserved (market : t.market = s.market) (other : ∀ call, label ≠ .nft call)
      (saves : ∀ who, ¬ (licence cfg s label).saves who)
      (yields : ∀ who, ¬ (licence cfg s label).yields who) :
      SameBeyond (s.reserveBook cfg) (t.reserveBook cfg) :=
    .of_eq (funext₂ fun who => changes.reserved_eq (saves who) (yields who))
      (booked_eq (congrArg (·.named) market) (deposited other))
  cases taken_of_step taken with
  | @market call view called =>
      have back : (s.absorbMarket view).marketView = view := by
        rw [Marketplace.State.mk.injEq]
        have block := (Marketplace.handedOn_of_dispatch called).blockNumber
        exact ⟨rfl, rfl, rfl, rfl, block.symm, rfl, rfl, rfl⟩
      rw [← back] at called
      exact still nofun (sameBeyond_of_market reserved called (deposited nofun))
  | nft called settled =>
      have settles := Nft.settles_of_dispatch cfg.deposits sound.books called settled
      exact still nofun (sameBeyond_of_nft reserved settles rfl)
  | transfer moved =>
      have same := (Ledger.reserved_transfer moved).1
      exact still nofun (.of_eq same (booked_eq rfl rfl))
  | @finalize order relayBlocks exchange finalized =>
      have retained := Exchange.retains_of_finalize sound.registered (fit _ _ rfl) finalized
      constructor
      · intro who asset
        exact Nat.add_le_add_right (retained.grows who asset) _
      · have stranded : StrandsNothing cfg s (.finalize order relayBlocks) ↔
            exchange.ledger.reserved = s.exchange.ledger.reserved := by
          rw [retained.same]
          constructor
          · intro nothing
            exact nothing order relayBlocks rfl
          · intro nothing _ _ finalizes
            obtain ⟨rfl, -⟩ := Label.finalize.inj finalizes
            exact nothing
        rw [stranded]
        constructor
        · intro same
          exact funext₂ fun who asset => Nat.add_right_cancel (same who asset)
        · intro same
          exact .of_eq same rfl
  | _ => exact still nofun (unreserved rfl nofun (fun _ => id) fun _ => id)

theorem Reserved.step (reserved : Reserved cfg s) (sound : Sound cfg s)
    (fit : SumsFit cfg s label) (taken : Step cfg s label t) : Reserved cfg t := by
  refine ⟨?_, (grows_of_step sound reserved fit taken).1.covered reserved.covered⟩
  obtain ⟨calls, booked⟩ := reserved.market
  exact ⟨_, booked_of_step booked taken⟩

theorem Initial.booked (initial : Initial cfg s) (who : AccountId) (asset : AssetId) :
    (s.reserveBook cfg).booked who asset = 0 := by
  have named : s.market.named = fun _ => 0 := initial.market.named
  dsimp only [State.reserveBook]
  rw [named, initial.nft.deposited]
  exact ite_self 0

theorem Initial.reserved (initial : Initial cfg s) : Reserved cfg s where
  market := ⟨[], Marketplace.booked_of_run (.start initial.market)⟩
  covered who asset := (initial.booked who asset).trans_le (Nat.zero_le _)

theorem reserved_of_reachable
    (reachable : ReachableUnder (Initial cfg) (Step cfg) (SumsFit cfg) s) :
    Sound cfg s ∧ Reserved cfg s := by
  refine ReachableUnder.invariant (fun s => Sound cfg s ∧ Reserved cfg s) ?_ ?_ reachable
  · intro s initial
    exact ⟨initial.sound, initial.reserved⟩
  · rintro s label t ⟨sound, reserved⟩ fit taken
    exact ⟨sound.step taken, reserved.step sound fit taken⟩

/-- In every run of the runtime in which the sums of direct trades fit a machine word: the reserves
of all accounts are those of genesis and, in the native asset, what the account has on offer, one
bond for every royalty it added and the deposits for its classes and their tokens, if and only if
in no direct trade of the run the second reservation failed after the first.  What is stranded
once is never released. -/
theorem reserves_accounted_iff {past : List (State × Label)}
    (initial : Initial cfg s) (run : Run (· = s) (Step cfg) past t)
    (fit : Guarded (SumsFit cfg) past) :
    (∀ who asset, t.ledger.reserved who asset = s.ledger.reserved who asset +
        if asset = cfg.market.nativeAssetId then
          t.marketView.offered who +
            cfg.market.royaltyBondAmount * Marketplace.royaltiesAdded (marketCalls past) who +
            t.nft.deposited cfg.uniques who
        else 0) ↔
      Guarded (StrandsNothing cfg) past := by
  have booked := booked_of_run initial run
  suffices kept : (Sound cfg t ∧ Reserved cfg t) ∧
      GrowsBeyond (s.reserveBook cfg) (t.reserveBook cfg) ∧
      (SameBeyond (s.reserveBook cfg) (t.reserveBook cfg) ↔
        Guarded (StrandsNothing cfg) past) by
    rw [← kept.2.2]
    refine forall₂_congr fun who asset => ?_
    rw [initial.booked, Nat.add_zero, ← booked.named who]
    rfl
  clear booked
  induction run with
  | start isStart =>
      obtain rfl := isStart
      refine ⟨⟨initial.sound, initial.reserved⟩, fun _ _ => le_rfl, ?_⟩
      exact iff_of_true (.of_eq rfl rfl) guarded_nil
  | @extend past u t label _ taken ih =>
      rw [guarded_cons] at fit
      obtain ⟨⟨sound, reserved⟩, grown, same⟩ := ih fit.2
      obtain ⟨grows, once⟩ := grows_of_step sound reserved fit.1 taken
      refine ⟨⟨sound.step taken, reserved.step sound fit.1 taken⟩, grown.trans grows, ?_⟩
      rw [guarded_cons, sameBeyond_trans_iff grown grows, same, once]
      exact and_comm

end Bookings

/-- In every run of the runtime in which the sums of direct trades fit a machine word, whatever
the order of the calls of all pallets: what an account has on offer is reserved for it, and as
long as the token of an offer exists, the maker of the offer can withdraw it and gets exactly its
amount back. -/
theorem offers_refundable
    (reachable : ReachableUnder (Initial cfg) (Step cfg) (SumsFit cfg) s) :
    (∀ who, s.marketView.offered who ≤ s.ledger.reserved who cfg.market.nativeAssetId) ∧
      ∀ token maker offer owner, s.market.offers.lookup (token, maker) = some offer →
        s.nft.owner token = some owner →
        ∃ key t, maker = .signer key ∧
          Step cfg s (.market (.withdrawOffer key token maker)) t ∧
          t.market.offers = s.market.offers.erase (token, maker) ∧
          t.ledger.free maker cfg.market.nativeAssetId =
            s.ledger.free maker cfg.market.nativeAssetId + offer.amount ∧
          t.ledger.reserved maker cfg.market.nativeAssetId + offer.amount =
            s.ledger.reserved maker cfg.market.nativeAssetId := by
  obtain ⟨-, reserved⟩ := reserved_of_reachable reachable
  obtain ⟨past, booked⟩ := reserved.market
  have covered : Marketplace.Covered cfg.market s.marketView := fun who =>
    (Nat.le_add_right _ _).trans (reserved.le who)
  constructor
  · intro who
    refine le_trans ?_ (covered who)
    rw [booked.named]
    exact Nat.le_add_right _ _
  · intro token maker offer owner placed held
    obtain ⟨made, key, signed⟩ := booked.makers _ _ placed
    dsimp only at made signed
    have listed : s.marketView.offers.lookup (token, maker) = some offer := placed
    obtain ⟨view, withdrawn, offers, named, ledger⟩ :=
      Marketplace.withdrawOffer_succeeds cfg.market listed held (.inl (made.trans signed).symm)
    subst made
    have refunded := Marketplace.refunded_of_unreserve (booked.amount_le listed) covered offers
      named ledger
    refine ⟨key, s.absorbMarket view, signed, ?_, refunded.offers, refunded.free,
      refunded.reserved⟩
    simp only [Step, exec, bind_eq_ok, mapError_eq_ok, return_eq_ok]
    exact ⟨view, withdrawn, rfl⟩

section Reference

/-- All direct trades of a run pass a check. -/
def everyVisit (check : Exchange.Visit → Bool) (past : List (State × Label)) : Bool :=
  past.all fun event =>
    match event.2 with
    | .finalize order _ =>
        (Exchange.visits Config.reference.exchange event.1.exchange order).all check
    | _ => true

theorem guarded_of_everyVisit {check : Exchange.Visit → Bool} {passes : Exchange.Visit → Prop}
    (each : ∀ visit, check visit = true → passes visit) {past : List (State × Label)}
    (checked : everyVisit check past = true) :
    Guarded (fun s label => ∀ order relayBlocks, label = .finalize order relayBlocks →
      ∀ visit ∈ Exchange.visits Config.reference.exchange s.exchange order, passes visit) past := by
  intro event listed order relayBlocks same visit visited
  have once := List.all_eq_true.mp checked event listed
  rw [same] at once
  exact each visit (List.all_eq_true.mp once visit visited)

theorem guarded_of_sumsFit {past : List (State × Label)}
    (fit : everyVisit (fun visit => decide (visit.SumsFit Config.reference.exchange)) past = true) :
    Guarded (SumsFit .reference) past :=
  guarded_of_everyVisit (fun _ => of_decide_eq_true) fit

/-- Signer 2 makes an offer and sells in the same block, in which signer 3 sells the other way. -/
def offeredToken : List Label :=
  [.xyk (.createPool 1 ⟨false, true⟩ 1 2 10000 FixedU128.one),
    .nft (.createClass 1 1000000 .marketplace []), .nft (.mint 1 (1000000, 7) []),
    .market (.makeOffer 2 (1000000, 7) (20000 * 10 ^ 12) 100),
    .exchange (.sell 2 1 2 3000 0 false), .exchange (.sell 3 2 1 1500 0 false),
    .finalize [(1, 2)] 12]

/-- The offer survives a block with a direct trade and can be withdrawn. -/
theorem offers_refundable_traded :
    ∃ past s t, simulate genesis offeredToken = .ok (past, s) ∧
      Step .reference s (.market (.withdrawOffer 2 (1000000, 7) (.signer 2))) t ∧
      t.ledger.free (.signer 2) 0 = s.ledger.free (.signer 2) 0 + 20000 * 10 ^ 12 := by
  have computed : succeedsWith (simulate genesis offeredToken) (fun reached =>
      everyVisit (fun visit => decide (visit.SumsFit Config.reference.exchange)) reached.1 && decide
        (reached.2.market.offers.lookup ((1000000, 7), .signer 2) =
          some ⟨.signer 2, 20000 * 10 ^ 12, 100⟩ ∧
        reached.2.nft.owner (1000000, 7) = some (.signer 1))) = true := by
    decide +kernel
  simp only [succeedsWith_iff, Bool.and_eq_true, decide_eq_true_eq] at computed
  obtain ⟨⟨past, s⟩, run, fit, placed, held⟩ := computed
  have reachable := reachable_of_simulate run (guarded_of_sumsFit fit)
  obtain ⟨key, t, signed, withdrawn, -, free, -⟩ :=
    (offers_refundable reachable).2 _ _ _ _ placed held
  obtain rfl : key = 2 := (AccountId.signer.inj signed).symm
  exact ⟨past, s, t, run, withdrawn, free⟩

/-- After the block with the direct trade the deposits of signer 1 and the offer of signer 2 are
all that they have reserved, and nothing is left of what was reserved for the trade. -/
theorem reserves_accounted_traded :
    ∃ past s, simulate genesis offeredToken = .ok (past, s) ∧
      s.ledger.reserved (.signer 1) 0 = 200 * 10 ^ 12 ∧
      s.ledger.reserved (.signer 2) 0 = 20000 * 10 ^ 12 ∧
      ∀ who, s.ledger.reserved who 1 = 0 ∧ s.ledger.reserved who 2 = 0 := by
  let due (past : List (State × Label)) (s : State) (who : AccountId) : ℕ :=
    s.marketView.offered who +
      Config.reference.market.royaltyBondAmount *
        Marketplace.royaltiesAdded (marketCalls past) who +
      s.nft.deposited Config.reference.uniques who
  have computed : succeedsWith (simulate genesis offeredToken) (fun reached =>
      everyVisit (fun visit => decide (visit.SumsFit Config.reference.exchange)) reached.1 &&
      everyVisit (fun visit => decide (¬ visit.Strands Config.reference.exchange)) reached.1 &&
      decide (due reached.1 reached.2 (.signer 1) = 200 * 10 ^ 12 ∧
        due reached.1 reached.2 (.signer 2) = 20000 * 10 ^ 12)) = true := by
    decide +kernel
  simp only [succeedsWith_iff, Bool.and_eq_true, decide_eq_true_eq] at computed
  obtain ⟨⟨past, s⟩, run, ⟨fit, clean⟩, backed, offered⟩ := computed
  have accounted := (reserves_accounted_iff genesis_initial (run_of_simulate run)
    (guarded_of_sumsFit fit)).mpr (guarded_of_everyVisit (fun _ => of_decide_eq_true) clean)
  have native (who : AccountId) : s.ledger.reserved who 0 = 0 + due past s who := accounted who 0
  refine ⟨past, s, run, ?_, ?_, fun who => ⟨accounted who 1, accounted who 2⟩⟩
  · rw [native, backed, Nat.zero_add]
  · rw [native, offered, Nat.zero_add]

end Reference

end Chain

end Basilisk
