/-
# What can be taken from whom

Everybody's assets are in one ledger, and five pallets, the root and the end of a
block move them.  This module says when a signer can lose something: in a call of
their own, at the end of a block in which they wait for a trade, when their offer is
taken, when the root lets them pay for a pool or a farm, when the reward of a duster
is due from them, or when what they have of an asset is less than its existential
deposit.  In every other step of any run their balances, free and reserved, do not
fall.

Tokens are in one registry, and three pallets mint, move and burn them.  A token that
is not for sale leaves its owner in calls of the owner only, and so does the deposit
that a token of liquidity mining stands for.
-/

import Basilisk.Runtime.Chain

namespace Basilisk

open Basilisk.Math

namespace LiquidityMining

variable {cfg : Config} {s s' t : State}

/-- The token of the deposit that a call settles, with the key that signs. -/
def Call.settles (cfg : Config) : Call → Option (ℕ × Nft.Token)
  | .claimRewards key nftId => some (key, cfg.nftClass, nftId)
  | .withdrawShares key nftId => some (key, cfg.nftClass, nftId)
  | _ => none

/-- The deposits and all tokens are as they were. -/
structure SameReceipts (s t : State) : Prop where
  nft : t.nft = s.nft
  deposits : t.depositData = s.depositData

theorem SameReceipts.trans {u : State} (first : SameReceipts s t) (second : SameReceipts t u) :
    SameReceipts s u :=
  ⟨second.nft.trans first.nft, second.deposits.trans first.deposits⟩

theorem sameReceipts_of_refreshGlobalPool {globalPool globalPool' : GlobalPool} {now : ℕ}
    (called : refreshGlobalPool cfg s globalPool now = .ok (s', globalPool')) :
    SameReceipts s s' := by
  obtain ⟨⟨_, -, rfl⟩, -⟩ := refreshGlobalPool_frame called
  exact ⟨rfl, rfl⟩

theorem Settling.sameReceipts {slot : Slot} {globalPool globalPool' : GlobalPool}
    {liqPool liqPool' : LiquidityPoolYieldFarm}
    (settling : Settling cfg s slot globalPool liqPool s' globalPool' liqPool') :
    SameReceipts s s' := by
  obtain ⟨⟨_, _, -, rfl⟩, -, -, -⟩ := updated_of_maybeUpdatePools settling.updated
  exact ⟨rfl, rfl⟩

theorem sameReceipts_of_doClaimRewards {who : AccountId} {deposit deposit' : Deposit}
    {liqPool : LiquidityPoolYieldFarm} {now reward unclaimable : ℕ} {currency : AssetId}
    (called : doClaimRewards cfg s who deposit liqPool now currency =
      .ok (s', deposit', reward, unclaimable)) : SameReceipts s s' := by
  obtain ⟨-, ⟨-, rfl, -⟩ | ⟨_, _, -, -, -, -, rfl, -⟩⟩ := doClaimRewards_ok called
  · exact ⟨rfl, rfl⟩
  · exact ⟨rfl, rfl⟩

theorem sameReceipts_of_settleWithdrawal {who : AccountId} {slot : Slot} {deposit : Deposit}
    (called : settleWithdrawal cfg s who slot deposit = .ok t) : SameReceipts s t := by
  obtain ⟨-, rfl⟩ | ⟨_, pool, settled⟩ := settleWithdrawal_ok called
  · exact ⟨rfl, rfl⟩
  · obtain ⟨_, _, _, _, _, _, _, _, _, _, left, rfl⟩ := withdrawFromLiqPool_ok settled
    have updated : SameReceipts s _ := Settling.sameReceipts ⟨left.farm, pool, left.updated⟩
    have claimed := updated.trans (sameReceipts_of_doClaimRewards left.claimed)
    exact ⟨claimed.nft, claimed.deposits⟩

/-- The call settles the deposit of another token. -/
theorem ne_of_aside {token : Nft.Token} {key caller nftId : ℕ}
    (held : s.nft.owner token = some (.signer key))
    (owned : s.nft.owner (cfg.nftClass, nftId) = some (.signer caller))
    (aside : some (caller, cfg.nftClass, nftId) ≠ some (key, token)) :
    token ≠ (cfg.nftClass, nftId) := by
  rintro rfl
  obtain rfl := AccountId.signer.inj (Option.some.inj (owned.symm.trans held))
  exact aside rfl

/-- Whoever calls: a token stays with its owner, and the deposit it stands for is as it was, unless
the owner settles that deposit. -/
theorem receipt_of_dispatch {call : Call} {token : Nft.Token} {key : ℕ}
    (called : dispatch cfg s call = .ok t) (held : s.nft.owner token = some (.signer key))
    (aside : call.settles cfg ≠ some (key, token)) :
    t.nft.owner token = some (.signer key) ∧
      (token.1 = cfg.nftClass →
        t.depositData.lookup token.2 = s.depositData.lookup token.2) := by
  -- the calls that neither make nor settle a deposit
  have same (kept : SameReceipts s t) : t.nft.owner token = some (.signer key) ∧
      (token.1 = cfg.nftClass →
        t.depositData.lookup token.2 = s.depositData.lookup token.2) := by
    rw [kept.nft, kept.deposits]
    exact ⟨held, fun _ => rfl⟩
  cases call with
  | createFarm =>
      obtain ⟨-, -, -, _, -, rfl⟩ := createFarm_ok called
      exact same ⟨rfl, rfl⟩
  | destroyFarm =>
      obtain ⟨_, -, -, -, -, rfl⟩ := destroyFarm_ok called
      exact same ⟨rfl, rfl⟩
  | withdrawUndistributedRewards =>
      obtain ⟨_, _, -, -, -, -, rfl⟩ := withdrawUndistributedRewards_ok called
      exact same ⟨rfl, rfl⟩
  | addLiquidityPool =>
      obtain ⟨_, _, _, -, -, -, -, -, refreshed, -, rfl⟩ := addLiquidityPool_ok called
      have kept := sameReceipts_of_refreshGlobalPool refreshed
      exact same ⟨kept.nft, kept.deposits⟩
  | updateLiquidityPool =>
      obtain ⟨_, _, _, _, _, _, settling, -, -, -, -, -, rfl⟩ := updateLiquidityPool_ok called
      exact same ⟨settling.sameReceipts.nft, settling.sameReceipts.deposits⟩
  | cancelLiquidityPool =>
      obtain ⟨_, _, _, _, _, settling, -, -, -, rfl⟩ := cancelLiquidityPool_ok called
      exact same ⟨settling.sameReceipts.nft, settling.sameReceipts.deposits⟩
  | resumeLiquidityPool =>
      obtain ⟨_, _, _, _, _, -, -, -, -, refreshed, -, -, rfl⟩ := resumeLiquidityPool_ok called
      have kept := sameReceipts_of_refreshGlobalPool refreshed
      exact same ⟨kept.nft, kept.deposits⟩
  | removeLiquidityPool =>
      obtain ⟨_, _, _, -, -, -, -, -, -, rfl⟩ := removeLiquidityPool_ok called
      exact same ⟨rfl, rfl⟩
  | depositShares =>
      obtain ⟨_, _, s', _, liqPool', _, _, nft, _, entered, rfl⟩ := depositShares_ok called
      have kept := entered.toSettling.sameReceipts
      obtain ⟨unowned, owners⟩ : _ ∧ nft.owner token = _ := Nft.owner_doMint entered.minted
      rw [kept.nft] at unowned owners
      have other : token ≠
          (cfg.nftClass, encodeNftId liqPool'.id (s'.nftInstanceSequencer + 1)) := by
        rintro rfl
        exact absurd (unowned.symm.trans held) nofun
      rw [if_neg other] at owners
      refine ⟨owners.trans held, fun isDeposit => ?_⟩
      dsimp only [State.put, State.setLiqPool, State.setGlobalPool]
      rw [AList.lookup_insert_ne fun same => other (Prod.ext isDeposit same), kept.deposits]
  | claimRewards caller nftId =>
      obtain ⟨_, _, _, _, _, _, _, _, _, _, _, done, rfl⟩ := claimRewards_eq_ok.mp called
      have kept := done.toSettling.sameReceipts.trans (sameReceipts_of_doClaimRewards done.claimed)
      refine ⟨kept.nft.symm ▸ held, fun isDeposit => ?_⟩
      have other := ne_of_aside held done.owned aside
      dsimp only [State.put, State.setLiqPool, State.setGlobalPool]
      rw [AList.lookup_insert_ne fun same => other (Prod.ext isDeposit same), kept.deposits]
  | withdrawShares caller nftId =>
      obtain ⟨_, _, u, v, nft, done, rfl⟩ := withdrawShares_ok called
      obtain ⟨_, _, -, -, rfl⟩ := returnLpShares_ok done.handed
      have kept := sameReceipts_of_settleWithdrawal done.settled
      obtain ⟨-, owners⟩ : _ ∧ nft.owner token = _ := Nft.owner_doBurn done.burned
      have other := ne_of_aside held done.owned aside
      rw [if_neg other] at owners
      refine ⟨owners.trans (kept.nft.symm ▸ held), fun isDeposit => ?_⟩
      dsimp only
      rw [AList.lookup_erase_ne fun same => other (Prod.ext isDeposit same), kept.deposits]

end LiquidityMining

namespace Nft

/-- The token that a call moves or burns, with the key that signs. -/
def Call.handles : Call → Option (ℕ × Token)
  | .transfer who token _ => some (who, token)
  | .burn who token => some (who, token)
  | _ => none

theorem owner_kept {cfg : Config} {s t : State} {call : Call} {token : Token} {key : ℕ}
    (called : dispatch cfg s call = .ok t) (held : s.owner token = some (.signer key))
    (aside : call.handles ≠ some (key, token)) : t.owner token = some (.signer key) := by
  have key_eq {who : ℕ} (owned : s.owner token = some (.signer who)) : who = key :=
    AccountId.signer.inj (Option.some.inj (owned.symm.trans held))
  obtain same | moves := owner_dispatch called token
  · exact same.trans held
  · cases moves with
    | mint unowned => exact absurd (unowned.symm.trans held) nofun
    | transfer _ owned =>
        obtain rfl := key_eq owned
        exact absurd rfl aside
    | burn owned =>
        obtain rfl := key_eq owned
        exact absurd rfl aside

end Nft

namespace Marketplace

/-- The token that a call lists or sells to the maker of an offer, with the key that signs. -/
def Call.handles : Call → Option (ℕ × Nft.Token)
  | .setPrice who token _ => some (who, token)
  | .acceptOffer who token _ => some (who, token)
  | _ => none

/-- A token that is not for sale stays with its owner and is not for sale, unless the owner lists
it or accepts an offer. -/
theorem unlisted_kept {cfg : Config} {s t : State} {call : Call} {token : Nft.Token} {key : ℕ}
    (called : dispatch cfg s call = .ok t) (held : s.nft.owner token = some (.signer key))
    (unlisted : s.prices.lookup token = none) (aside : call.handles ≠ some (key, token)) :
    t.nft.owner token = some (.signer key) ∧ t.prices.lookup token = none := by
  have key_eq {who : ℕ} (owned : s.nft.owner token = some (.signer who)) : who = key :=
    AccountId.signer.inj (Option.some.inj (owned.symm.trans held))
  have taken : Step cfg s (.market call) t := called
  cases tokenStep_of_step taken token with
  | kept owner listing => exact ⟨owner.trans held, listing.trans unlisted⟩
  | sold =>
      obtain ⟨_, _, _, -, asked, -⟩ := doBuy_ok called
      exact absurd (unlisted.symm.trans (asked rfl)) nofun
  | listed owned =>
      obtain rfl := key_eq owned
      exact absurd rfl aside
  | accepted =>
      obtain ⟨_, _, owned, -⟩ := acceptOffer_steps called
      obtain rfl := key_eq owned
      exact absurd rfl aside

end Marketplace

namespace Tokens

/-- The upgrade moves no token. -/
theorem owner_of_initNftClass {cfg : Config} {s t : State} (upgraded : initNftClass cfg s = .ok t)
    (token : Nft.Token) : t.market.nft.owner token = s.market.nft.owner token := by
  unfold initNftClass at upgraded
  split_ifs at upgraded
  · simp only [Nft.doCreateClass, bind_eq_ok, mapError_eq_ok, okOr_eq_ok,
      return_eq_ok] at upgraded
    obtain ⟨_, ⟨_, created, rfl⟩, rfl⟩ := upgraded
    exact Registry.ownerOf_createClass created
  · rw [return_eq_ok.mp upgraded]

end Tokens

namespace Chain

/-- Who signs a call that moves balances. -/
def Label.caller : Label → Option AccountId
  | .xyk call => some call.caller
  | .lbp call => call.caller
  | .market call => some call.caller
  | .mining call => call.caller
  | .transfer who _ _ _ => some (.signer who)
  | _ => none

/-- The account the root lets pay for a bootstrapping pool or a farm. -/
def Label.sponsor : Label → Option AccountId
  | .lbp call => call.poolOwner
  | .mining call => (LiquidityMining.Label.call call).owner
  | _ => none

/-- The ways in which a step concerns an account. -/
inductive Concerns (cfg : Config) (s : State) (who : AccountId) : Label → Prop
  | signed {label : Label} (caller : label.caller = some who) : Concerns cfg s who label
  | trading {order : List (AssetId × AssetId)} {relayBlocks : ℕ}
      (waits : s.exchange.HasIntention who) : Concerns cfg s who (.finalize order relayBlocks)
  | offered {call : Marketplace.Call} (takes : call.Takes s.marketView who) :
      Concerns cfg s who (.market call)
  | backing {call : Nft.Call} (backs : call.depositor s.nft = some who) :
      Concerns cfg s who (.nft call)
  | sponsoring {label : Label} (named : label.sponsor = some who) : Concerns cfg s who label
  | dusted {key : ℕ} {currencyId : AssetId}
      (below : s.ledger.totalBalance who currencyId < cfg.duster.minCurrencyDeposits currencyId) :
      Concerns cfg s who (.duster (.dustAccount key who currencyId))
  | rewarding {call : Duster.Call} (known : s.duster.rewardAccount = some who) :
      Concerns cfg s who (.duster call)

section Steps

variable {cfg : Config} {s t : State} {label : Label} {key : ℕ}

/-- Whom a step of the duster lets pay. -/
theorem concerns_of_dusting {call : Duster.Call} {view : Duster.State} {who : AccountId}
    (called : Duster.dispatch cfg.duster s.dusterView call = .ok view)
    (pays : (Duster.licence s.dusterView call).pays who) : Concerns cfg s who (.duster call) := by
  rcases pays with dusted | rewarding
  · cases call with
    | dustAccount caller account currencyId =>
        obtain rfl := Option.some.inj dusted
        obtain ⟨_, _, -, -, below, -⟩ := Duster.dustAccount_ok called
        exact .dusted below
    | addNondustableAccount => cases dusted
    | removeNondustableAccount => cases dusted
  · exact .rewarding rewarding

/-- Who pays, or has a reserve drawn on, is concerned. -/
theorem concerns_of_licence (taken : Taken cfg s label t)
    (touched : (licence cfg s label).pays (.signer key) ∨
      (licence cfg s label).yields (.signer key)) :
    Concerns cfg s (.signer key) label := by
  cases taken with
  | @xyk call _ _ =>
      rcases touched with (caller | pool) | yields
      · exact .signed (congrArg some caller.symm)
      · obtain ⟨pair, same⟩ := Xyk.Call.isPool_of_payingPool pool
        exact absurd same.symm (Xyk.getPairId_ne_signer _ _)
      · exact yields.elim
  | exchange => exact touched.elim False.elim False.elim
  | lbp =>
      rcases touched with (caller | ⟨pair, pool⟩ | owner) | yields
      · exact .signed caller
      · cases pool
      · exact .sponsoring owner
      · exact yields.elim
  | market =>
      have concerned := touched.elim id id
      rcases concerned with caller | takes
      · exact .signed (congrArg some caller.symm)
      · exact .offered takes
  | nft => exact .backing (touched.elim id id)
  | mining =>
      rcases touched with (caller | pallet | owner) | yields
      · exact .signed caller
      · exact pallet.elim
      · exact .sponsoring owner
      · exact yields.elim
  | duster called =>
      rcases touched with pays | yields
      · exact concerns_of_dusting called pays
      · exact yields.elim
  | transfer =>
      have caller : _ = _ := touched.elim id id
      exact .signed (congrArg some caller.symm)
  | upgrade => exact touched.elim False.elim False.elim
  | finalize =>
      rcases touched with (waits | ⟨pair, pool⟩) | waits
      · exact .trading waits
      · exact absurd pool.symm (Xyk.getPairId_ne_signer _ _)
      · exact .trading waits

/-- A step that does not concern a signer takes nothing from them. -/
theorem balances_of_step (sound : Sound cfg s) (taken : Step cfg s label t)
    (aside : ¬ Concerns cfg s (.signer key) label) (asset : AssetId) :
    s.ledger.free (.signer key) asset ≤ t.ledger.free (.signer key) asset ∧
      s.ledger.reserved (.signer key) asset ≤ t.ledger.reserved (.signer key) asset := by
  have changes := changes_of_step sound taken
  have concerned := @concerns_of_licence cfg s t label key (taken_of_step taken)
  constructor
  · exact changes.free_le_of_not_pays (fun pays => aside (concerned (.inl pays))) asset
  · exact changes.reserved_le_of_not_yields (fun yields => aside (concerned (.inr yields))) asset

/-- From any reachable state on, and whatever all other accounts, the root and the blocks do, a
signer whom no step concerns has at least what they had of every asset, free and reserved. -/
theorem balances_kept_unless_concerned {past : List (State × Label)}
    (reachable : Reachable (Initial cfg) (Step cfg) s) (run : Run (· = s) (Step cfg) past t)
    (aside : ∀ event ∈ past, ¬ Concerns cfg event.1 (.signer key) event.2) (asset : AssetId) :
    s.ledger.free (.signer key) asset ≤ t.ledger.free (.signer key) asset ∧
      s.ledger.reserved (.signer key) asset ≤ t.ledger.reserved (.signer key) asset := by
  suffices kept : Sound cfg t ∧
      s.ledger.free (.signer key) asset ≤ t.ledger.free (.signer key) asset ∧
      s.ledger.reserved (.signer key) asset ≤ t.ledger.reserved (.signer key) asset from kept.2
  induction run with
  | start isStart =>
      obtain rfl := isStart
      exact ⟨sound_of_reachable reachable, le_rfl, le_rfl⟩
  | extend _ taken ih =>
      obtain ⟨sound, free, reserved⟩ := ih fun event listed =>
        aside event (List.mem_cons_of_mem _ listed)
      obtain ⟨freeNow, reservedNow⟩ :=
        balances_of_step sound taken (aside _ List.mem_cons_self) asset
      exact ⟨sound.step taken, free.trans freeNow, reserved.trans reservedNow⟩

end Steps

section Tokens

variable {cfg : Config} {s t : State} {label : Label} {token : Nft.Token} {key : ℕ}

/-- The token a call is about, with the key that signs. -/
def Label.handles (cfg : Config) : Label → Option (ℕ × Nft.Token)
  | .market call => call.handles
  | .nft call => call.handles
  | .mining call => call.settles cfg.mining
  | _ => none

/-- A token of a signer that is not for sale, and the deposit it stands for. -/
structure Keeps (cfg : Config) (s : State) (key : ℕ) (token : Nft.Token)
    (deposit : Option LiquidityMining.Deposit) : Prop where
  held : s.nft.owner token = some (.signer key)
  unlisted : s.market.prices.lookup token = none
  recorded : token.1 = cfg.mining.nftClass → s.mining.depositData.lookup token.2 = deposit

theorem Keeps.step {deposit : Option LiquidityMining.Deposit}
    (keeps : Keeps cfg s key token deposit) (taken : Step cfg s label t)
    (aside : label.handles cfg ≠ some (key, token)) : Keeps cfg t key token deposit := by
  obtain ⟨held, unlisted, recorded⟩ := keeps
  cases taken_of_step taken with
  | market called =>
      obtain ⟨held', unlisted'⟩ := Marketplace.unlisted_kept called held unlisted aside
      exact ⟨held', unlisted', recorded⟩
  | nft called => exact ⟨Nft.owner_kept called held aside, unlisted, recorded⟩
  | mining called =>
      obtain ⟨held', same⟩ := LiquidityMining.receipt_of_dispatch called held aside
      exact ⟨held', unlisted, fun isDeposit => (same isDeposit).trans (recorded isDeposit)⟩
  | upgrade migrated =>
      refine ⟨?_, unlisted, recorded⟩
      have owners := Tokens.owner_of_initNftClass migrated token
      exact owners.trans held
  | _ => exact ⟨held, unlisted, recorded⟩

/-- From any state on, and whatever everybody does: a token that is not for sale stays with its
owner and stays off the market, and the deposit it stands for stays untouched, as long as the
owner does not list, sell, transfer or burn that token, claim its rewards or withdraw its
shares. -/
theorem token_kept_unless_handled {past : List (State × Label)}
    (held : s.nft.owner token = some (.signer key))
    (unlisted : s.market.prices.lookup token = none) (run : Run (· = s) (Step cfg) past t)
    (aside : ∀ event ∈ past, event.2.handles cfg ≠ some (key, token)) :
    t.nft.owner token = some (.signer key) ∧ t.market.prices.lookup token = none ∧
      (token.1 = cfg.mining.nftClass →
        t.mining.depositData.lookup token.2 = s.mining.depositData.lookup token.2) := by
  suffices keeps : Keeps cfg t key token (s.mining.depositData.lookup token.2) from
    ⟨keeps.held, keeps.unlisted, keeps.recorded⟩
  induction run with
  | start isStart =>
      obtain rfl := isStart
      exact ⟨held, unlisted, fun _ => rfl⟩
  | extend _ taken ih =>
      have before := ih fun event listed => aside event (List.mem_cons_of_mem _ listed)
      exact before.step taken (aside _ List.mem_cons_self)

end Tokens

section Reference

/-- No intention of the account is queued. -/
def unqueued (s : State) (who : AccountId) : Bool :=
  s.exchange.intentions.entries.all fun queue => queue.2.all fun x => x.who ≠ who

theorem not_hasIntention {s : State} {who : AccountId} (absent : unqueued s who = true) :
    ¬ s.exchange.HasIntention who := by
  rintro ⟨x, ⟨queue, queued⟩, same⟩
  simp only [unqueued, List.all_eq_true, decide_eq_true_eq] at absent
  unfold Exchange.State.intentionsOf at queued
  cases stored : s.exchange.intentions.lookup queue with
  | none =>
      rw [stored] at queued
      exact absurd queued List.not_mem_nil
  | some waiting =>
      rw [stored] at queued
      exact absent _ (AList.mem_lookup_iff.mp stored) x queued same

/-- Nobody but the callers, the owner of the farm and the traders is concerned. -/
def standsAside (who : AccountId) (event : State × Label) : Bool :=
  event.2.caller ≠ some who && event.2.sponsor ≠ some who && unqueued event.1 who &&
    match event.2 with
    | .market _ => false
    | .duster _ => false
    | .nft call => call.depositor event.1.nft ≠ some who
    | _ => true

theorem not_concerns {cfg : Config} {who : AccountId} {event : State × Label}
    (aside : standsAside who event = true) : ¬ Concerns cfg event.1 who event.2 := by
  obtain ⟨s, label⟩ := event
  simp only [standsAside, Bool.and_eq_true, decide_eq_true_eq] at aside
  obtain ⟨⟨⟨unsigned, unnamed⟩, unqueued⟩, other⟩ := aside
  intro concerned
  cases concerned with
  | signed caller => exact unsigned caller
  | trading waits => exact not_hasIntention unqueued waits
  | offered => cases other
  | backing backs => exact of_decide_eq_true other backs
  | sponsoring named => exact unnamed named
  | dusted => cases other
  | rewarding => cases other

/-- Signer 3 keeps what they have while others create a pool and a farm, deposit and trade. -/
theorem balances_kept_bystander :
    ∃ past t, simulate genesis (busyBlock.take 7) = .ok (past, t) ∧
      10 ^ 18 ≤ t.ledger.free (.signer 3) 1 := by
  have computed : succeedsWith (simulate genesis (busyBlock.take 7)) (fun reached => decide
      (∀ event ∈ reached.1, standsAside (.signer 3) event = true)) = true := by
    decide +kernel
  simp only [succeedsWith_iff, decide_eq_true_eq] at computed
  obtain ⟨⟨past, t⟩, run, aside⟩ := computed
  have kept := balances_kept_unless_concerned ⟨[], .start genesis_initial⟩ (run_of_simulate run)
    (fun event listed => not_concerns (aside event listed)) 1
  exact ⟨past, t, run, kept.1⟩

/-- The deposit of signer 1 is untouched by the exchange, the blocks and the pools that follow. -/
theorem token_kept_deposit :
    ∃ first second s t, simulate genesis (busyBlock.take 5) = .ok (first, s) ∧
      simulate s (busyBlock.drop 5) = .ok (second, t) ∧
      t.nft.owner (1, LiquidityMining.encodeNftId 2 1) = some (.signer 1) ∧
      t.mining.depositData.lookup (LiquidityMining.encodeNftId 2 1) =
        s.mining.depositData.lookup (LiquidityMining.encodeNftId 2 1) := by
  have computed : succeedsWith (do
      let deposited ← simulate genesis (busyBlock.take 5)
      let ended ← simulate deposited.2 (busyBlock.drop 5)
      return (deposited, ended)) (fun result => decide
        (result.1.2.nft.owner (1, LiquidityMining.encodeNftId 2 1) = some (.signer 1) ∧
          result.1.2.market.prices.lookup (1, LiquidityMining.encodeNftId 2 1) = none ∧
          ∀ event ∈ result.2.1, event.2.handles .reference ≠
            some (1, 1, LiquidityMining.encodeNftId 2 1))) = true := by
    decide +kernel
  simp only [succeedsWith_iff, bind_eq_ok, return_eq_ok, decide_eq_true_eq] at computed
  obtain ⟨_, ⟨⟨first, s⟩, deposited, ⟨second, t⟩, ended, rfl⟩, held, unlisted, aside⟩ := computed
  obtain ⟨held', -, same⟩ :=
    token_kept_unless_handled held unlisted (run_of_simulate ended) aside
  exact ⟨first, second, s, t, deposited, ended, held', same rfl⟩

end Reference

end Chain

end Basilisk
