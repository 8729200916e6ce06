/-
# Storage deposits in the runtime

The owner of a class pays for every token in it.  This module shows both sides of
that.  Deposits are safe: whatever the other pallets do with the reserves, the owner
of a token can burn it and the owner of the class gets the whole deposit back, and so
does the owner of an empty class who destroys it.  But minting is open to everybody,
so anybody can lock the free balance of the owner of a class away, and keep it locked
by keeping the tokens.
-/

import Basilisk.Runtime.Consent
import Basilisk.Runtime.Offers

namespace Basilisk.Chain

open Basilisk.Math

section Return

variable {cfg : Config} {s t : State} {who : AccountId} {amount : ℕ}

/-- An account has an amount of the native asset back from its reserve. -/
structure Returned (cfg : Config) (s t : State) (who : AccountId) (amount : ℕ) : Prop where
  free : t.ledger.free who cfg.market.nativeAssetId =
    s.ledger.free who cfg.market.nativeAssetId + amount
  reserved : t.ledger.reserved who cfg.market.nativeAssetId + amount =
    s.ledger.reserved who cfg.market.nativeAssetId

/-- What an account has deposited can be released in full. -/
theorem returned_of_unreserve (reserved : Reserved cfg s)
    (enough : amount ≤ s.nft.deposited cfg.uniques who)
    (released : t.ledger = s.ledger.unreserve cfg.uniques.currency who amount) :
    Returned cfg s t who amount := by
  have covered : amount ≤ s.ledger.reserved who cfg.market.nativeAssetId :=
    (enough.trans (Nat.le_add_left _ _)).trans (reserved.le who)
  obtain ⟨free, rest⟩ := Ledger.unreserve_covered covered
  rw [cfg.depositCurrency] at released
  refine ⟨?_, ?_⟩
  · rw [released]
    exact free
  · rw [released]
    exact rest

theorem step_of_nft {call : Nft.Call} {nft : Nft.State} {ledger : Currencies}
    (called : Nft.dispatch cfg.market.nft s.nft call = .ok nft)
    (settled : cfg.settleDeposit s.nft s.ledger call = some ledger) :
    Step cfg s (.nft call) { s with nft, exchange := s.exchange.setLedger ledger } := by
  simp only [Step, exec, bind_eq_ok, mapError_eq_ok, okOr_eq_ok, return_eq_ok]
  exact ⟨nft, called, ledger, settled, rfl⟩

/-- In every run of the runtime, whatever the marketplace and liquidity mining do to the tokens:
the registry and the storage of the NFT pallet agree on classes and tokens, every token is in a
class that exists, whoever pays deposits holds a key, and a marketplace class can be destroyed by
its owner if and only if it has no tokens. -/
theorem nft_books_agree (reachable : Reachable (Initial cfg) (Step cfg) s) :
    Nft.Books s.nft ∧ ∀ classId key, s.nft.backer classId = some (.signer key) →
      ((∃ t, Step cfg s (.nft (.destroyClass key classId)) t) ↔
        ∀ number, s.nft.owner (classId, number) = none) := by
  refine ⟨(sound_of_reachable reachable).books, fun classId key backs => ⟨?_, fun empty => ?_⟩⟩
  · rintro ⟨t, taken⟩ number
    cases taken_of_step taken with
    | nft called =>
        cases Nft.does_of_dispatch called with
        | destroyed _ destroyed =>
            obtain ⟨empty, -⟩ := Nft.doDestroyClass_ok destroyed
            exact Registry.unowned_of_instancesOf empty number
  · obtain ⟨nft, called⟩ := Nft.destroyClass_succeeds cfg.market.nft backs empty
    exact ⟨_, step_of_nft called (cfg.deposits.destroyClass _ _ backs)⟩

/-- The class of the token that is on offer cannot be destroyed. -/
theorem nft_books_agree_offered :
    ∃ past s, simulate genesis offeredToken = .ok (past, s) ∧ Nft.Books s.nft ∧
      ¬ ∃ t, Step .reference s (.nft (.destroyClass 1 1000000)) t := by
  have computed : succeedsWith (simulate genesis offeredToken) (fun reached => decide
      (reached.2.nft.backer 1000000 = some (.signer 1) ∧
        reached.2.nft.owner (1000000, 7) = some (.signer 1))) = true := by
    decide +kernel
  simp only [succeedsWith_iff, decide_eq_true_eq] at computed
  obtain ⟨⟨past, s⟩, run, backs, held⟩ := computed
  have reachable : Reachable (Initial .reference) (Step .reference) s :=
    ⟨_, (Run.start genesis_initial).append (run_of_simulate run)⟩
  obtain ⟨books, destroyable⟩ := nft_books_agree reachable
  refine ⟨past, s, run, books, fun destroyed => ?_⟩
  have empty := (destroyable 1000000 1 backs).mp destroyed 7
  exact absurd (empty.symm.trans held) nofun

/-- The owner of a token can burn it, and the owner of its class has the deposit back. -/
theorem burn_returns (sound : Sound cfg s) (reserved : Reserved cfg s) {token : Nft.Token}
    {key : ℕ} (isMarketplace : s.nft.IsMarketplace token.1)
    (held : s.nft.owner token = some (.signer key)) :
    ∃ owner t, s.nft.backer token.1 = some owner ∧ Step cfg s (.nft (.burn key token)) t ∧
      t.nft.owner token = none ∧ Returned cfg s t owner cfg.uniques.instanceDeposit := by
  obtain ⟨nft, called⟩ := Nft.burn_succeeds cfg.market.nft isMarketplace held
  obtain ⟨owner, owned⟩ := sound.books.housed _ _ held
  have backs := isMarketplace.backer.trans owned
  have settled := cfg.deposits.burn s.ledger key backs
  refine ⟨owner, _, backs, step_of_nft called settled, ?_, ?_⟩
  · have gone := (Nft.burn_ok called).2.2.1 token
    rwa [if_pos rfl] at gone
  · cases Nft.does_of_dispatch called with
    | burned _ burned =>
        have less : s.nft.deposited cfg.uniques owner = nft.deposited cfg.uniques owner + _ :=
          Nft.deposited_doBurn burned owner
        rw [if_pos owned, isMarketplace.tokenDeposit] at less
        exact returned_of_unreserve reserved (less ▸ Nat.le_add_left _ _) rfl

theorem destroyClass_returns (reserved : Reserved cfg s) {classId key : ℕ}
    (backs : s.nft.backer classId = some (.signer key))
    (empty : ∀ number, s.nft.owner (classId, number) = none) :
    ∃ t, Step cfg s (.nft (.destroyClass key classId)) t ∧ t.nft.classes.lookup classId = none ∧
      Returned cfg s t (.signer key) cfg.uniques.classDeposit := by
  obtain ⟨nft, called⟩ := Nft.destroyClass_succeeds cfg.market.nft backs empty
  have isMarketplace := (Nft.State.backer_eq_some_iff.mp backs).1
  have settled := cfg.deposits.destroyClass s.ledger key backs
  refine ⟨_, step_of_nft called settled, ?_, ?_⟩
  · have classes : nft.classes = s.nft.classes.erase classId := (Nft.destroyClass_ok called).2.2
    dsimp only
    rw [classes, AList.lookup_erase]
  · cases Nft.does_of_dispatch called with
    | destroyed _ destroyed =>
        have less : s.nft.deposited cfg.uniques (.signer key) =
            nft.deposited cfg.uniques (.signer key) + _ :=
          Nft.deposited_doDestroyClass destroyed (.signer key)
        rw [if_pos rfl, isMarketplace.classDeposit] at less
        exact returned_of_unreserve reserved (less ▸ Nat.le_add_left _ _) rfl

/-- In every run of the runtime in which the sums of direct trades fit a machine word, whatever
the exchange and the marketplace do with the same reserves: the owner of a token of a marketplace
class can burn it, and the owner of the class then has the whole deposit back; and the owner of a
class without tokens can destroy it and has the deposit of the class back. -/
theorem deposits_returned
    (reachable : ReachableUnder (Initial cfg) (Step cfg) (SumsFit cfg) s) :
    (∀ token key, s.nft.IsMarketplace token.1 → s.nft.owner token = some (.signer key) →
      ∃ owner t, s.nft.backer token.1 = some owner ∧ Step cfg s (.nft (.burn key token)) t ∧
        t.nft.owner token = none ∧ Returned cfg s t owner cfg.uniques.instanceDeposit) ∧
    ∀ classId key, s.nft.backer classId = some (.signer key) →
      (∀ number, s.nft.owner (classId, number) = none) →
      ∃ t, Step cfg s (.nft (.destroyClass key classId)) t ∧
        t.nft.classes.lookup classId = none ∧
        Returned cfg s t (.signer key) cfg.uniques.classDeposit := by
  obtain ⟨sound, reserved⟩ := reserved_of_reachable reachable
  constructor
  · intro token key isMarketplace held
    exact burn_returns sound reserved isMarketplace held
  · intro classId key backs empty
    exact destroyClass_returns reserved backs empty

/-- The token that was on offer is burned after the trades of the block. -/
theorem deposits_returned_offered :
    ∃ past s t, simulate genesis offeredToken = .ok (past, s) ∧
      Step .reference s (.nft (.burn 1 (1000000, 7))) t ∧
      Returned .reference s t (.signer 1) (100 * 10 ^ 12) := by
  have computed : succeedsWith (simulate genesis offeredToken) (fun reached =>
      everyVisit (fun visit => decide (visit.SumsFit Config.reference.exchange)) reached.1 && decide
        (reached.2.nft.classes.lookup 1000000 = some ⟨.marketplace, []⟩ ∧
          reached.2.nft.backer 1000000 = some (.signer 1) ∧
          reached.2.nft.owner (1000000, 7) = some (.signer 1))) = true := by
    decide +kernel
  simp only [succeedsWith_iff, Bool.and_eq_true, decide_eq_true_eq] at computed
  obtain ⟨⟨past, s⟩, run, fit, known, backs, held⟩ := computed
  have reachable := reachable_of_simulate run (guarded_of_sumsFit fit)
  obtain ⟨owner, t, backs', burned, -, returned⟩ :=
    (deposits_returned reachable).1 (1000000, 7) 1 ⟨_, known, rfl⟩ held
  obtain rfl := Option.some.inj (backs.symm.trans backs')
  exact ⟨past, s, t, run, burned, returned⟩

end Return

section Locking

variable {cfg : Config} {s t : State} {label : Label} {classId key number : ℕ}
variable {owner holder : AccountId} {numbers : List ℕ}

/-- Whoever mints, it is the owner of the class who pays. -/
theorem mint_charges (cfg : Config) (backs : s.nft.backer classId = some owner)
    (new : s.nft.owner (classId, number) = none)
    (enough : cfg.uniques.instanceDeposit ≤ s.ledger.free owner cfg.market.nativeAssetId)
    (key : ℕ) :
    ∃ t, Step cfg s (.nft (.mint key (classId, number) [])) t ∧ t.market = s.market ∧
      t.nft.backer classId = some owner ∧
      (∀ other, t.nft.owner other =
        if other = (classId, number) then some (.signer key) else s.nft.owner other) ∧
      t.ledger.free owner cfg.market.nativeAssetId + cfg.uniques.instanceDeposit =
        s.ledger.free owner cfg.market.nativeAssetId := by
  obtain ⟨nft, called⟩ := Nft.mint_succeeds cfg.market.nft backs new key []
  have settled : cfg.settleDeposit s.nft s.ledger (.mint key (classId, number) []) =
      some { s.ledger with
        free := Ledger.debit s.ledger.free owner cfg.market.nativeAssetId
          cfg.uniques.instanceDeposit
        reserved := Ledger.credit s.ledger.reserved owner cfg.market.nativeAssetId
          cfg.uniques.instanceDeposit } := by
    rw [cfg.deposits.mint s.ledger key backs, cfg.depositCurrency]
    exact Ledger.reserve_eq_some_iff.mpr ⟨enough, rfl⟩
  refine ⟨_, step_of_nft called settled, rfl, ?_, (Nft.mint_ok called).2.2.1, ?_⟩
  · cases Nft.does_of_dispatch called with
    | minted _ minted =>
        obtain ⟨-, -, rfl⟩ := Nft.doMint_ok minted
        exact backs
  · change Ledger.debit _ _ _ _ _ _ + _ = _
    rw [Ledger.debit_apply, if_pos ⟨rfl, rfl⟩]
    exact Nat.sub_add_cancel enough

/-- What a signer has who minted tokens in the class of another: the tokens, which are not for
sale, and the deposits of the owner of the class. -/
structure Hoarded (s : State) (classId key : ℕ) (owner : AccountId) (numbers : List ℕ) : Prop where
  backs : s.nft.backer classId = some owner
  held : ∀ number ∈ numbers, s.nft.owner (classId, number) = some (.signer key)
  unlisted : ∀ number ∈ numbers, s.market.prices.lookup (classId, number) = none

/-- Somebody mints as many tokens as the owner of the class can pay for. -/
theorem mint_run {before : List ℕ} (hoarded : Hoarded s classId key owner before)
    (distinct : numbers.Nodup)
    (new : ∀ number ∈ numbers, s.nft.owner (classId, number) = none)
    (unlisted : ∀ number ∈ numbers, s.market.prices.lookup (classId, number) = none)
    (enough : numbers.length * cfg.uniques.instanceDeposit ≤
      s.ledger.free owner cfg.market.nativeAssetId) :
    ∃ past t, Run (· = s) (Step cfg) past t ∧
      (∀ event ∈ past, ∃ number, event.2 = .nft (.mint key (classId, number) [])) ∧
      Hoarded t classId key owner (before ++ numbers) ∧
      t.ledger.free owner cfg.market.nativeAssetId +
          numbers.length * cfg.uniques.instanceDeposit =
        s.ledger.free owner cfg.market.nativeAssetId := by
  induction numbers generalizing s before with
  | nil =>
      refine ⟨[], s, .start rfl, fun _ listed => absurd listed List.not_mem_nil, ?_, ?_⟩
      · rw [List.append_nil]
        exact hoarded
      · rw [List.length_nil, Nat.zero_mul, Nat.add_zero]
  | cons number numbers ih =>
      obtain ⟨fresh, distinct⟩ := List.nodup_cons.mp distinct
      obtain ⟨newHere, newOthers⟩ := List.forall_mem_cons.mp new
      rw [List.length_cons, Nat.add_mul, Nat.one_mul] at enough ⊢
      obtain ⟨u, taken, market, backs, owners, paid⟩ := mint_charges cfg hoarded.backs newHere
        ((Nat.le_add_left _ _).trans enough) key
      -- the tokens minted so far stay where they are
      have kept {other : ℕ} (distinct : other ≠ number) :
          u.nft.owner (classId, other) = s.nft.owner (classId, other) := by
        rw [owners, if_neg fun same => distinct (Prod.mk.inj same).2]
      have hoarded' : Hoarded u classId key owner (before ++ [number]) := by
        refine ⟨backs, fun other listed => ?_, fun other listed => ?_⟩
        · by_cases here : other = number
          · rw [here, owners, if_pos rfl]
          · rw [kept here]
            simp only [List.mem_append, List.mem_singleton, here, or_false] at listed
            exact hoarded.held other listed
        · rw [market]
          rcases List.mem_append.mp listed with earlier | now
          · exact hoarded.unlisted other earlier
          · obtain rfl := List.mem_singleton.mp now
            exact unlisted other List.mem_cons_self
      have newThen : ∀ other ∈ numbers, u.nft.owner (classId, other) = none := by
        intro other listed
        rw [kept (ne_of_mem_of_not_mem listed fresh)]
        exact newOthers other listed
      have unlistedThen : ∀ other ∈ numbers, u.market.prices.lookup (classId, other) = none := by
        intro other listed
        rw [market]
        exact unlisted other (List.mem_cons_of_mem _ listed)
      obtain ⟨past, t, run, mints, hoarded'', paid'⟩ := ih hoarded' distinct newThen unlistedThen
        (by omega)
      refine ⟨past ++ [(s, _)], t, run.prepend taken, ?_, ?_, ?_⟩
      · intro event listed
        rcases List.mem_append.mp listed with later | first
        · exact mints event later
        · obtain rfl := List.mem_singleton.mp first
          exact ⟨number, rfl⟩
      · rwa [List.append_assoc] at hoarded''
      · omega

/-- As long as it has tokens, a class stays with its owner. -/
theorem backer_of_step (sound : Sound cfg s) (taken : Step cfg s label t)
    (backs : s.nft.backer classId = some owner)
    (minted : s.nft.owner (classId, number) = some holder) :
    t.nft.backer classId = some owner := by
  have taken := taken_of_step taken
  cases label with
  | nft call =>
      cases taken with
      | nft called => exact Nft.backer_kept called backs minted
  | _ =>
      have handled := taken.handled sound nofun
      exact Nft.backer_of_handled backs handled

/-- The hoard is kept by whatever is not a call of its owner about one of the tokens. -/
theorem Hoarded.step (hoarded : Hoarded s classId key owner numbers) (nonempty : numbers ≠ [])
    (sound : Sound cfg s) (taken : Step cfg s label t)
    (aside : ∀ number ∈ numbers, label.handles cfg ≠ some (key, classId, number)) :
    Hoarded t classId key owner numbers := by
  have keeps (number : ℕ) (listed : number ∈ numbers) :
      Keeps cfg t key (classId, number) (s.mining.depositData.lookup number) := by
    have before : Keeps cfg s key (classId, number) (s.mining.depositData.lookup number) :=
      ⟨hoarded.held number listed, hoarded.unlisted number listed, fun _ => rfl⟩
    exact before.step taken (aside number listed)
  obtain ⟨first, listed⟩ := List.exists_mem_of_ne_nil numbers nonempty
  refine ⟨backer_of_step sound taken hoarded.backs (hoarded.held first listed), ?_, ?_⟩
  · exact fun number listed => (keeps number listed).held
  · exact fun number listed => (keeps number listed).unlisted

/-- The deposits for hoarded tokens are reserved. -/
theorem Hoarded.reserved_le (hoarded : Hoarded s classId key owner numbers)
    (distinct : numbers.Nodup) (reserved : Reserved cfg s) :
    numbers.length * cfg.uniques.instanceDeposit ≤
      s.ledger.reserved owner cfg.market.nativeAssetId := by
  obtain ⟨isMarketplace, owned⟩ := Nft.State.backer_eq_some_iff.mp hoarded.backs
  have tokens : (numbers.map (Prod.mk classId)).length * cfg.uniques.instanceDeposit ≤
      s.nft.uniques.owner.total (s.nft.forToken cfg.uniques owner) := by
    refine AList.length_mul_le_total _ (distinct.map (Prod.mk_right_injective classId)) ?_
    intro token listed
    obtain ⟨number, member, rfl⟩ := List.mem_map.mp listed
    refine ⟨_, hoarded.held number member, ?_⟩
    rw [Nft.State.forToken, if_pos owned, isMarketplace.tokenDeposit]
  rw [List.length_map] at tokens
  calc numbers.length * cfg.uniques.instanceDeposit
      ≤ s.nft.deposited cfg.uniques owner := tokens.trans (Nat.le_add_left _ _)
    _ ≤ s.market.named owner + s.nft.deposited cfg.uniques owner := Nat.le_add_left _ _
    _ ≤ s.ledger.reserved owner cfg.market.nativeAssetId := reserved.le owner

/-- From any state of a run in which the sums of direct trades fit a machine word, anybody can
mint new tokens in the marketplace class of another, as many as the owner of the class has free
balance to pay the deposits for.  Whatever everybody does afterwards, the owner of the class
included, that much stays reserved until whoever minted the tokens lists, sells, transfers or
burns one of them. -/
theorem balance_locked_by_minting
    (reachable : ReachableUnder (Initial cfg) (Step cfg) (SumsFit cfg) s)
    (backs : s.nft.backer classId = some owner) (distinct : numbers.Nodup)
    (new : ∀ number ∈ numbers, s.nft.owner (classId, number) = none)
    (unlisted : ∀ number ∈ numbers, s.market.prices.lookup (classId, number) = none)
    (enough : numbers.length * cfg.uniques.instanceDeposit ≤
      s.ledger.free owner cfg.market.nativeAssetId) (key : ℕ) :
    ∃ past t, Run (· = s) (Step cfg) past t ∧
      (∀ event ∈ past, ∃ number, event.2 = .nft (.mint key (classId, number) [])) ∧
      t.ledger.free owner cfg.market.nativeAssetId +
          numbers.length * cfg.uniques.instanceDeposit =
        s.ledger.free owner cfg.market.nativeAssetId ∧
      ∀ later u, Run (· = t) (Step cfg) later u → Guarded (SumsFit cfg) later →
        (∀ event ∈ later, ∀ number ∈ numbers,
          event.2.handles cfg ≠ some (key, classId, number)) →
        numbers.length * cfg.uniques.instanceDeposit ≤
          u.ledger.reserved owner cfg.market.nativeAssetId := by
  have start : Hoarded s classId key owner [] :=
    ⟨backs, fun _ listed => absurd listed List.not_mem_nil,
      fun _ listed => absurd listed List.not_mem_nil⟩
  obtain ⟨past, t, run, mints, hoarded, paid⟩ := mint_run start distinct new unlisted enough
  refine ⟨past, t, run, mints, paid, fun later u onwards fit aside => ?_⟩
  by_cases nonempty : numbers = []
  · rw [nonempty, List.length_nil, Nat.zero_mul]
    exact Nat.zero_le _
  -- the mints are part of a run like any other
  have reached : ReachableUnder (Initial cfg) (Step cfg) (SumsFit cfg) t := by
    refine reachable.append run ?_
    intro event listed order relayBlocks finalizes
    obtain ⟨number, minting⟩ := mints event listed
    rw [minting] at finalizes
    cases finalizes
  suffices kept : (Sound cfg u ∧ Reserved cfg u) ∧ Hoarded u classId key owner numbers from
    kept.2.reserved_le distinct kept.1.2
  induction onwards with
  | start isStart =>
      obtain rfl := isStart
      exact ⟨reserved_of_reachable reached, hoarded⟩
  | extend _ taken ih =>
      rw [guarded_cons] at fit
      obtain ⟨⟨sound, reserved⟩, hoarded⟩ := ih fit.2 fun event listed =>
        aside event (List.mem_cons_of_mem _ listed)
      refine ⟨⟨sound.step taken, reserved.step sound fit.1 taken⟩, ?_⟩
      exact hoarded.step nonempty sound taken (aside _ List.mem_cons_self)

/-- Signer 2 mints three tokens in the class of signer 1, who pays for them. -/
theorem balance_locked_by_minting_three :
    ∃ past s more t, simulate genesis [.nft (.createClass 1 1000000 .marketplace [])] =
        .ok (past, s) ∧ Run (· = s) (Step .reference) more t ∧
      (∀ event ∈ more, ∃ number, event.2 = .nft (.mint 2 (1000000, number) [])) ∧
      t.ledger.free (.signer 1) 0 + 3 * (100 * 10 ^ 12) = s.ledger.free (.signer 1) 0 ∧
      3 * (100 * 10 ^ 12) ≤ t.ledger.reserved (.signer 1) 0 := by
  have computed : succeedsWith (simulate genesis [.nft (.createClass 1 1000000 .marketplace [])])
      (fun reached =>
        everyVisit (fun visit => decide (visit.SumsFit Config.reference.exchange)) reached.1 &&
        decide (reached.2.nft.backer 1000000 = some (.signer 1) ∧
          (∀ number ∈ [1, 2, 3], reached.2.nft.owner (1000000, number) = none) ∧
          (∀ number ∈ [1, 2, 3], reached.2.market.prices.lookup (1000000, number) = none) ∧
          3 * (100 * 10 ^ 12) ≤ reached.2.ledger.free (.signer 1) 0)) = true := by
    decide +kernel
  simp only [succeedsWith_iff, Bool.and_eq_true, decide_eq_true_eq] at computed
  obtain ⟨⟨past, s⟩, run, fit, backs, new, unlisted, enough⟩ := computed
  have reachable := reachable_of_simulate run (guarded_of_sumsFit fit)
  obtain ⟨more, t, mints, minting, paid, locked⟩ :=
    balance_locked_by_minting reachable backs (by decide) new unlisted enough 2
  refine ⟨past, s, more, t, run, mints, minting, paid, ?_⟩
  exact locked [] t (.start rfl) guarded_nil fun _ listed => absurd listed List.not_mem_nil

end Locking

end Basilisk.Chain
