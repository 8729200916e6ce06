/-
# The terms of a sale

From the block in which a sale starts its terms are fixed: nobody changes the data
of the pool, until the sale has ended nobody destroys it, and then only its owner
does; after the end nobody trades.  The reserves of a running pool are touched by
trades and added liquidity only, unless a pool is created on behalf of the account of
the running one, which then pays for it.
-/

import Basilisk.Lbp.Reference

namespace Basilisk.Lbp

open Basilisk.Math
open Basilisk.Xyk (AMMTransfer)

variable {cfg : Config} {s t u v w : State} {call : Call} {label : Label} {pool : Pool}
variable {poolId : AccountId} {start endBlock : ℕ} {past : List (State × Label)}

section Blocks

/-- Calls take no time. -/
theorem Effect.blockNumber_eq (effect : Effect cfg s call t) : t.blockNumber = s.blockNumber := by
  cases effect with
  | created => rfl
  | updated => rfl
  | funded => rfl
  | removed => rfl
  | traded => rfl

theorem blockNumber_le_of_step (taken : Step cfg s label t) : s.blockNumber ≤ t.blockNumber := by
  cases label with
  | call call => exact (effect_of_dispatch taken).blockNumber_eq.ge
  | external blockNumber ledger =>
      rcases taken with ⟨later, rfl⟩
      exact later

/-- A sale that has started is running until its last block. -/
theorem isPoolRunning_iff_le (begins : pool.start = some start)
    (ends : pool.endBlock = some endBlock) (started : start ≤ s.blockNumber) :
    s.isPoolRunning pool = true ↔ s.blockNumber ≤ endBlock := by
  simp only [isPoolRunning_iff, begins, ends, Option.mem_some_iff, exists_eq_left', started,
    true_and]

theorem hasPoolStarted_eq_true (begins : pool.start = some start)
    (started : start ≤ s.blockNumber) : s.hasPoolStarted pool = true :=
  hasPoolStarted_iff.mpr ⟨start, begins, started⟩

end Blocks

section Addresses

/-- Every pool is stored under the account of its pair. -/
theorem address_of_reachable (reachable : Reachable Initial (Step cfg) s) :
    ∀ poolId pool, s.poolData.lookup poolId = some pool →
      poolId = pairAccountFromAssets pool.assets.1 pool.assets.2 := by
  refine pools_of_reachable
    (fun poolId pool => poolId = pairAccountFromAssets pool.assets.1 pool.assets.2) ?_ ?_ reachable
  · intro new now _ _
    rfl
  · intro poolId pool update now address _
    exact address

/-- Nobody signs for the account of a pool. -/
theorem poolId_ne_signer (reachable : Reachable Initial (Step cfg) s)
    (stored : s.poolData.lookup poolId = some pool) (key : ℕ) : poolId ≠ .signer key := by
  rw [address_of_reachable reachable poolId pool stored]
  intro same
  cases same

end Addresses

section Data

/-- The owner removes the pool after the end of its sale. -/
def RemovedByOwner (poolId : AccountId) (pool : Pool) (endBlock : ℕ)
    (past : List (State × Label)) : Prop :=
  ∃ event ∈ past, ∃ who, event.2 = .call (.removeLiquidity who poolId) ∧
    .signer who = pool.owner ∧ endBlock < event.1.blockNumber

/-- Once its sale has started, a pool is kept as it is or removed by its owner. -/
theorem Effect.keeps_started (effect : Effect cfg s call t)
    (stored : s.poolData.lookup poolId = some pool) (started : s.hasPoolStarted pool = true) :
    t.poolData.lookup poolId = some pool ∨
      ∃ who, call = .removeLiquidity who poolId ∧ .signer who = pool.owner ∧
        s.isPoolRunning pool = false := by
  cases effect with
  | @created new _ _ _ fresh =>
      have elsewhere : poolId ≠ new.poolId := AList.ne_of_lookup fresh stored
      exact .inl ((AList.lookup_insert_ne elsewhere).trans stored)
  | @updated _ other _ _ _ _ stored' _ pending =>
      have elsewhere : poolId ≠ other := by
        rintro rfl
        obtain rfl := Option.some.inj (stored.symm.trans stored')
        rw [started] at pending
        cases pending
      exact .inl ((AList.lookup_insert_ne elsewhere).trans stored)
  | funded => exact .inl stored
  | @removed who other _ _ _ _ stored' owned idle =>
      by_cases here : poolId = other
      · subst here
        obtain rfl := Option.some.inj (stored.symm.trans stored')
        exact .inr ⟨who, rfl, owned, idle⟩
      · exact .inl ((AList.lookup_erase_ne here).trans stored)
  | traded => exact .inl stored

/-- Nobody updates a pool whose sale has started. -/
theorem not_update_of_started (stored : s.poolData.lookup poolId = some pool)
    (started : s.hasPoolStarted pool = true) (who : ℕ) (update : PoolUpdate) (t : State) :
    dispatch cfg s (.updatePoolData who poolId update) ≠ .ok t := by
  intro called
  cases effect_of_dispatch called with
  | updated stored' _ pending =>
      obtain rfl := Option.some.inj (stored.symm.trans stored')
      rw [started] at pending
      cases pending
  | traded asked => cases asked

/-- Nobody removes a pool whose sale is running. -/
theorem not_remove_of_running (stored : s.poolData.lookup poolId = some pool)
    (running : s.isPoolRunning pool = true) (who : ℕ) (t : State) :
    dispatch cfg s (.removeLiquidity who poolId) ≠ .ok t := by
  intro called
  cases effect_of_dispatch called with
  | removed stored' _ idle =>
      obtain rfl := Option.some.inj (stored.symm.trans stored')
      rw [running] at idle
      cases idle
  | traded asked => cases asked

/-- How a run treats a sale that has started: its data is there, or its owner removed it after
the end. -/
structure Kept (poolId : AccountId) (pool : Pool) (start endBlock : ℕ)
    (past : List (State × Label)) (v : State) : Prop where
  started : start ≤ v.blockNumber
  data : v.poolData.lookup poolId = some pool ∨
    endBlock < v.blockNumber ∧ RemovedByOwner poolId pool endBlock past

theorem Kept.step (begins : pool.start = some start) (ends : pool.endBlock = some endBlock)
    (kept : Kept poolId pool start endBlock past s) (taken : Step cfg s label t) :
    Kept poolId pool start endBlock ((s, label) :: past) t := by
  have later := blockNumber_le_of_step taken
  refine ⟨kept.started.trans later, ?_⟩
  rcases kept.data with stored | ⟨ended, event, member, removal⟩
  · cases label with
    | call call =>
        have effect := effect_of_dispatch taken
        rcases effect.keeps_started stored (hasPoolStarted_eq_true begins kept.started) with
          stored' | ⟨who, rfl, owned, idle⟩
        · exact .inl stored'
        · have ended : endBlock < s.blockNumber := by
            rw [← not_le, ← isPoolRunning_iff_le begins ends kept.started, idle]
            simp
          exact .inr ⟨ended.trans_le later, _, List.mem_cons_self, who, rfl, owned, ended⟩
    | external blockNumber ledger =>
        rcases taken with ⟨-, rfl⟩
        exact .inl stored
  · exact .inr ⟨ended.trans_le later, event, List.mem_cons_of_mem _ member, removal⟩

theorem kept_of_run (stored : u.poolData.lookup poolId = some pool)
    (begins : pool.start = some start) (ends : pool.endBlock = some endBlock)
    (started : start ≤ u.blockNumber) (run : Run (· = u) (Step cfg) past v) :
    Kept poolId pool start endBlock past v := by
  induction run with
  | start here =>
      subst here
      exact ⟨started, .inl stored⟩
  | extend _ taken ih => exact ih.step begins ends taken

end Data

section Reserves

/-- The calls that are meant to change the reserves of a pool. -/
def Call.trades : Call → Bool
  | .sell .. => true
  | .buy .. => true
  | .addLiquidity .. => true
  | _ => false

/-- The call creates a pool on behalf of the account of another, out of the reserves of that
one. -/
def Call.Drains (poolId : AccountId) (pool : Pool) : Call → Prop
  | .createPool new => new.poolOwner = poolId ∧
      (new.assetAAmount ≠ 0 ∧ (new.assetA = pool.assets.1 ∨ new.assetA = pool.assets.2) ∨
        new.assetBAmount ≠ 0 ∧ (new.assetB = pool.assets.1 ∨ new.assetB = pool.assets.2))
  | _ => False

/-- The two reserves of a pool are the same in both states. -/
def SameReserves (poolId : AccountId) (pool : Pool) (s t : State) : Prop :=
  ∀ asset, asset = pool.assets.1 ∨ asset = pool.assets.2 →
    t.ledger.free poolId asset = s.ledger.free poolId asset

/-- A pool paid for by an account takes the two amounts from it. -/
theorem free_paid {new : NewPool} {ledger mid ledger' : Currencies} (asset : AssetId)
    (paidA : ledger.transfer new.assetA new.poolOwner new.poolId new.assetAAmount = some mid)
    (paidB : mid.transfer new.assetB new.poolOwner new.poolId new.assetBAmount = some ledger')
    (apart : new.poolOwner ≠ new.poolId) :
    ledger'.free new.poolOwner asset + (if asset = new.assetA then new.assetAAmount else 0) +
        (if asset = new.assetB then new.assetBAmount else 0) =
      ledger.free new.poolOwner asset := by
  have first := Ledger.free_spent paidA apart asset
  have second := Ledger.free_spent paidB apart asset
  omega

/-- The creation of another pool leaves the reserves alone unless it drains them. -/
theorem sameReserves_created {new : NewPool} {mid ledger : Currencies}
    (elsewhere : poolId ≠ new.poolId)
    (paidA : s.ledger.transfer new.assetA new.poolOwner new.poolId new.assetAAmount = some mid)
    (paidB : mid.transfer new.assetB new.poolOwner new.poolId new.assetBAmount = some ledger)
    (written : t.ledger = ledger) :
    SameReserves poolId pool s t ↔ ¬ (Call.createPool new).Drains poolId pool := by
  subst written
  by_cases here : new.poolOwner = poolId
  · subst here
    have spent := fun asset => free_paid asset paidA paidB elsewhere
    constructor
    · rintro same ⟨-, ⟨some, kind⟩ | ⟨some, kind⟩⟩
      · have kept := same new.assetA kind
        have taken := spent new.assetA
        rw [if_pos rfl] at taken
        omega
      · have kept := same new.assetB kind
        have taken := spent new.assetB
        rw [if_pos rfl] at taken
        omega
    · intro spared asset kind
      have taken := spent asset
      split_ifs at taken with isA isB isB
      all_goals subst_vars
      all_goals by_contra changed
      all_goals refine spared ⟨rfl, ?_⟩
      · by_cases none : new.assetAAmount = 0
        · exact .inr ⟨by omega, by rw [← isB]; exact kind⟩
        · exact .inl ⟨none, kind⟩
      · exact .inl ⟨by omega, kind⟩
      · exact .inr ⟨by omega, kind⟩
      · omega
  · refine iff_of_true ?_ fun drains => here drains.1
    intro asset _
    rw [Ledger.free_transfer_of_ne paidB (Ne.symm here) elsewhere,
      Ledger.free_transfer_of_ne paidA (Ne.symm here) elsewhere]

/-- What a call other than a trade does to the reserves of a running pool. -/
theorem Effect.sameReserves_iff (effect : Effect cfg s call t)
    (unsigned : ∀ key, poolId ≠ .signer key)
    (stored : s.poolData.lookup poolId = some pool) (running : s.isPoolRunning pool = true)
    (other : call.trades = false) :
    SameReserves poolId pool s t ↔ ¬ call.Drains poolId pool := by
  cases effect with
  | @created new mid ledger _ fresh _ _ _ paidA paidB =>
      have elsewhere : poolId ≠ new.poolId := AList.ne_of_lookup fresh stored
      exact sameReserves_created elsewhere paidA paidB rfl
  | updated => exact iff_of_true (fun _ _ => rfl) id
  | funded => cases other
  | @removed who removedId _ _ _ _ stored' _ idle paidA paidB =>
      have elsewhere : poolId ≠ removedId := by
        rintro rfl
        obtain rfl := Option.some.inj (stored.symm.trans stored')
        rw [running] at idle
        cases idle
      refine iff_of_true ?_ id
      intro asset _
      show _ = s.ledger.free poolId asset
      rw [← Ledger.free_transfer_of_ne paidA elsewhere (unsigned who) asset]
      exact Ledger.free_transfer_of_ne paidB elsewhere (unsigned who) asset
  | traded asked =>
      cases call with
      | sell => cases other
      | buy => cases other
      | _ => cases asked

end Reserves

section Trading

/-- Nobody trades with a pool whose sale is not running. -/
theorem trade_of_not_running (stored : s.poolData.lookup poolId = some pool)
    (idle : s.isPoolRunning pool = false) (who : ℕ) (assetIn assetOut : AssetId)
    (here : getPairId ⟨assetIn, assetOut⟩ = poolId) (amount limit : ℕ) :
    dispatch cfg s (.sell who assetIn assetOut amount limit) ≠ .ok t ∧
      dispatch cfg s (.buy who assetOut assetIn amount limit) ≠ .ok t := by
  have refused : ∀ {found : Pool} {transfer : AMMTransfer}, transfer.assets = ⟨assetIn, assetOut⟩ →
      ¬ Validated cfg s found transfer := by
    intro found transfer same validated
    have lookup := validated.stored
    rw [same, here, stored, Option.some.injEq] at lookup
    subst lookup
    have running := validated.running
    rw [idle] at running
    cases running
  constructor
  · intro called
    simp only [dispatch, sell, bind_eq_ok] at called
    obtain ⟨transfer, accepted, -⟩ := called
    obtain ⟨found, validated, -, same⟩ := validated_of_validateSell accepted
    exact refused same validated
  · intro called
    simp only [dispatch, buy, bind_eq_ok] at called
    obtain ⟨transfer, accepted, -⟩ := called
    obtain ⟨found, validated, -, same⟩ := validated_of_validateBuy accepted
    exact refused same validated

end Trading

section Terms

/-- What holds in a state of a sale that has started, up to its last block. -/
structure Frozen (cfg : Config) (poolId : AccountId) (pool : Pool) (v : State) : Prop where
  data : v.poolData.lookup poolId = some pool
  fixed : ∀ who update w, dispatch cfg v (.updatePoolData who poolId update) ≠ .ok w
  indestructible : ∀ who w, dispatch cfg v (.removeLiquidity who poolId) ≠ .ok w
  reserves : ∀ call w, dispatch cfg v call = .ok w → call.trades = false →
    (SameReserves poolId pool v w ↔ ¬ call.Drains poolId pool)

/-- What holds after the last block of a sale. -/
structure Closed (cfg : Config) (poolId : AccountId) (pool : Pool) (endBlock : ℕ)
    (past : List (State × Label)) (v : State) : Prop where
  data : v.poolData.lookup poolId = some pool ∨ RemovedByOwner poolId pool endBlock past
  unopened : v.poolData.lookup poolId = some pool →
    ∀ who update w, dispatch cfg v (.updatePoolData who poolId update) ≠ .ok w
  untraded : v.poolData.lookup poolId = some pool →
    ∀ who assetIn assetOut amount limit w, getPairId ⟨assetIn, assetOut⟩ = poolId →
      dispatch cfg v (.sell who assetIn assetOut amount limit) ≠ .ok w ∧
        dispatch cfg v (.buy who assetOut assetIn amount limit) ≠ .ok w

/-- From the block a sale starts in its terms are frozen, and from its end on it is closed. -/
theorem terms_frozen (reachable : Reachable Initial (Step cfg) u)
    (stored : u.poolData.lookup poolId = some pool) (begins : pool.start = some start)
    (ends : pool.endBlock = some endBlock) (started : start ≤ u.blockNumber)
    (run : Run (· = u) (Step cfg) past v) :
    (v.blockNumber ≤ endBlock → Frozen cfg poolId pool v) ∧
      (endBlock < v.blockNumber → Closed cfg poolId pool endBlock past v) := by
  have kept := kept_of_run stored begins ends started run
  have unsigned := poolId_ne_signer reachable stored
  have running := isPoolRunning_iff_le begins ends kept.started
  have hasStarted := hasPoolStarted_eq_true begins kept.started
  constructor
  · intro during
    have data : v.poolData.lookup poolId = some pool := by
      rcases kept.data with data | ⟨ended, -⟩
      · exact data
      · omega
    refine ⟨data, not_update_of_started data hasStarted,
      not_remove_of_running data (running.mpr during), ?_⟩
    · intro call w called other
      exact (effect_of_dispatch called).sameReserves_iff unsigned data (running.mpr during) other
  · intro ended
    refine ⟨kept.data.imp_right And.right, fun data => not_update_of_started data hasStarted, ?_⟩
    intro data who assetIn assetOut amount limit w here
    have idle : v.isPoolRunning pool = false := by
      rw [Bool.eq_false_iff, ne_eq, running]
      omega
    exact trade_of_not_running data idle who assetIn assetOut here amount limit

/-- Signer 1 buys into the sale, and five blocks later its terms still stand. -/
theorem terms_frozen_traded :
    ∃ u past v pool, simulate openSale = .ok u ∧
      simulateFrom u [.call (.sell 1 2 1 (10 ^ 7) 0), .blocks 5] = .ok (past, v) ∧
      u.poolData.lookup (getPairId ⟨1, 2⟩) = some pool ∧ v.blockNumber = 26 ∧
      Frozen .reference (getPairId ⟨1, 2⟩) pool v := by
  have computed : succeedsWith (simulate openSale) (fun u =>
      decide (u.blockNumber = 21) &&
      (u.poolData.lookup (getPairId ⟨1, 2⟩)).any (fun pool =>
        decide (pool.start = some 20) && decide (pool.endBlock = some 30)) &&
      succeedsWith (simulateFrom u [.call (.sell 1 2 1 (10 ^ 7) 0), .blocks 5])
        (fun reached => decide (reached.2.blockNumber = 26))) = true := by
    decide +kernel
  simp only [succeedsWith_iff, Bool.and_eq_true, Option.any_eq_true, decide_eq_true_eq]
    at computed
  obtain ⟨u, run, ⟨started, pool, stored, begins, ends⟩, ⟨past, v⟩, traded, now⟩ := computed
  have frozen := (terms_frozen (reachable_of_simulate run) stored begins ends (by omega)
    (run_of_simulateFrom rfl traded)).1
  have during : v.blockNumber ≤ 30 := by
    rw [now]
    decide
  exact ⟨u, past, v, pool, run, traded, stored, now, frozen during⟩

/-- The account of the pair of asset 1 and asset 2 holds some of asset 3.  While its sale runs, a
pool of asset 1 and asset 3 is created on its behalf, and 5000 of the reserve of asset 1 are
gone. -/
theorem terms_not_frozen :
    ¬ ∀ (cfg : Config) (s t : State) (poolId : AccountId) (pool : Pool) (call : Call),
      Reachable Initial (Step cfg) s → s.poolData.lookup poolId = some pool →
      s.isPoolRunning pool = true → dispatch cfg s call = .ok t → call.trades = false →
      SameReserves poolId pool s t := by
  intro claim
  have computed : succeedsWith (simulate openSale) (fun s =>
      (s.poolData.lookup (getPairId ⟨1, 2⟩)).any (fun pool =>
        decide (s.isPoolRunning pool = true) && decide (pool.assets.1 = 1)) &&
      decide (s.ledger.free (getPairId ⟨1, 2⟩) 1 = 10 ^ 9) &&
      succeedsWith (dispatch .reference s (.createPool { bootstrapping with
          poolOwner := getPairId ⟨1, 2⟩
          assetAAmount := 5000
          assetB := 3
          assetBAmount := 5000
          feeCollector := .signer 6 }))
        (fun t => decide (t.ledger.free (getPairId ⟨1, 2⟩) 1 = 10 ^ 9 - 5000))) = true := by
    decide +kernel
  simp only [succeedsWith_iff, Bool.and_eq_true, Option.any_eq_true, decide_eq_true_eq]
    at computed
  obtain ⟨s, run, ⟨⟨pool, stored, running, kind⟩, before⟩, t, called, after⟩ := computed
  have same := claim .reference s t _ pool _ (reachable_of_simulate run) stored running called rfl
    1 (.inl kind.symm)
  rw [before, after] at same
  cases same

end Terms

end Basilisk.Lbp
