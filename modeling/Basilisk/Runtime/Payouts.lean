/-
# Rewards booked and paid over XYK

In the runtime a liquidity pool can hold shares without value: XYK pools can be
emptied, and the shares of a deposit made then are valued at zero.  If rounding has
left the pool a stake, the farm goes on to book rewards for it as paid that never
leave its account.
-/

import Basilisk.LiquidityMining.Payouts
import Basilisk.Runtime.Custody

namespace Basilisk.Runtime

open Basilisk.Math

variable {cfg : Config} {s : State} {past : List (State × Label)}

/-- The steps of a run as the liquidity-mining pallet sees them; the run ends in `t`. -/
def seen (t : State) : List (State × Label) → List (LiquidityMining.State × LiquidityMining.Label)
  | [] => []
  | (s, label) :: past => (s.view, label.seen t) :: seen s past

/-- The liquidity-mining pallet in the runtime makes the steps it makes on its own. -/
theorem run_seen (run : Run (Initial cfg) (Step cfg) past s) :
    Run (LiquidityMining.Initial cfg.mining) (LiquidityMining.Step cfg.mining) (seen s past)
      s.view := by
  induction run with
  | start initial => exact .start initial.mining
  | extend prior taken ih =>
      have consistent := LiquidityMining.consistent_of_reachable ⟨_, ih⟩
      have before : ReachableUnder (Initial cfg) (Step cfg) (fun _ _ => True) _ :=
        ⟨_, prior, fun _ _ => trivial⟩
      exact ih.extend (step_seen consistent (poolsRegistered_of_reachable before) taken)

/-- The step is a call of liquidity mining that forfeits. -/
def Forfeits (cfg : Config) (farmId : ℕ) (event : State × Label) : Prop :=
  match event.2 with
  | .mining call => call.Forfeits cfg.mining event.1.view farmId
  | _ => False

instance (farmId : ℕ) : (event : State × Label) → Decidable (Forfeits cfg farmId event)
  | (s, .mining call) => inferInstanceAs (Decidable (call.Forfeits cfg.mining s.view farmId))
  | (_, .xyk _) => .isFalse id
  | (_, .blocks _) => .isFalse id

theorem forfeits_seen (farmId : ℕ) (t : State) :
    (∀ event ∈ seen t past, ¬ LiquidityMining.Forfeits cfg.mining farmId event) ↔
      ∀ event ∈ past, ¬ Forfeits cfg farmId event := by
  induction past generalizing t with
  | nil => simp [seen]
  | cons event past ih =>
      obtain ⟨s, label⟩ := event
      rw [seen, List.forall_mem_cons, List.forall_mem_cons, ih]
      cases label <;> rfl

/-- The rewards a farm has booked as paid are those it ever transferred to its pools exactly if
no call of the run brought a pool up to date that had something to collect but no valued
shares. -/
theorem payouts_booked_iff (run : Run (Initial cfg) (Step cfg) past s) {farmId : ℕ}
    {globalPool : LiquidityMining.GlobalPool}
    (farm : s.mining.globalPoolData.lookup farmId = some globalPool) :
    globalPool.paidAccumulatedRewards =
        LiquidityMining.everPaid cfg.mining farmId (seen s past) ↔
      ∀ event ∈ past, ¬ Forfeits cfg farmId event := by
  rw [((LiquidityMining.accounted_of_run (run_seen run)).farms _ _ farm).2, forfeits_seen]

/-- Run the reference chain from the listed pair and record the steps. -/
def simulateRecording (labels : List Label) : Except Error (List (State × Label) × State) :=
  (listedPair ++ labels).foldlM (recording (exec .reference) fun _ label => label) ([], genesis)

theorem run_of_simulate {labels : List Label}
    (computed : simulateRecording labels = .ok (past, s)) :
    Run (Initial .reference) (Step .reference) past s :=
  run_of_recording (fun _ _ _ executed => executed) (.start genesis_initial) computed

/-- A deposit of the pool's shares earns for a period and is paid. -/
theorem payouts_booked_claimed :
    ∃ past s globalPool, simulateRecording
        [.mining (.depositShares 1 1 ⟨1, 2⟩ 4000), .blocks 10,
          .mining (.claimRewards 1 (LiquidityMining.encodeNftId 2 1))] = .ok (past, s) ∧
      s.mining.globalPoolData.lookup 1 = some globalPool ∧
      globalPool.paidAccumulatedRewards ≠ 0 ∧
      globalPool.paidAccumulatedRewards =
        LiquidityMining.everPaid Config.reference.mining 1 (seen s past) := by
  have computed : succeedsWith (simulateRecording
      [.mining (.depositShares 1 1 ⟨1, 2⟩ 4000), .blocks 10,
        .mining (.claimRewards 1 (LiquidityMining.encodeNftId 2 1))])
      (fun (past, s) => (s.mining.globalPoolData.lookup 1).any
          (fun globalPool => decide (globalPool.paidAccumulatedRewards ≠ 0)) &&
        decide (∀ event ∈ past, ¬ Forfeits .reference 1 event)) = true := by
    decide +kernel
  simp only [succeedsWith_iff, Bool.and_eq_true, Option.any_eq_true, decide_eq_true_eq]
    at computed
  obtain ⟨⟨past, s⟩, run, ⟨globalPool, farm, paid⟩, kept⟩ := computed
  exact ⟨past, s, globalPool, run, farm, paid,
    (payouts_booked_iff (run_of_simulate run) farm).mpr kept⟩

/-- With a multiplier of `5 * 10 ^ -8` two deposits of `10 ^ 7` valued shares have no stake each
and a stake of one together.  Once they have left the stake is still there; all liquidity is taken
out of XYK, and the shares of the next deposit have no value.  After a period the farm books
the reward of the stake as paid, and transfers nothing. -/
theorem payouts_not_booked :
    ¬ ∀ (cfg : Config) (past : List (State × Label)) (s : State) (farmId : ℕ)
      (globalPool : LiquidityMining.GlobalPool),
      cfg.math.Lawful → cfg.xyk.math.Lawful → Run (Initial cfg) (Step cfg) past s →
      s.mining.globalPoolData.lookup farmId = some globalPool →
      globalPool.paidAccumulatedRewards =
        LiquidityMining.everPaid cfg.mining farmId (seen s past) := by
  intro claim
  have computed : succeedsWith (simulateRecording
      [.mining (.updateLiquidityPool 0 1 ⟨1, 2⟩ 50000000000),
        .mining (.depositShares 1 1 ⟨1, 2⟩ 1000), .mining (.depositShares 1 1 ⟨1, 2⟩ 1000),
        .mining (.updateLiquidityPool 0 1 ⟨1, 2⟩ 50000000000),
        .mining (.withdrawShares 1 (LiquidityMining.encodeNftId 2 1)),
        .mining (.withdrawShares 1 (LiquidityMining.encodeNftId 2 2)),
        .xyk (.removeLiquidity 1 1 2 10000), .mining (.depositShares 2 1 ⟨1, 2⟩ 1000),
        .blocks 10, .mining (.claimRewards 2 (LiquidityMining.encodeNftId 2 3))])
      (fun (past, s) => (s.mining.globalPoolData.lookup 1).any fun globalPool =>
        decide (globalPool.paidAccumulatedRewards = 1) && decide
          (LiquidityMining.everPaid Config.reference.mining 1 (seen s past) = 0)) = true := by
    decide +kernel
  simp only [succeedsWith_iff, Bool.and_eq_true, Option.any_eq_true, decide_eq_true_eq]
    at computed
  obtain ⟨⟨past, s⟩, run, globalPool, farm, booked, paid⟩ := computed
  have same := claim .reference past s 1 globalPool LiquidityMining.Math.reference_lawful
    Xyk.Math.reference_lawful (run_of_simulate run) farm
  rw [booked, paid] at same
  cases same

end Basilisk.Runtime
