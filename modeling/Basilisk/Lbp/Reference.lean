/-
# Formulas and a reference chain

The formulas of `hydra_dx_math::lbp` are a parameter of the development; what is
assumed of them is the line that the weights follow.  The reference formulas quote
some trades of the pallet's tests `buy_should_work`, `sell_should_work` and
`validate_trade_should_work` as these expect it of the crate, which computes powers in
fixed-point numbers; any other trade is priced only where the exponent, the ratio of
the two weights, is a whole number.

The second half is a small chain to run the pallet on, with the pools of these tests.
-/

import Basilisk.Lbp.Effects
import Basilisk.Math.Interpolation

namespace Basilisk.Lbp

open Basilisk.Math

/-- The weights follow the line from the initial to the final weight, rounded down, and there
are none outside the sale. -/
structure Math.InterpolatesWeights (math : Math) : Prop where
  inside {start endBlock initialWeight finalWeight now : ℕ} :
    start < endBlock → start ≤ now → now ≤ endBlock →
      math.calculateLinearWeights start endBlock initialWeight finalWeight now =
        some (interpolate start endBlock initialWeight finalWeight now)
  outside {start endBlock initialWeight finalWeight now : ℕ} :
    now < start ∨ endBlock < now →
      math.calculateLinearWeights start endBlock initialWeight finalWeight now = none

/-- Reference formulas: the tested quotes, and otherwise the weighted product of the reserves
is kept, rounded in favour of the pool. -/
def Math.reference : Math where
  calculateLinearWeights start endBlock initialWeight finalWeight now :=
    if start < endBlock ∧ start ≤ now ∧ now ≤ endBlock then
      some (interpolate start endBlock initialWeight finalWeight now)
    else none
  calculateSpotPrice inReserve outReserve inWeight outWeight amount :=
    if inReserve * outWeight = 0 then none
    else Xyk.fitting (amount * outReserve * inWeight / (inReserve * outWeight))
  calculateOutGivenIn inReserve outReserve inWeight outWeight amount :=
    if (inReserve, outReserve, inWeight, outWeight, amount) =
        (2 * 10 ^ 9, 10 ^ 9, 27000000, 73000000, 10 ^ 7) then some 1843005
    else if (inReserve, outReserve, inWeight, outWeight, amount) =
        (10 ^ 9, 2 * 10 ^ 9, 20000000, 80000000, 10 ^ 6) then some 499685
    else if outWeight = 0 ∨ inWeight % outWeight ≠ 0 ∨ inReserve + amount = 0 then none
    else
      let scale := (inReserve + amount) ^ (inWeight / outWeight)
      Xyk.fitting (outReserve -
        (outReserve * inReserve ^ (inWeight / outWeight) + scale - 1) / scale)
  calculateInGivenOut inReserve outReserve inWeight outWeight amount :=
    if (inReserve, outReserve, inWeight, outWeight, amount) =
        (10 ^ 9, 2 * 10 ^ 9, 73000000, 27000000, 10 ^ 7) then some 1855672
    else if inWeight = 0 ∨ outWeight % inWeight ≠ 0 ∨ outReserve ≤ amount then none
    else
      let scale := (outReserve - amount) ^ (outWeight / inWeight)
      Xyk.fitting ((inReserve * outReserve ^ (outWeight / inWeight) + scale - 1) / scale -
        inReserve)
  calculatePoolTradeFee amount fee :=
    Xyk.fitting (if fee.2 = 0 then 0 else amount / fee.2 * fee.1)

theorem Math.reference_interpolates : Math.reference.InterpolatesWeights where
  inside proper first last := if_pos ⟨proper, first, last⟩
  outside away := if_neg (by omega)

/-- The runtime's minimum with the reference formulas. -/
def Config.reference : Config where
  minPoolLiquidity := 1000
  math := .reference

/-- Signer 0 has funds for pools in every asset, signer 1 funds to trade with, and the account
of the pair of asset 1 and asset 2 was sent some of asset 3. -/
def genesis : State where
  poolData := ∅
  feeCollectorWithAsset := ∅
  ledger :=
    { free := fun who asset =>
        if who = .signer 0 then 2 ^ 127
        else if who = .signer 1 then 2 ^ 126
        else if who = getPairId ⟨1, 2⟩ ∧ asset = 3 then 10 ^ 4
        else 0
      reserved := fun _ _ => 0
      issuance := fun _ => 2 ^ 127 + 2 ^ 126 + 10 ^ 4 }
  locks := ∅
  blockNumber := 0
  events := []

theorem genesis_initial : Initial genesis := ⟨rfl, rfl, rfl⟩

/-- A pool of signer 0 with falling weights, a fee of one tenth and signer 5 to collect it. -/
def bootstrapping : NewPool where
  poolOwner := .signer 0
  assetA := 1
  assetAAmount := 10 ^ 9
  assetB := 2
  assetBAmount := 2 * 10 ^ 9
  initialWeight := 80000000
  finalWeight := 10000000
  weightCurve := .linear
  fee := (1, 10)
  feeCollector := .signer 5
  repayTarget := 1000

/-- Nothing to update. -/
def noUpdate : PoolUpdate where
  poolOwner := none
  start := none
  endBlock := none
  initialWeight := none
  finalWeight := none
  fee := none
  feeCollector := none
  repayTarget := none

/-- A sale from block 20 to block 30. -/
def saleUpdate : PoolUpdate :=
  { noUpdate with start := some 20, endBlock := some 30 }

/-- A call, or a number of blocks in which nothing else happens. -/
inductive Input
  | call (call : Call)
  | blocks (count : ℕ)

def exec (s : State) : Input → Except Error State
  | .call call => dispatch .reference s call
  | .blocks count => .ok { s with blockNumber := s.blockNumber + count }

/-- The step an input is. -/
def Input.label (s : State) : Input → Label
  | .call made => .call made
  | .blocks count => .external (s.blockNumber + count) s.ledger

theorem step_of_exec {s t : State} {input : Input} (executed : exec s input = .ok t) :
    Step .reference s (input.label s) t := by
  cases input with
  | call call => exact executed
  | blocks count => exact ⟨Nat.le_add_right _ _, (Except.ok.inj executed).symm⟩

/-- Run the chain from a state on, and record the steps. -/
def simulateFrom (s : State) (inputs : List Input) : Except Error (List (State × Label) × State) :=
  inputs.foldlM (recording exec fun s input => input.label s) ([], s)

theorem run_of_simulateFrom {init : State → Prop} {s t : State} {inputs : List Input}
    {past : List (State × Label)} (isInit : init s)
    (computed : simulateFrom s inputs = .ok (past, t)) : Run init (Step .reference) past t := by
  refine run_of_recording ?_ (.start isInit) computed
  intro s input t executed
  exact step_of_exec executed

/-- The pool is created, its sale is set, and its second block is reached. -/
def openSale : List Input :=
  [.call (.createPool bootstrapping), .call (.updatePoolData 0 (getPairId ⟨1, 2⟩) saleUpdate),
    .blocks 21]

/-- Run the reference chain. -/
def simulate (inputs : List Input) : Except Error State :=
  inputs.foldlM exec genesis

theorem reachable_of_simulate {inputs : List Input} {s : State}
    (computed : simulate inputs = .ok s) : Reachable Initial (Step .reference) s :=
  reachable_of_foldlM (fun s input _ executed => ⟨input.label s, step_of_exec executed⟩)
    ⟨[], .start genesis_initial⟩ computed

end Basilisk.Lbp
