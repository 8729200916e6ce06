/-
# Trade limits, end to end

The resolver checks limits on the amounts before fees, and does not check a main
intention that a larger matched one consumes.  Whether a limit is honoured is a matter of
what the account pays and gets over all of its trades, net of fees and charges.  The sums
of `change` tell it exactly, from the amounts and balances each turn begins with.
-/

import Basilisk.Exchange.Balances

namespace Basilisk.Exchange

open Basilisk.Math

variable {cfg : Config} {s t : State} {order : List (AssetId × AssetId)}

/-- An intention's limit is honoured between two states: a sale of the whole amount has
brought at least the limit, a purchase has cost at most the limit. -/
def Honoured (s t : State) (x : Intention) : Prop :=
  match x.sellOrBuy with
  | .sell =>
      t.owns x.who x.assets.assetIn + x.amountIn ≤ s.owns x.who x.assets.assetIn →
        s.owns x.who x.assets.assetOut + x.tradeLimit ≤ t.owns x.who x.assets.assetOut
  | .buy => s.owns x.who x.assets.assetIn ≤ t.owns x.who x.assets.assetIn + x.tradeLimit

/-- What a finalization brings to an intention's account is within the limit: a sale that gives
the whole amount gets at least the limit, and a purchase gives at most the limit. -/
def WithinLimit (cfg : Config) (s : State) (order : List (AssetId × AssetId)) (x : Intention) :
    Prop :=
  (x.sellOrBuy = .sell → change cfg s order x.who x.assets.assetIn ≤ -x.amountIn →
    x.tradeLimit ≤ change cfg s order x.who x.assets.assetOut) ∧
  (x.sellOrBuy = .buy → -x.tradeLimit ≤ change cfg s order x.who x.assets.assetIn)

instance (x : Intention) : Decidable (WithinLimit cfg s order x) :=
  inferInstanceAs (Decidable ((_ → _ → _) ∧ (_ → _)))

end Basilisk.Exchange
