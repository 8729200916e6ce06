import Basilisk.Math.StorageMap
import Basilisk.Math.Checked
import Basilisk.Math.Bytes
import Basilisk.Math.Run
import Basilisk.Math.Ledger
import Basilisk.Math.Supply
import Basilisk.Math.Registry
import Basilisk.Math.UniqueIndex
import Basilisk.Math.Accumulator
import Basilisk.Math.ConstantProduct
import Basilisk.Math.Interpolation
import Basilisk.Math.Escrow
import Basilisk.Math.ReserveBook
import Basilisk.Primitives
import Basilisk.Nft.Model
import Basilisk.Nft.Calls
import Basilisk.Nft.Deposits
import Basilisk.LiquidityMining.Model
import Basilisk.LiquidityMining.Moves
import Basilisk.LiquidityMining.Effects
import Basilisk.LiquidityMining.Consistency
import Basilisk.LiquidityMining.Calls
import Basilisk.LiquidityMining.NftIds
import Basilisk.LiquidityMining.Writes
import Basilisk.LiquidityMining.Errors
import Basilisk.LiquidityMining.Reference
import Basilisk.LiquidityMining.Updates
import Basilisk.LiquidityMining.Solvency
import Basilisk.LiquidityMining.Backing
import Basilisk.LiquidityMining.Custody
import Basilisk.LiquidityMining.Settlement
import Basilisk.LiquidityMining.PoolChanges
import Basilisk.LiquidityMining.Totals
import Basilisk.LiquidityMining.Pace
import Basilisk.LiquidityMining.Payouts
import Basilisk.LiquidityMining.SamePeriod
import Basilisk.LiquidityMining.Entry
import Basilisk.LiquidityMining.Integrity
import Basilisk.LiquidityMining.Reserves
import Basilisk.LiquidityMining.Exit
import Basilisk.LiquidityMining.Stakes
import Basilisk.LiquidityMining.Reclaim
import Basilisk.LiquidityMining.Resumption
import Basilisk.LiquidityMining.ClaimSchedule
import Basilisk.LiquidityMining.ClaimThenExit
import Basilisk.Xyk.Model
import Basilisk.Xyk.Calls
import Basilisk.Xyk.Liquidity
import Basilisk.Xyk.Pools
import Basilisk.Xyk.Trades
import Basilisk.Xyk.Execution
import Basilisk.Xyk.Discount
import Basilisk.Lbp.Model
import Basilisk.Lbp.Effects
import Basilisk.Lbp.Reference
import Basilisk.Lbp.Collectors
import Basilisk.Lbp.Weights
import Basilisk.Lbp.Terms
import Basilisk.Lbp.Fees
import Basilisk.Lbp.Trades
import Basilisk.Exchange.Model
import Basilisk.Exchange.Turns
import Basilisk.Exchange.Dispatch
import Basilisk.Exchange.Registration
import Basilisk.Exchange.Completion
import Basilisk.Exchange.Reserves
import Basilisk.Exchange.Settlement
import Basilisk.Exchange.Balances
import Basilisk.Exchange.Outcomes
import Basilisk.Exchange.Limits
import Basilisk.Exchange.Volumes
import Basilisk.Marketplace.Model
import Basilisk.Marketplace.Payments
import Basilisk.Marketplace.Consent
import Basilisk.Marketplace.Reserves
import Basilisk.Marketplace.Sales
import Basilisk.Duster.Model
import Basilisk.Duster.Sweep
import Basilisk.Runtime.Pairs
import Basilisk.Runtime.Custody
import Basilisk.Runtime.Payouts
import Basilisk.Runtime.Tokens
import Basilisk.Runtime.Handling
import Basilisk.Runtime.Licences
import Basilisk.Runtime.Chain
import Basilisk.Runtime.Pools
import Basilisk.Runtime.Shares
import Basilisk.Runtime.Bootstrapping
import Basilisk.Runtime.Consent
import Basilisk.Runtime.Farms
import Basilisk.Runtime.Offers
import Basilisk.Runtime.Deposits
