/-
# Pools and their records

A pool is recorded in three maps, has a share token of its own and keeps its
reserves on the pair account.  This module shows that the five calls keep all of
it together: a pool is recorded everywhere or nowhere, the recorded liquidity is
the issuance of the share token, and no reserve runs dry before the last share is
burned.
-/

import Basilisk.Math.ConstantProduct
import Basilisk.Xyk.Liquidity

namespace Basilisk.Xyk

open Basilisk.Math

/-- What the pallet relies on in the registry and its constants: share assets are new
assets, different for different pairs and never the native asset, and pools start
with positive reserves. -/
structure Config.Lawful (cfg : Config) : Prop where
  math : cfg.math.Lawful
  minPoolLiquidity : 0 < cfg.minPoolLiquidity
  newAssets : SharesAreNewAssets cfg
  oneEach : ∀ {pair pair' : AssetPair} {token : AssetId},
    cfg.getOrCreateSharedAsset pair.name = some token →
    cfg.getOrCreateSharedAsset pair'.name = some token →
    pair.orderedPair = pair'.orderedPair
  notNative : ∀ {pair : AssetPair} {token : AssetId},
    cfg.getOrCreateSharedAsset pair.name = some token → token ≠ cfg.nativeAssetId

/-- Before the first call no pool exists, and nobody else has issued share tokens. -/
structure Genesis (cfg : Config) (s : State) : Prop extends Initial s where
  unissued : ∀ (pair : AssetPair) (token : AssetId),
    cfg.getOrCreateSharedAsset pair.name = some token → s.ledger.issuance token = 0

/-- A live pool: the share token is the one registered for the pair, its issuance is
the recorded liquidity, and there is something of both assets. -/
structure LivePool (cfg : Config) (s : State) (account : AccountId)
    (assets : AssetId × AssetId) (token : AssetId) (liquidity : ℕ) : Prop where
  recorded : s.poolAssets.lookup account = some assets
  shareToken : s.shareToken.lookup account = some token
  totalLiquidity : s.totalLiquidity.lookup account = some liquidity
  distinct : assets.1 ≠ assets.2
  pairAccount : account = pairAccountFromAssets assets.1 assets.2
  registered : cfg.getOrCreateSharedAsset (AssetPair.name ⟨assets.1, assets.2⟩) = some token
  issued : s.ledger.issuance token = liquidity
  positive : 0 < liquidity
  reserves : 0 < s.ledger.free account assets.1 ∧ 0 < s.ledger.free account assets.2

/-- No pool: nothing is recorded, and the share token of the pair is not issued. -/
structure NoPool (cfg : Config) (s : State) (account : AccountId) : Prop where
  recorded : s.poolAssets.lookup account = none
  shareToken : s.shareToken.lookup account = none
  totalLiquidity : s.totalLiquidity.lookup account = none
  unissued : ∀ (pair : AssetPair) (token : AssetId), account = getPairId pair →
    cfg.getOrCreateSharedAsset pair.name = some token → s.ledger.issuance token = 0

/-- Every account is that of a live pool or of none. -/
def RecordsAgree (cfg : Config) (s : State) : Prop :=
  ∀ account, NoPool cfg s account ∨
    ∃ assets token liquidity, LivePool cfg s account assets token liquidity

/-- A call on a pair leaves all other pools alone. -/
structure Elsewhere (cfg : Config) (s t : State) (pair : AssetPair) : Prop where
  poolAssets : ∀ account, account ≠ getPairId pair →
    t.poolAssets.lookup account = s.poolAssets.lookup account
  shareToken : ∀ account, account ≠ getPairId pair →
    t.shareToken.lookup account = s.shareToken.lookup account
  totalLiquidity : ∀ account, account ≠ getPairId pair →
    t.totalLiquidity.lookup account = s.totalLiquidity.lookup account
  reserves : ∀ other : AssetPair, getPairId other ≠ getPairId pair → ∀ asset,
    t.ledger.free (getPairId other) asset = s.ledger.free (getPairId other) asset
  issuance : ∀ (other : AssetPair) (token : AssetId),
    getPairId other ≠ getPairId pair → cfg.getOrCreateSharedAsset other.name = some token →
    t.ledger.issuance token = s.ledger.issuance token

section Pairs

/-- Pair accounts are the same for both orders of a pair, and only for those. -/
theorem getPairId_eq_iff {pair pair' : AssetPair} :
    getPairId pair = getPairId pair' ↔ pair.orderedPair = pair'.orderedPair :=
  fromAssets_eq_iff

/-- A pool serves both orders of its pair. -/
theorem getPairId_swap (assetA assetB : AssetId) :
    getPairId ⟨assetA, assetB⟩ = getPairId ⟨assetB, assetA⟩ :=
  getPairId_eq_iff.mpr (AssetPair.orderedPair_swap assetB assetA)

end Pairs

section Frame

variable {cfg : Config} {s t : State} {pair : AssetPair} {account : AccountId}

theorem LivePool.elsewhere {assets : AssetId × AssetId} {token : AssetId} {liquidity : ℕ}
    (pool : LivePool cfg s account assets token liquidity) (frame : Elsewhere cfg s t pair)
    (other : account ≠ getPairId pair) : LivePool cfg t account assets token liquidity := by
  have place : account = getPairId ⟨assets.1, assets.2⟩ := pool.pairAccount
  have apart : getPairId ⟨assets.1, assets.2⟩ ≠ getPairId pair := place ▸ other
  have kept := frame.reserves _ apart
  rw [← place] at kept
  refine ⟨?_, ?_, ?_, pool.distinct, pool.pairAccount, pool.registered, ?_, pool.positive, ?_⟩
  · rw [frame.poolAssets _ other, pool.recorded]
  · rw [frame.shareToken _ other, pool.shareToken]
  · rw [frame.totalLiquidity _ other, pool.totalLiquidity]
  · rw [frame.issuance _ _ apart pool.registered, pool.issued]
  · rw [kept, kept]
    exact pool.reserves

theorem NoPool.elsewhere (none : NoPool cfg s account) (frame : Elsewhere cfg s t pair)
    (other : account ≠ getPairId pair) : NoPool cfg t account := by
  refine ⟨?_, ?_, ?_, ?_⟩
  · rw [frame.poolAssets _ other, none.recorded]
  · rw [frame.shareToken _ other, none.shareToken]
  · rw [frame.totalLiquidity _ other, none.totalLiquidity]
  · rintro named token rfl registered
    rw [frame.issuance _ _ other registered]
    exact none.unissued named token rfl registered

/-- A call keeps the records in agreement if it does so for the pair it is about. -/
theorem RecordsAgree.elsewhere (agree : RecordsAgree cfg s) (pair : AssetPair)
    (frame : Elsewhere cfg s t pair)
    (here : NoPool cfg t (getPairId pair) ∨
      ∃ assets token liquidity, LivePool cfg t (getPairId pair) assets token liquidity) :
    RecordsAgree cfg t := by
  intro account
  by_cases same : account = getPairId pair
  · rw [same]
    exact here
  · obtain none | ⟨assets, token, liquidity, pool⟩ := agree account
    · exact .inl (none.elsewhere frame same)
    · exact .inr ⟨assets, token, liquidity, pool.elsewhere frame same⟩

/-- The call is about an existing pool. -/
theorem RecordsAgree.live (agree : RecordsAgree cfg s) (present : s.poolExists pair = true) :
    ∃ assets token liquidity, LivePool cfg s (getPairId pair) assets token liquidity := by
  obtain none | live := agree (getPairId pair)
  · rw [State.poolExists, none.shareToken] at present
    exact absurd present nofun
  · exact live

theorem RecordsAgree.none (agree : RecordsAgree cfg s) (absent : s.poolExists pair = false) :
    NoPool cfg s (getPairId pair) := by
  obtain none | ⟨_, _, _, pool⟩ := agree (getPairId pair)
  · exact none
  · rw [State.poolExists, pool.shareToken] at absent
    exact absurd absent nofun

section Live

variable {assets : AssetId × AssetId} {token : AssetId} {liquidity : ℕ}

theorem LivePool.orderedPair (pool : LivePool cfg s (getPairId pair) assets token liquidity) :
    pair.orderedPair = AssetPair.orderedPair ⟨assets.1, assets.2⟩ :=
  getPairId_eq_iff.mp (show getPairId pair = getPairId ⟨assets.1, assets.2⟩ from
    pool.pairAccount)

/-- The assets of a pool, in the order of a call. -/
theorem LivePool.order (pool : LivePool cfg s (getPairId pair) assets token liquidity) :
    (pair.assetIn = assets.1 ∧ pair.assetOut = assets.2) ∨
      (pair.assetIn = assets.2 ∧ pair.assetOut = assets.1) :=
  mem_of_orderedPair_eq pool.orderedPair

theorem LivePool.assets_ne (pool : LivePool cfg s (getPairId pair) assets token liquidity) :
    pair.assetIn ≠ pair.assetOut := by
  obtain ⟨first, second⟩ | ⟨first, second⟩ := pool.order
  · rw [first, second]
    exact pool.distinct
  · rw [first, second]
    exact pool.distinct.symm

theorem LivePool.name (pool : LivePool cfg s (getPairId pair) assets token liquidity) :
    cfg.getOrCreateSharedAsset pair.name = some token := by
  rw [AssetPair.name_eq_iff.mpr pool.orderedPair]
  exact pool.registered

theorem LivePool.reserves_pos (pool : LivePool cfg s (getPairId pair) assets token liquidity) :
    0 < s.ledger.free (getPairId pair) pair.assetIn ∧
      0 < s.ledger.free (getPairId pair) pair.assetOut := by
  obtain ⟨first, second⟩ | ⟨first, second⟩ := pool.order
  · rw [first, second]
    exact pool.reserves
  · rw [first, second]
    exact pool.reserves.symm

/-- What a call on a live pool has to keep. -/
theorem LivePool.keep (pool : LivePool cfg s (getPairId pair) assets token liquidity)
    {liquidity' : ℕ} (assetsKept : t.poolAssets = s.poolAssets)
    (tokenKept : t.shareToken = s.shareToken)
    (total : t.totalLiquidity.lookup (getPairId pair) = some liquidity')
    (issued : t.ledger.issuance token = liquidity') (positive : 0 < liquidity')
    (reserves : 0 < t.ledger.free (getPairId pair) pair.assetIn ∧
      0 < t.ledger.free (getPairId pair) pair.assetOut) :
    LivePool cfg t (getPairId pair) assets token liquidity' := by
  refine ⟨assetsKept ▸ pool.recorded, tokenKept ▸ pool.shareToken, total, pool.distinct,
    pool.pairAccount, pool.registered, issued, positive, ?_⟩
  obtain ⟨first, second⟩ | ⟨first, second⟩ := pool.order
  · rw [← first, ← second]
    exact reserves
  · rw [← first, ← second]
    exact reserves.symm

theorem LivePool.getShareToken (pool : LivePool cfg s (getPairId pair) assets token liquidity) :
    s.getShareToken pair = token := by
  rw [State.getShareToken, pool.shareToken, Option.getD_some]

theorem LivePool.total (pool : LivePool cfg s (getPairId pair) assets token liquidity) :
    s.totalLiquidityOf (getPairId pair) = liquidity := by
  rw [State.totalLiquidityOf, pool.totalLiquidity, Option.getD_some]

end Live

/-- Different pairs have different share tokens. -/
theorem Config.Lawful.token_ne (lawful : cfg.Lawful) {other : AssetPair}
    {token token' : AssetId} (registered : cfg.getOrCreateSharedAsset pair.name = some token)
    (registered' : cfg.getOrCreateSharedAsset other.name = some token')
    (apart : getPairId other ≠ getPairId pair) : token' ≠ token := by
  rintro rfl
  exact apart (getPairId_eq_iff.mpr (lawful.oneEach registered' registered))

end Frame

section Ledgers

variable {ledger afterA afterB ledger' : Currencies} {key amountA amountB amount : ℕ}
variable {assetA assetB token : AssetId} {pair other : AssetPair}

/-- A signer pays two assets into a pool. -/
theorem reserves_paid_in (distinct : assetA ≠ assetB)
    (movedA : ledger.transfer assetA (.signer key) (getPairId pair) amountA = some afterA)
    (movedB : afterA.transfer assetB (.signer key) (getPairId pair) amountB = some afterB) :
    afterB.free (getPairId pair) assetA = ledger.free (getPairId pair) assetA + amountA ∧
      afterB.free (getPairId pair) assetB = ledger.free (getPairId pair) assetB + amountB := by
  constructor
  · rw [Ledger.free_transfer_of_ne_currency movedB _ distinct,
      Ledger.free_transfer_receiver movedA nofun]
  · rw [Ledger.free_transfer_receiver movedB nofun,
      Ledger.free_transfer_of_ne_currency movedA _ distinct.symm]

/-- A pool pays two assets out to a signer. -/
theorem reserves_paid_out (distinct : assetA ≠ assetB)
    (movedA : ledger.transfer assetA (getPairId pair) (.signer key) amountA = some afterA)
    (movedB : afterA.transfer assetB (getPairId pair) (.signer key) amountB = some afterB) :
    afterB.free (getPairId pair) assetA + amountA = ledger.free (getPairId pair) assetA ∧
      afterB.free (getPairId pair) assetB + amountB = ledger.free (getPairId pair) assetB := by
  constructor
  · rw [Ledger.free_transfer_of_ne_currency movedB _ distinct,
      Ledger.free_transfer_sender movedA nofun]
  · rw [Ledger.free_transfer_sender movedB nofun,
      Ledger.free_transfer_of_ne_currency movedA _ distinct.symm]

/-- Paying liquidity in and minting shares for it leaves the other pools alone. -/
theorem reserves_elsewhere {bound : ℕ}
    (movedA : ledger.transfer assetA (.signer key) (getPairId pair) amountA = some afterA)
    (movedB : afterA.transfer assetB (.signer key) (getPairId pair) amountB = some afterB)
    (minted : afterB.deposit bound token (.signer key) amount = some ledger')
    (apart : getPairId other ≠ getPairId pair) (asset : AssetId) :
    ledger'.free (getPairId other) asset = ledger.free (getPairId other) asset := by
  rw [Ledger.free_deposit_of_ne minted (getPairId_ne_signer _ _),
    Ledger.free_transfer_of_ne movedB (getPairId_ne_signer _ _) apart,
    Ledger.free_transfer_of_ne movedA (getPairId_ne_signer _ _) apart]

end Ledgers

section Calls

variable {cfg : Config} {s t : State} {key : ℕ} {assetA assetB : AssetId}

theorem createPool_agree {hooks : CreationHooks} {amount initialPrice : ℕ}
    (lawful : cfg.Lawful) (agree : RecordsAgree cfg s)
    (called : createPool cfg s hooks (.signer key) assetA assetB amount initialPrice = .ok t) :
    RecordsAgree cfg t := by
  obtain ⟨amountB, shares, token, afterA, afterB, distinct, absent, enoughA, enoughB, -,
    counted, registered, movedA, movedB, minted, tokens, pairs, totals⟩ := createPool_ok called
  have none := agree.none absent
  have issuanceA := (Ledger.reserved_transfer movedA).2
  have issuanceB := (Ledger.reserved_transfer movedB).2
  have issuance := Ledger.issuance_deposit minted
  rw [issuanceB, issuanceA] at issuance
  refine agree.elsewhere ⟨assetA, assetB⟩ ⟨?_, ?_, ?_, ?_, ?_⟩
    (.inr ⟨(assetA, assetB), token, shares, ?_⟩)
  · intro account other
    rw [pairs, AList.lookup_insert_ne other]
  · intro account other
    rw [tokens, AList.lookup_insert_ne other]
  · intro account other
    rw [totals, AList.lookup_insert_ne other]
  · intro other apart asset
    exact reserves_elsewhere movedA movedB minted apart asset
  · intro other token' apart registered'
    rw [issuance, Function.update_of_ne (lawful.token_ne registered registered' apart)]
  · have paid := reserves_paid_in distinct movedA movedB
    have unissued := none.unissued _ _ rfl registered
    have positive := lawful.minPoolLiquidity
    refine ⟨?_, ?_, ?_, distinct, rfl, registered, ?_, ?_, ?_⟩
    · rw [pairs, AList.lookup_insert]
    · rw [tokens, AList.lookup_insert]
    · rw [totals, AList.lookup_insert]
    · rw [issuance, Function.update_self, unissued, Nat.zero_add]
    · rw [counted]
      split_ifs <;> omega
    · rw [Ledger.free_deposit_of_ne minted (getPairId_ne_signer _ _),
        Ledger.free_deposit_of_ne minted (getPairId_ne_signer _ _), paid.1, paid.2]
      omega

theorem addLiquidity_agree {amountA limit : ℕ} (lawful : cfg.Lawful)
    (agree : RecordsAgree cfg s)
    (called : addLiquidity cfg s (.signer key) assetA assetB amountA limit = .ok t) :
    RecordsAgree cfg t := by
  obtain ⟨amountB, shares, afterA, afterB, present, -, -, -, -, movedA, movedB, minted, tokens,
    pairs, totals⟩ := addLiquidity_ok called
  obtain ⟨assets, token, liquidity, pool⟩ := agree.live present
  rw [pool.getShareToken] at minted
  rw [pool.total] at totals
  have issuance := Ledger.issuance_deposit minted
  rw [(Ledger.reserved_transfer movedB).2, (Ledger.reserved_transfer movedA).2] at issuance
  have positive := pool.positive
  refine agree.elsewhere ⟨assetA, assetB⟩ ⟨?_, ?_, ?_, ?_, ?_⟩
    (.inr ⟨assets, token, liquidity + shares, pool.keep pairs tokens ?_ ?_ ?_ ?_⟩)
  · intro account _
    rw [pairs]
  · intro account _
    rw [tokens]
  · intro account other
    rw [totals, AList.lookup_insert_ne other]
  · intro other apart asset
    exact reserves_elsewhere movedA movedB minted apart asset
  · intro other token' apart registered'
    rw [issuance, Function.update_of_ne (lawful.token_ne pool.name registered' apart)]
  · rw [totals, AList.lookup_insert]
  · rw [issuance, Function.update_self, pool.issued]
  · omega
  · have paid := reserves_paid_in pool.assets_ne movedA movedB
    have before := pool.reserves_pos
    dsimp only at before paid ⊢
    rw [Ledger.free_deposit_of_ne minted (getPairId_ne_signer _ _),
      Ledger.free_deposit_of_ne minted (getPairId_ne_signer _ _), paid.1, paid.2]
    omega

/-- What a removal pays out: all of both reserves if it burns the last share, and a
proper part of them otherwise. -/
theorem removeLiquidity_paid {amount amountA amountB liquidity : ℕ} {token : AssetId}
    {assets : AssetId × AssetId} (lawful : cfg.Lawful)
    (pool : LivePool cfg s (getPairId ⟨assetA, assetB⟩) assets token liquidity)
    (enough : amount ≤ liquidity)
    (priced : cfg.math.calculateLiquidityOut (s.ledger.free (getPairId ⟨assetA, assetB⟩) assetA)
      (s.ledger.free (getPairId ⟨assetA, assetB⟩) assetB) amount liquidity =
        some (amountA, amountB)) :
    (amount = liquidity → amountA = s.ledger.free (getPairId ⟨assetA, assetB⟩) assetA ∧
      amountB = s.ledger.free (getPairId ⟨assetA, assetB⟩) assetB) ∧
    (amount ≠ liquidity → amountA < s.ledger.free (getPairId ⟨assetA, assetB⟩) assetA ∧
      amountB < s.ledger.free (getPairId ⟨assetA, assetB⟩) assetB) := by
  obtain ⟨-, rfl, rfl⟩ := lawful.math.liquidityOut priced
  constructor
  · rintro rfl
    exact ⟨Nat.mul_div_cancel_left _ pool.positive, Nat.mul_div_cancel_left _ pool.positive⟩
  · intro some
    have proper : amount < liquidity := lt_of_le_of_ne enough some
    exact ⟨part_lt_of_lt proper pool.reserves_pos.1, part_lt_of_lt proper pool.reserves_pos.2⟩

theorem removeLiquidity_agree {amount : ℕ} (lawful : cfg.Lawful) (agree : RecordsAgree cfg s)
    (called : removeLiquidity cfg s (.signer key) assetA assetB amount = .ok t) :
    RecordsAgree cfg t := by
  obtain ⟨amountA, amountB, afterA, afterB, present, -, enough, priced, movedA, movedB, burned,
    stored⟩ := removeLiquidity_ok called
  obtain ⟨assets, token, liquidity, pool⟩ := agree.live present
  rw [pool.getShareToken] at burned
  rw [pool.total] at enough priced stored
  have paid := removeLiquidity_paid lawful pool enough priced
  have left := reserves_paid_out pool.assets_ne movedA movedB
  have issuance := Ledger.issuance_withdraw burned
  rw [(Ledger.reserved_transfer movedB).2, (Ledger.reserved_transfer movedA).2] at issuance
  have reserves : ∀ other : AssetPair, getPairId other ≠ getPairId ⟨assetA, assetB⟩ →
      ∀ asset, t.ledger.free (getPairId other) asset = s.ledger.free (getPairId other) asset := by
    intro other apart asset
    rw [Ledger.free_withdraw_of_ne burned (getPairId_ne_signer _ _),
      Ledger.free_transfer_of_ne movedB apart (getPairId_ne_signer _ _),
      Ledger.free_transfer_of_ne movedA apart (getPairId_ne_signer _ _)]
  have issued : ∀ (other : AssetPair) (token' : AssetId),
      getPairId other ≠ getPairId ⟨assetA, assetB⟩ →
      cfg.getOrCreateSharedAsset other.name = some token' →
      t.ledger.issuance token' = s.ledger.issuance token' := by
    intro other token' apart registered'
    rw [issuance, Function.update_of_ne (lawful.token_ne pool.name registered' apart)]
  by_cases last : liquidity = amount
  · rw [if_pos last] at stored
    obtain ⟨tokens, pairs, totals⟩ := stored
    refine agree.elsewhere ⟨assetA, assetB⟩ ⟨?_, ?_, ?_, reserves, issued⟩
      (.inl ⟨?_, ?_, ?_, ?_⟩)
    · intro account other
      rw [pairs, AList.lookup_erase_ne other]
    · intro account other
      rw [tokens, AList.lookup_erase_ne other]
    · intro account other
      rw [totals, AList.lookup_erase_ne other, AList.lookup_insert_ne other]
    · rw [pairs, AList.lookup_erase]
    · rw [tokens, AList.lookup_erase]
    · rw [totals, AList.lookup_erase]
    · intro named token' same registered'
      have sameName := AssetPair.name_eq_iff.mpr (getPairId_eq_iff.mp same)
      rw [← sameName, pool.name, Option.some.injEq] at registered'
      rw [← registered', issuance, Function.update_self, pool.issued, last, Nat.sub_self]
  · rw [if_neg last] at stored
    obtain ⟨tokens, pairs, totals⟩ := stored
    refine agree.elsewhere ⟨assetA, assetB⟩ ⟨?_, ?_, ?_, reserves, issued⟩
      (.inr ⟨assets, token, liquidity - amount, pool.keep pairs tokens ?_ ?_ ?_ ?_⟩)
    · intro account _
      rw [pairs]
    · intro account _
      rw [tokens]
    · intro account other
      rw [totals, AList.lookup_insert_ne other]
    · rw [totals, AList.lookup_insert]
    · rw [issuance, Function.update_self, pool.issued]
    · omega
    · have proper := paid.2 (Ne.symm last)
      dsimp only at left ⊢
      rw [Ledger.free_withdraw_of_ne burned (getPairId_ne_signer _ _),
        Ledger.free_withdraw_of_ne burned (getPairId_ne_signer _ _)]
      omega

/-- A trade that leaves something of the asset it takes out. -/
theorem Traded.agree {assets : AssetPair} {paidIn paidOut : ℕ} (lawful : cfg.Lawful)
    (agree : RecordsAgree cfg s) (present : s.poolExists assets = true)
    (traded : Traded cfg s t assets paidIn paidOut)
    (below : paidOut < s.ledger.free (getPairId assets) assets.assetOut) :
    RecordsAgree cfg t := by
  obtain ⟨_, token, liquidity, pool⟩ := agree.live present
  refine agree.elsewhere assets ⟨?_, ?_, ?_, traded.others, ?_⟩
    (.inr ⟨_, token, liquidity, pool.keep traded.poolAssets traded.shareToken ?_ ?_
      pool.positive ⟨?_, ?_⟩⟩)
  · intro account _
    rw [traded.poolAssets]
  · intro account _
    rw [traded.shareToken]
  · intro account _
    rw [traded.totalLiquidity]
  · intro other token' _ registered
    exact traded.issuance _ (lawful.notNative registered)
  · rw [traded.totalLiquidity, pool.totalLiquidity]
  · rw [traded.issuance _ (lawful.notNative pool.name), pool.issued]
  · have before := pool.reserves_pos.1
    rw [traded.reserveIn]
    omega
  · have after := traded.reserveOut
    omega

theorem RecordsAgree.step {call : Call} (lawful : cfg.Lawful) (agree : RecordsAgree cfg s)
    (taken : Step cfg s call t) : RecordsAgree cfg t := by
  cases call with
  | createPool => exact createPool_agree lawful agree taken
  | addLiquidity => exact addLiquidity_agree lawful agree taken
  | removeLiquidity => exact removeLiquidity_agree lawful agree taken
  | sell =>
      have present := sell_poolExists taken
      obtain ⟨_, _, _, pool⟩ := agree.live present
      obtain ⟨amountOut, fee, -, below, traded⟩ := sell_traded pool.assets_ne taken
      exact traded.agree lawful agree present ((Nat.sub_le _ _).trans_lt below)
  | buy =>
      have present := buy_poolExists taken
      obtain ⟨_, _, _, pool⟩ := agree.live present
      obtain ⟨_, _, -, below, traded⟩ := buy_traded pool.assets_ne taken
      exact traded.agree lawful agree present below

theorem recordsAgree_of_reachable (lawful : cfg.Lawful)
    (reachable : Reachable (Genesis cfg) (Step cfg) s) : RecordsAgree cfg s := by
  apply Reachable.invariant (RecordsAgree cfg) _ _ reachable
  · intro s genesis account
    left
    refine ⟨?_, ?_, ?_, fun pair token _ => genesis.unissued pair token⟩
    · rw [genesis.poolAssets]
      rfl
    · rw [genesis.shareToken]
      rfl
    · rw [genesis.totalLiquidity]
      rfl
  · intro s call t agree taken
    exact agree.step lawful taken

/-- A pool is recorded in all three maps or in none.  If it is, its liquidity is
positive and the issuance of its share token, and both of its reserves are positive; if
not, the share token of the pair is not issued.  Burning the last share pays out both
reserves. -/
theorem pool_records_agree (lawful : cfg.Lawful)
    (reachable : Reachable (Genesis cfg) (Step cfg) s) :
    (∀ account,
      (s.shareToken.lookup account).isSome = (s.poolAssets.lookup account).isSome ∧
      (s.totalLiquidity.lookup account).isSome = (s.poolAssets.lookup account).isSome ∧
      (∀ assets token liquidity, s.poolAssets.lookup account = some assets →
        s.shareToken.lookup account = some token →
        s.totalLiquidity.lookup account = some liquidity →
        0 < liquidity ∧ s.ledger.issuance token = liquidity ∧
          0 < s.ledger.free account assets.1 ∧ 0 < s.ledger.free account assets.2) ∧
      (s.shareToken.lookup account = none → ∀ (pair : AssetPair) (token : AssetId),
        account = getPairId pair → cfg.getOrCreateSharedAsset pair.name = some token →
        s.ledger.issuance token = 0)) ∧
    ∀ key assetA assetB amount t,
      removeLiquidity cfg s (.signer key) assetA assetB amount = .ok t →
      t.ledger.issuance (s.getShareToken ⟨assetA, assetB⟩) = 0 →
      t.ledger.free (getPairId ⟨assetA, assetB⟩) assetA = 0 ∧
      t.ledger.free (getPairId ⟨assetA, assetB⟩) assetB = 0 ∧
      t.ledger.free (.signer key) assetA = s.ledger.free (.signer key) assetA +
        s.ledger.free (getPairId ⟨assetA, assetB⟩) assetA ∧
      t.ledger.free (.signer key) assetB = s.ledger.free (.signer key) assetB +
        s.ledger.free (getPairId ⟨assetA, assetB⟩) assetB := by
  have agree := recordsAgree_of_reachable lawful reachable
  constructor
  · intro account
    obtain none | ⟨assets, token, liquidity, pool⟩ := agree account
    · refine ⟨?_, ?_, ?_, ?_⟩
      · rw [none.shareToken, none.recorded]
        rfl
      · rw [none.totalLiquidity, none.recorded]
        rfl
      · intro assets token liquidity recorded
        exact absurd (none.recorded.symm.trans recorded) nofun
      · intro _ pair token same registered
        exact none.unissued pair token same registered
    · refine ⟨?_, ?_, ?_, ?_⟩
      · rw [pool.shareToken, pool.recorded]
        rfl
      · rw [pool.totalLiquidity, pool.recorded]
        rfl
      · intro assets' token' liquidity' recorded tokens totals
        obtain rfl := Option.some.inj (recorded.symm.trans pool.recorded)
        obtain rfl := Option.some.inj (tokens.symm.trans pool.shareToken)
        obtain rfl := Option.some.inj (totals.symm.trans pool.totalLiquidity)
        exact ⟨pool.positive, pool.issued, pool.reserves⟩
      · intro absent
        exact absurd (absent.symm.trans pool.shareToken) nofun
  · intro key assetA assetB amount t called burnedAll
    obtain ⟨amountA, amountB, afterA, afterB, present, -, enough, priced, movedA, movedB, burned,
      -⟩ := removeLiquidity_ok called
    obtain ⟨assets, token, liquidity, pool⟩ := agree.live present
    rw [pool.getShareToken] at burned burnedAll
    rw [pool.total] at enough priced
    rw [Ledger.issuance_withdraw burned, Function.update_self,
      (Ledger.reserved_transfer movedB).2, (Ledger.reserved_transfer movedA).2, pool.issued]
      at burnedAll
    have whole : amount = liquidity := by omega
    obtain ⟨newA, newB⟩ := lawful.newAssets _ _ pool.name
    have received := removeLiquidity_payout lawful.math pool.assets_ne
      (by rw [pool.getShareToken]; exact newA) (by rw [pool.getShareToken]; exact newB) called
    rw [pool.total, whole, Nat.mul_div_cancel_left _ pool.positive,
      Nat.mul_div_cancel_left _ pool.positive] at received
    obtain ⟨rfl, rfl⟩ := (removeLiquidity_paid lawful pool enough priced).1 whole
    have left := reserves_paid_out pool.assets_ne movedA movedB
    dsimp only at left
    refine ⟨?_, ?_, received⟩
    · rw [Ledger.free_withdraw_of_ne burned (getPairId_ne_signer _ _)]
      omega
    · rw [Ledger.free_withdraw_of_ne burned (getPairId_ne_signer _ _)]
      omega

end Calls

theorem fundedConfig_lawful : fundedConfig.Lawful where
  math := Math.reference_lawful
  minPoolLiquidity := by decide
  newAssets := fundedConfig_sharesAreNewAssets
  oneEach registered registered' := by
    simp only [fundedConfig, Config.runtime, onePairRegistry] at registered registered'
    split_ifs at registered registered' with named named'
    exact AssetPair.name_eq_iff.mp (named.trans named'.symm)
  notNative registered := by
    simp only [fundedConfig, Config.runtime, onePairRegistry] at registered
    split_ifs at registered
    obtain rfl := Option.some.inj registered
    decide

theorem fundedState_genesis : Genesis fundedConfig fundedState :=
  ⟨fundedState_initial, fun _ _ _ => rfl⟩

/-- A pool is created, added to, traded with, destroyed and created again; its issuance
is then the new liquidity. -/
theorem pool_records_agree_recreated :
    ∃ s, [Call.createPool 1 ⟨true, true⟩ 1 2 10000 FixedU128.one,
        .addLiquidity 2 1 2 5000 5000, .sell 2 1 2 3000 0 false,
        .removeLiquidity 2 1 2 5000, .removeLiquidity 1 2 1 10000,
        .createPool 2 ⟨true, true⟩ 2 1 4000 FixedU128.one].foldlM (dispatch fundedConfig)
          fundedState = .ok s ∧
      s.totalLiquidity.lookup (getPairId ⟨1, 2⟩) = some 4000 ∧
      s.ledger.issuance 100 = 4000 := by
  have computed : succeedsWith
      ([Call.createPool 1 ⟨true, true⟩ 1 2 10000 FixedU128.one,
        .addLiquidity 2 1 2 5000 5000, .sell 2 1 2 3000 0 false,
        .removeLiquidity 2 1 2 5000, .removeLiquidity 1 2 1 10000,
        .createPool 2 ⟨true, true⟩ 2 1 4000 FixedU128.one].foldlM (dispatch fundedConfig)
          fundedState)
      (fun s => decide (s.totalLiquidity.lookup (getPairId ⟨1, 2⟩) = some 4000 ∧
        s.shareToken.lookup (getPairId ⟨1, 2⟩) = some 100 ∧
        s.poolAssets.lookup (getPairId ⟨1, 2⟩) = some (2, 1))) = true := by
    decide +kernel
  simp only [succeedsWith_iff, decide_eq_true_eq] at computed
  obtain ⟨s, run, total, token, assets⟩ := computed
  have agree := (pool_records_agree fundedConfig_lawful
    (reachable_funded fundedState_genesis run)).1 (getPairId ⟨1, 2⟩)
  exact ⟨s, run, total, (agree.2.2.1 _ _ _ assets token total).2.1⟩

end Basilisk.Xyk
