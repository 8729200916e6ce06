/-
# The identities of asset pairs

XYK and LBP keep the reserves of a pair in an account that the runtime hashes from
an identifier of the pallet and the two assets; XYK names the share token of a pair
by its assets; exchange counts the intentions on a pair under its ordered assets.
The three encoders order the assets by different comparisons and put different
things between them.  They nevertheless tell the same pairs apart: all of them
forget the order of the two assets and nothing else, and the identifiers keep the
accounts of the two pallets apart.
-/

import Basilisk.Exchange.Registration
import Basilisk.Lbp.Model
import Basilisk.Xyk.Pools

namespace Basilisk.Pairs

open Basilisk.Math

/-- The identifiers under which the runtime makes pair accounts. -/
def identifiers : List (List UInt8) :=
  [Xyk.identifier, Lbp.identifier]

example : identifiers = ["xyk".toUTF8.data.toList, "lbp".toUTF8.data.toList] := by decide

variable {assetA assetB assetC assetD : AssetId}

section Accounts

theorem length_identifiers {identifier identifier' : List UInt8}
    (known : identifier ∈ identifiers) (known' : identifier' ∈ identifiers) :
    identifier.length = identifier'.length := by
  have three : ∀ identifier ∈ identifiers, identifier.length = 3 := by decide
  rw [three _ known, three _ known']

/-- The hashed bytes tell apart the identifiers and the pairs. -/
theorem hashed_eq_iff {identifier identifier' : List UInt8}
    (known : identifier ∈ identifiers) (known' : identifier' ∈ identifiers) :
    fromAssetsBytes identifier assetA assetB = fromAssetsBytes identifier' assetC assetD ↔
      identifier = identifier' ∧ ({assetA, assetB} : Set AssetId) = {assetC, assetD} := by
  rw [fromAssetsBytes_eq_iff (length_identifiers known known'),
    AssetPair.orderedPair_eq_iff_pair]

/-- No account holds reserves of both pallets. -/
theorem xyk_ne_lbp (pair pair' : AssetPair) : Xyk.getPairId pair ≠ Lbp.getPairId pair' := by
  intro same
  have bytes := AccountId.hashed.inj same
  have named := ((hashed_eq_iff (by decide) (by decide)).mp bytes).1
  exact absurd named (by decide)

end Accounts

/-- Registering an intention on a pair raises the count that is kept for both directions of
the pair, and no other. -/
theorem counted_iff {s t : Exchange.State} {who : AccountId} {kind : Exchange.IntentionType}
    {amountIn amountOut limit : ℕ} {discount : Bool}
    (registered : Exchange.registerIntention s who kind ⟨assetA, assetB⟩ amountIn amountOut
      limit discount = .ok t) :
    t.countOf (AssetPair.orderedPair ⟨assetC, assetD⟩) ≠
        s.countOf (AssetPair.orderedPair ⟨assetC, assetD⟩) ↔
      ({assetA, assetB} : Set AssetId) = {assetC, assetD} := by
  obtain ⟨-, -, counts, -⟩ := Exchange.registerIntention_ok registered
  rw [← AssetPair.orderedPair_eq_iff_pair, Exchange.countOf_of_insert counts]
  split_ifs with same
  · rw [same]
    exact iff_of_true (Nat.succ_ne_self _) rfl
  · exact iff_of_false (fun differs => differs rfl) (Ne.symm same)

/-- Pool accounts, share token names and the keys of intention counts are the same exactly for
the two directions of a pair; pool accounts also need the same pallet. -/
theorem pair_identities_agree (assetA assetB assetC assetD : AssetId) :
    (∀ identifier ∈ identifiers, ∀ identifier' ∈ identifiers,
      (fromAssetsBytes identifier assetA assetB = fromAssetsBytes identifier' assetC assetD ↔
        identifier = identifier' ∧ ({assetA, assetB} : Set AssetId) = {assetC, assetD})) ∧
    (AssetPair.name ⟨assetA, assetB⟩ = AssetPair.name ⟨assetC, assetD⟩ ↔
      ({assetA, assetB} : Set AssetId) = {assetC, assetD}) ∧
    (AssetPair.orderedPair ⟨assetA, assetB⟩ = AssetPair.orderedPair ⟨assetC, assetD⟩ ↔
      ({assetA, assetB} : Set AssetId) = {assetC, assetD}) ∧
    (Xyk.getPairId ⟨assetA, assetB⟩ = Xyk.getPairId ⟨assetC, assetD⟩ ↔
      ({assetA, assetB} : Set AssetId) = {assetC, assetD}) ∧
    (Lbp.getPairId ⟨assetA, assetB⟩ = Lbp.getPairId ⟨assetC, assetD⟩ ↔
      ({assetA, assetB} : Set AssetId) = {assetC, assetD}) ∧
    Xyk.getPairId ⟨assetA, assetB⟩ ≠ Lbp.getPairId ⟨assetC, assetD⟩ ∧
    ∀ (s t : Exchange.State) (who : AccountId) (kind : Exchange.IntentionType)
      (amountIn amountOut limit : ℕ) (discount : Bool),
      Exchange.registerIntention s who kind ⟨assetA, assetB⟩ amountIn amountOut limit discount =
        .ok t →
      (t.countOf (AssetPair.orderedPair ⟨assetC, assetD⟩) ≠
          s.countOf (AssetPair.orderedPair ⟨assetC, assetD⟩) ↔
        ({assetA, assetB} : Set AssetId) = {assetC, assetD}) := by
  have ordered := @AssetPair.orderedPair_eq_iff_pair assetA assetB assetC assetD
  refine ⟨?_, AssetPair.name_eq_iff.trans ordered, ordered, Xyk.getPairId_eq_iff.trans ordered,
    fromAssets_eq_iff.trans ordered, xyk_ne_lbp _ _, ?_⟩
  · intro identifier known identifier' known'
    exact hashed_eq_iff known known'
  · intro s t who kind amountIn amountOut limit discount registered
    exact counted_iff registered

/-- The two directions of the pair of 1 and 2 share all identities, and none of them with the
pair of 1 and 3. -/
theorem pair_identities_agree_swapped :
    Xyk.getPairId ⟨1, 2⟩ = Xyk.getPairId ⟨2, 1⟩ ∧ Lbp.getPairId ⟨1, 2⟩ = Lbp.getPairId ⟨2, 1⟩ ∧
      AssetPair.name ⟨1, 2⟩ = AssetPair.name ⟨2, 1⟩ ∧
      Xyk.getPairId ⟨1, 2⟩ ≠ Xyk.getPairId ⟨1, 3⟩ ∧
      Lbp.getPairId ⟨1, 2⟩ ≠ Lbp.getPairId ⟨1, 3⟩ ∧
      AssetPair.name ⟨1, 2⟩ ≠ AssetPair.name ⟨1, 3⟩ := by
  obtain ⟨-, name, -, xyk, lbp, -⟩ := pair_identities_agree 1 2 2 1
  obtain ⟨-, name', -, xyk', lbp', -⟩ := pair_identities_agree 1 2 1 3
  have same : ({1, 2} : Set AssetId) = {2, 1} := Set.pair_comm 1 2
  have other : ({1, 2} : Set AssetId) ≠ {1, 3} := by
    rw [Ne, Set.pair_eq_pair_iff]
    decide
  exact ⟨xyk.mpr same, lbp.mpr same, name.mpr same, mt xyk'.mp other, mt lbp'.mp other,
    mt name'.mp other⟩

end Basilisk.Pairs
