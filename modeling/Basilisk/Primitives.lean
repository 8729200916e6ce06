/-
# Primitive types of the chain

Asset ids are machine words because their byte encoding matters.  Balances
(`u128`), block numbers (`u32`) and identifiers that are only counted are natural
numbers, and every operation that can leave the machine word checks or wraps
explicitly.  A `FixedU128` is its inner integer, counted in units of `10 ^ -18`.

Accounts are modelled by how they come about.  An account with a key signs
calls; the account of an asset pair is the hash of a byte string, with the hash
taken to be free of collisions; the accounts of a pallet are derived from its
identifier and an optional number.  Only accounts with a key are ever signers.
-/

import Basilisk.Math.Bytes
import Basilisk.Math.Checked
import Basilisk.Math.Ledger
import Mathlib.Algebra.Order.Ring.Nat

namespace Basilisk

open Basilisk.Math

/-- `AssetId`, a `u32`. -/
abbrev AssetId := UInt32

/-- The exclusive bound of a `u32`. -/
def u32Bound : ℕ := 2 ^ 32

/-- The exclusive bound of a `u64`. -/
def u64Bound : ℕ := 2 ^ 64

/-- The exclusive bound of a `u128`. -/
def u128Bound : ℕ := 2 ^ 128

/-- Accounts, by origin. -/
inductive AccountId
  | signer (key : ℕ)
  | hashed (preimage : List UInt8)
  | palletAccount
  | palletSubAccount (number : ℕ)
  deriving DecidableEq, Repr

namespace AccountId

/-- Accounts derived from a pallet identifier: nobody holds their key. -/
def IsPallet : AccountId → Prop
  | palletAccount => True
  | palletSubAccount _ => True
  | _ => False

instance : DecidablePred IsPallet := fun account => by
  cases account <;> unfold IsPallet <;> infer_instance

@[simp]
theorem not_isPallet_signer (key : ℕ) : ¬ (signer key).IsPallet := id

@[simp]
theorem not_isPallet_hashed (preimage : List UInt8) :
    ¬ (hashed preimage).IsPallet := id

@[simp]
theorem isPallet_palletAccount : palletAccount.IsPallet := trivial

@[simp]
theorem isPallet_palletSubAccount (number : ℕ) :
    (palletSubAccount number).IsPallet := trivial

end AccountId

/-- The currency of every pallet: one plain ledger over the chain's accounts. -/
abbrev Currencies := Ledger AccountId AssetId

namespace FixedU128

/-- `FixedU128::DIV`. -/
def accuracy : ℕ := 10 ^ 18

/-- `FixedU128::one`. -/
def one : ℕ := accuracy

/-- The truncated product with an integer, before the range check. -/
def mulInt (x n : ℕ) : ℕ :=
  x * n / accuracy

/-- `checked_mul_int` into a `u128`. -/
def checkedMulInt (x n : ℕ) : Option ℕ :=
  if mulInt x n < u128Bound then some (mulInt x n) else none

@[simp]
theorem mulInt_zero (x : ℕ) : mulInt x 0 = 0 := by
  rw [mulInt, Nat.mul_zero, Nat.zero_div]

/-- A factor of at most one never enlarges. -/
theorem mulInt_le_of_le_one {x : ℕ} (atMostOne : x ≤ one) (n : ℕ) :
    mulInt x n ≤ n := by
  unfold mulInt
  apply Nat.div_le_of_le_mul
  exact Nat.mul_le_mul_right n atMostOne

/-- Only a factor of one keeps what is not zero. -/
theorem mulInt_eq_self_iff {x : ℕ} (atMostOne : x ≤ one) (n : ℕ) :
    mulInt x n = n ↔ x = one ∨ n = 0 := by
  rcases Nat.eq_zero_or_pos n with rfl | positive
  · simp only [mulInt_zero, or_true]
  · rw [or_iff_left positive.ne', mulInt]
    constructor
    · intro kept
      refine le_antisymm atMostOne (Nat.le_of_mul_le_mul_left ?_ positive)
      have enough := Nat.div_mul_le_self (x * n) accuracy
      rwa [kept, Nat.mul_comm x n] at enough
    · rintro rfl
      exact Nat.mul_div_cancel_left n (by decide)

theorem mulInt_mono {x y m n : ℕ} (hfactor : x ≤ y) (hint : m ≤ n) :
    mulInt x m ≤ mulInt y n :=
  Nat.div_le_div_right (Nat.mul_le_mul hfactor hint)

/-- Truncation of two products loses at least as much as of their sum. -/
theorem mulInt_add_le (x m n : ℕ) :
    mulInt x m + mulInt x n ≤ mulInt x (m + n) := by
  unfold mulInt
  rw [Nat.mul_add]
  exact Nat.div_add_div_le_add_div

end FixedU128

/-- `Permill`: parts per million, never more than the whole. -/
structure Permill where
  parts : ℕ
  le_whole : parts ≤ 10 ^ 6
  deriving DecidableEq, Repr

namespace Permill

/-- The whole. -/
def one : Permill := ⟨10 ^ 6, le_rfl⟩

/-- `From<Permill> for FixedU128`. -/
def toFixed (p : Permill) : ℕ :=
  p.parts * 10 ^ 12

theorem toFixed_le_one (p : Permill) : p.toFixed ≤ FixedU128.one := by
  have hparts := p.le_whole
  unfold toFixed FixedU128.one FixedU128.accuracy
  omega

end Permill

/-- The little-endian bytes of a `u32`. -/
def toLeBytes (n : UInt32) : List UInt8 :=
  [n.toNat.toUInt8, (n.toNat / 2 ^ 8).toUInt8, (n.toNat / 2 ^ 16).toUInt8,
    (n.toNat / 2 ^ 24).toUInt8]

theorem toLeBytes_eq (n : UInt32) : toLeBytes n = toLe 4 n.toNat := by
  simp only [toLe, Nat.div_div_eq_div_mul]
  rfl

theorem fromLe_toLeBytes (n : UInt32) : fromLe (toLeBytes n) = n.toNat := by
  rw [toLeBytes_eq, fromLe_toLe]
  exact Nat.mod_eq_of_lt n.toNat_lt

/-- The four bytes determine the number. -/
theorem toLeBytes_injective : Function.Injective toLeBytes := by
  intro m n same
  apply UInt32.toNat_inj.mp
  rw [← fromLe_toLeBytes m, same, fromLe_toLeBytes]

@[simp]
theorem length_toLeBytes (n : UInt32) : (toLeBytes n).length = 4 := rfl

/-- `AssetPair`: `assetIn` comes into the pool, `assetOut` leaves it. -/
structure AssetPair where
  assetIn : AssetId
  assetOut : AssetId
  deriving DecidableEq, Repr

namespace AssetPair

/-- `ordered_pair`: the two assets with the smaller id first. -/
def orderedPair (pair : AssetPair) : AssetId × AssetId :=
  if pair.assetIn ≤ pair.assetOut then (pair.assetIn, pair.assetOut)
  else (pair.assetOut, pair.assetIn)

/-- `name`: the share token name of the pair. -/
def name (pair : AssetPair) : List UInt8 :=
  toLeBytes pair.orderedPair.1 ++ [72, 68, 84] ++ toLeBytes pair.orderedPair.2

/-- The same pair traded the other way round. -/
def swap (pair : AssetPair) : AssetPair :=
  ⟨pair.assetOut, pair.assetIn⟩

theorem orderedPair_of_lt {assetA assetB : AssetId} (ordered : assetA < assetB) :
    orderedPair ⟨assetA, assetB⟩ = (assetA, assetB) := by
  have hle : assetA ≤ assetB := UInt32.le_of_lt ordered
  simp [orderedPair, hle]

theorem orderedPair_of_not_lt {assetA assetB : AssetId}
    (unordered : ¬ assetA < assetB) :
    orderedPair ⟨assetA, assetB⟩ = (assetB, assetA) := by
  unfold orderedPair
  split_ifs with hle
  · have hsame : assetA = assetB := UInt32.le_antisymm hle (UInt32.not_lt.mp unordered)
    simp [hsame]
  · rfl

/-- Both directions of a pair are ordered alike. -/
theorem orderedPair_swap (assetA assetB : AssetId) :
    orderedPair ⟨assetB, assetA⟩ = orderedPair ⟨assetA, assetB⟩ := by
  by_cases below : assetA < assetB
  · rw [orderedPair_of_lt below, orderedPair_of_not_lt (UInt32.lt_asymm below)]
  · by_cases above : assetB < assetA
    · rw [orderedPair_of_not_lt below, orderedPair_of_lt above]
    · have same : assetA = assetB :=
        UInt32.le_antisymm (UInt32.not_lt.mp above) (UInt32.not_lt.mp below)
      rw [same]

end AssetPair

/-- Equal as unordered pairs. -/
theorem mem_of_orderedPair_eq {pair pair' : AssetPair}
    (same : pair.orderedPair = pair'.orderedPair) :
    (pair.assetIn = pair'.assetIn ∧ pair.assetOut = pair'.assetOut) ∨
      (pair.assetIn = pair'.assetOut ∧ pair.assetOut = pair'.assetIn) := by
  unfold AssetPair.orderedPair at same
  split_ifs at same <;> simp_all

/-- The ordered pair stands for the set of the two assets. -/
theorem AssetPair.orderedPair_eq_iff_pair {assetA assetB assetC assetD : AssetId} :
    orderedPair ⟨assetA, assetB⟩ = orderedPair ⟨assetC, assetD⟩ ↔
      ({assetA, assetB} : Set AssetId) = {assetC, assetD} := by
  rw [Set.pair_eq_pair_iff]
  constructor
  · exact mem_of_orderedPair_eq
  · rintro (⟨rfl, rfl⟩ | ⟨rfl, rfl⟩)
    · rfl
    · exact orderedPair_swap _ _

/-- A share token name identifies its unordered pair. -/
theorem AssetPair.name_eq_iff {pair pair' : AssetPair} :
    pair.name = pair'.name ↔ pair.orderedPair = pair'.orderedPair := by
  constructor
  · intro same
    obtain ⟨left, second⟩ := List.append_inj same rfl
    obtain ⟨first, -⟩ := List.append_inj left rfl
    exact Prod.ext (toLeBytes_injective first) (toLeBytes_injective second)
  · intro same
    rw [name, name, same]

/-- The byte string `AssetPairAccountId::from_assets` hashes. -/
def fromAssetsBytes (identifier : List UInt8) (assetA assetB : AssetId) :
    List UInt8 :=
  if assetA < assetB then identifier ++ toLeBytes assetA ++ toLeBytes assetB
  else identifier ++ toLeBytes assetB ++ toLeBytes assetA

/-- `AssetPairAccountId::from_assets`. -/
def fromAssets (identifier : List UInt8) (assetA assetB : AssetId) : AccountId :=
  .hashed (fromAssetsBytes identifier assetA assetB)

/-- The hashed bytes are the identifier followed by the ordered pair. -/
theorem fromAssetsBytes_eq (identifier : List UInt8) (assetA assetB : AssetId) :
    fromAssetsBytes identifier assetA assetB =
      identifier ++ (toLeBytes (AssetPair.orderedPair ⟨assetA, assetB⟩).1 ++
        toLeBytes (AssetPair.orderedPair ⟨assetA, assetB⟩).2) := by
  unfold fromAssetsBytes
  split_ifs with ordered
  · rw [AssetPair.orderedPair_of_lt ordered, List.append_assoc]
  · rw [AssetPair.orderedPair_of_not_lt ordered, List.append_assoc]

/-- Identifiers of one length keep the accounts made under them apart. -/
theorem fromAssetsBytes_eq_iff {identifier identifier' : List UInt8}
    (sameLength : identifier.length = identifier'.length)
    {assetA assetB assetC assetD : AssetId} :
    fromAssetsBytes identifier assetA assetB = fromAssetsBytes identifier' assetC assetD ↔
      identifier = identifier' ∧
        AssetPair.orderedPair ⟨assetA, assetB⟩ = AssetPair.orderedPair ⟨assetC, assetD⟩ := by
  rw [fromAssetsBytes_eq, fromAssetsBytes_eq]
  constructor
  · intro same
    obtain ⟨named, pairs⟩ := List.append_inj same sameLength
    obtain ⟨first, second⟩ := List.append_inj pairs rfl
    exact ⟨named, Prod.ext (toLeBytes_injective first) (toLeBytes_injective second)⟩
  · rintro ⟨rfl, same⟩
    rw [same]

/-- Under one identifier, a pair account identifies its unordered pair. -/
theorem fromAssets_eq_iff {identifier : List UInt8} {assetA assetB assetC assetD : AssetId} :
    fromAssets identifier assetA assetB = fromAssets identifier assetC assetD ↔
      AssetPair.orderedPair ⟨assetA, assetB⟩ = AssetPair.orderedPair ⟨assetC, assetD⟩ := by
  rw [fromAssets, fromAssets, AccountId.hashed.injEq, fromAssetsBytes_eq_iff rfl,
    and_iff_right rfl]

end Basilisk
