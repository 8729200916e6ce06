/-
# The ids of deposits

The id of a deposit's NFT is sixteen bytes: four of the liquidity pool's id and the
low twelve of a sequence number.  The other modules compute with ids as numbers;
here `get_next_nft_id` and `get_pool_id_from_nft_id` are written as in the pallet,
on the bytes and on the stored sequencer, which `try_mutate` restores when the call
fails, and the two descriptions are shown to agree.

The sequence number grows with every id that is returned and never reaches into the
bytes of the pool id, so no two ids of one sequencer are the same, whatever pools
they are made for.
-/

import Basilisk.LiquidityMining.Calls

namespace Basilisk.LiquidityMining

open Basilisk.Math

namespace Bytewise

/-- `POOL_ID_BYTES`. -/
def poolIdBytes : ℕ := 4

/-- `NFT_SEQUENCE_BYTES`. -/
def nftSequenceBytes : ℕ := 12

/-- `id_bytes`: the pool id, then the low bytes of the sequence number, a `u128`. -/
def idBytes (liqPoolId : UInt32) (currentId : ℕ) : List UInt8 :=
  toLeBytes liqPoolId ++ (toLe 16 currentId).take nftSequenceBytes

/-- The closure of `get_next_nft_id`: what it returns and what it leaves in the sequencer,
which is advanced before the bound is checked. -/
def advance (liqPoolId : UInt32) (currentId : ℕ) : Except Error ℕ × ℕ :=
  match checkedAdd u128Bound currentId 1 with
  | none => (.error .overflow, currentId)
  | some currentId =>
      if currentId ≤ maxNftInstanceSequencer then
        (.ok (fromLe (idBytes liqPoolId currentId)), currentId)
      else (.error .nftIdOverflow, currentId)

/-- `get_next_nft_id` on the stored sequencer. -/
def getNextNftId (liqPoolId : UInt32) : StateM ℕ (Except Error ℕ) := fun sequencer =>
  match validatePoolId liqPoolId.toNat with
  | .error e => (.error e, sequencer)
  | .ok () => tryMutate (advance liqPoolId) sequencer

/-- `get_pool_id_from_nft_id`. -/
def getPoolIdFromNftId (nftId : ℕ) : Except Error UInt32 := do
  ensure (4294967296 < nftId) .invalidNftId
  return .ofNat (fromLe ((toLe 16 nftId).take poolIdBytes))

/-- The ids that calls for the given pools return, one call after the other. -/
def issuedIds (liqPoolIds : List UInt32) (sequencer : ℕ) : List ℕ :=
  ((liqPoolIds.mapM getNextNftId).run sequencer).1.filterMap Except.toOption

section Agreement

/-- The bytes of an id, read as a number. -/
theorem fromLe_idBytes (liqPoolId : UInt32) (currentId : ℕ) :
    fromLe (idBytes liqPoolId currentId) = encodeNftId liqPoolId.toNat currentId := by
  rw [idBytes, take_toLe (by decide), fromLe_append, fromLe_toLeBytes, fromLe_toLe,
    length_toLeBytes, Nat.mul_comm]
  rfl

/-- The first bytes of an id, read as a number. -/
theorem fromLe_take_toLe (nftId : ℕ) :
    fromLe ((toLe 16 nftId).take poolIdBytes) = poolIdOf nftId := by
  rw [take_toLe (by decide), fromLe_toLe]
  rfl

/-- On the bytes and the stored sequencer the pallet returns and writes what the call on
numbers returns. -/
theorem getNextNftId_run (s : State) (liqPoolId : UInt32) :
    (getNextNftId liqPoolId).run s.nftInstanceSequencer =
      match LiquidityMining.getNextNftId s liqPoolId.toNat with
      | .ok (sequence, nftId) => (.ok nftId, sequence)
      | .error e => (.error e, s.nftInstanceSequencer) := by
  unfold StateT.run getNextNftId LiquidityMining.getNextNftId
  cases validatePoolId liqPoolId.toNat with
  | error e => rfl
  | ok =>
      rw [ok_bind, tryMutate, advance]
      cases checkedAdd u128Bound s.nftInstanceSequencer 1 with
      | none => rfl
      | some currentId =>
          dsimp only [okOr]
          rw [ok_bind, ensure, fromLe_idBytes]
          split_ifs <;> rfl

/-- The decoded pool id is the one the call on numbers returns. -/
theorem getPoolIdFromNftId_toNat (nftId : ℕ) :
    (getPoolIdFromNftId nftId).map UInt32.toNat =
      LiquidityMining.getPoolIdFromNftId nftId := by
  have word : poolIdOf nftId < 2 ^ 32 := Nat.mod_lt _ (by decide)
  unfold getPoolIdFromNftId LiquidityMining.getPoolIdFromNftId
  rw [map_bind, fromLe_take_toLe]
  simp only [map_return, UInt32.toNat_ofNat_of_lt' word]

end Agreement

section Issuing

variable {liqPoolId : UInt32} {sequencer : ℕ}

/-- A pool with an id gets the next sequence number while there is one. -/
theorem getNextNftId_ok (valid : liqPoolId ≠ 0) (room : sequencer < maxNftInstanceSequencer) :
    (getNextNftId liqPoolId).run sequencer =
      (.ok (encodeNftId liqPoolId.toNat (sequencer + 1)), sequencer + 1) := by
  have numbered : liqPoolId.toNat ≠ 0 := fun zero => valid (UInt32.toNat_inj.mp zero)
  have fits : sequencer + 1 < u128Bound := by
    unfold maxNftInstanceSequencer at room
    unfold u128Bound
    omega
  rw [StateT.run, getNextNftId, validatePoolId, ensure, if_pos numbered, tryMutate, advance,
    checkedAdd, if_pos fits]
  dsimp only
  rw [if_pos (Nat.succ_le_of_lt room), fromLe_idBytes]

/-- Without a pool id or a sequence number the call fails and leaves the sequencer alone. -/
theorem getNextNftId_error (refused : liqPoolId = 0 ∨ maxNftInstanceSequencer ≤ sequencer) :
    ∃ e, (getNextNftId liqPoolId).run sequencer = (.error e, sequencer) := by
  rw [StateT.run, getNextNftId, validatePoolId, ensure]
  split_ifs with numbered
  · have spent : ¬ sequencer + 1 ≤ maxNftInstanceSequencer := by
      rcases refused with rfl | spent
      · exact absurd rfl numbered
      · omega
    rw [tryMutate, advance]
    cases added : checkedAdd u128Bound sequencer 1 with
    | none => exact ⟨_, rfl⟩
    | some currentId =>
        obtain ⟨-, rfl⟩ := checkedAdd_eq_some.mp added
        dsimp only
        rw [if_neg spent]
        exact ⟨_, rfl⟩
  · exact ⟨_, rfl⟩

/-- An id fits a `u128`. -/
theorem encodeNftId_lt (liqPoolId : UInt32) (sequence : ℕ) :
    encodeNftId liqPoolId.toNat sequence < u128Bound := by
  have word := liqPoolId.toNat_lt
  unfold encodeNftId u128Bound
  omega

/-- An id that is returned decodes to the pool it was made for. -/
theorem getPoolIdFromNftId_encode (valid : liqPoolId ≠ 0)
    (room : sequencer < maxNftInstanceSequencer) :
    getPoolIdFromNftId (encodeNftId liqPoolId.toNat (sequencer + 1)) = .ok liqPoolId := by
  have numbered : liqPoolId.toNat ≠ 0 := fun zero => valid (UInt32.toNat_inj.mp zero)
  have long := lt_encodeNftId liqPoolId.toNat_lt (Nat.pos_of_ne_zero numbered) room
    (Nat.succ_pos sequencer)
  rw [getPoolIdFromNftId, fromLe_take_toLe, poolIdOf_encodeNftId liqPoolId.toNat_lt, ensure,
    if_pos long, ok_bind, UInt32.ofNat_toNat]
  rfl

theorem issuedIds_cons (liqPoolId : UInt32) (liqPoolIds : List UInt32) (sequencer : ℕ) :
    issuedIds (liqPoolId :: liqPoolIds) sequencer =
      match (getNextNftId liqPoolId).run sequencer with
      | (.ok nftId, next) => nftId :: issuedIds liqPoolIds next
      | (.error _, next) => issuedIds liqPoolIds next := by
  unfold issuedIds
  rw [List.mapM_cons, StateT.run_bind]
  rcases (getNextNftId liqPoolId).run sequencer with ⟨e | nftId, next⟩
  · rfl
  · rfl

/-- The sequence numbers of the returned ids rise, from above the sequencer on. -/
theorem sequences_rise (liqPoolIds : List UInt32) (sequencer : ℕ) :
    (∀ nftId ∈ issuedIds liqPoolIds sequencer, sequencer < nftId / 2 ^ 32) ∧
      (issuedIds liqPoolIds sequencer).Pairwise
        fun nftId nftId' => nftId / 2 ^ 32 < nftId' / 2 ^ 32 := by
  induction liqPoolIds generalizing sequencer with
  | nil => exact ⟨nofun, .nil⟩
  | cons liqPoolId liqPoolIds ih =>
      rw [issuedIds_cons]
      by_cases issued : liqPoolId ≠ 0 ∧ sequencer < maxNftInstanceSequencer
      · obtain ⟨later, rising⟩ := ih (sequencer + 1)
        have sequence : encodeNftId liqPoolId.toNat (sequencer + 1) / 2 ^ 32 = sequencer + 1 :=
          encodeNftId_div liqPoolId.toNat_lt issued.2
        rw [getNextNftId_ok issued.1 issued.2]
        refine ⟨?_, .cons ?_ rising⟩
        · intro nftId member
          rcases List.mem_cons.mp member with rfl | member
          · rw [sequence]
            exact Nat.lt_succ_self _
          · exact Nat.lt_of_succ_lt (later nftId member)
        · intro nftId member
          rw [sequence]
          exact later nftId member
      · rw [not_and_or, not_not, Nat.not_lt] at issued
        obtain ⟨e, failed⟩ := getNextNftId_error issued
        rw [failed]
        exact ih sequencer

/-- A pool with an id gets an id that decodes to it while there are sequence numbers; ids
returned by a sequence of calls differ; and without a sequence number the call fails and
leaves the sequencer as it was. -/
theorem nft_ids_decode :
    (∀ (liqPoolId : UInt32) (sequencer : ℕ), liqPoolId ≠ 0 →
      sequencer < maxNftInstanceSequencer →
      ∃ nftId < u128Bound,
        (getNextNftId liqPoolId).run sequencer = (.ok nftId, sequencer + 1) ∧
        getPoolIdFromNftId nftId = .ok liqPoolId) ∧
    (∀ (liqPoolIds : List UInt32) (sequencer : ℕ), (issuedIds liqPoolIds sequencer).Nodup) ∧
    ∀ (liqPoolId : UInt32) (sequencer : ℕ), maxNftInstanceSequencer ≤ sequencer →
      ∃ e, (getNextNftId liqPoolId).run sequencer = (.error e, sequencer) := by
  refine ⟨?_, ?_, ?_⟩
  · intro liqPoolId sequencer valid room
    exact ⟨_, encodeNftId_lt liqPoolId (sequencer + 1), getNextNftId_ok valid room,
      getPoolIdFromNftId_encode valid room⟩
  · intro liqPoolIds sequencer
    refine (sequences_rise liqPoolIds sequencer).2.imp ?_
    rintro nftId _ rising rfl
    exact lt_irrefl _ rising
  · intro liqPoolId sequencer spent
    exact getNextNftId_error (.inr spent)

/-- Pool 6886 gets the second id, in between a call without a pool id; the last sequence
number is taken, and then no more. -/
theorem nft_ids_decode_tested :
    issuedIds [1, 0, 6886, 1] 0 = [4294967297, 8589941478, 12884901889] ∧
      getPoolIdFromNftId 8589941478 = .ok 6886 ∧
      [4294967297, 8589941478, 12884901889].Nodup ∧
      (∃ nftId < u128Bound,
        (getNextNftId 1).run 79228162514264337593543950334 =
          (.ok nftId, 79228162514264337593543950335) ∧ getPoolIdFromNftId nftId = .ok 1) ∧
      ∃ e, (getNextNftId 1).run 79228162514264337593543950335 =
        (.error e, 79228162514264337593543950335) := by
  obtain ⟨decodes, distinct, exhausted⟩ := nft_ids_decode
  have issued : issuedIds [1, 0, 6886, 1] 0 = [4294967297, 8589941478, 12884901889] := by
    decide +kernel
  have differ := distinct [1, 0, 6886, 1] 0
  rw [issued] at differ
  exact ⟨issued, by decide +kernel, differ, decodes 1 _ (by decide) (by decide),
    exhausted 1 _ (by decide)⟩

end Issuing

end Bytewise

end Basilisk.LiquidityMining
