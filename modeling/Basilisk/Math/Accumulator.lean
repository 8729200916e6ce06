/-
# Lazy distribution by reward per share

Rewards arrive for a whole group and are divided in proportion to stakes, without
touching the members: a running reward per share grows, and a member is owed its
stake times what the reward per share gained since the member's checkpoint.  The
members are the entries of a finite map, each read as a `Share`; an entry that
does not belong to the group has no stake.
-/

import Basilisk.Math.StorageMap

namespace Basilisk.Math

universe u v

/-- A stake, and the reward per share up to which it was paid. -/
structure Share where
  stake : ℕ
  checkpoint : ℕ

namespace Share

/-- Nothing at stake. -/
def none : Share := ⟨0, 0⟩

/-- What a share is owed at a reward per share. -/
def entitlement (rps : ℕ) (share : Share) : ℕ :=
  (rps - share.checkpoint) * share.stake

variable {rps : ℕ} {share share' : Share}

@[simp]
theorem entitlement_none : none.entitlement rps = 0 := Nat.mul_zero _

/-- A share that was just paid is owed nothing. -/
theorem entitlement_of_current (current : share.checkpoint = rps) :
    share.entitlement rps = 0 := by
  unfold entitlement
  rw [current, Nat.sub_self, Nat.zero_mul]

/-- A gain per share is owed once for every unit of stake. -/
theorem entitlement_add (behind : share.checkpoint ≤ rps) (gain : ℕ) :
    share.entitlement (rps + gain) = share.entitlement rps + gain * share.stake := by
  unfold entitlement
  rw [← Nat.add_mul, Nat.sub_add_comm behind]

/-- A gain per share is owed at most once for every unit of stake. -/
theorem entitlement_add_le (rps gain : ℕ) (share : Share) :
    share.entitlement (rps + gain) ≤ share.entitlement rps + gain * share.stake := by
  unfold entitlement
  rw [← Nat.add_mul]
  exact Nat.mul_le_mul_right _ (by omega)

/-- One share of a distributed reward is a part of it. -/
theorem entitlement_distribute {total : ℕ} (held : share.stake ≤ total) (rps reward : ℕ) :
    share.entitlement (rps + reward / total) ≤ share.entitlement rps + reward := by
  refine (entitlement_add_le rps _ share).trans (Nat.add_le_add_left ?_ _)
  exact (Nat.mul_le_mul_left _ held).trans (Nat.div_mul_le_self _ _)

end Share

variable {K : Type u} {V : Type v} [DecidableEq K]

/-- The stake of the whole group. -/
def staked (shareOf : K → V → Share) (members : AList fun _ : K => V) : ℕ :=
  members.total fun k v => (shareOf k v).stake

/-- What the whole group is owed. -/
def entitlements (shareOf : K → V → Share) (rps : ℕ) (members : AList fun _ : K => V) : ℕ :=
  members.total fun k v => (shareOf k v).entitlement rps

/-- Nobody was paid ahead of the reward per share. -/
def Behind (shareOf : K → V → Share) (rps : ℕ) (members : AList fun _ : K => V) : Prop :=
  ∀ k v, members.lookup k = some v → (shareOf k v).checkpoint ≤ rps

variable {shareOf : K → V → Share} {rps : ℕ} {members : AList fun _ : K => V}

/-- A gain per share is owed once for every unit of stake in the group. -/
theorem entitlements_add (behind : Behind shareOf rps members) (gain : ℕ) :
    entitlements shareOf (rps + gain) members =
      entitlements shareOf rps members + gain * staked shareOf members := by
  unfold entitlements staked
  rw [← AList.total_mul_left, ← AList.total_add]
  apply AList.total_congr
  intro k v stored
  exact Share.entitlement_add (behind k v stored) gain

/-- Distributing a reward over the group never promises more than the reward. -/
theorem entitlements_distribute (behind : Behind shareOf rps members) (reward : ℕ) :
    entitlements shareOf (rps + reward / staked shareOf members) members ≤
      entitlements shareOf rps members + reward := by
  rw [entitlements_add behind]
  exact Nat.add_le_add_left (Nat.div_mul_le_self _ _) _

theorem Behind.mono {rps' : ℕ} (behind : Behind shareOf rps members) (later : rps ≤ rps') :
    Behind shareOf rps' members :=
  fun k v stored => (behind k v stored).trans later

theorem Behind.insert (behind : Behind shareOf rps members) {k : K} {v : V}
    (new : (shareOf k v).checkpoint ≤ rps) : Behind shareOf rps (members.insert k v) :=
  AList.forall_lookup_insert new fun k' v' _ stored => behind k' v' stored

theorem Behind.erase (behind : Behind shareOf rps members) (k : K) :
    Behind shareOf rps (members.erase k) :=
  AList.forall_lookup_erase fun k' v' _ stored => behind k' v' stored

/-- Rewriting a member moves the group's claim by the change of its own. -/
theorem entitlements_insert (shareOf : K → V → Share) (rps : ℕ) {k : K} {v : V}
    (stored : members.lookup k = some v) (v' : V) :
    entitlements shareOf rps (members.insert k v') + (shareOf k v).entitlement rps =
      entitlements shareOf rps members + (shareOf k v').entitlement rps :=
  AList.total_insert_add (fun k v => (shareOf k v).entitlement rps) stored v'

theorem entitlements_insert_of_none (shareOf : K → V → Share) (rps : ℕ) {k : K}
    (absent : members.lookup k = none) (v : V) :
    entitlements shareOf rps (members.insert k v) =
      entitlements shareOf rps members + (shareOf k v).entitlement rps :=
  AList.total_insert_of_none (fun k v => (shareOf k v).entitlement rps) absent v

theorem entitlements_erase (shareOf : K → V → Share) (rps : ℕ) {k : K} {v : V}
    (stored : members.lookup k = some v) :
    entitlements shareOf rps (members.erase k) + (shareOf k v).entitlement rps =
      entitlements shareOf rps members :=
  AList.total_erase_add (fun k v => (shareOf k v).entitlement rps) stored

/-- One member is owed no more than the group. -/
theorem entitlement_le_entitlements (shareOf : K → V → Share) (rps : ℕ) {k : K} {v : V}
    (stored : members.lookup k = some v) :
    (shareOf k v).entitlement rps ≤ entitlements shareOf rps members :=
  AList.weight_le_total (fun k v => (shareOf k v).entitlement rps) stored

end Basilisk.Math
