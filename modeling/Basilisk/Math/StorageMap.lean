/-
# Finite storage maps and weighted totals

A storage map is Mathlib's `AList`: a finite association list whose keys are
pairwise distinct.  This module adds the one operation bookkeeping proofs need
and Mathlib does not have, the total of a weight over all stored entries, with
the laws that say how the total moves when a single entry is written or
removed.  Counting entries is the total of a zero-one weight.
-/

import Mathlib.Algebra.BigOperators.Ring.List
import Mathlib.Algebra.Order.BigOperators.Group.List
import Mathlib.Algebra.Order.Ring.Nat
import Mathlib.Data.List.AList

namespace AList

universe u v

variable {K : Type u} {V : Type v}

/-- The sum of `weight` over every stored entry. -/
def total (weight : K → V → ℕ) (m : AList fun _ : K => V) : ℕ :=
  (m.entries.map fun entry => weight entry.1 entry.2).sum

/-- Totals are additive in the weight. -/
theorem total_add (weight weight' : K → V → ℕ) (m : AList fun _ : K => V) :
    total (fun k v => weight k v + weight' k v) m =
      total weight m + total weight' m :=
  List.sum_map_add

/-- A constant factor moves out of a total. -/
theorem total_mul_left (factor : ℕ) (weight : K → V → ℕ)
    (m : AList fun _ : K => V) :
    total (fun k v => factor * weight k v) m = factor * total weight m :=
  List.sum_map_mul_left _ _ _

variable [DecidableEq K]

/-- A written map, key by key. -/
theorem lookup_insert_eq_ite (m : AList fun _ : K => V) (k k' : K) (v : V) :
    (m.insert k v).lookup k' = if k' = k then some v else m.lookup k' := by
  split_ifs with same
  · subst same
    exact lookup_insert m
  · exact lookup_insert_ne same

/-- A map with one key removed, key by key. -/
theorem lookup_erase_eq_ite (m : AList fun _ : K => V) (k k' : K) :
    (m.erase k).lookup k' = if k' = k then none else m.lookup k' := by
  split_ifs with same
  · subst same
    exact lookup_erase k' m
  · exact lookup_erase_ne same

/-- A stored entry is not under an absent key. -/
theorem ne_of_lookup {m : AList fun _ : K => V} {k k' : K} {v : V}
    (absent : m.lookup k = none) (stored : m.lookup k' = some v) : k' ≠ k := by
  rintro rfl
  rw [absent] at stored
  cases stored

/-- Rewriting a stored entry adds no key. -/
theorem lookup_insert_of_absent {m : AList fun _ : K => V} {k k' : K} {v v' : V}
    (stored : m.lookup k = some v) (absent : m.lookup k' = none) :
    (m.insert k v').lookup k' = none := by
  have distinct : k' ≠ k := (ne_of_lookup absent stored).symm
  exact lookup_insert_eq_none.mpr ⟨distinct, absent⟩

/-- What holds of the new entry and of the other old ones holds of the written
map. -/
theorem forall_lookup_insert {P : K → V → Prop} {m : AList fun _ : K => V} {k : K} {v : V}
    (new : P k v) (old : ∀ k' v', k' ≠ k → m.lookup k' = some v' → P k' v') :
    ∀ k' v', (m.insert k v).lookup k' = some v' → P k' v' := by
  intro k' v' stored
  rw [lookup_insert_eq_ite] at stored
  split_ifs at stored with same
  · obtain rfl := Option.some.inj stored
    exact same ▸ new
  · exact old k' v' same stored

/-- What holds of the other entries holds of the map with one removed. -/
theorem forall_lookup_erase {P : K → V → Prop} {m : AList fun _ : K => V} {k : K}
    (old : ∀ k' v', k' ≠ k → m.lookup k' = some v' → P k' v') :
    ∀ k' v', (m.erase k).lookup k' = some v' → P k' v' := by
  intro k' v' stored
  rw [lookup_erase_eq_ite] at stored
  split_ifs at stored with same
  exact old k' v' same stored

theorem entries_erase (m : AList fun _ : K => V) (k : K) :
    (m.erase k).entries = m.entries.kerase k := rfl

/-- Taking one stored entry out lowers the total by exactly its weight. -/
theorem total_erase_add (weight : K → V → ℕ) {m : AList fun _ : K => V}
    {k : K} {v : V} (stored : m.lookup k = some v) :
    total weight (m.erase k) + weight k v = total weight m := by
  obtain ⟨entries, nodup⟩ := m
  have hmem : (⟨k, v⟩ : Sigma fun _ : K => V) ∈ entries :=
    List.of_mem_dlookup stored
  obtain ⟨v', before, after, _, hentries, hkerase⟩ :=
    List.exists_of_kerase (List.mem_keys_of_mem hmem)
  have hv : v' = v := by
    subst hentries
    exact List.NodupKeys.eq_of_mk_mem nodup (by simp) hmem
  subst hv
  simp only [total, entries_erase, hkerase]
  subst hentries
  simp only [List.map_append, List.map_cons, List.sum_append, List.sum_cons]
  omega

/-- Erasing an absent key changes nothing. -/
theorem erase_of_lookup_eq_none {m : AList fun _ : K => V} {k : K}
    (absent : m.lookup k = none) : m.erase k = m := by
  apply AList.ext
  exact List.kerase_of_notMem_keys (AList.lookup_eq_none.mp absent)

/-- Erasing a key forgets what was written under it. -/
theorem erase_insert (m : AList fun _ : K => V) (k : K) (v : V) :
    (m.insert k v).erase k = m.erase k := by
  apply AList.ext
  exact List.kerase_cons_eq rfl

/-- Writing an entry replaces whatever weight its key carried before. -/
theorem total_insert (weight : K → V → ℕ) (m : AList fun _ : K => V)
    (k : K) (v : V) :
    total weight (m.insert k v) = total weight (m.erase k) + weight k v := by
  simp only [total, AList.entries_insert, entries_erase, List.map_cons, List.sum_cons]
  omega

/-- Overwriting a stored entry: old total plus new weight equals new total plus
old weight. -/
theorem total_insert_add (weight : K → V → ℕ) {m : AList fun _ : K => V}
    {k : K} {old : V} (stored : m.lookup k = some old) (new : V) :
    total weight (m.insert k new) + weight k old =
      total weight m + weight k new := by
  have herase := total_erase_add weight stored
  have hinsert := total_insert weight m k new
  omega

/-- Writing a fresh key adds exactly the new weight. -/
theorem total_insert_of_none (weight : K → V → ℕ) {m : AList fun _ : K => V}
    {k : K} (absent : m.lookup k = none) (new : V) :
    total weight (m.insert k new) = total weight m + weight k new := by
  rw [total_insert, erase_of_lookup_eq_none absent]

/-- A stored entry is bounded by the total. -/
theorem weight_le_total (weight : K → V → ℕ) {m : AList fun _ : K => V}
    {k : K} {v : V} (stored : m.lookup k = some v) :
    weight k v ≤ total weight m := by
  have herase := total_erase_add weight stored
  omega

/-- Distinct stored entries that weigh enough make the total at least as heavy. -/
theorem length_mul_le_total (weight : K → V → ℕ) {m : AList fun _ : K => V} {keys : List K}
    {amount : ℕ} (distinct : keys.Nodup)
    (stored : ∀ k ∈ keys, ∃ v, m.lookup k = some v ∧ amount ≤ weight k v) :
    keys.length * amount ≤ total weight m := by
  induction keys generalizing m with
  | nil =>
      rw [List.length_nil, Nat.zero_mul]
      exact Nat.zero_le _
  | cons key keys ih =>
      obtain ⟨fresh, distinct⟩ := List.nodup_cons.mp distinct
      obtain ⟨v, here, heavy⟩ := stored key List.mem_cons_self
      -- the others are still stored when the first entry is taken out
      have others : keys.length * amount ≤ total weight (m.erase key) := by
        refine ih distinct fun k listed => ?_
        rw [lookup_erase_ne (ne_of_mem_of_not_mem listed fresh)]
        exact stored k (List.mem_cons_of_mem _ listed)
      have parts := total_erase_add weight here
      rw [List.length_cons, Nat.add_mul, Nat.one_mul]
      omega

/-- Entries of the underlying list are exactly the successful lookups. -/
theorem lookup_eq_some_of_mem {m : AList fun _ : K => V}
    {entry : Sigma fun _ : K => V} (hmem : entry ∈ m.entries) :
    m.lookup entry.1 = some entry.2 :=
  AList.mem_lookup_iff.mpr hmem

/-- Totals compare pointwise on the stored entries. -/
theorem total_le_total {weight weight' : K → V → ℕ} {m : AList fun _ : K => V}
    (pointwise : ∀ k v, m.lookup k = some v → weight k v ≤ weight' k v) :
    total weight m ≤ total weight' m := by
  apply List.sum_le_sum
  intro entry hmem
  exact pointwise _ _ (lookup_eq_some_of_mem hmem)

/-- Totals depend only on the weights of stored entries. -/
theorem total_congr {weight weight' : K → V → ℕ} {m : AList fun _ : K => V}
    (pointwise : ∀ k v, m.lookup k = some v → weight k v = weight' k v) :
    total weight m = total weight' m :=
  le_antisymm
    (total_le_total fun k v stored => (pointwise k v stored).le)
    (total_le_total fun k v stored => (pointwise k v stored).ge)

/-- A total vanishes when every stored weight does. -/
theorem total_eq_zero {weight : K → V → ℕ} {m : AList fun _ : K => V}
    (pointwise : ∀ k v, m.lookup k = some v → weight k v = 0) :
    total weight m = 0 := by
  have hconst : total weight m = total (fun _ _ => 0) m := total_congr pointwise
  rw [hconst]
  simp [total]

end AList
