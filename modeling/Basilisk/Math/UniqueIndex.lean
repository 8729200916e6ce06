/-
# Unique indexes over a storage map

A table stores entries under keys, and every entry names a slot.  The slots in use
are marked in a second map, the index.  The index is exact if a slot is marked
exactly when some entry names it, and unique if no two entries name the same slot.
Both survive the ways a table is written: a new entry in a free slot, an entry that
keeps or changes its slot, and an entry that is removed with its mark.
-/

import Basilisk.Math.StorageMap

namespace Basilisk.Math

universe u v w x

variable {K : Type u} {V : Type v} {I : Type w} {M : Type x}
variable [DecidableEq K] [DecidableEq I]

/-- The index marks exactly the slots in use, each used by one entry. -/
structure UniqueIndex (slot : V → I) (mark : M) (table : AList fun _ : K => V)
    (index : AList fun _ : I => M) : Prop where
  marked : ∀ i m, index.lookup i = some m → m = mark
  used : ∀ i, index.lookup i = some mark ↔ ∃ k v, table.lookup k = some v ∧ slot v = i
  unique : ∀ k k' v v', table.lookup k = some v → table.lookup k' = some v' →
    slot v = slot v' → k = k'

namespace UniqueIndex

variable {slot : V → I} {mark : M} {table table' : AList fun _ : K => V}
variable {index : AList fun _ : I => M} {k k' : K} {v v' old : V} {i : I}

theorem empty : UniqueIndex slot mark (∅ : AList fun _ : K => V) ∅ where
  marked i m found := by
    rw [AList.lookup_empty] at found
    cases found
  used i := by simp
  unique k k' v v' found := by
    rw [AList.lookup_empty] at found
    cases found

/-- The index depends on what the table answers. -/
theorem congr (exact : UniqueIndex slot mark table index)
    (same : ∀ k, table'.lookup k = table.lookup k) : UniqueIndex slot mark table' index where
  marked := exact.marked
  used i := by simp only [same, exact.used]
  unique k k' v v' := by
    rw [same, same]
    exact exact.unique k k' v v'

/-- A slot without a mark is free. -/
theorem free_of_lookup (exact : UniqueIndex slot mark table index)
    (free : index.lookup i ≠ some mark) (stored : table.lookup k = some v) : slot v ≠ i := by
  intro here
  exact free ((exact.used i).mpr ⟨k, v, stored, here⟩)

/-- Store a new entry in a free slot. -/
theorem insert (exact : UniqueIndex slot mark table index) (fresh : table.lookup k = none)
    (free : index.lookup (slot v) ≠ some mark) :
    UniqueIndex slot mark (table.insert k v) (index.insert (slot v) mark) where
  marked i m found := by
    rw [AList.lookup_insert_eq_ite] at found
    split_ifs at found
    · exact (Option.some.inj found).symm
    · exact exact.marked i m found
  used i := by
    rw [AList.lookup_insert_eq_ite]
    by_cases here : i = slot v
    · rw [if_pos here]
      exact iff_of_true rfl ⟨k, v, AList.lookup_insert _, here.symm⟩
    · rw [if_neg here, exact.used]
      constructor
      · rintro ⟨k', v', stored, named⟩
        have elsewhere : k' ≠ k := AList.ne_of_lookup fresh stored
        exact ⟨k', v', (AList.lookup_insert_ne elsewhere).trans stored, named⟩
      · rintro ⟨k', v', stored, named⟩
        rw [AList.lookup_insert_eq_ite] at stored
        split_ifs at stored
        · obtain rfl := Option.some.inj stored
          exact absurd named.symm here
        · exact ⟨k', v', stored, named⟩
  unique k₁ k₂ v₁ v₂ first second same := by
    rw [AList.lookup_insert_eq_ite] at first second
    split_ifs at first second with here there there
    · rw [here, there]
    · obtain rfl := Option.some.inj first
      exact absurd same.symm (exact.free_of_lookup free second)
    · obtain rfl := Option.some.inj second
      exact absurd same (exact.free_of_lookup free first)
    · exact exact.unique _ _ _ _ first second same

/-- Remove an entry with its mark. -/
theorem erase (exact : UniqueIndex slot mark table index) (stored : table.lookup k = some old) :
    UniqueIndex slot mark (table.erase k) (index.erase (slot old)) where
  marked i m found := by
    rw [AList.lookup_erase_eq_ite] at found
    split_ifs at found
    exact exact.marked i m found
  used i := by
    simp only [AList.lookup_erase_eq_ite]
    constructor
    · intro found
      split_ifs at found with here
      obtain ⟨k', v', stored', named⟩ := (exact.used i).mp found
      have elsewhere : k' ≠ k := by
        rintro rfl
        rw [stored, Option.some.injEq] at stored'
        exact here (named.symm.trans (congrArg slot stored'.symm))
      exact ⟨k', v', by rw [if_neg elsewhere, stored'], named⟩
    · rintro ⟨k', v', stored', named⟩
      split_ifs at stored' with here
      have elsewhere : i ≠ slot old := by
        intro same
        exact here (exact.unique _ _ _ _ stored' stored (named.trans same))
      rw [if_neg elsewhere]
      exact (exact.used i).mpr ⟨k', v', stored', named⟩
  unique k₁ k₂ v₁ v₂ first second same := by
    rw [AList.lookup_erase_eq_ite] at first second
    split_ifs at first second
    exact exact.unique _ _ _ _ first second same

/-- Rewrite an entry that moves to a free slot. -/
theorem move (exact : UniqueIndex slot mark table index) (stored : table.lookup k = some old)
    (free : index.lookup (slot v) ≠ some mark) :
    UniqueIndex slot mark (table.insert k v)
      ((index.erase (slot old)).insert (slot v) mark) := by
  have free' : (index.erase (slot old)).lookup (slot v) ≠ some mark := by
    rw [AList.lookup_erase_eq_ite]
    split_ifs
    · simp
    · exact free
  refine ((exact.erase stored).insert (AList.lookup_erase k table) free').congr ?_
  intro k'
  simp only [AList.lookup_insert_eq_ite, AList.lookup_erase_eq_ite]
  split_ifs <;> rfl

/-- Rewrite an entry in its slot. -/
theorem rewrite (exact : UniqueIndex slot mark table index) (stored : table.lookup k = some old)
    (same : slot v = slot old) : UniqueIndex slot mark (table.insert k v) index where
  marked := exact.marked
  used i := by
    rw [exact.used]
    constructor
    · rintro ⟨k', v', stored', named⟩
      by_cases here : k' = k
      · subst here
        rw [stored, Option.some.injEq] at stored'
        exact ⟨k', v, AList.lookup_insert _, by rw [same, stored', named]⟩
      · exact ⟨k', v', (AList.lookup_insert_ne here).trans stored', named⟩
    · rintro ⟨k', v', stored', named⟩
      rw [AList.lookup_insert_eq_ite] at stored'
      split_ifs at stored' with here
      · obtain rfl := Option.some.inj stored'
        exact ⟨k, old, stored, same.symm.trans named⟩
      · exact ⟨k', v', stored', named⟩
  unique k₁ k₂ v₁ v₂ first second agree := by
    rw [AList.lookup_insert_eq_ite] at first second
    split_ifs at first second with here there there
    · rw [here, there]
    · obtain rfl := Option.some.inj first
      rw [here]
      exact exact.unique _ _ _ _ stored second (same.symm.trans agree)
    · obtain rfl := Option.some.inj second
      rw [there]
      exact exact.unique _ _ _ _ first stored (agree.trans same)
    · exact exact.unique _ _ _ _ first second agree

/-- A slot is marked exactly if one entry names it. -/
theorem marked_iff_existsUnique (exact : UniqueIndex slot mark table index) :
    index.lookup i = some mark ↔ ∃! k, ∃ v, table.lookup k = some v ∧ slot v = i := by
  rw [exact.used]
  constructor
  · rintro ⟨k, v, stored, named⟩
    refine ⟨k, ⟨v, stored, named⟩, ?_⟩
    rintro k' ⟨v', stored', named'⟩
    exact exact.unique _ _ _ _ stored' stored (named'.trans named.symm)
  · rintro ⟨k, ⟨v, stored, named⟩, -⟩
    exact ⟨k, v, stored, named⟩

end UniqueIndex

end Basilisk.Math
