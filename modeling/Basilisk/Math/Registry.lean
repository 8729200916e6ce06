/-
# A registry with one owner per token

Tokens are numbered inside classes.  A class has an owner, and every minted token
has exactly one owner, because both are finite maps.  The operations refuse only
what the maps themselves rule out; who may call them is decided by the caller.
Classes, instances and accounts are arbitrary types.
-/

import Basilisk.Math.StorageMap

namespace Basilisk.Math

universe u v w

/-- Owners of classes and of their tokens. -/
structure Registry (Class : Type u) (Instance : Type v) (Account : Type w) where
  classOwner : AList fun _ : Class => Account
  owner : AList fun _ : Class × Instance => Account

namespace Registry

variable {Class : Type u} {Instance : Type v} {Account : Type w}
variable [DecidableEq Class] [DecidableEq Instance]

/-- The owner of a token, if it is minted. -/
def ownerOf (registry : Registry Class Instance Account) (token : Class × Instance) :
    Option Account :=
  registry.owner.lookup token

/-- Register a class that does not exist yet. -/
def createClass (registry : Registry Class Instance Account) (cls : Class)
    (who : Account) : Option (Registry Class Instance Account) :=
  if (registry.classOwner.lookup cls).isNone then
    some { registry with classOwner := registry.classOwner.insert cls who }
  else none

/-- Mint a new token of an existing class. -/
def mint (registry : Registry Class Instance Account) (token : Class × Instance)
    (who : Account) : Option (Registry Class Instance Account) :=
  if (registry.classOwner.lookup token.1).isSome ∧ registry.ownerOf token = none then
    some { registry with owner := registry.owner.insert token who }
  else none

/-- Hand a minted token to another account. -/
def transfer (registry : Registry Class Instance Account) (token : Class × Instance)
    (receiver : Account) : Option (Registry Class Instance Account) :=
  if (registry.ownerOf token).isSome then
    some { registry with owner := registry.owner.insert token receiver }
  else none

/-- Remove a minted token. -/
def burn (registry : Registry Class Instance Account) (token : Class × Instance) :
    Option (Registry Class Instance Account) :=
  if (registry.ownerOf token).isSome then
    some { registry with owner := registry.owner.erase token }
  else none

/-- The number of minted tokens of a class, if the class exists. -/
def instancesOf (registry : Registry Class Instance Account) (cls : Class) : Option ℕ :=
  (registry.classOwner.lookup cls).map fun _ =>
    (registry.owner.keys.filter fun token => token.1 = cls).length

/-- Remove a class, on behalf of its owner. -/
def destroyClass [DecidableEq Account] (registry : Registry Class Instance Account) (cls : Class)
    (who : Account) : Option (Registry Class Instance Account) :=
  if registry.classOwner.lookup cls = some who then
    some { registry with classOwner := registry.classOwner.erase cls }
  else none

variable {registry registry' : Registry Class Instance Account}
variable {token other : Class × Instance} {cls : Class} {who receiver : Account}

/-- After minting, the token has the new owner and no other token changed. -/
theorem ownerOf_mint (minted : registry.mint token who = some registry') :
    registry.ownerOf token = none ∧
      registry'.ownerOf other =
        if other = token then some who else registry.ownerOf other := by
  unfold mint at minted
  split_ifs at minted with allowed
  obtain rfl := Option.some.inj minted
  refine ⟨allowed.2, ?_⟩
  split_ifs with same
  · subst same
    exact AList.lookup_insert _
  · exact AList.lookup_insert_ne same

/-- A transfer changes the owner of one minted token. -/
theorem ownerOf_transfer (moved : registry.transfer token receiver = some registry') :
    (registry.ownerOf token).isSome = true ∧
      registry'.ownerOf other =
        if other = token then some receiver else registry.ownerOf other := by
  unfold transfer at moved
  split_ifs at moved with present
  obtain rfl := Option.some.inj moved
  refine ⟨present, ?_⟩
  split_ifs with same
  · subst same
    exact AList.lookup_insert _
  · exact AList.lookup_insert_ne same

/-- Burning removes one minted token. -/
theorem ownerOf_burn (burned : registry.burn token = some registry') :
    (registry.ownerOf token).isSome = true ∧
      registry'.ownerOf other =
        if other = token then none else registry.ownerOf other := by
  unfold burn at burned
  split_ifs at burned with present
  obtain rfl := Option.some.inj burned
  refine ⟨present, ?_⟩
  split_ifs with same
  · subst same
    exact AList.lookup_erase _ _
  · exact AList.lookup_erase_ne same

/-- A minted token can always be burned. -/
theorem burn_isSome (present : (registry.ownerOf token).isSome = true) :
    ∃ registry', registry.burn token = some registry' := by
  unfold burn
  rw [if_pos present]
  exact ⟨_, rfl⟩

/-- Creating a class leaves every token alone. -/
theorem ownerOf_createClass (created : registry.createClass cls who = some registry') :
    registry'.ownerOf other = registry.ownerOf other := by
  unfold createClass at created
  split_ifs at created
  obtain rfl := Option.some.inj created
  rfl

/-- Destroying a class leaves every token alone. -/
theorem ownerOf_destroyClass [DecidableEq Account]
    (destroyed : registry.destroyClass cls who = some registry') :
    registry'.ownerOf other = registry.ownerOf other := by
  unfold destroyClass at destroyed
  split_ifs at destroyed
  obtain rfl := Option.some.inj destroyed
  rfl

theorem mint_eq_some_iff : registry.mint token who = some registry' ↔
    ((∃ owner, registry.classOwner.lookup token.1 = some owner) ∧
        registry.ownerOf token = none) ∧
      { registry with owner := registry.owner.insert token who } = registry' := by
  rw [mint, Option.ite_none_right_eq_some, Option.some_inj, Option.isSome_iff_exists]

theorem transfer_eq_some_iff : registry.transfer token receiver = some registry' ↔
    (∃ owner, registry.ownerOf token = some owner) ∧
      { registry with owner := registry.owner.insert token receiver } = registry' := by
  rw [transfer, Option.ite_none_right_eq_some, Option.some_inj, Option.isSome_iff_exists]

theorem burn_eq_some_iff : registry.burn token = some registry' ↔
    (∃ owner, registry.ownerOf token = some owner) ∧
      { registry with owner := registry.owner.erase token } = registry' := by
  rw [burn, Option.ite_none_right_eq_some, Option.some_inj, Option.isSome_iff_exists]

/-- A class without instances has no token. -/
theorem unowned_of_instancesOf (empty : registry.instancesOf cls = some 0) (number : Instance) :
    registry.ownerOf (cls, number) = none := by
  obtain ⟨_, -, count⟩ := Option.map_eq_some_iff.mp empty
  refine AList.lookup_eq_none.mpr fun member => ?_
  have none := List.filter_eq_nil_iff.mp (List.length_eq_zero_iff.mp count) _ member
  exact none (decide_eq_true rfl)

theorem instancesOf_of_unowned {owner : Account}
    (known : registry.classOwner.lookup cls = some owner)
    (unowned : ∀ number, registry.ownerOf (cls, number) = none) :
    registry.instancesOf cls = some 0 := by
  have none : (registry.owner.keys.filter fun token => token.1 = cls) = [] := by
    refine List.filter_eq_nil_iff.mpr ?_
    rintro ⟨home, number⟩ member here
    obtain rfl := of_decide_eq_true here
    exact AList.lookup_eq_none.mp (unowned number) member
  rw [instancesOf, known, Option.map_some, none, List.length_nil]

/-- Every minted token belongs to a class that exists. -/
def Housed (registry : Registry Class Instance Account) : Prop :=
  ∀ token who, registry.ownerOf token = some who →
    ∃ owner, registry.classOwner.lookup token.1 = some owner

/-- A token is not in a class that does not exist. -/
theorem Housed.ne_of_lookup (housed : registry.Housed)
    (absent : registry.classOwner.lookup cls = none)
    (minted : registry.ownerOf token = some who) : token.1 ≠ cls := by
  obtain ⟨owner, known⟩ := housed _ _ minted
  exact AList.ne_of_lookup absent known

theorem Housed.createClass (housed : registry.Housed) (cls : Class) (who : Account) :
    Housed { registry with classOwner := registry.classOwner.insert cls who } := by
  intro token holder minted
  obtain ⟨owner, known⟩ := housed token holder minted
  dsimp only
  rw [AList.lookup_insert_eq_ite]
  split_ifs with here
  · exact ⟨who, rfl⟩
  · exact ⟨owner, known⟩

/-- Tokens are added only to classes that exist. -/
theorem Housed.insert (housed : registry.Housed)
    (known : ∃ owner, registry.classOwner.lookup token.1 = some owner) :
    Housed { registry with owner := registry.owner.insert token who } :=
  AList.forall_lookup_insert (m := registry.owner) known fun token holder _ minted =>
    housed token holder minted

theorem Housed.erase (housed : registry.Housed) (token : Class × Instance) :
    Housed { registry with owner := registry.owner.erase token } :=
  AList.forall_lookup_erase (m := registry.owner) fun token holder _ minted =>
    housed token holder minted

/-- A class can go as soon as it has no tokens. -/
theorem Housed.destroyClass (housed : registry.Housed)
    (empty : registry.instancesOf cls = some 0) :
    Housed { registry with classOwner := registry.classOwner.erase cls } := by
  rintro ⟨home, number⟩ holder minted
  have elsewhere : home ≠ cls := by
    rintro rfl
    exact absurd ((unowned_of_instancesOf empty number).symm.trans minted) nofun
  obtain ⟨owner, known⟩ := housed _ _ minted
  exact ⟨owner, (AList.lookup_erase_ne elsewhere).trans known⟩

end Registry

section Classes

variable {Class : Type u} {Instance : Type v} {Account : Type w} [DecidableEq Class]
variable {registry registry' : Registry Class Instance Account} {cls : Class} {who : Account}

theorem Registry.createClass_eq_some_iff : registry.createClass cls who = some registry' ↔
    registry.classOwner.lookup cls = none ∧
      { registry with classOwner := registry.classOwner.insert cls who } = registry' := by
  rw [createClass, Option.ite_none_right_eq_some, Option.some_inj, Option.isNone_iff_eq_none]

theorem Registry.destroyClass_eq_some_iff [DecidableEq Account] :
    registry.destroyClass cls who = some registry' ↔
      registry.classOwner.lookup cls = some who ∧
        { registry with classOwner := registry.classOwner.erase cls } = registry' := by
  rw [destroyClass, Option.ite_none_right_eq_some, Option.some_inj]

end Classes

end Basilisk.Math
