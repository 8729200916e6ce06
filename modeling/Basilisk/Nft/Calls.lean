/-
# Calls of the NFT pallet

A call mints a token for its signer, hands a token of its signer on, or burns it;
everything else leaves all owners alone.  Which calls a class allows depends on
its type: the tokens of a reserved class that is not a marketplace class are
neither minted nor burned by anybody's call, they only change hands.
-/

import Basilisk.Nft.Model

namespace Basilisk.Nft

open Basilisk.Math

/-- The pallet's extrinsics; `who` is the key that signed. -/
inductive Call
  | createClass (who classId : ℕ) (classType : ClassType) (metadata : List UInt8)
  | mint (who : ℕ) (token : Token) (metadata : List UInt8)
  | transfer (who : ℕ) (token : Token) (dest : AccountId)
  | burn (who : ℕ) (token : Token)
  | destroyClass (who classId : ℕ)
  deriving DecidableEq, Repr

def dispatch (cfg : Config) (s : State) : Call → Except Error State
  | .createClass who classId classType metadata =>
      createClass cfg s (.signer who) classId classType metadata
  | .mint who token metadata => mint s (.signer who) token metadata
  | .transfer who token dest => transfer s (.signer who) token dest
  | .burn who token => burn s (.signer who) token
  | .destroyClass who classId => destroyClass s (.signer who) classId

section Inversion

variable {cfg : Config} {s t : State} {who : AccountId} {token : Token} {classId : ℕ}

theorem classType_eq_ok {classType : ClassType} :
    s.classType classId = .ok classType ↔
      ∃ info, s.classes.lookup classId = some info ∧ info.classType = classType := by
  rw [State.classType, okOr_eq_ok, Option.map_eq_some_iff]

theorem createClass_ok {classType : ClassType} {metadata : List UInt8}
    (called : createClass cfg s who classId classType metadata = .ok t) :
    cfg.reserveClassIdUpTo < classId ∧ (∀ token, t.owner token = s.owner token) ∧
      t.classes = s.classes.insert classId ⟨.default, metadata⟩ := by
  simp only [createClass, doCreateClass, bind_eq_ok, ensure_eq_ok, okOr_eq_ok, return_eq_ok,
    exists_const] at called
  obtain ⟨unreserved, -, uniques, created, rfl⟩ := called
  exact ⟨unreserved, fun _ => Registry.ownerOf_createClass created, rfl⟩

/-- Minting and burning are for marketplace classes. -/
theorem mint_ok {metadata : List UInt8} (called : mint s who token metadata = .ok t) :
    (∃ info, s.classes.lookup token.1 = some info ∧ info.classType = .marketplace) ∧
      s.owner token = none ∧
      (∀ other, t.owner other = if other = token then some who else s.owner other) ∧
      t.classes = s.classes := by
  simp only [mint, bind_eq_ok, ensure_eq_ok, exists_const, classType_eq_ok] at called
  obtain ⟨classType, known, allowed, minted⟩ := called
  obtain rfl : classType = .marketplace := by simpa [ClassType.canMint] using allowed
  have owners : ∀ other, s.owner token = none ∧
      t.owner other = if other = token then some who else s.owner other := fun _ =>
    owner_doMint minted
  exact ⟨known, (owners token).1, fun other => (owners other).2, doMint_classes minted⟩

theorem burn_ok (called : burn s who token = .ok t) :
    (∃ info, s.classes.lookup token.1 = some info ∧ info.classType = .marketplace) ∧
      s.owner token = some who ∧
      (∀ other, t.owner other = if other = token then none else s.owner other) ∧
      t.classes = s.classes := by
  simp only [burn, bind_eq_ok, ensure_eq_ok, exists_const, classType_eq_ok] at called
  obtain ⟨classType, known, allowed, burned⟩ := called
  obtain rfl : classType = .marketplace := by simpa [ClassType.canBurn] using allowed
  have owners : ∀ other, s.owner token = some who ∧
      t.owner other = if other = token then none else s.owner other := fun _ =>
    owner_doBurn burned
  exact ⟨known, (owners token).1, fun other => (owners other).2, doBurn_classes burned⟩

theorem transfer_ok {dest : AccountId} (called : transfer s who token dest = .ok t) :
    ((who = dest ∧ t = s) ∨
      (who ≠ dest ∧ s.owner token = some who ∧
        ∀ other, t.owner other = if other = token then some dest else s.owner other)) ∧
      t.classes = s.classes := by
  simp only [transfer, bind_eq_ok, ensure_eq_ok, exists_const] at called
  obtain ⟨classType, -, -, moved⟩ := called
  refine ⟨owner_doTransfer moved, ?_⟩
  unfold doTransfer at moved
  split_ifs at moved
  · rw [← return_eq_ok.mp moved]
  · simp only [bind_eq_ok, okOr_eq_ok, ensure_eq_ok, return_eq_ok, exists_const] at moved
    obtain ⟨_, -, -, uniques, -, rfl⟩ := moved
    rfl

theorem destroyClass_ok (called : destroyClass s who classId = .ok t) :
    (∃ info, s.classes.lookup classId = some info ∧ info.classType = .marketplace) ∧
      (∀ token, t.owner token = s.owner token) ∧ t.classes = s.classes.erase classId := by
  simp only [destroyClass, doDestroyClass, bind_eq_ok, ensure_eq_ok, okOr_eq_ok, return_eq_ok,
    exists_const, classType_eq_ok] at called
  obtain ⟨classType, known, allowed, _, -, -, uniques, destroyed, rfl⟩ := called
  obtain rfl : classType = .marketplace := by simpa [ClassType.canDestroy] using allowed
  exact ⟨known, fun _ => Registry.ownerOf_destroyClass destroyed, rfl⟩

end Inversion

section Calls

variable {cfg : Config} {s t : State} {call : Call} {token : Token}

/-- How a call can change the owner of a token. -/
inductive Call.Moves (s t : State) (token : Token) : Call → Prop
  | mint {who : ℕ} {metadata : List UInt8} (unowned : s.owner token = none)
      (owned : t.owner token = some (.signer who)) : Moves s t token (.mint who token metadata)
  | transfer {who : ℕ} {dest : AccountId} (distinct : .signer who ≠ dest)
      (held : s.owner token = some (.signer who)) (owned : t.owner token = some dest) :
      Moves s t token (.transfer who token dest)
  | burn {who : ℕ} (held : s.owner token = some (.signer who)) (gone : t.owner token = none) :
      Moves s t token (.burn who token)

theorem owner_dispatch (called : dispatch cfg s call = .ok t) (token : Token) :
    t.owner token = s.owner token ∨ call.Moves s t token := by
  cases call with
  | createClass => exact .inl ((createClass_ok called).2.1 token)
  | destroyClass => exact .inl ((destroyClass_ok called).2.1 token)
  | mint who minted metadata =>
      obtain ⟨-, unowned, owners, -⟩ := mint_ok called
      have owner := owners token
      split_ifs at owner with here
      · subst here
        exact .inr (.mint unowned owner)
      · exact .inl owner
  | transfer who moved dest =>
      obtain ⟨⟨-, rfl⟩ | ⟨distinct, held, owners⟩, -⟩ := transfer_ok called
      · exact .inl rfl
      · have owner := owners token
        split_ifs at owner with here
        · subst here
          exact .inr (.transfer distinct held owner)
        · exact .inl owner
  | burn who burned =>
      obtain ⟨-, held, owners, -⟩ := burn_ok called
      have owner := owners token
      split_ifs at owner with here
      · subst here
        exact .inr (.burn held owner)
      · exact .inl owner

/-- A class that only the runtime can create and whose tokens nobody can mint or burn by a
call. -/
structure Sealed (cfg : Config) (s : State) (classId : ℕ) : Prop where
  reserved : classId ≤ cfg.reserveClassIdUpTo
  sealed : ∀ info, s.classes.lookup classId = some info → info.classType ≠ .marketplace

/-- A sealed class stays sealed, and exactly its tokens stay in existence. -/
theorem Sealed.dispatch {classId : ℕ} (isSealed : Sealed cfg s classId)
    (called : dispatch cfg s call = .ok t) :
    Sealed cfg t classId ∧
      ∀ number, (t.owner (classId, number)).isSome = (s.owner (classId, number)).isSome := by
  have other : ∀ {id : ℕ},
      (∃ info, s.classes.lookup id = some info ∧ info.classType = .marketplace) →
      classId ≠ id := by
    rintro id ⟨info, known, isMarketplace⟩ rfl
    exact isSealed.sealed info known isMarketplace
  cases call with
  | createClass who id classType metadata =>
      obtain ⟨unreserved, owners, classes⟩ := createClass_ok called
      have distinct : classId ≠ id := by
        have below := isSealed.reserved
        omega
      refine ⟨⟨isSealed.reserved, ?_⟩, fun number => by rw [owners]⟩
      rw [classes, AList.lookup_insert_ne distinct]
      exact isSealed.sealed
  | destroyClass who id =>
      obtain ⟨known, owners, classes⟩ := destroyClass_ok called
      refine ⟨⟨isSealed.reserved, ?_⟩, fun number => by rw [owners]⟩
      rw [classes, AList.lookup_erase_ne (other known)]
      exact isSealed.sealed
  | mint who token metadata =>
      obtain ⟨known, -, owners, classes⟩ := mint_ok called
      refine ⟨⟨isSealed.reserved, classes ▸ isSealed.sealed⟩, fun number => ?_⟩
      rw [owners, if_neg]
      rintro rfl
      exact other known rfl
  | burn who token =>
      obtain ⟨known, -, owners, classes⟩ := burn_ok called
      refine ⟨⟨isSealed.reserved, classes ▸ isSealed.sealed⟩, fun number => ?_⟩
      rw [owners, if_neg]
      rintro rfl
      exact other known rfl
  | transfer who token dest =>
      obtain ⟨moved, classes⟩ := transfer_ok called
      refine ⟨⟨isSealed.reserved, classes ▸ isSealed.sealed⟩, fun number => ?_⟩
      obtain ⟨-, rfl⟩ | ⟨-, held, owners⟩ := moved
      · rfl
      · rw [owners]
        split_ifs with here
        · rw [here, held]
          rfl
        · rfl

end Calls

end Basilisk.Nft
