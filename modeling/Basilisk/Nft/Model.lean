/-
# The NFT pallet

A layer of class types and permissions over a token registry.  The registry
stands for `pallet_uniques`, of which only this is assumed: it records one owner
per token, refuses to mint a token twice or into an unknown class, and refuses
to move or burn a token that does not exist.  The storage deposits it takes move
no token; `Basilisk.Nft.Deposits` is about them.
-/

import Basilisk.Math.Checked
import Basilisk.Math.Registry
import Basilisk.Primitives

namespace Basilisk.Nft

open Basilisk.Math

/-- `ClassType`. -/
inductive ClassType
  | marketplace
  | liquidityMining
  | redeemable
  | auction
  | hydraHeads
  deriving DecidableEq, Repr

namespace ClassType

/-- The class type `Default` picks. -/
def default : ClassType := .marketplace

/-- `NftPermissions::can_create`; minting, burning and destroying follow the
same rule. -/
def canCreate (classType : ClassType) : Bool :=
  classType == .marketplace

def canMint (classType : ClassType) : Bool :=
  classType == .marketplace

def canTransfer (classType : ClassType) : Bool :=
  classType == .marketplace || classType == .liquidityMining

def canBurn (classType : ClassType) : Bool :=
  classType == .marketplace

def canDestroy (classType : ClassType) : Bool :=
  classType == .marketplace

end ClassType

/-- A token: its class and its instance number. -/
abbrev Token := ℕ × ℕ

structure ClassInfo where
  classType : ClassType
  metadata : List UInt8
  deriving DecidableEq, Repr

structure InstanceInfo where
  metadata : List UInt8
  deriving DecidableEq, Repr

inductive Event
  | classCreated (owner : AccountId) (classId : ℕ) (classType : ClassType)
      (metadata : List UInt8)
  | instanceMinted (owner : AccountId) (token : Token) (metadata : List UInt8)
  | instanceTransferred (sender receiver : AccountId) (token : Token)
  | instanceBurned (owner : AccountId) (token : Token)
  | classDestroyed (owner : AccountId) (classId : ℕ)
  deriving DecidableEq, Repr

/-- Pallet errors; `uniques` is a refusal of the registry. -/
inductive Error
  | noAvailableInstanceId
  | noAvailableClassId
  | tokenClassNotEmpty
  | classUnknown
  | instanceUnknown
  | notPermitted
  | idReserved
  | uniques
  deriving DecidableEq, Repr

/-- The registry and the pallet's own storage. -/
structure State where
  uniques : Registry ℕ ℕ AccountId
  classes : AList fun _ : ℕ => ClassInfo
  instances : AList fun _ : Token => InstanceInfo
  events : List Event

/-- `ReserveClassIdUpTo`. -/
structure Config where
  reserveClassIdUpTo : ℕ

namespace State

def depositEvent (s : State) (event : Event) : State :=
  { s with events := s.events ++ [event] }

/-- `owner`. -/
def owner (s : State) (token : Token) : Option AccountId :=
  s.uniques.ownerOf token

/-- The type of a class, read by every permission check. -/
def classType (s : State) (classId : ℕ) : Except Error ClassType :=
  okOr ((s.classes.lookup classId).map ClassInfo.classType) .classUnknown

end State

/-- `do_create_class`. -/
def doCreateClass (s : State) (owner : AccountId) (classId : ℕ)
    (classType : ClassType) (metadata : List UInt8) : Except Error State := do
  let uniques ← okOr (s.uniques.createClass classId owner) .uniques
  let s := { s with
    uniques, classes := s.classes.insert classId ⟨classType, metadata⟩ }
  return s.depositEvent (.classCreated owner classId classType metadata)

/-- `do_mint`. -/
def doMint (s : State) (owner : AccountId) (token : Token)
    (metadata : List UInt8) : Except Error State := do
  let uniques ← okOr (s.uniques.mint token owner) .uniques
  let s := { s with uniques, instances := s.instances.insert token ⟨metadata⟩ }
  return s.depositEvent (.instanceMinted owner token metadata)

/-- `do_transfer`: the owner check runs inside the registry's transfer. -/
def doTransfer (s : State) (token : Token) (sender receiver : AccountId) :
    Except Error State := do
  if sender = receiver then
    return s
  else
    let owner ← okOr (s.owner token) .instanceUnknown
    ensure (owner = sender) .notPermitted
    let uniques ← okOr (s.uniques.transfer token receiver) .uniques
    let s := { s with uniques }
    return s.depositEvent (.instanceTransferred sender receiver token)

/-- `do_burn`: the owner check runs inside the registry's burn. -/
def doBurn (s : State) (owner : AccountId) (token : Token) : Except Error State := do
  let iowner ← okOr (s.owner token) .instanceUnknown
  ensure (owner = iowner) .notPermitted
  let uniques ← okOr (s.uniques.burn token) .uniques
  let s := { s with uniques, instances := s.instances.erase token }
  return s.depositEvent (.instanceBurned owner token)

/-- `do_destroy_class`. -/
def doDestroyClass (s : State) (owner : AccountId) (classId : ℕ) :
    Except Error State := do
  let instances ← okOr (s.uniques.instancesOf classId) .classUnknown
  ensure (instances = 0) .tokenClassNotEmpty
  let uniques ← okOr (s.uniques.destroyClass classId owner) .uniques
  let s := { s with uniques, classes := s.classes.erase classId }
  return s.depositEvent (.classDestroyed owner classId)

/-- `create_class`: the permission is checked for the given type, but the class
is created with the default one. -/
def createClass (cfg : Config) (s : State) (sender : AccountId) (classId : ℕ)
    (classType : ClassType) (metadata : List UInt8) : Except Error State := do
  ensure (cfg.reserveClassIdUpTo < classId) .idReserved
  ensure (classType.canCreate = true) .notPermitted
  doCreateClass s sender classId .default metadata

/-- `mint`. -/
def mint (s : State) (sender : AccountId) (token : Token)
    (metadata : List UInt8) : Except Error State := do
  let classType ← s.classType token.1
  ensure (classType.canMint = true) .notPermitted
  doMint s sender token metadata

/-- `transfer`. -/
def transfer (s : State) (sender : AccountId) (token : Token) (dest : AccountId) :
    Except Error State := do
  let classType ← s.classType token.1
  ensure (classType.canTransfer = true) .notPermitted
  doTransfer s token sender dest

/-- `burn`. -/
def burn (s : State) (sender : AccountId) (token : Token) : Except Error State := do
  let classType ← s.classType token.1
  ensure (classType.canBurn = true) .notPermitted
  doBurn s sender token

/-- `destroy_class`. -/
def destroyClass (s : State) (sender : AccountId) (classId : ℕ) :
    Except Error State := do
  let classType ← s.classType classId
  ensure (classType.canDestroy = true) .notPermitted
  doDestroyClass s sender classId

section Effects

variable {s t : State} {token other : Token} {owner sender receiver : AccountId}
variable {metadata : List UInt8}

theorem owner_doMint (minted : doMint s owner token metadata = .ok t) :
    s.owner token = none ∧
      t.owner other = if other = token then some owner else s.owner other := by
  simp only [doMint, bind_eq_ok, okOr_eq_ok, return_eq_ok] at minted
  obtain ⟨uniques, made, rfl⟩ := minted
  exact Registry.ownerOf_mint made

/-- A transfer to oneself does nothing; any other moves a token of the sender. -/
theorem owner_doTransfer (moved : doTransfer s token sender receiver = .ok t) :
    (sender = receiver ∧ t = s) ∨
    (sender ≠ receiver ∧ s.owner token = some sender ∧
      ∀ other, t.owner other =
        if other = token then some receiver else s.owner other) := by
  unfold doTransfer at moved
  split_ifs at moved with same
  · exact .inl ⟨same, (return_eq_ok.mp moved).symm⟩
  · simp only [bind_eq_ok, okOr_eq_ok, ensure_eq_ok, return_eq_ok, exists_const] at moved
    obtain ⟨holder, held, rfl, uniques, made, rfl⟩ := moved
    exact .inr ⟨same, held, fun other => (Registry.ownerOf_transfer made).2⟩

theorem owner_doBurn (burned : doBurn s owner token = .ok t) :
    s.owner token = some owner ∧
      t.owner other = if other = token then none else s.owner other := by
  simp only [doBurn, bind_eq_ok, okOr_eq_ok, ensure_eq_ok, return_eq_ok,
    exists_const] at burned
  obtain ⟨holder, held, rfl, uniques, made, rfl⟩ := burned
  exact ⟨held, (Registry.ownerOf_burn made).2⟩

theorem doMint_classes (minted : doMint s owner token metadata = .ok t) :
    t.classes = s.classes := by
  simp only [doMint, bind_eq_ok, okOr_eq_ok, return_eq_ok] at minted
  obtain ⟨uniques, -, rfl⟩ := minted
  rfl

theorem doBurn_classes (burned : doBurn s owner token = .ok t) : t.classes = s.classes := by
  simp only [doBurn, bind_eq_ok, okOr_eq_ok, ensure_eq_ok, return_eq_ok,
    exists_const] at burned
  obtain ⟨_, -, -, uniques, -, rfl⟩ := burned
  rfl

/-- The owner of a token can burn it. -/
theorem doBurn_succeeds (held : s.owner token = some owner) :
    ∃ t, doBurn s owner token = .ok t := by
  have present : (s.uniques.ownerOf token).isSome = true := by
    rw [State.owner] at held
    rw [held]
    rfl
  obtain ⟨uniques, made⟩ := Registry.burn_isSome present
  simp only [doBurn, bind_eq_ok, okOr_eq_ok, ensure_eq_ok, return_eq_ok, exists_const]
  exact ⟨_, owner, held, rfl, uniques, made, rfl⟩

end Effects

end Basilisk.Nft
