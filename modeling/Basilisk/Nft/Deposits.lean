/-
# Storage deposits of classes and tokens

Whoever creates a class sets a deposit aside for it, and one more for every token
that is minted in it, by whomever; the deposits come back when a token is burned and
when the class, which must be empty then, is destroyed.  Which classes take deposits
depends on their type.  It is `pallet_uniques` that reserves and releases them; as it
is not part of the repository, what it does to the ledger is a parameter, of which
`SettlesDeposits` names what is assumed.  The type of a class does not change as long
as it exists, so what is set aside for a class and for its tokens follows from it, and
this module shows that the sum of these amounts moves exactly as the registry reserves
and releases them.
-/

import Basilisk.Nft.Calls

namespace Basilisk.Nft

open Basilisk.Math

/-- `NftPermissions::has_deposit`. -/
def ClassType.hasDeposit (classType : ClassType) : Bool :=
  classType == .marketplace

/-- What `pallet_uniques` is configured with: the currency of the deposits, `ClassDeposit` and
`InstanceDeposit`. -/
structure UniquesConfig where
  currency : AssetId
  classDeposit : ℕ
  instanceDeposit : ℕ

/-- `deposit_info` of `do_create_class`: the deposit for the class, and whether its tokens are held
for free. -/
def depositInfo (cfg : UniquesConfig) (classType : ClassType) : ℕ × Bool :=
  match classType.hasDeposit with
  | false => (0, true)
  | true => (cfg.classDeposit, false)

namespace State

/-- What is set aside for a class. -/
def classDeposit (s : State) (cfg : UniquesConfig) (classId : ℕ) : ℕ :=
  (s.classes.lookup classId).elim 0 fun info => (depositInfo cfg info.classType).1

/-- What is set aside for each token of a class. -/
def tokenDeposit (s : State) (cfg : UniquesConfig) (classId : ℕ) : ℕ :=
  (s.classes.lookup classId).elim 0 fun info =>
    if (depositInfo cfg info.classType).2 then 0 else cfg.instanceDeposit

/-- Who sets the deposits of a class aside, if it takes any. -/
def backer (s : State) (classId : ℕ) : Option AccountId :=
  match s.classes.lookup classId with
  | none => none
  | some info => if info.classType.hasDeposit then s.uniques.classOwner.lookup classId else none

/-- What an account has set aside for a class, given the owner of the class. -/
def forClass (s : State) (cfg : UniquesConfig) (who : AccountId) (classId : ℕ)
    (owner : AccountId) : ℕ :=
  if owner = who then s.classDeposit cfg classId else 0

/-- What an account has set aside for a token, whoever owns it. -/
def forToken (s : State) (cfg : UniquesConfig) (who : AccountId) (token : Token)
    (_ : AccountId) : ℕ :=
  if s.uniques.classOwner.lookup token.1 = some who then s.tokenDeposit cfg token.1 else 0

/-- What an account has set aside for its classes and their tokens. -/
def deposited (s : State) (cfg : UniquesConfig) (who : AccountId) : ℕ :=
  s.uniques.classOwner.total (s.forClass cfg who) + s.uniques.owner.total (s.forToken cfg who)

end State

/-- What the registry is assumed to do to the ledger in the calls of the pallet.  Deposits are
reserved with the owner of the class when it is created and when a token is minted in it, and
released when the token is burned and when the class is destroyed. -/
structure SettlesDeposits (cfg : UniquesConfig)
    (settle : State → Currencies → Call → Option Currencies) : Prop where
  reserve_on_create (s : State) (ledger : Currencies) (who classId : ℕ) (classType : ClassType)
    (metadata : List UInt8) :
    settle s ledger (.createClass who classId classType metadata) =
      ledger.reserve cfg.currency (.signer who) (depositInfo cfg .default).1
  reserve_on_mint {s : State} {token : Token} {owner : AccountId} (ledger : Currencies)
    (who : ℕ) (metadata : List UInt8) : s.uniques.classOwner.lookup token.1 = some owner →
    settle s ledger (.mint who token metadata) =
      ledger.reserve cfg.currency owner (s.tokenDeposit cfg token.1)
  unmoved_on_transfer (s : State) (ledger : Currencies) (who : ℕ) (token : Token)
    (dest : AccountId) : settle s ledger (.transfer who token dest) = some ledger
  release_on_burn {s : State} {token : Token} {owner : AccountId} (ledger : Currencies)
    (who : ℕ) : s.uniques.classOwner.lookup token.1 = some owner →
    settle s ledger (.burn who token) =
      some (ledger.unreserve cfg.currency owner (s.tokenDeposit cfg token.1))
  release_on_destroy {s : State} {classId : ℕ} {owner : AccountId} (ledger : Currencies)
    (who : ℕ) : s.uniques.classOwner.lookup classId = some owner →
    settle s ledger (.destroyClass who classId) =
      some (ledger.unreserve cfg.currency owner (s.classDeposit cfg classId))

/-- A registry that does this and fails in unknown classes. -/
def UniquesConfig.settle (cfg : UniquesConfig) (s : State) (ledger : Currencies) :
    Call → Option Currencies
  | .createClass who _ _ _ =>
      ledger.reserve cfg.currency (.signer who) (depositInfo cfg .default).1
  | .mint _ token _ => do
      let owner ← s.uniques.classOwner.lookup token.1
      ledger.reserve cfg.currency owner (s.tokenDeposit cfg token.1)
  | .transfer _ _ _ => some ledger
  | .burn _ token => do
      let owner ← s.uniques.classOwner.lookup token.1
      return ledger.unreserve cfg.currency owner (s.tokenDeposit cfg token.1)
  | .destroyClass _ classId => do
      let owner ← s.uniques.classOwner.lookup classId
      return ledger.unreserve cfg.currency owner (s.classDeposit cfg classId)

theorem UniquesConfig.settlesDeposits (cfg : UniquesConfig) :
    SettlesDeposits cfg cfg.settle where
  reserve_on_create _ _ _ _ _ _ := rfl
  reserve_on_mint ledger who metadata owned := by
    rw [UniquesConfig.settle, owned]
    rfl
  unmoved_on_transfer _ _ _ _ _ := rfl
  release_on_burn ledger who owned := by
    rw [UniquesConfig.settle, owned]
    rfl
  release_on_destroy ledger who owned := by
    rw [UniquesConfig.settle, owned]
    rfl

/-- Whose deposit a call sets aside or gives back. -/
def Call.depositor (s : State) : Call → Option AccountId
  | .createClass who _ _ _ => some (.signer who)
  | .mint _ token _ => s.backer token.1
  | .transfer _ _ _ => none
  | .burn _ token => s.backer token.1
  | .destroyClass _ classId => s.backer classId

/-- The registry and the storage of the pallet agree, and whoever sets deposits aside holds a
key. -/
structure Books (s : State) : Prop where
  housed : s.uniques.Housed
  classes : ∀ classId,
    (s.classes.lookup classId).isSome = (s.uniques.classOwner.lookup classId).isSome
  instances : ∀ token, (s.instances.lookup token).isSome = (s.owner token).isSome
  backers : ∀ classId owner, s.backer classId = some owner → ∃ key, owner = .signer key

/-- Nothing has been created yet. -/
structure Fresh (s : State) : Prop where
  uniques : s.uniques = ⟨∅, ∅⟩
  classes : s.classes = ∅
  instances : s.instances = ∅

theorem Fresh.books {s : State} (fresh : Fresh s) : Books s where
  housed token owner minted := by
    rw [fresh.uniques] at minted
    cases minted
  classes classId := by
    rw [fresh.classes, fresh.uniques]
    rfl
  instances token := by
    rw [fresh.instances, State.owner, fresh.uniques]
    rfl
  backers classId owner backs := by
    rw [State.backer, fresh.classes] at backs
    cases backs

theorem Fresh.deposited {s : State} (fresh : Fresh s) (cfg : UniquesConfig) :
    s.deposited cfg = fun _ => 0 := by
  funext who
  rw [State.deposited, fresh.uniques]
  rfl

section Classes

variable {cfg : UniquesConfig} {s t : State} {owner : AccountId} {classId : ℕ}
variable {classType : ClassType} {metadata : List UInt8}

theorem doCreateClass_ok (created : doCreateClass s owner classId classType metadata = .ok t) :
    s.uniques.classOwner.lookup classId = none ∧
      t = State.depositEvent { s with
        uniques := { s.uniques with classOwner := s.uniques.classOwner.insert classId owner }
        classes := s.classes.insert classId ⟨classType, metadata⟩ }
          (.classCreated owner classId classType metadata) := by
  simp only [doCreateClass, bind_eq_ok, okOr_eq_ok, return_eq_ok,
    Registry.createClass_eq_some_iff] at created
  obtain ⟨_, ⟨absent, rfl⟩, rfl⟩ := created
  exact ⟨absent, rfl⟩

theorem doDestroyClass_ok (destroyed : doDestroyClass s owner classId = .ok t) :
    s.uniques.instancesOf classId = some 0 ∧ s.uniques.classOwner.lookup classId = some owner ∧
      t = State.depositEvent { s with
        uniques := { s.uniques with classOwner := s.uniques.classOwner.erase classId }
        classes := s.classes.erase classId } (.classDestroyed owner classId) := by
  simp only [doDestroyClass, bind_eq_ok, ensure_eq_ok, okOr_eq_ok, return_eq_ok, exists_const,
    Registry.destroyClass_eq_some_iff] at destroyed
  obtain ⟨_, empty, rfl, _, ⟨owned, rfl⟩, rfl⟩ := destroyed
  exact ⟨empty, owned, rfl⟩

/-- A class that takes deposits is created for a signer. -/
theorem Books.create (books : Books s)
    (signed : classType.hasDeposit = true → ∃ key, owner = .signer key)
    (created : doCreateClass s owner classId classType metadata = .ok t) : Books t := by
  obtain ⟨absent, rfl⟩ := doCreateClass_ok created
  refine ⟨books.housed.createClass _ _, fun id => ?_, books.instances, fun id who => ?_⟩
  · dsimp only [State.depositEvent]
    rw [AList.lookup_insert_eq_ite, AList.lookup_insert_eq_ite]
    split_ifs
    · rfl
    · exact books.classes id
  · have before := books.backers id who
    dsimp only [State.backer, State.depositEvent] at before ⊢
    rw [AList.lookup_insert_eq_ite, AList.lookup_insert_eq_ite]
    by_cases here : id = classId
    · rw [if_pos here, if_pos here]
      dsimp only
      intro backs
      split_ifs at backs with takes
      exact Option.some.inj backs ▸ signed takes
    · rw [if_neg here, if_neg here]
      exact before

theorem Books.destroy (books : Books s) (destroyed : doDestroyClass s owner classId = .ok t) :
    Books t := by
  obtain ⟨empty, -, rfl⟩ := doDestroyClass_ok destroyed
  refine ⟨books.housed.destroyClass empty, fun id => ?_, books.instances, fun id who => ?_⟩
  · dsimp only [State.depositEvent]
    rw [AList.lookup_erase_eq_ite, AList.lookup_erase_eq_ite]
    split_ifs
    · rfl
    · exact books.classes id
  · have before := books.backers id who
    dsimp only [State.backer, State.depositEvent] at before ⊢
    rw [AList.lookup_erase_eq_ite, AList.lookup_erase_eq_ite]
    by_cases here : id = classId
    · rw [if_pos here]
      exact nofun
    · rw [if_neg here, if_neg here]
      exact before

theorem forClass_congr {who : AccountId}
    (same : t.classes.lookup classId = s.classes.lookup classId) :
    t.forClass cfg who classId owner = s.forClass cfg who classId owner := by
  rw [State.forClass, State.classDeposit, same, State.forClass, State.classDeposit]

theorem forToken_congr {who : AccountId} {token : Token}
    (sameOwner : t.uniques.classOwner.lookup token.1 = s.uniques.classOwner.lookup token.1)
    (same : t.classes.lookup token.1 = s.classes.lookup token.1) :
    t.forToken cfg who token owner = s.forToken cfg who token owner := by
  rw [State.forToken, State.tokenDeposit, sameOwner, same, State.forToken, State.tokenDeposit]

/-- The owner of a new class sets its deposit aside. -/
theorem deposited_doCreateClass (books : Books s)
    (created : doCreateClass s owner classId classType metadata = .ok t) (who : AccountId) :
    t.deposited cfg who =
      s.deposited cfg who + if owner = who then (depositInfo cfg classType).1 else 0 := by
  obtain ⟨absent, made⟩ := doCreateClass_ok created
  have owners : t.uniques.classOwner = s.uniques.classOwner.insert classId owner :=
    congrArg (·.uniques.classOwner) made
  have infos : t.classes = s.classes.insert classId ⟨classType, metadata⟩ :=
    congrArg (·.classes) made
  have holders : t.uniques.owner = s.uniques.owner := congrArg (·.uniques.owner) made
  -- no other class and no token is of the new class
  have classes : s.uniques.classOwner.total (t.forClass cfg who) =
      s.uniques.classOwner.total (s.forClass cfg who) := by
    refine AList.total_congr fun id holder stored => forClass_congr ?_
    rw [infos, AList.lookup_insert_ne (AList.ne_of_lookup absent stored)]
  have tokens : s.uniques.owner.total (t.forToken cfg who) =
      s.uniques.owner.total (s.forToken cfg who) := by
    refine AList.total_congr fun token holder stored => ?_
    have elsewhere := books.housed.ne_of_lookup absent stored
    refine forToken_congr ?_ ?_
    · rw [owners, AList.lookup_insert_ne elsewhere]
    · rw [infos, AList.lookup_insert_ne elsewhere]
  have new : t.forClass cfg who classId owner =
      if owner = who then (depositInfo cfg classType).1 else 0 := by
    rw [State.forClass, State.classDeposit, infos, AList.lookup_insert]
    rfl
  rw [State.deposited, owners, holders, AList.total_insert_of_none _ absent, classes, tokens, new]
  exact Nat.add_right_comm _ _ _

/-- The deposit of a class comes back when it is destroyed. -/
theorem deposited_doDestroyClass (destroyed : doDestroyClass s owner classId = .ok t)
    (who : AccountId) :
    s.deposited cfg who =
      t.deposited cfg who + if owner = who then s.classDeposit cfg classId else 0 := by
  obtain ⟨empty, owned, made⟩ := doDestroyClass_ok destroyed
  have owners : t.uniques.classOwner = s.uniques.classOwner.erase classId :=
    congrArg (·.uniques.classOwner) made
  have infos : t.classes = s.classes.erase classId := congrArg (·.classes) made
  have holders : t.uniques.owner = s.uniques.owner := congrArg (·.uniques.owner) made
  have classes : (s.uniques.classOwner.erase classId).total (t.forClass cfg who) =
      (s.uniques.classOwner.erase classId).total (s.forClass cfg who) := by
    refine AList.total_congr fun id holder stored => forClass_congr ?_
    rw [AList.lookup_erase_eq_ite] at stored
    split_ifs at stored with here
    rw [infos, AList.lookup_erase_ne here]
  have tokens : s.uniques.owner.total (t.forToken cfg who) =
      s.uniques.owner.total (s.forToken cfg who) := by
    refine AList.total_congr fun token holder stored => ?_
    have elsewhere : token.1 ≠ classId := by
      rintro rfl
      exact absurd ((Registry.unowned_of_instancesOf empty token.2).symm.trans stored) nofun
    refine forToken_congr ?_ ?_
    · rw [owners, AList.lookup_erase_ne elsewhere]
    · rw [infos, AList.lookup_erase_ne elsewhere]
  have total := AList.total_erase_add (s.forClass cfg who) owned
  rw [State.deposited, State.deposited, owners, holders, classes, tokens, ← total]
  exact Nat.add_right_comm _ _ _

end Classes

section Tokens

variable {cfg : UniquesConfig} {s t : State} {owner sender receiver : AccountId} {token : Token}
variable {metadata : List UInt8}

theorem doMint_ok (minted : doMint s owner token metadata = .ok t) :
    (∃ classOwner, s.uniques.classOwner.lookup token.1 = some classOwner) ∧
      s.uniques.owner.lookup token = none ∧
      t = State.depositEvent { s with
        uniques := { s.uniques with owner := s.uniques.owner.insert token owner }
        instances := s.instances.insert token ⟨metadata⟩ }
          (.instanceMinted owner token metadata) := by
  simp only [doMint, bind_eq_ok, okOr_eq_ok, return_eq_ok, Registry.mint_eq_some_iff] at minted
  obtain ⟨_, ⟨⟨known, unowned⟩, rfl⟩, rfl⟩ := minted
  exact ⟨known, unowned, rfl⟩

theorem doBurn_ok (burned : doBurn s owner token = .ok t) :
    s.uniques.owner.lookup token = some owner ∧
      t = State.depositEvent { s with
        uniques := { s.uniques with owner := s.uniques.owner.erase token }
        instances := s.instances.erase token } (.instanceBurned owner token) := by
  simp only [doBurn, bind_eq_ok, ensure_eq_ok, okOr_eq_ok, return_eq_ok, exists_const,
    Registry.burn_eq_some_iff] at burned
  obtain ⟨_, held, rfl, _, ⟨-, rfl⟩, rfl⟩ := burned
  exact ⟨held, rfl⟩

theorem doTransfer_ok (moved : doTransfer s token sender receiver = .ok t) :
    t = s ∨ s.uniques.owner.lookup token = some sender ∧
      t = State.depositEvent { s with
        uniques := { s.uniques with owner := s.uniques.owner.insert token receiver } }
          (.instanceTransferred sender receiver token) := by
  unfold doTransfer at moved
  split_ifs at moved
  · exact .inl (return_eq_ok.mp moved).symm
  · simp only [bind_eq_ok, ensure_eq_ok, okOr_eq_ok, return_eq_ok, exists_const,
      Registry.transfer_eq_some_iff] at moved
    obtain ⟨_, held, rfl, _, ⟨-, rfl⟩, rfl⟩ := moved
    exact .inr ⟨held, rfl⟩

theorem Books.mint (books : Books s) (minted : doMint s owner token metadata = .ok t) :
    Books t := by
  obtain ⟨known, -, rfl⟩ := doMint_ok minted
  refine ⟨books.housed.insert known, books.classes, fun other => ?_, books.backers⟩
  have before := books.instances other
  dsimp only [State.depositEvent, State.owner, Registry.ownerOf] at before ⊢
  rw [AList.lookup_insert_eq_ite, AList.lookup_insert_eq_ite]
  split_ifs
  · rfl
  · exact before

theorem Books.burn (books : Books s) (burned : doBurn s owner token = .ok t) : Books t := by
  obtain ⟨-, rfl⟩ := doBurn_ok burned
  refine ⟨books.housed.erase _, books.classes, fun other => ?_, books.backers⟩
  have before := books.instances other
  dsimp only [State.depositEvent, State.owner, Registry.ownerOf] at before ⊢
  rw [AList.lookup_erase_eq_ite, AList.lookup_erase_eq_ite]
  split_ifs
  · rfl
  · exact before

theorem Books.transfer (books : Books s) (moved : doTransfer s token sender receiver = .ok t) :
    Books t := by
  obtain rfl | ⟨held, rfl⟩ := doTransfer_ok moved
  · exact books
  · refine ⟨books.housed.insert (books.housed _ _ held), books.classes, fun other => ?_,
      books.backers⟩
    have before := books.instances other
    dsimp only [State.depositEvent, State.owner, Registry.ownerOf] at before ⊢
    rw [AList.lookup_insert_eq_ite]
    split_ifs with here
    · rw [here, held] at before
      rw [here, before]
      rfl
    · exact before

/-- The owner of the class sets the deposit of a new token aside, whoever mints it. -/
theorem deposited_doMint (minted : doMint s owner token metadata = .ok t) (who : AccountId) :
    t.deposited cfg who = s.deposited cfg who +
      if s.uniques.classOwner.lookup token.1 = some who then s.tokenDeposit cfg token.1 else 0 := by
  obtain ⟨-, unowned, rfl⟩ := doMint_ok minted
  dsimp only [State.deposited, State.depositEvent]
  rw [AList.total_insert_of_none _ unowned, ← Nat.add_assoc]
  rfl

/-- The deposit of a token goes back to the owner of its class, whoever burns it. -/
theorem deposited_doBurn (burned : doBurn s owner token = .ok t) (who : AccountId) :
    s.deposited cfg who = t.deposited cfg who +
      if s.uniques.classOwner.lookup token.1 = some who then s.tokenDeposit cfg token.1 else 0 := by
  obtain ⟨held, rfl⟩ := doBurn_ok burned
  have total := AList.total_erase_add (s.forToken cfg who) held
  dsimp only [State.deposited, State.depositEvent]
  rw [← total, ← Nat.add_assoc]
  rfl

/-- Deposits do not follow the tokens. -/
theorem deposited_doTransfer (moved : doTransfer s token sender receiver = .ok t)
    (who : AccountId) : t.deposited cfg who = s.deposited cfg who := by
  obtain rfl | ⟨held, rfl⟩ := doTransfer_ok moved
  · rfl
  · have total := AList.total_insert_add (s.forToken cfg who) held receiver
    have moved : (s.uniques.owner.insert token receiver).total (s.forToken cfg who) =
        s.uniques.owner.total (s.forToken cfg who) := Nat.add_right_cancel total
    dsimp only [State.deposited, State.depositEvent]
    exact congrArg (_ + ·) moved

end Tokens

section Calls

variable {cfg : Config} {uniques : UniquesConfig} {s t : State} {call : Call}
variable {settle : State → Currencies → Call → Option Currencies} {ledger ledger' : Currencies}

/-- The class is known and of the type everybody may mint in. -/
def State.IsMarketplace (s : State) (classId : ℕ) : Prop :=
  ∃ info, s.classes.lookup classId = some info ∧ info.classType = .marketplace

theorem State.IsMarketplace.backer {classId : ℕ} (isMarketplace : s.IsMarketplace classId) :
    s.backer classId = s.uniques.classOwner.lookup classId := by
  obtain ⟨info, known, marketplace⟩ := isMarketplace
  rw [State.backer, known]
  exact if_pos (marketplace ▸ rfl)

theorem State.IsMarketplace.tokenDeposit {classId : ℕ} (isMarketplace : s.IsMarketplace classId) :
    s.tokenDeposit uniques classId = uniques.instanceDeposit := by
  obtain ⟨info, known, marketplace⟩ := isMarketplace
  rw [State.tokenDeposit, known, Option.elim_some, marketplace]
  rfl

theorem State.IsMarketplace.classDeposit {classId : ℕ} (isMarketplace : s.IsMarketplace classId) :
    s.classDeposit uniques classId = uniques.classDeposit := by
  obtain ⟨info, known, marketplace⟩ := isMarketplace
  rw [State.classDeposit, known, Option.elim_some, marketplace]
  rfl

theorem State.backer_eq_some_iff {classId : ℕ} {owner : AccountId} :
    s.backer classId = some owner ↔
      s.IsMarketplace classId ∧ s.uniques.classOwner.lookup classId = some owner := by
  constructor
  · intro backs
    cases known : s.classes.lookup classId with
    | none =>
        rw [State.backer, known] at backs
        cases backs
    | some info =>
        rw [State.backer, known] at backs
        dsimp only at backs
        split_ifs at backs with takes
        exact ⟨⟨info, known, eq_of_beq takes⟩, backs⟩
  · rintro ⟨isMarketplace, owned⟩
    exact isMarketplace.backer.trans owned

/-- What a call that succeeds has done. -/
inductive Call.Does (s t : State) : Call → Prop
  | created {who classId : ℕ} {classType : ClassType} {metadata : List UInt8}
      (created : doCreateClass s (.signer who) classId .default metadata = .ok t) :
      Does s t (.createClass who classId classType metadata)
  | minted {who : ℕ} {token : Token} {metadata : List UInt8}
      (isMarketplace : s.IsMarketplace token.1)
      (minted : doMint s (.signer who) token metadata = .ok t) : Does s t (.mint who token metadata)
  | transferred {who : ℕ} {token : Token} {dest : AccountId}
      (moved : doTransfer s token (.signer who) dest = .ok t) : Does s t (.transfer who token dest)
  | burned {who : ℕ} {token : Token} (isMarketplace : s.IsMarketplace token.1)
      (burned : doBurn s (.signer who) token = .ok t) : Does s t (.burn who token)
  | destroyed {who classId : ℕ} (isMarketplace : s.IsMarketplace classId)
      (destroyed : doDestroyClass s (.signer who) classId = .ok t) :
      Does s t (.destroyClass who classId)

theorem does_of_dispatch (called : dispatch cfg s call = .ok t) : call.Does s t := by
  have marketplace {classId : ℕ} {classType : ClassType}
      (known : ∃ info, s.classes.lookup classId = some info ∧ info.classType = classType)
      (allowed : (classType == .marketplace) = true) : s.IsMarketplace classId := by
    obtain ⟨info, known, rfl⟩ := known
    exact ⟨info, known, eq_of_beq allowed⟩
  cases call with
  | createClass =>
      simp only [dispatch, createClass, bind_eq_ok, ensure_eq_ok, exists_const] at called
      exact .created called.2.2
  | mint =>
      simp only [dispatch, mint, bind_eq_ok, ensure_eq_ok, exists_const, classType_eq_ok] at called
      obtain ⟨_, known, allowed, minted⟩ := called
      exact .minted (marketplace known allowed) minted
  | transfer =>
      simp only [dispatch, transfer, bind_eq_ok, ensure_eq_ok, exists_const] at called
      obtain ⟨_, -, -, moved⟩ := called
      exact .transferred moved
  | burn =>
      simp only [dispatch, burn, bind_eq_ok, ensure_eq_ok, exists_const, classType_eq_ok] at called
      obtain ⟨_, known, allowed, burned⟩ := called
      exact .burned (marketplace known allowed) burned
  | destroyClass =>
      simp only [dispatch, destroyClass, bind_eq_ok, ensure_eq_ok, exists_const,
        classType_eq_ok] at called
      obtain ⟨_, known, allowed, destroyed⟩ := called
      exact .destroyed (marketplace known allowed) destroyed

theorem Books.dispatch (books : Books s) (called : dispatch cfg s call = .ok t) : Books t := by
  cases does_of_dispatch called with
  | created created => exact books.create (fun _ => ⟨_, rfl⟩) created
  | minted _ minted => exact books.mint minted
  | transferred moved => exact books.transfer moved
  | burned _ burned => exact books.burn burned
  | destroyed _ destroyed => exact books.destroy destroyed

/-- Who sets a deposit aside in a call, or has one released, holds a key. -/
theorem Books.depositor_isSigner (books : Books s) {who : AccountId}
    (backs : call.depositor s = some who) : ∃ key, who = .signer key := by
  cases call with
  | createClass => exact ⟨_, (Option.some.inj backs).symm⟩
  | transfer => cases backs
  | mint => exact books.backers _ _ backs
  | burn => exact books.backers _ _ backs
  | destroyClass => exact books.backers _ _ backs

/-- What a call does to the ledger and to the deposits. -/
inductive Settles (uniques : UniquesConfig) (s t : State) (ledger ledger' : Currencies)
    (call : Call) : Prop
  | aside {owner : AccountId} {amount : ℕ} (backs : call.depositor s = some owner)
      (reserved : ledger.reserve uniques.currency owner amount = some ledger')
      (more : ∀ who, t.deposited uniques who =
        s.deposited uniques who + if owner = who then amount else 0)
  | returned {owner : AccountId} {amount : ℕ} (backs : call.depositor s = some owner)
      (released : ledger' = ledger.unreserve uniques.currency owner amount)
      (less : ∀ who, s.deposited uniques who =
        t.deposited uniques who + if owner = who then amount else 0)
  | kept (unmoved : ledger' = ledger)
      (same : ∀ who, t.deposited uniques who = s.deposited uniques who)

theorem settles_of_dispatch (deposits : SettlesDeposits uniques settle) (books : Books s)
    (called : dispatch cfg s call = .ok t) (settled : settle s ledger call = some ledger') :
    Settles uniques s t ledger ledger' call := by
  cases does_of_dispatch called with
  | created created =>
      rw [deposits.reserve_on_create] at settled
      exact .aside rfl settled (deposited_doCreateClass books created)
  | minted isMarketplace minted =>
      obtain ⟨⟨owner, owned⟩, -, -⟩ := doMint_ok minted
      rw [deposits.reserve_on_mint _ _ _ owned] at settled
      refine .aside (isMarketplace.backer.trans owned) settled fun who => ?_
      simpa only [owned, Option.some_inj] using deposited_doMint minted who
  | transferred moved =>
      rw [deposits.unmoved_on_transfer] at settled
      exact .kept (Option.some.inj settled).symm (deposited_doTransfer moved)
  | burned isMarketplace burned =>
      obtain ⟨owner, owned⟩ := books.housed _ _ (doBurn_ok burned).1
      rw [deposits.release_on_burn _ _ owned] at settled
      refine .returned (isMarketplace.backer.trans owned) (Option.some.inj settled).symm ?_
      intro who
      simpa only [owned, Option.some_inj] using deposited_doBurn burned who
  | destroyed isMarketplace destroyed =>
      obtain ⟨-, owned, -⟩ := doDestroyClass_ok destroyed
      rw [deposits.release_on_destroy _ _ owned] at settled
      exact .returned (isMarketplace.backer.trans owned) (Option.some.inj settled).symm
        (deposited_doDestroyClass destroyed)

section Amounts

variable {classId : ℕ} {token : Token} {owner : AccountId}
variable (deposits : SettlesDeposits uniques settle) (ledger : Currencies) (key : ℕ)

include deposits

theorem SettlesDeposits.mint (backs : s.backer token.1 = some owner) (metadata : List UInt8) :
    settle s ledger (.mint key token metadata) =
      ledger.reserve uniques.currency owner uniques.instanceDeposit := by
  obtain ⟨isMarketplace, owned⟩ := State.backer_eq_some_iff.mp backs
  rw [deposits.reserve_on_mint _ _ _ owned, isMarketplace.tokenDeposit]

theorem SettlesDeposits.burn (backs : s.backer token.1 = some owner) :
    settle s ledger (.burn key token) =
      some (ledger.unreserve uniques.currency owner uniques.instanceDeposit) := by
  obtain ⟨isMarketplace, owned⟩ := State.backer_eq_some_iff.mp backs
  rw [deposits.release_on_burn _ _ owned, isMarketplace.tokenDeposit]

theorem SettlesDeposits.destroyClass (backs : s.backer classId = some owner) :
    settle s ledger (.destroyClass key classId) =
      some (ledger.unreserve uniques.currency owner uniques.classDeposit) := by
  obtain ⟨isMarketplace, owned⟩ := State.backer_eq_some_iff.mp backs
  rw [deposits.release_on_destroy _ _ owned, isMarketplace.classDeposit]

end Amounts

/-- Everybody can mint a new token in a marketplace class. -/
theorem mint_succeeds (cfg : Config) {classId number : ℕ} {owner : AccountId}
    (backs : s.backer classId = some owner) (new : s.owner (classId, number) = none) (key : ℕ)
    (metadata : List UInt8) :
    ∃ t, dispatch cfg s (.mint key (classId, number) metadata) = .ok t := by
  obtain ⟨⟨info, known, marketplace⟩, owned⟩ := State.backer_eq_some_iff.mp backs
  simp only [dispatch, mint, doMint, bind_eq_ok, ensure_eq_ok, exists_const, classType_eq_ok,
    okOr_eq_ok, return_eq_ok, Registry.mint_eq_some_iff]
  exact ⟨_, _, ⟨info, known, marketplace⟩, rfl, _, ⟨⟨⟨owner, owned⟩, new⟩, rfl⟩, rfl⟩

/-- The owner of a token of a marketplace class can burn it. -/
theorem burn_succeeds (cfg : Config) {token : Token} {key : ℕ}
    (isMarketplace : s.IsMarketplace token.1) (held : s.owner token = some (.signer key)) :
    ∃ t, dispatch cfg s (.burn key token) = .ok t := by
  obtain ⟨info, known, marketplace⟩ := isMarketplace
  obtain ⟨t, burned⟩ := doBurn_succeeds held
  refine ⟨t, ?_⟩
  simp only [dispatch, burn, bind_eq_ok, ensure_eq_ok, exists_const, classType_eq_ok]
  exact ⟨_, ⟨info, known, marketplace⟩, rfl, burned⟩

/-- The owner of a marketplace class without tokens can destroy it. -/
theorem destroyClass_succeeds (cfg : Config) {classId key : ℕ}
    (backs : s.backer classId = some (.signer key))
    (empty : ∀ number, s.owner (classId, number) = none) :
    ∃ t, dispatch cfg s (.destroyClass key classId) = .ok t := by
  obtain ⟨⟨info, known, marketplace⟩, owned⟩ := State.backer_eq_some_iff.mp backs
  simp only [dispatch, destroyClass, doDestroyClass, bind_eq_ok, ensure_eq_ok, exists_const,
    classType_eq_ok, okOr_eq_ok, return_eq_ok, Registry.destroyClass_eq_some_iff]
  exact ⟨_, _, ⟨info, known, marketplace⟩, rfl, 0, Registry.instancesOf_of_unowned owned empty, rfl,
    _, ⟨owned, rfl⟩, rfl⟩

/-- A class that exists is not created again. -/
theorem backer_doCreateClass {creator owner : AccountId} {id classId : ℕ} {classType : ClassType}
    {metadata : List UInt8} (created : doCreateClass s creator id classType metadata = .ok t)
    (backs : s.backer classId = some owner) : t.backer classId = some owner := by
  obtain ⟨absent, rfl⟩ := doCreateClass_ok created
  have other := AList.ne_of_lookup absent (State.backer_eq_some_iff.mp backs).2
  dsimp only [State.backer, State.depositEvent] at backs ⊢
  rwa [AList.lookup_insert_ne other, AList.lookup_insert_ne other]

/-- Nobody but the owner of an empty class can end it, and nobody can take it over. -/
theorem backer_kept (called : dispatch cfg s call = .ok t) {classId number : ℕ}
    {owner holder : AccountId} (backs : s.backer classId = some owner)
    (minted : s.owner (classId, number) = some holder) : t.backer classId = some owner := by
  cases does_of_dispatch called with
  | created created => exact backer_doCreateClass created backs
  | minted _ minted =>
      obtain ⟨-, -, rfl⟩ := doMint_ok minted
      exact backs
  | transferred moved =>
      obtain rfl | ⟨-, rfl⟩ := doTransfer_ok moved
      · exact backs
      · exact backs
  | burned _ burned =>
      obtain ⟨-, rfl⟩ := doBurn_ok burned
      exact backs
  | @destroyed _ id _ destroyed =>
      obtain ⟨empty, -, rfl⟩ := doDestroyClass_ok destroyed
      have other : classId ≠ id := by
        rintro rfl
        exact absurd ((Registry.unowned_of_instancesOf empty number).symm.trans minted) nofun
      dsimp only [State.backer, State.depositEvent] at backs ⊢
      rwa [AList.lookup_erase_ne other, AList.lookup_erase_ne other]

end Calls

section Handling

variable {uniques : UniquesConfig} {s t : State} {own : ℕ}

/-- What the pallets that are built on this one do to tokens: they hand any of them on, and make
and end those of a class of their own. -/
inductive Handled (own : ℕ) (s t : State) : Prop
  | created {owner : AccountId} {classType : ClassType} {metadata : List UInt8}
      (unbacked : classType.hasDeposit = false)
      (created : doCreateClass s owner own classType metadata = .ok t)
  | minted {owner : AccountId} {number : ℕ} {metadata : List UInt8}
      (minted : doMint s owner (own, number) metadata = .ok t)
  | transferred {token : Token} {sender receiver : AccountId}
      (moved : doTransfer s token sender receiver = .ok t)
  | burned {owner : AccountId} {number : ℕ} (burned : doBurn s owner (own, number) = .ok t)

theorem Handled.backer (handled : Handled own s t) {classId : ℕ} {owner : AccountId}
    (backs : s.backer classId = some owner) : t.backer classId = some owner := by
  cases handled with
  | created _ created => exact backer_doCreateClass created backs
  | minted minted =>
      obtain ⟨-, -, rfl⟩ := doMint_ok minted
      exact backs
  | transferred moved =>
      obtain rfl | ⟨-, rfl⟩ := doTransfer_ok moved
      · exact backs
      · exact backs
  | burned burned =>
      obtain ⟨-, rfl⟩ := doBurn_ok burned
      exact backs

/-- The class takes no deposits, if it exists. -/
def State.Unbacked (s : State) (classId : ℕ) : Prop :=
  ∀ info, s.classes.lookup classId = some info → info.classType.hasDeposit = false

theorem Fresh.unbacked (fresh : Fresh s) : s.Unbacked own := by
  intro info known
  rw [fresh.classes] at known
  cases known

theorem State.Unbacked.congr (unbacked : s.Unbacked own) (classes : t.classes = s.classes) :
    t.Unbacked own := by
  rw [State.Unbacked, classes]
  exact unbacked

/-- The calls neither make nor end a class with a reserved id. -/
theorem State.Unbacked.dispatch {cfg : Config} {call : Call} (unbacked : s.Unbacked own)
    (reserved : own ≤ cfg.reserveClassIdUpTo) (called : dispatch cfg s call = .ok t) :
    t.Unbacked own := by
  cases call with
  | createClass =>
      obtain ⟨unreserved, -, classes⟩ := createClass_ok called
      intro info known
      rw [classes, AList.lookup_insert_ne (by omega)] at known
      exact unbacked info known
  | mint => exact unbacked.congr (mint_ok called).2.2.2
  | transfer => exact unbacked.congr (transfer_ok called).2
  | burn => exact unbacked.congr (burn_ok called).2.2.2
  | destroyClass =>
      intro info known
      rw [(destroyClass_ok called).2.2, AList.lookup_erase_eq_ite] at known
      split_ifs at known
      exact unbacked info known

theorem State.Unbacked.tokenDeposit (unbacked : s.Unbacked own) :
    s.tokenDeposit uniques own = 0 := by
  cases known : s.classes.lookup own with
  | none => rw [State.tokenDeposit, known, Option.elim_none]
  | some info =>
      rw [State.tokenDeposit, known, Option.elim_some, depositInfo, unbacked info known]
      rfl

/-- A class of their own takes no deposits, and they leave all deposits alone. -/
theorem Handled.keeps (handled : Handled own s t) (books : Books s) (unbacked : s.Unbacked own) :
    Books t ∧ t.Unbacked own ∧ t.deposited uniques = s.deposited uniques := by
  cases handled with
  | @created owner classType metadata free created =>
      refine ⟨books.create (fun takes => absurd (free.symm.trans takes) nofun) created, ?_, ?_⟩
      · intro info known
        obtain ⟨-, rfl⟩ := doCreateClass_ok created
        obtain rfl := Option.some.inj ((AList.lookup_insert _).symm.trans known)
        exact free
      · funext who
        rw [deposited_doCreateClass books created who, depositInfo, free]
        exact Nat.add_eq_left.mpr (ite_self 0)
  | minted minted =>
      refine ⟨books.mint minted, unbacked.congr (doMint_classes minted), ?_⟩
      funext who
      rw [deposited_doMint minted who, unbacked.tokenDeposit, ite_self, Nat.add_zero]
  | transferred moved =>
      refine ⟨books.transfer moved, ?_, funext (deposited_doTransfer moved)⟩
      obtain rfl | ⟨-, rfl⟩ := doTransfer_ok moved
      · exact unbacked
      · exact unbacked
  | burned burned =>
      refine ⟨books.burn burned, unbacked.congr (doBurn_classes burned), ?_⟩
      funext who
      rw [deposited_doBurn burned who, unbacked.tokenDeposit, ite_self, Nat.add_zero]

end Handling

end Basilisk.Nft
