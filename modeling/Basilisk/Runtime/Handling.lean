/-
# Tokens in the hands of the other pallets

The marketplace and liquidity mining work on the registry of the NFT pallet without
its extrinsics.  All they do to it is to hand tokens on and, for liquidity mining, to
make and to end tokens of the class of its deposits, which takes no storage deposits.
-/

import Basilisk.Nft.Deposits
import Basilisk.Runtime.Tokens

namespace Basilisk

open Basilisk.Math

namespace Marketplace

variable {cfg : Config} {s t : State} {call : Call} (own : ℕ)

theorem handled_of_doBuy {buyer : AccountId} {token : Nft.Token} {isOffer : Bool}
    (bought : doBuy cfg s buyer token isOffer = .ok t) : Nft.Handled own s.nft t.nft := by
  obtain ⟨owner, priced, price, settled, net, paid, nft, -, -, taking, royalty, paying,
    transferred, rfl⟩ := doBuy_steps bought
  have before : paid.nft = s.nft := by
    rw [(transfer_paid paying).nft, (settleRoyalty_paid royalty).1.nft]
    rcases takePrice_ok taking with ⟨-, rfl, -⟩ | ⟨-, rfl, -⟩
    · rfl
    · rfl
  simp only [Nft.transfer, bind_eq_ok, ensure_eq_ok, exists_const] at transferred
  obtain ⟨_, -, -, moved⟩ := transferred
  rw [before] at moved
  exact .transferred moved

theorem handled_of_reserveNamed {who : AccountId} {amount : ℕ}
    (reserving : s.reserveNamed cfg who amount = .ok t) :
    Relation.ReflTransGen (Nft.Handled own) s.nft t.nft := by
  rw [(reserveNamed_paid reserving).nft]

/-- A call hands one token on, or none. -/
theorem handled_of_dispatch (called : dispatch cfg s call = .ok t) :
    Relation.ReflTransGen (Nft.Handled own) s.nft t.nft := by
  cases call with
  | buy => exact .single (handled_of_doBuy own called)
  | setPrice =>
      simp only [dispatch, setPrice, bind_eq_ok, ensure_eq_ok, return_eq_ok,
        exists_const] at called
      obtain ⟨-, rfl⟩ := called
      exact .refl
  | makeOffer =>
      simp only [dispatch, makeOffer, bind_eq_ok, ensure_eq_ok, return_eq_ok,
        exists_const] at called
      obtain ⟨-, -, reserved, reserving, rfl⟩ := called
      have same := handled_of_reserveNamed own reserving
      exact same
  | withdrawOffer =>
      simp only [dispatch, withdrawOffer, bind_eq_ok, okOr_eq_ok, ensure_eq_ok, return_eq_ok,
        exists_const] at called
      obtain ⟨_, -, _, -, -, rfl⟩ := called
      exact .refl
  | acceptOffer =>
      obtain ⟨_, after, -, -, bought, rfl⟩ := acceptOffer_steps called
      have handled := handled_of_doBuy own bought
      exact .single handled
  | addRoyalty =>
      simp only [dispatch, addRoyalty, bind_eq_ok, okOr_eq_ok, ensure_eq_ok, return_eq_ok,
        exists_const] at called
      obtain ⟨-, -, _, -, -, reserved, reserving, rfl⟩ := called
      have same := handled_of_reserveNamed own reserving
      exact same

end Marketplace

namespace LiquidityMining

variable {cfg : Config} {s t : State} {kind : MoveKind} {call : Call}

theorem handled_of_move (move : Move cfg s kind t) (own : ∀ env, kind ≠ .external env) :
    t.nft = s.nft ∨ Nft.Handled cfg.nftClass s.nft t.nft := by
  cases move with
  | enter _ _ _ _ _ _ _ _ _ _ minted => exact .inr (.minted minted)
  | leave _ _ _ _ _ _ _ _ _ _ _ _ _ burned => exact .inr (.burned burned)
  | depart _ _ _ _ _ burned => exact .inr (.burned burned)
  | external => exact absurd rfl (own _)
  | _ => exact .inl rfl

/-- A call makes and ends tokens of the class of the deposits. -/
theorem handled_of_dispatch (consistent : Consistent cfg s.blockNumber s.toStorage)
    (called : dispatch cfg s call = .ok t) :
    Relation.ReflTransGen (Nft.Handled cfg.nftClass) s.nft t.nft := by
  have path : Path cfg s (.call call) s t := path_of_step consistent called
  clear called
  induction path with
  | refl => exact .refl
  | tail _ moved ih =>
      obtain ⟨kind, inherits, move⟩ := moved
      have own : ∀ env, kind ≠ .external env := by
        rintro env rfl
        exact absurd inherits.origin nofun
      rcases handled_of_move move own with same | handled
      · rw [same]
        exact ih
      · exact ih.tail handled

end LiquidityMining

/-- The upgrade makes the class of the deposits. -/
theorem Tokens.handled_of_initNftClass {cfg : Tokens.Config} {s t : Tokens.State}
    (migrated : initNftClass cfg s = .ok t) :
    Relation.ReflTransGen (Nft.Handled cfg.mining.nftClass) s.market.nft t.market.nft := by
  unfold initNftClass at migrated
  split_ifs at migrated
  · simp only [bind_eq_ok, mapError_eq_ok, return_eq_ok] at migrated
    obtain ⟨nft, created, rfl⟩ := migrated
    exact .single (.created rfl created)
  · obtain rfl := return_eq_ok.mp migrated
    exact .refl

/-- What is true of the books of the NFTs stays true in the hands of the other pallets. -/
theorem Nft.Books.handled {own : ℕ} {s t : Nft.State} (books : Nft.Books s)
    (uniques : Nft.UniquesConfig) (unbacked : s.Unbacked own)
    (handled : Relation.ReflTransGen (Nft.Handled own) s t) :
    Nft.Books t ∧ t.Unbacked own ∧ t.deposited uniques = s.deposited uniques := by
  induction handled with
  | refl => exact ⟨books, unbacked, rfl⟩
  | tail _ handled ih =>
      obtain ⟨books, unbacked, same⟩ := ih
      obtain ⟨books', unbacked', same'⟩ := handled.keeps books unbacked
      exact ⟨books', unbacked', same'.trans same⟩

theorem Nft.backer_of_handled {own classId : ℕ} {s t : Nft.State} {owner : AccountId}
    (backs : s.backer classId = some owner)
    (handled : Relation.ReflTransGen (Nft.Handled own) s t) : t.backer classId = some owner := by
  induction handled with
  | refl => exact backs
  | tail _ handled ih => exact handled.backer ih

end Basilisk
