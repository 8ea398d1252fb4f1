import TernoaEnclave.Chain.Verify

/-! # What an accepted request establishes

The properties a store or retrieve request must have for the enclave to act
on it, stated without the order in which the code checks them. A request is
accepted exactly when it has them: the delegation chain for a store, the
signature and on-chain relation for a retrieve.
-/

namespace TernoaEnclave.Chain

variable {sr : Sr25519} {chain : ChainState}

/-- `signature` is `0x` and 128 hex digits that verify over the bytes of
`message` under `key`. -/
def SignedBy (sr : Sr25519) (signature message : String) (key : AccountId32) : Prop :=
  ∃ sig, signatureFromHex signature = .ok sig ∧ sr.verify sig message key = true

/-- The asset carries the flag the requested kind needs. -/
def KindMatches (nftType : String) (state : NftState) : Prop :=
  (nftType = "secret-nft" → state.isSecret = true) ∧ (nftType = "capsule" → state.isCapsule = true)

/-- The chain relates `requester` to the asset as claimed: its owner (also when
nothing is claimed), its current delegatee, or its current rentee. -/
def HoldsAs (chain : ChainState) (nftId : UInt32) (owner requester : AccountId32) :
    RequesterType → Prop
  | .owner | .none => requester = owner
  | .delegatee => chain.onchainDelegatee nftId = some requester
  | .rentee => chain.onchainRentContract nftId = some requester

theorem verifyRequesterType_iff {requester owner : AccountId32} {nftId : UInt32}
    {requesterType : RequesterType} :
    verifyRequesterType chain requester nftId owner requesterType = true ↔
      HoldsAs chain nftId owner requester requesterType := by
  cases requesterType with
  | owner | none => simp only [verifyRequesterType, HoldsAs, beq_iff_eq]; exact eq_comm
  | delegatee =>
    cases h : chain.onchainDelegatee nftId <;>
      simp [verifyRequesterType, getOnchainDelegateeAccount, HoldsAs, h]
  | rentee =>
    cases h : chain.onchainRentContract nftId <;>
      simp [verifyRequesterType, getOnchainRenteeAccount, HoldsAs, h]

theorem checkOnchain_iff {nftType : String} {nftId : UInt32} {authToken : AuthenticationToken}
    {requester : AccountId32} {requesterType : RequesterType} {failure : VerificationError} :
    checkOnchain chain nftType nftId authToken requester requesterType failure = .ok () ↔
      authToken.isValid chain.currentBlockNumber = true ∧ ∃ nft, chain.onchainNftData nftId = some nft ∧
        KindMatches nftType nft.state ∧ HoldsAs chain nftId nft.owner requester requesterType := by
  rw [checkOnchain_eq_ok]
  simp only [KindMatches, verifyRequesterType_iff]
  constructor
  · rintro ⟨nft, hn, hs, hc, hv, hh⟩; exact ⟨hv, nft, hn, ⟨hs, hc⟩, hh⟩
  · rintro ⟨hv, nft, hn, ⟨hs, hc⟩, hh⟩; exact ⟨nft, hn, hs, hc, hv, hh⟩

/-! ## A request accepted end to end

An owner key `0…0` owns asset 163 at height 1001 and has granted the signer
`5Signer` a window from block 1000 for 100 blocks; the sr25519 stand-in knows
that one address and accepts every signature.
-/

def demoChain : ChainState :=
  ⟨1001, fun _ => some ⟨demoKey 0, ⟨true, false⟩⟩, fun _ => none, fun _ => none⟩

def demoSignature : String := "0x" ++ ⟨List.replicate 128 'a'⟩

def demoStorePacket : StoreKeysharePacket :=
  ⟨demoKey 0, "5Signer_1000_100", demoSignature, "163_abc_1000_100", demoSignature⟩

def demoRetrievePacket : RetrieveKeysharePacket :=
  ⟨demoKey 0, .owner, "163_1000_100", demoSignature⟩

/-! ## Store requests -/

/-- An owner-to-signer-to-data delegation chain for `d`, rooted at the current
on-chain owner of the asset, with both validity windows open. -/
structure DelegationChain (sr : Sr25519) (chain : ChainState) (nftType : String)
    (p : StoreKeysharePacket) (s : Signer) (d : StoreKeyshareData) : Prop where
  signer_parsed : getSigner sr p.signerAddress = .ok s
  grant_signed : SignedBy sr p.signersig p.signerAddress p.ownerAddress
  data_signed : SignedBy sr p.signature p.data s.account
  data_parsed : parseStoreData p.data = .ok d
  signer_fresh : s.authToken.isValid chain.currentBlockNumber = true
  data_fresh : d.authToken.isValid chain.currentBlockNumber = true
  owned : ∃ nft, chain.onchainNftData d.nftId = some nft ∧ KindMatches nftType nft.state ∧
    nft.owner = p.ownerAddress

namespace StoreKeysharePacket

variable {p : StoreKeysharePacket} {nftType : String} {d : StoreKeyshareData}

theorem verifyStoreRequest_eq_ok_iff :
    verifyStoreRequest sr chain p nftType = .ok d ↔ ∃ s, DelegationChain sr chain nftType p s d := by
  simp only [verifyStoreRequest_eq_ok, verifySigner_eq_ok, verifyData_eq_ok, checkOnchain_iff]
  constructor
  · rintro ⟨⟨s, hs, hsv, sig, hsig, hv⟩, ⟨s', hs', sig', hsig', -, hv'⟩, hd, hdv, nft, hn, hk, hh⟩
    cases hs.symm.trans hs'
    exact ⟨s, hs, ⟨sig, hsig, hv⟩, ⟨sig', hsig', hv'⟩, hd, hsv, hdv, nft, hn, hk, hh.symm⟩
  · rintro ⟨s, hs, ⟨sig, hsig, hv⟩, ⟨sig', hsig', hv'⟩, hd, hsv, hdv, nft, hn, hk, hh⟩
    exact ⟨⟨s, hs, hsv, sig, hsig, hv⟩, ⟨s, hs, sig', hsig', ⟨d, hd⟩, hv'⟩, hd, hdv, nft, hn, hk,
      hh.symm⟩

end StoreKeysharePacket

/-! ## Retrieve requests -/

/-- A retrieve request signed by its requester, fresh, for an asset of the
requested kind that the chain relates to the requester as claimed. -/
structure RetrieveAuthorized (sr : Sr25519) (chain : ChainState) (nftType : String)
    (p : RetrieveKeysharePacket) (d : RetrieveKeyshareData) : Prop where
  data_parsed : parseRetrieveData p.data = .ok d
  data_signed : SignedBy sr p.signature p.data p.requesterAddress
  data_fresh : d.authToken.isValid chain.currentBlockNumber = true
  holder : ∃ nft, chain.onchainNftData d.nftId = some nft ∧ KindMatches nftType nft.state ∧
    HoldsAs chain d.nftId nft.owner p.requesterAddress p.requesterType

namespace RetrieveKeysharePacket

variable {p : RetrieveKeysharePacket} {nftType : String} {d : RetrieveKeyshareData}

theorem verifyRetrieveRequest_eq_ok_iff :
    verifyRetrieveRequest sr chain p nftType = .ok d ↔ RetrieveAuthorized sr chain nftType p d := by
  simp only [verifyRetrieveRequest_eq_ok, verifyData_eq_ok, checkOnchain_iff]
  constructor
  · rintro ⟨⟨d', hd', -, sig, hsig, hv⟩, hd, hdv, hh⟩
    exact ⟨hd, ⟨sig, hsig, hv⟩, hdv, hh⟩
  · rintro ⟨hd, ⟨sig, hsig, hv⟩, hdv, hh⟩
    exact ⟨⟨d, hd, hdv, sig, hsig, hv⟩, hd, hdv, hh⟩

/-- Every retrieve request `verify_retrieve_request` accepts returns the parsed
data, is signed by its requester, is fresh, names an asset of the requested
kind, and comes from the asset's owner (claimed `OWNER` or `NONE`), its current
delegatee or its current rentee, as claimed; with no delegatee or rentee on
chain, such a claim is never accepted. -/
theorem verifyRetrieveRequest_sound (h : verifyRetrieveRequest sr chain p nftType = .ok d) :
    parseRetrieveData p.data = .ok d ∧ SignedBy sr p.signature p.data p.requesterAddress ∧
      d.authToken.isValid chain.currentBlockNumber = true ∧
      ∃ nft, chain.onchainNftData d.nftId = some nft ∧ KindMatches nftType nft.state ∧
        HoldsAs chain d.nftId nft.owner p.requesterAddress p.requesterType := by
  obtain ⟨hd, hs, hv, hh⟩ := verifyRetrieveRequest_eq_ok_iff.mp h
  exact ⟨hd, hs, hv, hh⟩

set_option maxRecDepth 4000 in
theorem verifyRetrieveRequest_sound_demo :
    verifyRetrieveRequest demoSr demoChain demoRetrievePacket "secret-nft" = .ok ⟨163, ⟨1000, 100⟩⟩ ∧
      parseRetrieveData demoRetrievePacket.data = .ok ⟨163, ⟨1000, 100⟩⟩ ∧
      SignedBy demoSr demoRetrievePacket.signature demoRetrievePacket.data
        demoRetrievePacket.requesterAddress ∧
      (⟨1000, 100⟩ : AuthenticationToken).isValid demoChain.currentBlockNumber = true ∧
      ∃ nft, demoChain.onchainNftData 163 = some nft ∧ KindMatches "secret-nft" nft.state ∧
        HoldsAs demoChain 163 nft.owner demoRetrievePacket.requesterAddress
          demoRetrievePacket.requesterType :=
  have h : verifyRetrieveRequest demoSr demoChain demoRetrievePacket "secret-nft" =
      .ok ⟨163, ⟨1000, 100⟩⟩ := by rfl
  ⟨h, verifyRetrieveRequest_sound h⟩

end RetrieveKeysharePacket

end TernoaEnclave.Chain
