import TernoaEnclave.Chain.Codec

/-! # The store and retrieve verifiers

The request verifiers of `chain/verify.rs`, over one chain snapshot. Every
`async` query reads the snapshot; `verify_requester_type` receives the
requester's key as SS58 text and parses it back with
`AccountId32::from_str(..).unwrap()`, which gives back the same 32 bytes, so
the model passes the key itself.
-/

namespace TernoaEnclave.Chain

open Text

variable (sr : Sr25519) (chain : ChainState)

/-! ## Requester authorization -/

/-- Models `get_onchain_delegatee_account`. -/
def getOnchainDelegateeAccount (nftId : UInt32) : KeyshareHolder :=
  match chain.onchainDelegatee nftId with
  | some account => .delegatee account
  | none => .notFound

/-- Models `get_onchain_rentee_account`. -/
def getOnchainRenteeAccount (nftId : UInt32) : KeyshareHolder :=
  match chain.onchainRentContract nftId with
  | some account => .rentee account
  | none => .notFound

/-- Models `verify_requester_type`. -/
def verifyRequesterType (requesterAddress : AccountId32) (nftId : UInt32) (owner : AccountId32)
    (requesterType : RequesterType) : Bool :=
  match requesterType with
  | .owner | .none => owner == requesterAddress
  | .delegatee =>
    match getOnchainDelegateeAccount chain nftId with
    | .delegatee delegatee => delegatee == requesterAddress
    | _ => false
  | .rentee =>
    match getOnchainRenteeAccount chain nftId with
    | .rentee rentee => rentee == requesterAddress
    | _ => false

/-- The on-chain checks that close `verify_store_request` and
`verify_retrieve_request` once the data is parsed; the two differ only in the
requester, its claimed type and the error of a failed relation. -/
def checkOnchain (nftType : String) (nftId : UInt32) (authToken : AuthenticationToken)
    (requester : AccountId32) (requesterType : RequesterType) (failure : VerificationError) :
    Except VerificationError Unit := do
  let onchainNftData ← orErr .invalidNftId (chain.onchainNftData nftId)
  let nftStatus := onchainNftData.state
  failWhen (nftType == "secret-nft" && !nftStatus.isSecret) .idIsNotSecretNft
  failWhen (nftType == "capsule" && !nftStatus.isCapsule) .idIsNotCapsule
  failWhen (!authToken.isValid chain.currentBlockNumber) .expiredData
  failWhen (!verifyRequesterType chain requester nftId onchainNftData.owner requesterType) failure

/-- `match check { Ok(true) => …, Ok(false) => return Err(failure), Err(e) => return Err(e) }`,
the way every request verifier consumes a signature check. -/
def expectVerified (check : Except VerificationError Bool) (failure : VerificationError) :
    Except VerificationError Unit :=
  match check with
  | .ok true => .ok ()
  | .ok false => .error failure
  | .error e => .error e

theorem expectVerified_eq_bind (check : Except VerificationError Bool) (failure : VerificationError) :
    expectVerified check failure = check >>= fun verified => failWhen (!verified) failure := by
  rcases check with e | _ | _ <;> rfl

@[simp] theorem expectVerified_eq_ok {check : Except VerificationError Bool}
    {failure : VerificationError} {u : Unit} :
    expectVerified check failure = .ok u ↔ check = .ok true := by
  rcases check with e | _ | _ <;> simp [expectVerified]

section Spec

variable {sr chain}

theorem checkOnchain_eq_ok {nftType : String} {nftId : UInt32} {authToken : AuthenticationToken}
    {requester : AccountId32} {requesterType : RequesterType} {failure : VerificationError} :
    checkOnchain chain nftType nftId authToken requester requesterType failure = .ok () ↔
      ∃ nft, chain.onchainNftData nftId = some nft ∧
        (nftType = "secret-nft" → nft.state.isSecret = true) ∧
        (nftType = "capsule" → nft.state.isCapsule = true) ∧
        authToken.isValid chain.currentBlockNumber = true ∧
        verifyRequesterType chain requester nftId nft.owner requesterType = true := by
  simp only [checkOnchain, bind_eq_ok, orErr_eq_ok, failWhen_eq_ok, Bool.and_eq_false_iff,
    beq_eq_false_iff_ne, Bool.not_eq_false', exists_const, imp_iff_not_or, ne_eq]

/-- The errors the on-chain checks can end a request with. -/
def OnchainRejection (failure e : VerificationError) : Prop :=
  e = .invalidNftId ∨ e = .idIsNotSecretNft ∨ e = .idIsNotCapsule ∨ e = .expiredData ∨ e = failure

theorem checkOnchain_error {nftType : String} {nftId : UInt32} {authToken : AuthenticationToken}
    {requester : AccountId32} {requesterType : RequesterType} {failure e : VerificationError}
    (h : checkOnchain chain nftType nftId authToken requester requesterType failure = .error e) :
    OnchainRejection failure e := by
  simp only [checkOnchain, bind_eq_error, orErr_eq_error, failWhen_eq_error] at h
  rcases h with ⟨-, rfl⟩ | ⟨_, -, ⟨-, rfl⟩ | ⟨_, -, ⟨-, rfl⟩ | ⟨_, -, ⟨-, rfl⟩ | ⟨_, -, -, rfl⟩⟩⟩⟩
  exacts [.inl rfl, .inr (.inl rfl), .inr (.inr (.inl rfl)), .inr (.inr (.inr (.inl rfl))),
    .inr (.inr (.inr (.inr rfl)))]

end Spec

/-! ## Store requests -/

namespace StoreKeysharePacket

/-- Models `StoreKeysharePacket::verify_signer`. -/
def verifySigner (p : StoreKeysharePacket) : Except VerificationError Bool := do
  let signer ← (getSigner sr p.signerAddress).mapError fun _ => .invalidSignerAddress
  failWhen (!signer.authToken.isValid chain.currentBlockNumber) .expiredSigner
  let signersig ← (p.parseSignature "signer").mapError .invalidSignerSig
  pure (sr.verify signersig p.signerAddress p.ownerAddress)

/-- Models `StoreKeysharePacket::verify_data`. -/
def verifyData (p : StoreKeysharePacket) : Except VerificationError Bool := do
  let signer ← getSigner sr p.signerAddress
  let packetsig ← (p.parseSignature "owner").mapError .invalidDataSig
  let _data ← parseStoreData p.data
  pure (sr.verify packetsig p.data signer.account)

/-- Models `StoreKeysharePacket::verify_store_request`. -/
def verifyStoreRequest (p : StoreKeysharePacket) (nftType : String) :
    Except VerificationError StoreKeyshareData := do
  expectVerified (verifySigner sr chain p) .signerVerificationFailed
  expectVerified (verifyData sr p) .dataVerificationFailed
  let parsedData ← parseStoreData p.data
  checkOnchain chain nftType parsedData.nftId parsedData.authToken p.ownerAddress .owner
    .ownershipVerificationFailed
  pure parsedData

/-- Models `StoreKeysharePacket::verify_free_store_request`. -/
def verifyFreeStoreRequest (p : StoreKeysharePacket) :
    Except VerificationError StoreKeyshareData := do
  expectVerified (verifySigner sr chain p) .signerVerificationFailed
  let data ← parseStoreData p.data
  expectVerified (verifyData sr p) .dataVerificationFailed
  pure data

section Spec

variable {sr chain} {p : StoreKeysharePacket} {nftType : String}

theorem verifySigner_eq_ok {b : Bool} :
    verifySigner sr chain p = .ok b ↔ ∃ s, getSigner sr p.signerAddress = .ok s ∧
      s.authToken.isValid chain.currentBlockNumber = true ∧
      ∃ sig, p.parseSignature "signer" = .ok sig ∧
        sr.verify sig p.signerAddress p.ownerAddress = b := by
  simp only [verifySigner, bind_eq_ok, mapError_eq_ok, failWhen_eq_ok, Bool.not_eq_false',
    pure_eq_ok, Except.ok.injEq, exists_const]

theorem verifyData_eq_ok {b : Bool} :
    verifyData sr p = .ok b ↔ ∃ s, getSigner sr p.signerAddress = .ok s ∧
      ∃ sig, p.parseSignature "owner" = .ok sig ∧ (∃ d, parseStoreData p.data = .ok d) ∧
        sr.verify sig p.data s.account = b := by
  simp only [verifyData, bind_eq_ok, mapError_eq_ok, pure_eq_ok, Except.ok.injEq]
  constructor
  · rintro ⟨s, hs, sig, hsig, d, hd, rfl⟩; exact ⟨s, hs, sig, hsig, ⟨d, hd⟩, rfl⟩
  · rintro ⟨s, hs, sig, hsig, ⟨d, hd⟩, rfl⟩; exact ⟨s, hs, sig, hsig, d, hd, rfl⟩

theorem verifyStoreRequest_eq_ok {d : StoreKeyshareData} :
    verifyStoreRequest sr chain p nftType = .ok d ↔
      verifySigner sr chain p = .ok true ∧ verifyData sr p = .ok true ∧
        parseStoreData p.data = .ok d ∧
        checkOnchain chain nftType d.nftId d.authToken p.ownerAddress .owner
          .ownershipVerificationFailed = .ok () := by
  simp only [verifyStoreRequest, bind_eq_ok, expectVerified_eq_ok, pure_eq_ok, Except.ok.injEq,
    exists_const]
  constructor
  · rintro ⟨hs, hv, d', hd', u, hu, rfl⟩; exact ⟨hs, hv, hd', hu⟩
  · rintro ⟨hs, hv, hd', hu⟩; exact ⟨hs, hv, d, hd', (), hu, rfl⟩

theorem verifyFreeStoreRequest_eq_ok {d : StoreKeyshareData} :
    verifyFreeStoreRequest sr chain p = .ok d ↔
      verifySigner sr chain p = .ok true ∧ parseStoreData p.data = .ok d ∧
        verifyData sr p = .ok true := by
  simp only [verifyFreeStoreRequest, bind_eq_ok, expectVerified_eq_ok, pure_eq_ok,
    Except.ok.injEq, exists_const]
  constructor
  · rintro ⟨hs, d', hd', hv, rfl⟩; exact ⟨hs, hd', hv⟩
  · rintro ⟨hs, hd', hv⟩; exact ⟨hs, d, hd', hv, rfl⟩

end Spec

end StoreKeysharePacket

/-! ## Retrieve requests -/

namespace RetrieveKeysharePacket

/-- Models `RetrieveKeysharePacket::verify_data`. -/
def verifyData (p : RetrieveKeysharePacket) : Except VerificationError Bool := do
  let data ← parseRetrieveData p.data
  failWhen (!data.authToken.isValid chain.currentBlockNumber) .expiredData
  let sig ← p.parseSignature.mapError .invalidSignerSig
  pure (sr.verify sig p.data p.requesterAddress)

/-- Models `RetrieveKeysharePacket::verify_retrieve_request`. -/
def verifyRetrieveRequest (p : RetrieveKeysharePacket) (nftType : String) :
    Except VerificationError RetrieveKeyshareData := do
  expectVerified (verifyData sr chain p) .signerVerificationFailed
  let parsedData ← parseRetrieveData p.data
  checkOnchain chain nftType parsedData.nftId parsedData.authToken p.requesterAddress
    p.requesterType .requesterVerificationFailed
  pure parsedData

/-- Models `RetrieveKeysharePacket::verify_free_retrieve_request`. -/
def verifyFreeRetrieveRequest (p : RetrieveKeysharePacket) :
    Except VerificationError RetrieveKeyshareData := do
  let data ← parseRetrieveData p.data
  expectVerified (verifyData sr chain p) .dataVerificationFailed
  pure data

section Spec

variable {sr chain} {p : RetrieveKeysharePacket} {nftType : String}

theorem verifyData_eq_ok {b : Bool} :
    verifyData sr chain p = .ok b ↔ ∃ d, parseRetrieveData p.data = .ok d ∧
      d.authToken.isValid chain.currentBlockNumber = true ∧
      ∃ sig, p.parseSignature = .ok sig ∧ sr.verify sig p.data p.requesterAddress = b := by
  simp only [verifyData, bind_eq_ok, mapError_eq_ok, failWhen_eq_ok, Bool.not_eq_false',
    pure_eq_ok, Except.ok.injEq, exists_const]

theorem verifyRetrieveRequest_eq_ok {d : RetrieveKeyshareData} :
    verifyRetrieveRequest sr chain p nftType = .ok d ↔
      verifyData sr chain p = .ok true ∧ parseRetrieveData p.data = .ok d ∧
        checkOnchain chain nftType d.nftId d.authToken p.requesterAddress p.requesterType
          .requesterVerificationFailed = .ok () := by
  simp only [verifyRetrieveRequest, bind_eq_ok, expectVerified_eq_ok, pure_eq_ok, Except.ok.injEq,
    exists_const]
  constructor
  · rintro ⟨hv, d', hd', u, hu, rfl⟩; exact ⟨hv, hd', hu⟩
  · rintro ⟨hv, hd', hu⟩; exact ⟨hv, d, hd', (), hu, rfl⟩

theorem verifyFreeRetrieveRequest_eq_ok {d : RetrieveKeyshareData} :
    verifyFreeRetrieveRequest sr chain p = .ok d ↔
      parseRetrieveData p.data = .ok d ∧ verifyData sr chain p = .ok true := by
  simp only [verifyFreeRetrieveRequest, bind_eq_ok, expectVerified_eq_ok, pure_eq_ok,
    Except.ok.injEq, exists_const]
  constructor
  · rintro ⟨d', hd', hv, rfl⟩; exact ⟨hd', hv⟩
  · rintro ⟨hd', hv⟩; exact ⟨d, hd', hv, rfl⟩

end Spec

end RetrieveKeysharePacket

end TernoaEnclave.Chain
