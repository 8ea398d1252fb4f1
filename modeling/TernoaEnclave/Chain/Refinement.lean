import TernoaEnclave.Chain.Authorization

/-! # Failure order and the free verifiers

`verify_store_request` runs `verify_signer`, then `verify_data`, then the
on-chain checks; the free variants run the same signature checks without the
chain. Here the store pipeline is laid out as one sequence of checks in the
order the code makes them and compared with the order of spec §4.4, and each
full verifier is compared with its free variant. Both comparisons are exact:
the code leaves the spec's order on two kinds of packet only, and the full
verifiers change their free variants' errors on two kinds of packet only; a
packet of each kind is run at the end of its section.
-/

namespace TernoaEnclave.Chain

open Text

variable {sr : Sr25519} {chain : ChainState}

/-! ## The order of the store checks -/

/-- The checks of the signer grant, which both orders make first: the signer
field, its token, and the owner's signature over it. -/
def signerChecks (sr : Sr25519) (chain : ChainState) (p : StoreKeysharePacket) :
    Except VerificationError Signer := do
  let signer ← getSigner sr p.signerAddress
  failWhen (!signer.authToken.isValid chain.currentBlockNumber) .expiredSigner
  let signersig ← (p.parseSignature "signer").mapError .invalidSignerSig
  failWhen (!sr.verify signersig p.signerAddress p.ownerAddress) .signerVerificationFailed
  pure signer

/-- The checks of a store request in the order of spec §4.4, each failing with
its own error. -/
def storeRequestInSpecOrder (sr : Sr25519) (chain : ChainState) (p : StoreKeysharePacket)
    (nftType : String) : Except VerificationError StoreKeyshareData := do
  let signer ← signerChecks sr chain p
  let data ← parseStoreData p.data
  let packetsig ← (p.parseSignature "owner").mapError .invalidDataSig
  failWhen (!sr.verify packetsig p.data signer.account) .dataVerificationFailed
  checkOnchain chain nftType data.nftId data.authToken p.ownerAddress .owner
    .ownershipVerificationFailed
  pure data

/-- The same checks in the order the code makes them: `verify_data` parses the
data signature before the data. -/
def storeRequestInCodeOrder (sr : Sr25519) (chain : ChainState) (p : StoreKeysharePacket)
    (nftType : String) : Except VerificationError StoreKeyshareData := do
  let signer ← signerChecks sr chain p
  let packetsig ← (p.parseSignature "owner").mapError .invalidDataSig
  let data ← parseStoreData p.data
  failWhen (!sr.verify packetsig p.data signer.account) .dataVerificationFailed
  checkOnchain chain nftType data.nftId data.authToken p.ownerAddress .owner
    .ownershipVerificationFailed
  pure data

namespace StoreKeysharePacket

variable {p : StoreKeysharePacket} {nftType : String}

theorem verifyStoreRequest_eq_codeOrder {s : Signer} (hs : getSigner sr p.signerAddress = .ok s) :
    verifyStoreRequest sr chain p nftType = storeRequestInCodeOrder sr chain p nftType := by
  simp only [verifyStoreRequest, storeRequestInCodeOrder, signerChecks, expectVerified_eq_bind,
    verifySigner, verifyData, hs, mapError_ok, ok_bind, bind_assoc, pure_bind]
  cases parseStoreData p.data <;> rfl

theorem verifyStoreRequest_error_of_getSigner {e : VerificationError}
    (hs : getSigner sr p.signerAddress = .error e) :
    verifyStoreRequest sr chain p nftType = .error .invalidSignerAddress := by
  simp [verifyStoreRequest, expectVerified, verifySigner, hs, Except.mapError]

end StoreKeysharePacket

/-- A store packet whose data field and data signature are both malformed. -/
def malformedDataPacket : StoreKeysharePacket :=
  { demoStorePacket with data := "x", signature := "x" }

/-- A store packet whose signer field has no `_`. -/
def unsplitSignerPacket : StoreKeysharePacket :=
  { demoStorePacket with signerAddress := "5Signer" }

set_option maxRecDepth 4000 in
/-- On a packet with malformed data and a malformed data signature the code
reports the signature where spec §4.4 reports the data, and on a signer field
without `_` it reports INVALIDSIGNERADDRESS where the spec reports
`get_signer`'s MALFORMATEDSIGNER. -/
theorem verifyStoreRequest_not_spec_order :
    StoreKeysharePacket.verifyStoreRequest demoSr demoChain malformedDataPacket "secret-nft" =
        .error (.invalidDataSig .prefixError) ∧
      storeRequestInSpecOrder demoSr demoChain malformedDataPacket "secret-nft" =
        .error .malformatedData ∧
      StoreKeysharePacket.verifyStoreRequest demoSr demoChain unsplitSignerPacket "secret-nft" =
        .error .invalidSignerAddress ∧
      storeRequestInSpecOrder demoSr demoChain unsplitSignerPacket "secret-nft" =
        .error .malformatedSigner :=
  ⟨rfl, rfl, rfl, rfl⟩

/-! ## The free store verifier -/

namespace StoreKeysharePacket

variable {p : StoreKeysharePacket} {nftType : String}

theorem verifyFreeStoreRequest_of_ok {d : StoreKeyshareData}
    (h : verifyStoreRequest sr chain p nftType = .ok d) : verifyFreeStoreRequest sr chain p = .ok d := by
  obtain ⟨hs, hv, hd, -⟩ := verifyStoreRequest_eq_ok.mp h
  exact verifyFreeStoreRequest_eq_ok.mpr ⟨hs, hd, hv⟩

theorem verifyStoreRequest_of_free_ok {d : StoreKeyshareData}
    (h : verifyFreeStoreRequest sr chain p = .ok d) :
    verifyStoreRequest sr chain p nftType = .ok d ∨ ∃ e,
      verifyStoreRequest sr chain p nftType = .error e ∧ OnchainRejection .ownershipVerificationFailed e := by
  obtain ⟨hs, hd, hv⟩ := verifyFreeStoreRequest_eq_ok.mp h
  rcases hc : checkOnchain chain nftType d.nftId d.authToken p.ownerAddress .owner
    .ownershipVerificationFailed with e | u
  · exact .inr ⟨e, by simp [verifyStoreRequest, expectVerified, hs, hv, hd, hc], checkOnchain_error hc⟩
  · exact .inl (verifyStoreRequest_eq_ok.mpr ⟨hs, hv, hd, hc⟩)

/-- With the signer verified and the data unparsable, `verify_data` fails on
the data signature if that is malformed too, and on the data otherwise. -/
theorem verifyData_of_parse_error {s : Signer} {e : VerificationError}
    (hs : getSigner sr p.signerAddress = .ok s) (hd : parseStoreData p.data = .error e) :
    verifyData sr p = .error e ∨ ∃ r, p.parseSignature "owner" = .error r ∧
      verifyData sr p = .error (.invalidDataSig r) := by
  rcases hr : p.parseSignature "owner" with r | sig
  · exact .inr ⟨r, rfl, by simp [verifyData, hs, hr, Except.mapError]⟩
  · exact .inl (by simp [verifyData, hs, hr, hd])

theorem verifyStoreRequest_error_of_free {e : VerificationError}
    (h : verifyFreeStoreRequest sr chain p = .error e) :
    ∃ e', verifyStoreRequest sr chain p nftType = .error e' ∧
      (e' = e ∨ parseStoreData p.data = .error e ∧
        ∃ r, p.parseSignature "owner" = .error r ∧ e' = .invalidDataSig r) := by
  unfold verifyFreeStoreRequest at h
  unfold verifyStoreRequest
  rcases hs : verifySigner sr chain p with e1 | _ | _
  · simp only [hs, expectVerified, error_bind, Except.error.injEq] at h ⊢
    exact ⟨e1, rfl, .inl h⟩
  · simp only [hs, expectVerified, error_bind, Except.error.injEq] at h ⊢
    exact ⟨_, rfl, .inl h⟩
  obtain ⟨s, hsig, -⟩ := verifySigner_eq_ok.mp hs
  simp only [hs, expectVerified, ok_bind] at h ⊢
  rcases hd : parseStoreData p.data with e2 | d
  · simp only [hd, error_bind, Except.error.injEq] at h
    subst h
    rcases verifyData_of_parse_error hsig hd with hv | ⟨r, hr, hv⟩
    · exact ⟨e2, by simp [hv], .inl rfl⟩
    · exact ⟨_, by simp [hv], .inr ⟨rfl, r, hr, rfl⟩⟩
  · rcases hv : verifyData sr p with e3 | _ | _ <;>
      simp only [hd, hv, expectVerified, error_bind, ok_bind, pure_eq_ok, Except.error.injEq,
        reduceCtorEq] at h ⊢
    · exact ⟨e3, rfl, .inl h⟩
    · exact ⟨_, rfl, .inl h⟩

end StoreKeysharePacket

/-! ## The free retrieve verifier -/

namespace RetrieveKeysharePacket

variable {p : RetrieveKeysharePacket} {nftType : String}

theorem verifyFreeRetrieveRequest_of_ok {d : RetrieveKeyshareData}
    (h : verifyRetrieveRequest sr chain p nftType = .ok d) :
    verifyFreeRetrieveRequest sr chain p = .ok d := by
  obtain ⟨hv, hd, -⟩ := verifyRetrieveRequest_eq_ok.mp h
  exact verifyFreeRetrieveRequest_eq_ok.mpr ⟨hd, hv⟩

theorem verifyRetrieveRequest_of_free_ok {d : RetrieveKeyshareData}
    (h : verifyFreeRetrieveRequest sr chain p = .ok d) :
    verifyRetrieveRequest sr chain p nftType = .ok d ∨ ∃ e,
      verifyRetrieveRequest sr chain p nftType = .error e ∧
        OnchainRejection .requesterVerificationFailed e := by
  obtain ⟨hd, hv⟩ := verifyFreeRetrieveRequest_eq_ok.mp h
  rcases hc : checkOnchain chain nftType d.nftId d.authToken p.requesterAddress p.requesterType
    .requesterVerificationFailed with e | u
  · exact .inr ⟨e, by simp [verifyRetrieveRequest, expectVerified, hv, hd, hc], checkOnchain_error hc⟩
  · exact .inl (verifyRetrieveRequest_eq_ok.mpr ⟨hv, hd, hc⟩)

/-- The two retrieve verifiers fail alike, except on a data signature that
parses and does not verify, which the full one reports as the signer's. -/
theorem verifyRetrieveRequest_error_of_free {e : VerificationError}
    (h : verifyFreeRetrieveRequest sr chain p = .error e) :
    ∃ e', verifyRetrieveRequest sr chain p nftType = .error e' ∧
      (e' = e ∨ e = .dataVerificationFailed ∧ e' = .signerVerificationFailed) := by
  unfold verifyFreeRetrieveRequest at h
  unfold verifyRetrieveRequest
  rcases hd : parseRetrieveData p.data with e2 | d
  · have hv : verifyData sr chain p = .error e2 := by simp [verifyData, hd]
    simp only [hd, hv, expectVerified, error_bind, Except.error.injEq] at h ⊢
    exact ⟨e2, rfl, .inl h⟩
  · rcases hv : verifyData sr chain p with e3 | _ | _ <;>
      simp only [hd, hv, expectVerified, error_bind, ok_bind, pure_eq_ok, Except.error.injEq,
        reduceCtorEq] at h ⊢
    · exact ⟨e3, rfl, .inl h⟩
    · exact ⟨_, rfl, .inr ⟨h.symm, rfl⟩⟩

end RetrieveKeysharePacket

/-- `demoSr` with a verifier that rejects every signature. -/
def rejectingSr : Sr25519 :=
  { demoSr with verify := fun _ _ _ => false }

set_option maxRecDepth 4000 in
/-- The full verifiers change two of their free variants' errors: on a store
packet whose data and data signature are both malformed, the free verifier
reports the data and the full one the signature; on a retrieve packet whose
data signature parses and does not verify, the free verifier reports
DATAVERIFICATIONFAILED and the full one SIGNERVERIFICATIONFAILED. -/
theorem full_verifiers_change_free_errors :
    StoreKeysharePacket.verifyFreeStoreRequest demoSr demoChain malformedDataPacket =
        .error .malformatedData ∧
      StoreKeysharePacket.verifyStoreRequest demoSr demoChain malformedDataPacket "secret-nft" =
        .error (.invalidDataSig .prefixError) ∧
      RetrieveKeysharePacket.verifyFreeRetrieveRequest rejectingSr demoChain demoRetrievePacket =
        .error .dataVerificationFailed ∧
      RetrieveKeysharePacket.verifyRetrieveRequest rejectingSr demoChain demoRetrievePacket
        "secret-nft" = .error .signerVerificationFailed :=
  ⟨rfl, rfl, rfl, rfl⟩

end TernoaEnclave.Chain
