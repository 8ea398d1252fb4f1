import Mathlib.Data.List.Basic

/-! # Data structures of `chain/verify.rs`

Keys and signatures are their raw bytes, and the chain is one snapshot read by
every query a request makes. The sr25519 primitives and the chain queries are
external collaborators, given as functions.
-/

namespace TernoaEnclave.Chain

/-- An sr25519 public key, which is also what `subxt`'s `AccountId32` holds. -/
structure AccountId32 where
  bytes : List UInt8
  length_eq : bytes.length = 32
  deriving DecidableEq

/-- `sr25519::Signature::from_raw` of 64 bytes. -/
structure Signature where
  bytes : List UInt8
  length_eq : bytes.length = 64
  deriving DecidableEq

/-- Errors when parsing signature. -/
inductive SignatureError where
  | prefixError
  | lenghtError
  | typeError
  deriving DecidableEq, Repr

inductive VerificationError where
  | invalidSignerSig (e : SignatureError)
  | invalidDataSig (e : SignatureError)
  | signerVerificationFailed
  | dataVerificationFailed
  | ownershipVerificationFailed
  | requesterVerificationFailed
  | malformatedData
  | malformatedSigner
  | invalidOwnerAddress
  | invalidSignerAddress
  | invalidAuthToken
  | invalidKeyshare
  | invalidNftId
  | expiredSigner
  | expiredData
  | idIsNotSecretNft
  | idIsNotCapsule
  deriving DecidableEq, Repr

/-- Validity time of key-share data. -/
structure AuthenticationToken where
  blockNumber : UInt32
  blockValidation : UInt32
  deriving DecidableEq, Repr

/-- The key-share is the text whose UTF-8 bytes the code stores: it is only
ever built from `as_bytes()` of a field, and `serialize` decodes it back. -/
structure StoreKeyshareData where
  nftId : UInt32
  keyshare : String
  authToken : AuthenticationToken
  deriving DecidableEq, Repr

/-- Packet signer and its validity. -/
structure Signer where
  account : AccountId32
  authToken : AuthenticationToken
  deriving DecidableEq

structure StoreKeysharePacket where
  ownerAddress : AccountId32
  /-- Signed by the owner. -/
  signerAddress : String
  signersig : String
  /-- Signed by the signer. -/
  data : String
  signature : String

structure RetrieveKeyshareData where
  nftId : UInt32
  authToken : AuthenticationToken
  deriving DecidableEq, Repr

inductive RequesterType where
  | owner
  | delegatee
  | rentee
  | none
  deriving DecidableEq, Repr

structure RetrieveKeysharePacket where
  requesterAddress : AccountId32
  requesterType : RequesterType
  data : String
  signature : String

inductive KeyshareHolder where
  | owner (account : AccountId32)
  | delegatee (account : AccountId32)
  | rentee (account : AccountId32)
  | notFound
  deriving DecidableEq

/-- The sr25519 operations the verifier calls. -/
structure Sr25519 where
  /-- `sr25519::Public::from_ss58check`. -/
  fromSs58check : String → Option AccountId32
  /-- `sr25519::Pair::verify(signature, message, public)`, the message being the
  bytes of a field. -/
  verify : Signature → String → AccountId32 → Bool

/-- The flags of an on-chain NFT that the verifier reads. -/
structure NftState where
  isSecret : Bool
  isCapsule : Bool

structure NftData where
  owner : AccountId32
  state : NftState

/-- The chain as the queries of one request see it. -/
structure ChainState where
  /-- `get_current_block_number`. -/
  currentBlockNumber : UInt32
  /-- `get_onchain_nft_data`. -/
  onchainNftData : UInt32 → Option NftData
  /-- `get_onchain_delegatee`. -/
  onchainDelegatee : UInt32 → Option AccountId32
  /-- `get_onchain_rent_contract`, its rentee. -/
  onchainRentContract : UInt32 → Option AccountId32

end TernoaEnclave.Chain
