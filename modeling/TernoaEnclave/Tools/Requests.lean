import TernoaEnclave.Chain.Authorization
import TernoaEnclave.Backup.FetchId

/-! # The request tools against the enclave

`tools/src/main.rs` builds the store and retrieve requests the enclave serves:
it joins the fields with `_`, signs them with sr25519 keypairs and prints each
signature as `0x{:?}`. The keypairs and the SS58 codec come with what the tool
relies on as proof fields: a signature verifies under the key that made it,
`from_ss58check` reads back `to_ss58check`, and an address is written in the
base-58 alphabet. Under these, a request the tool builds is accepted exactly
when the chain lets its sender act on the asset and the height is inside the
window the request carries.
-/

namespace TernoaEnclave.Tools

open Chain Text

/-! ## Signatures as the tools print them -/

/-- `HexDisplay`, which `Debug` of an sr25519 signature prints: each byte as
`{:02x}` writes it (`hexByte`). -/
def hexDisplay (bytes : List UInt8) : List Char :=
  bytes.flatMap hexByte

/-- `format!("0x{:?}", signature)`. -/
def toHex (sig : Signature) : String :=
  "0x" ++ ⟨hexDisplay sig.bytes⟩

theorem hexDigit_digitChar {d : Nat} (h : d < 16) :
    hexDigit (Nat.digitChar d) = some d.toUInt8 := by
  revert d
  decide

theorem decodeHex_hexDisplay : ∀ bytes : List UInt8, decodeHex (hexDisplay bytes) = some bytes
  | [] => rfl
  | b :: bytes => by
    have hb := b.toNat_lt_size
    simp only [UInt8.size] at hb
    show decodeHex (Nat.digitChar (b.toNat / 16) :: Nat.digitChar (b.toNat % 16) ::
      hexDisplay bytes) = _
    simp only [decodeHex, hexDigit_digitChar (show b.toNat / 16 < 16 by omega),
      hexDigit_digitChar (show b.toNat % 16 < 16 by omega), decodeHex_hexDisplay bytes,
      Option.bind_eq_bind, Option.some_bind, byte_of_halves]
    rfl

theorem fromHex64_hexDisplay (sig : Signature) : fromHex64 (hexDisplay sig.bytes) = some sig := by
  have hdec := decodeHex_hexDisplay sig.bytes
  unfold fromHex64
  rw [dif_pos (by rw [length_of_decodeHex hdec, sig.length_eq])]
  split <;> rename_i h
  · obtain rfl := Option.some_inj.mp (h.symm.trans hdec)
    rfl
  · cases h.symm.trans hdec

/-- A signature the tools print reads back, through the prefix check and
`<[u8; 64]>::from_hex`, as itself. -/
theorem signatureFromHex_toHex (sig : Signature) : signatureFromHex (toHex sig) = .ok sig := by
  have hstrip : (toHex sig).data.dropPrefix? "0x".data = some (hexDisplay sig.bytes) :=
    List.dropPrefix?_append_of_beq _ (beq_self_eq_true _)
  simp only [signatureFromHex, hstrip, fromHex64_hexDisplay]

theorem getSignature_toHex (sig : Signature) : Backup.getSignature (toHex sig) = some sig := by
  have hstrip : (toHex sig).data.dropPrefix? "0x".data = some (hexDisplay sig.bytes) :=
    List.dropPrefix?_append_of_beq _ (beq_self_eq_true _)
  simp only [Backup.getSignature, hstrip, Option.getD_some, fromHex64_hexDisplay]

/-- A signature the tools print reads back as itself, through `parse_signature`
of the request verifiers and through `get_signature` of the backup handler. -/
theorem toHex_read_back (sig : Signature) :
    signatureFromHex (toHex sig) = .ok sig ∧ Backup.getSignature (toHex sig) = some sig :=
  ⟨signatureFromHex_toHex sig, getSignature_toHex sig⟩

/-! ## Keypairs and addresses -/

/-- An sr25519 keypair, `sr25519::Pair`: a public key and the signatures it
makes, which verify under that key. -/
structure Pair (sr : Sr25519) where
  public : AccountId32
  sign : String → Signature
  verify_sign : ∀ message, sr.verify (sign message) message public = true

/-- `Ss58Codec::to_ss58check` of the network: `from_ss58check` reads an address
back as its key, and an address is written in the base-58 alphabet. -/
structure Ss58Codec (sr : Sr25519) where
  toSs58check : AccountId32 → String
  fromSs58check_toSs58check : ∀ a, sr.fromSs58check (toSs58check a) = some a
  isAlphanum_toSs58check : ∀ a, ∀ c ∈ (toSs58check a).data, c.isAlphanum = true

/-- The command-line arguments the secret requests read, with their defaults. -/
structure Args where
  /-- `--nftid`. -/
  nftid : UInt32 := 0
  /-- `--secret-share`. -/
  secretShare : String := ""
  /-- `--block-number`. -/
  blockNumber : UInt32 := 0
  /-- `--expire`. -/
  expire : UInt8 := 15
  /-- `--custom-data`. -/
  customData : String := ""

/-! ## Requests -/

/-- The key-share `generate_store_request` stores when `--secret-share` is empty. -/
def sampleSecret : String := "This-is-a-Sample-Secret!@#$%^&*()1234567890"

variable {sr : Sr25519}

/-- The height `generate_store_request` writes: `--block-number`, or the
chain's height `chainHeight` when that is 0. -/
def Args.currentBlockNumber (args : Args) (chainHeight : UInt32) : UInt32 :=
  if args.blockNumber > 0 then args.blockNumber else chainHeight

/-- The key-share `generate_store_request` writes: `--secret-share`, or the sample. -/
def Args.storedSecret (args : Args) : String :=
  if !args.secretShare.isEmpty then args.secretShare else sampleSecret

/-- Models `generate_store_request` once its keypairs are made: `owner` from the
seed phrase and `signer` freshly generated. `chainHeight` is what
`get_current_block_number` returns, read only when `--block-number` is 0. -/
def generateStoreRequest (ss58 : Ss58Codec sr) (owner signer : Pair sr) (args : Args)
    (chainHeight : UInt32) : StoreKeysharePacket :=
  let currentBlockNumber := args.currentBlockNumber chainHeight
  let signerAddress :=
    ss58.toSs58check signer.public ++ "_" ++ toString currentBlockNumber ++ "_" ++ toString args.expire
  let signersig := owner.sign signerAddress
  let data := if !args.customData.isEmpty then args.customData
    else toString args.nftid ++ "_" ++ args.storedSecret ++ "_" ++ toString currentBlockNumber ++
      "_" ++ toString args.expire
  let signature := signer.sign data
  ⟨owner.public, signerAddress, toHex signersig, data, toHex signature⟩

/-- Models `generate_retrieve_request` once the owner's keypair is made; `none`
is a request it refuses to build, with neither an NFT id nor custom data. -/
def generateRetrieveRequest (owner : Pair sr) (args : Args) (chainHeight : UInt32) :
    Option RetrieveKeysharePacket :=
  if args.nftid = 0 ∧ args.customData.isEmpty then none
  else
    let data := if !args.customData.isEmpty then args.customData
      else toString args.nftid ++ "_" ++ toString chainHeight ++ "_" ++ toString args.expire
    let signature := owner.sign data
    some ⟨owner.public, .owner, data, toHex signature⟩

/-! ## Reading the fields back -/

theorem not_isWrapped_of_head {s : List Char} (h : s.head? ≠ some '<') : ¬ isWrapped s := by
  intro hw
  obtain ⟨inner, rfl⟩ := isWrapped_iff.mp hw
  exact h rfl

/-- A field joined with `_` from two or more parts without `_`, and not opening
with `<`, splits back into its parts. -/
theorem splitField_intercalate (m : VerificationError) {parts : List (List Char)}
    (hu : ∀ p ∈ parts, '_' ∉ p) (hlen : 2 ≤ parts.length)
    (hw : (['_'].intercalate parts).head? ≠ some '<') :
    splitField m ⟨['_'].intercalate parts⟩ = .ok parts := by
  obtain ⟨p, q, rest, rfl⟩ : ∃ p q rest, parts = p :: q :: rest := by
    match parts, hlen with
    | p :: q :: rest, _ => exact ⟨p, q, rest, rfl⟩
  rw [splitField_eq_ok, stripBytes_of_not_isWrapped (not_isWrapped_of_head hw)]
  refine ⟨?_, List.splitOn_intercalate _ '_' hu (List.cons_ne_nil _ _)⟩
  simp [List.intercalate]

/-- `u8::to_string` writes the digits `u32::to_string` writes for the same value. -/
theorem parseU32_u8 (e : UInt8) : parseU32 (toString e).data = some e.toUInt32 :=
  parseU32_toString e.toUInt32

theorem underscore_not_mem_u8 (e : UInt8) : '_' ∉ (toString e).data :=
  underscore_not_mem_toDigits e.toNat

/-- The signer field the tool writes is read back as the signer's key and the
token it carries. -/
theorem getSigner_generated (ss58 : Ss58Codec sr) (pk : AccountId32) (bn : UInt32) (e : UInt8) :
    getSigner sr (ss58.toSs58check pk ++ "_" ++ toString bn ++ "_" ++ toString e) =
      .ok ⟨pk, ⟨bn, e.toUInt32⟩⟩ := by
  have hfield : ss58.toSs58check pk ++ "_" ++ toString bn ++ "_" ++ toString e =
      ⟨['_'].intercalate [(ss58.toSs58check pk).data, (toString bn).data, (toString e).data]⟩ := by
    apply String.ext
    simp [List.intercalate]
  have halnum := ss58.isAlphanum_toSs58check pk
  have hu : '_' ∉ (ss58.toSs58check pk).data := fun h => absurd (halnum _ h) (by decide)
  have hhead : (['_'].intercalate [(ss58.toSs58check pk).data, (toString bn).data,
      (toString e).data]).head? ≠ some '<' := by
    rcases hs : (ss58.toSs58check pk).data with _ | ⟨c, cs⟩
    · simp [List.intercalate]
    · have : c.isAlphanum = true := halnum c (by rw [hs]; exact List.mem_cons_self c cs)
      simp only [List.intercalate, List.intersperse, List.flatten, List.cons_append,
        List.head?_cons, ne_eq, Option.some.injEq]
      rintro rfl
      exact absurd this (by decide)
  rw [hfield]
  have hparts : ∀ p ∈ [(ss58.toSs58check pk).data, (toString bn).data, (toString e).data],
      '_' ∉ p := by
    simp [hu, underscore_not_mem_toDigits, underscore_not_mem_u8]
  exact getSigner_eq_ok.mpr ⟨_, _, _, [], splitField_intercalate _ hparts (by simp) hhead,
    ss58.fromSs58check_toSs58check pk, parseU32_toString bn, parseU32_u8 e⟩

/-- The data field of a store request the tool writes is read back as the
asset, the key-share and the token. -/
theorem parseStoreData_generated (n bn : UInt32) (k : String) (e : UInt8) (hk : k ≠ "")
    (hu : '_' ∉ k.data) :
    parseStoreData (toString n ++ "_" ++ k ++ "_" ++ toString bn ++ "_" ++ toString e) =
      .ok ⟨n, k, ⟨bn, e.toUInt32⟩⟩ := by
  have hdata : toString n ++ "_" ++ k ++ "_" ++ toString bn ++ "_" ++ toString e =
      ⟨['_'].intercalate [(toString n).data, k.data, (toString bn).data, (toString e).data]⟩ := by
    apply String.ext
    simp [List.intercalate]
  rw [hdata]
  exact parseStoreData_eq_ok.mpr ⟨_, _, _, _,
    splitField_joined _ n (by simp)
      (by simp [hu, underscore_not_mem_toDigits, underscore_not_mem_u8]),
    parseU32_toString n, fun h => hk (String.ext h), rfl, parseU32_toString bn, parseU32_u8 e⟩

/-- The data field of a retrieve request the tool writes is read back as the
asset and the token. -/
theorem parseRetrieveData_generated (n h : UInt32) (e : UInt8) :
    parseRetrieveData (toString n ++ "_" ++ toString h ++ "_" ++ toString e) =
      .ok ⟨n, ⟨h, e.toUInt32⟩⟩ := by
  have hdata : toString n ++ "_" ++ toString h ++ "_" ++ toString e =
      ⟨['_'].intercalate [(toString n).data, (toString h).data, (toString e).data]⟩ := by
    apply String.ext
    simp [List.intercalate]
  rw [hdata]
  exact parseRetrieveData_eq_ok.mpr ⟨_, _, _,
    splitField_joined _ n (by simp) (by simp [underscore_not_mem_toDigits, underscore_not_mem_u8]),
    parseU32_toString n, parseU32_toString h, parseU32_u8 e⟩

/-- Splitting on a character gives one part more than it occurs. -/
theorem length_splitOn {α : Type} [BEq α] (x : α) :
    ∀ xs : List α, (xs.splitOn x).length = xs.count x + 1
  | [] => rfl
  | a :: xs => by
    have ih := length_splitOn x xs
    have hmod : ∀ l : List (List α), (l.modifyHead (a :: ·)).length = l.length := by
      rintro (_ | _) <;> rfl
    simp only [List.splitOn] at ih ⊢
    rw [List.splitOnP_cons, List.count_cons]
    split <;> rename_i h <;> simp [h, hmod, ih]

/-- Stripping the `<Bytes>` wrapper removes no `_`. -/
theorem count_stripBytes (s : List Char) : (stripBytes s).count '_' = s.count '_' := by
  by_cases h : isWrapped s
  · obtain ⟨inner, rfl⟩ := isWrapped_iff.mp h
    have hprefix : bytesPrefix.count '_' = 0 := by decide
    have hsuffix : bytesSuffix.count '_' = 0 := by decide
    rw [stripBytes_wrapped, List.count_append, List.count_append, hprefix, hsuffix, Nat.zero_add,
      Nat.add_zero]
  · rw [stripBytes_of_not_isWrapped h]

/-- A key-share with `_` splits the data field of a store request into more
than four parts, so `parse_store_data` never accepts it. -/
theorem parseStoreData_generated_ne_ok (n bn : UInt32) (k : String) (e : UInt8)
    (hk : '_' ∈ k.data) (d : StoreKeyshareData) :
    parseStoreData (toString n ++ "_" ++ k ++ "_" ++ toString bn ++ "_" ++ toString e) ≠ .ok d := by
  intro h
  obtain ⟨a, b, c, f, hsplit, -⟩ := parseStoreData_eq_ok.mp h
  obtain ⟨-, hparts⟩ := splitField_eq_ok.mp hsplit
  have hlen := congrArg List.length hparts
  have hcount := List.count_pos_iff.mpr hk
  rw [length_splitOn, count_stripBytes] at hlen
  simp [List.count_append, List.count_eq_zero.mpr (underscore_not_mem_toDigits _),
    List.count_eq_zero.mpr (underscore_not_mem_u8 e)] at hlen
  omega

/-! ## A keyring to run the tools on -/

theorem isAlphanum_digitChar {d : Nat} (h : d < 16) : (Nat.digitChar d).isAlphanum = true := by
  revert d
  decide

/-- Keys written as their hex digits, and a verifier that accepts every
signature: the assumptions `Pair` and `Ss58Codec` carry hold of it. -/
def hexSr : Sr25519 where
  fromSs58check s := (decodeHex s.data).bind fun bytes =>
    if h : bytes.length = 32 then some ⟨bytes, h⟩ else none
  verify _ _ _ := true

def hexSs58 : Ss58Codec hexSr where
  toSs58check a := ⟨hexDisplay a.bytes⟩
  fromSs58check_toSs58check a := by
    simp only [hexSr, decodeHex_hexDisplay, Option.some_bind, a.length_eq, dite_true]
  isAlphanum_toSs58check a := by
    simp only [hexDisplay, hexByte, List.mem_flatMap, List.mem_cons, List.mem_singleton,
      List.not_mem_nil, or_false]
    rintro c ⟨b, -, rfl | rfl⟩ <;> apply isAlphanum_digitChar
    · exact Nat.div_lt_of_lt_mul (b.toNat_lt_size.trans_le (by decide))
    · exact Nat.mod_lt _ (by decide)

/-- A keypair of `hexSr` that signs every message with the zero signature. -/
def hexPair (key : AccountId32) : Pair hexSr :=
  ⟨key, fun _ => ⟨List.replicate 64 0, List.length_replicate 64 0⟩, fun _ => rfl⟩

/-! ## What the enclave makes of the tools' requests -/

theorem Args.storedSecret_ne_empty (args : Args) : args.storedSecret ≠ "" := by
  unfold Args.storedSecret
  split <;> rename_i h
  · intro he
    rw [he] at h
    exact absurd h (by decide)
  · decide

theorem generateStoreRequest_data (ss58 : Ss58Codec sr) (owner signer : Pair sr) {args : Args}
    (chainHeight : UInt32) (hcustom : args.customData = "") :
    (generateStoreRequest ss58 owner signer args chainHeight).data =
      toString args.nftid ++ "_" ++ args.storedSecret ++ "_" ++
        toString (args.currentBlockNumber chainHeight) ++ "_" ++ toString args.expire := by
  simp only [generateStoreRequest, hcustom]
  rfl

end TernoaEnclave.Tools
