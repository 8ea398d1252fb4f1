import TernoaEnclave.Text
import TernoaEnclave.Chain.Token

/-! # Packet codec

The signer field and the two data fields are `_`-separated texts, optionally
wrapped in `<Bytes>…</Bytes>`; signatures are `0x`-prefixed hex. Each parser
has a spec lemma saying exactly when it accepts, which the verifier proofs cite
instead of unfolding it. The signature format is also stated apart from the
parser: `HexSpells` says a text spells bytes in hex, in either case.
-/

namespace TernoaEnclave.Chain

open Text

/-! ## `Result` binds -/

section Binds

variable {ε α β : Type} {x : Except ε α} {f : α → Except ε β} {b : β}

@[simp] theorem ok_bind (a : α) : (Except.ok a >>= f) = f a := rfl

@[simp] theorem error_bind (e : ε) : (Except.error e >>= f) = .error e := rfl

@[simp] theorem pure_eq_ok (a : α) : (pure a : Except ε α) = .ok a := rfl

@[simp] theorem throw_eq_error (e : ε) : (throw e : Except ε α) = .error e := rfl

theorem bind_eq_ok : x >>= f = .ok b ↔ ∃ a, x = .ok a ∧ f a = .ok b := by
  cases x <;> simp

theorem bind_eq_error {e : ε} :
    x >>= f = .error e ↔ x = .error e ∨ ∃ a, x = .ok a ∧ f a = .error e := by
  cases x <;> simp [eq_comm]

@[simp] theorem mapError_ok {ε' : Type} {g : ε → ε'} (a : α) :
    (Except.ok a : Except ε α).mapError g = .ok a := rfl

@[simp] theorem mapError_error {ε' : Type} {g : ε → ε'} (e : ε) :
    (Except.error e : Except ε α).mapError g = .error (g e) := rfl

@[simp] theorem mapError_eq_ok {ε' : Type} {g : ε → ε'} {a : α} :
    x.mapError g = .ok a ↔ x = .ok a := by
  cases x <;> simp [Except.mapError]

end Binds

/-- `if failed { return Err(err) }`. -/
def failWhen {ε : Type} (failed : Bool) (err : ε) : Except ε Unit :=
  if failed then .error err else .ok ()

section FailWhen

variable {ε : Type}

@[simp] theorem failWhen_true (err : ε) : failWhen true err = .error err := rfl

@[simp] theorem failWhen_false (err : ε) : failWhen false err = .ok () := rfl

@[simp] theorem failWhen_eq_error {failed : Bool} {err e : ε} :
    failWhen failed err = .error e ↔ failed = true ∧ err = e := by
  cases failed <;> simp

theorem failWhen_eq_ok {failed : Bool} {err : ε} {u : Unit} :
    failWhen failed err = .ok u ↔ failed = false := by
  cases failed <;> simp

end FailWhen

/-! ## Fields -/

/-- The front shared by `get_signer`, `parse_store_data` and
`parse_retrieve_data`: strip one `<Bytes>` wrapper, then
`if s.contains("_") { s.split("_").collect() } else { return Err(malformed) }`. -/
def splitField (malformed : VerificationError) (field : String) :
    Except VerificationError (List (List Char)) :=
  let s := stripBytes field.data
  if '_' ∈ s then .ok (s.splitOn '_') else .error malformed

/-- `match r { Ok(v) => v, Err(_) => return Err(err) }`, for a step whose own
error the parsers drop. -/
def orErr {α : Type} (err : VerificationError) : Option α → Except VerificationError α
  | some a => .ok a
  | none => .error err

@[simp] theorem orErr_eq_error {α : Type} {err e : VerificationError} {o : Option α} :
    orErr err o = .error e ↔ o = none ∧ err = e := by
  cases o <;> simp [orErr]

@[simp] theorem orErr_eq_ok {α : Type} {err : VerificationError} {o : Option α} {a : α} :
    orErr err o = .ok a ↔ o = some a := by
  cases o <;> simp [orErr]

/-- `part.parse::<u32>()`, failing with `err`. -/
def parseU32Field (err : VerificationError) (part : List Char) : Except VerificationError UInt32 :=
  orErr err (parseU32 part)

/-- Models `StoreKeysharePacket::get_signer` on the `signer_address` field. -/
def getSigner (sr : Sr25519) (signerAddress : String) : Except VerificationError Signer := do
  let parsedData ← splitField .malformatedSigner signerAddress
  if h : parsedData.length < 3 then throw .malformatedSigner
  else
    let account ← orErr .invalidSignerAddress (sr.fromSs58check ⟨parsedData[0]⟩)
    let blockNum ← parseU32Field .invalidAuthToken parsedData[1]
    let blockValid ← parseU32Field .invalidAuthToken parsedData[2]
    pure ⟨account, ⟨blockNum, blockValid⟩⟩

/-- Models `StoreKeysharePacket::parse_store_data` on the `data` field. -/
def parseStoreData (data : String) : Except VerificationError StoreKeyshareData := do
  let parsedData ← splitField .malformatedData data
  if h : parsedData.length ≠ 4 then throw .malformatedData
  else
    let nftId ← parseU32Field .invalidNftId parsedData[0]
    let keyshare ← (if !parsedData[1].isEmpty then pure ⟨parsedData[1]⟩ else throw .invalidKeyshare)
    let blockNumber ← parseU32Field .invalidAuthToken parsedData[2]
    let blockValidation ← parseU32Field .invalidAuthToken parsedData[3]
    pure ⟨nftId, keyshare, ⟨blockNumber, blockValidation⟩⟩

/-- Models `RetrieveKeysharePacket::parse_retrieve_data` on the `data` field. -/
def parseRetrieveData (data : String) : Except VerificationError RetrieveKeyshareData := do
  let parsedData ← splitField .malformatedData data
  if h : parsedData.length ≠ 3 then throw .malformatedData
  else
    let nftId ← parseU32Field .invalidNftId parsedData[0]
    let blockNumber ← parseU32Field .invalidAuthToken parsedData[1]
    let blockValidation ← parseU32Field .invalidAuthToken parsedData[2]
    pure ⟨nftId, ⟨blockNumber, blockValidation⟩⟩

@[simp] theorem parseU32Field_eq_ok {err : VerificationError} {part : List Char} {n : UInt32} :
    parseU32Field err part = .ok n ↔ parseU32 part = some n :=
  orErr_eq_ok

theorem splitField_eq_ok {malformed : VerificationError} {field : String}
    {parts : List (List Char)} : splitField malformed field = .ok parts ↔
      '_' ∈ stripBytes field.data ∧ (stripBytes field.data).splitOn '_' = parts := by
  unfold splitField; dsimp only; split <;> simp_all

theorem getSigner_eq_ok {sr : Sr25519} {signerAddress : String} {s : Signer} :
    getSigner sr signerAddress = .ok s ↔ ∃ a b c rest,
      splitField .malformatedSigner signerAddress = .ok (a :: b :: c :: rest) ∧
        sr.fromSs58check ⟨a⟩ = some s.account ∧ parseU32 b = some s.authToken.blockNumber ∧
        parseU32 c = some s.authToken.blockValidation := by
  simp only [getSigner, bind_eq_ok]
  constructor
  · rintro ⟨parts, hsplit, h⟩
    rcases parts with _ | ⟨a, _ | ⟨b, _ | ⟨c, rest⟩⟩⟩
    iterate 3 simp at h
    rw [dif_neg (by simp)] at h
    simp only [bind_eq_ok, orErr_eq_ok, parseU32Field_eq_ok, pure_eq_ok, Except.ok.injEq,
      List.getElem_cons_zero, List.getElem_cons_succ] at h
    obtain ⟨acc, hacc, bn, hbn, bv, hbv, rfl⟩ := h
    exact ⟨a, b, c, rest, hsplit, hacc, hbn, hbv⟩
  · rintro ⟨a, b, c, rest, hsplit, hacc, hbn, hbv⟩
    refine ⟨_, hsplit, ?_⟩
    rw [dif_neg (by simp)]
    simp only [bind_eq_ok, orErr_eq_ok, parseU32Field_eq_ok, pure_eq_ok, Except.ok.injEq,
      List.getElem_cons_zero, List.getElem_cons_succ]
    exact ⟨_, hacc, _, hbn, _, hbv, rfl⟩

theorem parseStoreData_eq_ok {data : String} {d : StoreKeyshareData} :
    parseStoreData data = .ok d ↔ ∃ a b c e,
      splitField .malformatedData data = .ok [a, b, c, e] ∧ parseU32 a = some d.nftId ∧
        b ≠ [] ∧ d.keyshare = ⟨b⟩ ∧ parseU32 c = some d.authToken.blockNumber ∧
        parseU32 e = some d.authToken.blockValidation := by
  simp only [parseStoreData, bind_eq_ok]
  constructor
  · rintro ⟨parts, hsplit, h⟩
    rcases parts with _ | ⟨a, _ | ⟨b, _ | ⟨c, _ | ⟨e, _ | ⟨f, rest⟩⟩⟩⟩⟩
    iterate 4 simp at h
    swap
    · rw [dif_pos (by simp)] at h; cases h
    rw [dif_neg (by simp)] at h
    simp only [bind_eq_ok, parseU32Field_eq_ok, pure_eq_ok, Except.ok.injEq,
      List.getElem_cons_zero, List.getElem_cons_succ] at h
    obtain ⟨n, hn, k, hk, bn, hbn, bv, hbv, rfl⟩ := h
    by_cases hb : b = []
    · simp [hb] at hk
    · simp [hb] at hk
      exact ⟨a, b, c, e, hsplit, hn, hb, hk.symm, hbn, hbv⟩
  · rintro ⟨a, b, c, e, hsplit, hn, hb, hk, hbn, hbv⟩
    refine ⟨_, hsplit, ?_⟩
    rw [dif_neg (by simp)]
    simp only [bind_eq_ok, parseU32Field_eq_ok, pure_eq_ok, Except.ok.injEq,
      List.getElem_cons_zero, List.getElem_cons_succ]
    exact ⟨_, hn, _, by simp [hb, hk], _, hbn, _, hbv, rfl⟩

theorem parseRetrieveData_eq_ok {data : String} {d : RetrieveKeyshareData} :
    parseRetrieveData data = .ok d ↔ ∃ a b c,
      splitField .malformatedData data = .ok [a, b, c] ∧ parseU32 a = some d.nftId ∧
        parseU32 b = some d.authToken.blockNumber ∧ parseU32 c = some d.authToken.blockValidation := by
  simp only [parseRetrieveData, bind_eq_ok]
  constructor
  · rintro ⟨parts, hsplit, h⟩
    rcases parts with _ | ⟨a, _ | ⟨b, _ | ⟨c, _ | ⟨e, rest⟩⟩⟩⟩
    iterate 3 simp at h
    swap
    · rw [dif_pos (by simp)] at h; cases h
    rw [dif_neg (by simp)] at h
    simp only [bind_eq_ok, parseU32Field_eq_ok, pure_eq_ok, Except.ok.injEq,
      List.getElem_cons_zero, List.getElem_cons_succ] at h
    obtain ⟨n, hn, bn, hbn, bv, hbv, rfl⟩ := h
    exact ⟨a, b, c, hsplit, hn, hbn, hbv⟩
  · rintro ⟨a, b, c, hsplit, hn, hbn, hbv⟩
    refine ⟨_, hsplit, ?_⟩
    rw [dif_neg (by simp)]
    simp only [bind_eq_ok, parseU32Field_eq_ok, pure_eq_ok, Except.ok.injEq,
      List.getElem_cons_zero, List.getElem_cons_succ]
    exact ⟨_, hn, _, hbn, _, hbv, rfl⟩

theorem splitField_functional {m m' : VerificationError} {field : String}
    {parts parts' : List (List Char)} (h : splitField m field = .ok parts)
    (h' : splitField m' field = .ok parts') : parts = parts' :=
  (splitField_eq_ok.mp h).2.symm.trans (splitField_eq_ok.mp h').2

/-- A signer grant, a store payload and a retrieve payload are told apart by
their arity and by whether the first part is a number or an SS58 address, so no
text is accepted by two of the parsers. -/
theorem field_grammars_disjoint (sr : Sr25519)
    (hss : ∀ t : List Char, (parseU32 t).isSome → sr.fromSs58check ⟨t⟩ = none) (s : String) :
    ¬ ((∃ x, getSigner sr s = .ok x) ∧ ∃ d, parseStoreData s = .ok d) ∧
      ¬ ((∃ x, getSigner sr s = .ok x) ∧ ∃ d, parseRetrieveData s = .ok d) ∧
      ¬ ((∃ d, parseStoreData s = .ok d) ∧ ∃ d, parseRetrieveData s = .ok d) := by
  refine ⟨?_, ?_, ?_⟩
  · rintro ⟨⟨x, hx⟩, d, hd⟩
    obtain ⟨a, b, c, rest, h1, hacc, -⟩ := getSigner_eq_ok.mp hx
    obtain ⟨a', b', c', e', h2, hn, -⟩ := parseStoreData_eq_ok.mp hd
    obtain ⟨rfl, -⟩ := List.cons.inj (splitField_functional h1 h2)
    simp [hss a (by simp [hn])] at hacc
  · rintro ⟨⟨x, hx⟩, d, hd⟩
    obtain ⟨a, b, c, rest, h1, hacc, -⟩ := getSigner_eq_ok.mp hx
    obtain ⟨a', b', c', h2, hn, -⟩ := parseRetrieveData_eq_ok.mp hd
    obtain ⟨rfl, -⟩ := List.cons.inj (splitField_functional h1 h2)
    simp [hss a (by simp [hn])] at hacc
  · rintro ⟨⟨d, hd⟩, d', hd'⟩
    obtain ⟨a, b, c, e, h1, -⟩ := parseStoreData_eq_ok.mp hd
    obtain ⟨a', b', c', h2, -⟩ := parseRetrieveData_eq_ok.mp hd'
    simpa using congrArg List.length (splitField_functional h1 h2)

/-- Thirty-two copies of one byte. -/
def demoKey (b : UInt8) : AccountId32 := ⟨List.replicate 32 b, List.length_replicate 32 b⟩

/-- An sr25519 stand-in that knows the one address `5Signer` and accepts every
signature. -/
def demoSr : Sr25519 :=
  ⟨fun address => if address = "5Signer" then some (demoKey 1) else none, fun _ _ _ => true⟩

/-- `5Signer` is not a number, so `demoSr` meets the assumption of
`field_grammars_disjoint`. -/
theorem demoSr_rejects_u32 (t : List Char) (ht : (parseU32 t).isSome) :
    demoSr.fromSs58check ⟨t⟩ = none :=
  if_neg fun h => by
    have hS : 'S' ∈ t := by rw [show t = "5Signer".data from congrArg String.data h]; decide
    rw [parseU32_eq_none_of_mem hS rfl (by decide)] at ht
    cases ht

theorem field_grammars_disjoint_signer_grant :
    (∀ t : List Char, (parseU32 t).isSome → demoSr.fromSs58check ⟨t⟩ = none) ∧
      getSigner demoSr "5Signer_1000_100" = .ok ⟨demoKey 1, ⟨1000, 100⟩⟩ ∧
      ¬ ((∃ x, getSigner demoSr "5Signer_1000_100" = .ok x) ∧
          ∃ d, parseStoreData "5Signer_1000_100" = .ok d) ∧
      ¬ ((∃ x, getSigner demoSr "5Signer_1000_100" = .ok x) ∧
          ∃ d, parseRetrieveData "5Signer_1000_100" = .ok d) ∧
      ¬ ((∃ d, parseStoreData "5Signer_1000_100" = .ok d) ∧
          ∃ d, parseRetrieveData "5Signer_1000_100" = .ok d) :=
  ⟨demoSr_rejects_u32, rfl, field_grammars_disjoint demoSr demoSr_rejects_u32 "5Signer_1000_100"⟩

/-- Models `StoreKeyshareData::serialize`. -/
def StoreKeyshareData.serialize (d : StoreKeyshareData) : String :=
  toString d.nftId ++ "_" ++ d.keyshare ++ "_" ++ d.authToken.serialize

/-- Fields that start with a number are never wrapped, so splitting them
returns the parts they were joined from. -/
theorem splitField_joined (m : VerificationError) (n : UInt32) {rest : List (List Char)}
    (hrest : rest ≠ []) (hu : ∀ p ∈ rest, '_' ∉ p) :
    splitField m ⟨['_'].intercalate ((toString n).data :: rest)⟩ = .ok ((toString n).data :: rest) := by
  have hparts : ∀ p ∈ (toString n).data :: rest, '_' ∉ p := by
    simpa using ⟨underscore_not_mem_toDigits n.toNat, hu⟩
  have hsplit := List.splitOn_intercalate _ '_' hparts (List.cons_ne_nil _ _)
  obtain ⟨c, cs, hc⟩ := List.exists_cons_of_ne_nil (toDigits_ne_nil n.toNat)
  have hdigit : c.isDigit := isDigit_of_mem_toDigits c (hc ▸ List.mem_cons_self c cs)
  have hstrip : stripBytes (['_'].intercalate ((toString n).data :: rest)) =
      ['_'].intercalate ((toString n).data :: rest) := by
    apply stripBytes_of_not_isWrapped
    obtain ⟨r, rs, rfl⟩ := List.exists_cons_of_ne_nil hrest
    show ¬ isWrapped (['_'].intercalate (Nat.toDigits 10 n.toNat :: r :: rs))
    simpa [hc, List.intercalate] using not_isWrapped_of_isDigit hdigit _
  rw [splitField_eq_ok, hstrip]
  refine ⟨?_, hsplit⟩
  by_contra hnot
  rw [List.splitOn, List.splitOnP_eq_single _ _
    (fun x hx hxe => hnot (by rw [beq_iff_eq] at hxe; exact hxe ▸ hx))] at hsplit
  exact hrest (List.cons.inj hsplit).2.symm

/-- Parsing reads back what `StoreKeyshareData::serialize` and the request
tools write, for every `u32` triple and every key-share without `_`. -/
theorem parse_serialized_data (n bn bv : UInt32) (k : String) (hk : k ≠ "") (hu : '_' ∉ k.data) :
    parseStoreData (StoreKeyshareData.serialize ⟨n, k, ⟨bn, bv⟩⟩) = .ok ⟨n, k, ⟨bn, bv⟩⟩ ∧
      parseRetrieveData (toString n ++ "_" ++ toString bn ++ "_" ++ toString bv) =
        .ok ⟨n, ⟨bn, bv⟩⟩ := by
  have hk' : k.data ≠ [] := fun h => hk (String.ext h)
  have hstore : StoreKeyshareData.serialize ⟨n, k, ⟨bn, bv⟩⟩ =
      ⟨['_'].intercalate [(toString n).data, k.data, (toString bn).data, (toString bv).data]⟩ := by
    apply String.ext
    simp [StoreKeyshareData.serialize, AuthenticationToken.serialize, List.intercalate]
  have hretrieve : toString n ++ "_" ++ toString bn ++ "_" ++ toString bv =
      ⟨['_'].intercalate [(toString n).data, (toString bn).data, (toString bv).data]⟩ := by
    apply String.ext
    simp [List.intercalate]
  constructor
  · rw [hstore]
    exact parseStoreData_eq_ok.mpr ⟨_, _, _, _,
      splitField_joined _ n (by simp) (by simp [hu, underscore_not_mem_toDigits]),
      parseU32_toString n, hk', rfl, parseU32_toString bn, parseU32_toString bv⟩
  · rw [hretrieve]
    exact parseRetrieveData_eq_ok.mpr ⟨_, _, _,
      splitField_joined _ n (by simp) (by simp [underscore_not_mem_toDigits]),
      parseU32_toString n, parseU32_toString bn, parseU32_toString bv⟩

theorem parse_serialized_data_163 :
    ("1234567890abcdef" : String) ≠ "" ∧ '_' ∉ ("1234567890abcdef" : String).data ∧
      parseStoreData (StoreKeyshareData.serialize ⟨163, "1234567890abcdef", ⟨1000, 10000⟩⟩) =
          .ok ⟨163, "1234567890abcdef", ⟨1000, 10000⟩⟩ ∧
        parseRetrieveData (toString (163 : UInt32) ++ "_" ++ toString (1000 : UInt32) ++ "_" ++
          toString (10000 : UInt32)) = .ok ⟨163, ⟨1000, 10000⟩⟩ :=
  ⟨by decide, by decide, parse_serialized_data 163 1000 10000 "1234567890abcdef" (by decide) (by decide)⟩

/-! ## Signatures -/

/-- One hex digit, either case, as the `hex` crate reads it. -/
def hexDigit (c : Char) : Option UInt8 :=
  if '0' ≤ c ∧ c ≤ '9' then some (c.toNat - '0'.toNat).toUInt8
  else if 'a' ≤ c ∧ c ≤ 'f' then some (c.toNat - 'a'.toNat + 10).toUInt8
  else if 'A' ≤ c ∧ c ≤ 'F' then some (c.toNat - 'A'.toNat + 10).toUInt8
  else none

theorem char_eq_iff_toNat {a b : Char} : a = b ↔ a.toNat = b.toNat :=
  ⟨congrArg _, fun h => Char.ext (UInt32.toNat.inj h)⟩

theorem toNat_toLower (c : Char) :
    c.toLower.toNat = if 65 ≤ c.toNat ∧ c.toNat ≤ 90 then c.toNat + 32 else c.toNat := by
  simp only [Char.toLower, ge_iff_le]
  split_ifs with h
  · rw [Char.ofNat, dif_pos (Or.inl (by omega))]
    rfl
  · rfl

theorem toNat_digitChar {k : Nat} (h : k < 16) :
    (Nat.digitChar k).toNat = k + 48 + 39 * (k / 10) := by
  revert k
  decide

theorem some_toUInt8_eq {k : Nat} {d : UInt8} (hk : k < 256) :
    some k.toUInt8 = some d ↔ d.toNat = k := by
  have hk' : k.toUInt8.toNat = k := UInt8.toNat_ofNat_of_lt hk
  rw [Option.some_inj]
  exact ⟨fun h => h ▸ hk', fun h => UInt8.toNat.inj (hk'.trans h.symm)⟩

/-- A hex digit, in either case, is read as the digit `Nat.digitChar` writes in lowercase. -/
theorem hexDigit_eq_some_iff (c : Char) (d : UInt8) :
    hexDigit c = some d ↔ d.toNat < 16 ∧ c.toLower = Nat.digitChar d.toNat := by
  have hle (a b : Char) : a ≤ b ↔ a.toNat ≤ b.toNat := Iff.rfl
  have hlower (h16 : d.toNat < 16) : c.toLower = Nat.digitChar d.toNat ↔
      (if 65 ≤ c.toNat ∧ c.toNat ≤ 90 then c.toNat + 32 else c.toNat) =
        d.toNat + 48 + 39 * (d.toNat / 10) := by
    rw [char_eq_iff_toNat, toNat_toLower, toNat_digitChar h16]
  unfold hexDigit
  simp only [hle, show ('0' : Char).toNat = 48 from rfl, show ('9' : Char).toNat = 57 from rfl,
    show ('a' : Char).toNat = 97 from rfl, show ('f' : Char).toNat = 102 from rfl,
    show ('A' : Char).toNat = 65 from rfl, show ('F' : Char).toNat = 70 from rfl]
  split_ifs with hdigit hlow hup
  · -- `0`–`9`, not upper case
    rw [some_toUInt8_eq (by omega)]
    exact ⟨fun hd => ⟨by omega, (hlower (by omega)).mpr (by rw [if_neg (by omega)]; omega)⟩,
      fun ⟨h16, h⟩ => by rw [hlower h16, if_neg (by omega)] at h; omega⟩
  · -- `a`–`f`
    rw [some_toUInt8_eq (by omega)]
    exact ⟨fun hd => ⟨by omega, (hlower (by omega)).mpr (by rw [if_neg (by omega)]; omega)⟩,
      fun ⟨h16, h⟩ => by rw [hlower h16, if_neg (by omega)] at h; omega⟩
  · -- `A`–`F`, lowered by 32
    rw [some_toUInt8_eq (by omega)]
    exact ⟨fun hd => ⟨by omega, (hlower (by omega)).mpr (by rw [if_pos (by omega)]; omega)⟩,
      fun ⟨h16, h⟩ => by rw [hlower h16, if_pos (by omega)] at h; omega⟩
  · -- no hex digit: no lowered character is a digit `Nat.digitChar` writes
    simp only [reduceCtorEq, false_iff, not_and]
    intro h16 h
    rw [hlower h16] at h
    split_ifs at h <;> omega

/-- A byte as two lowercase hex digits, high half first, as `{:02x}` writes it. -/
def hexByte (b : UInt8) : List Char :=
  [Nat.digitChar (b.toNat / 16), Nat.digitChar (b.toNat % 16)]

/-- `hex` spells `bytes` in hexadecimal: two digits a byte, high half first,
each digit in either case. -/
def HexSpells (hex : List Char) (bytes : List UInt8) : Prop :=
  hex.map Char.toLower = bytes.flatMap hexByte

/-- A byte is its high half times sixteen plus its low half. -/
theorem byte_of_halves (b : UInt8) : (b.toNat / 16).toUInt8 * 16 + (b.toNat % 16).toUInt8 = b := by
  have hb := b.toNat_lt_size
  have hadd (x y : UInt8) : (x + y).toNat = (x.toNat + y.toNat) % UInt8.size := BitVec.toNat_add _ _
  have hmul (x : UInt8) : (x * 16).toNat = x.toNat * 16 % UInt8.size := BitVec.toNat_mul _ _
  simp only [UInt8.size] at hb hadd hmul
  apply UInt8.toNat.inj
  rw [hadd, hmul, UInt8.toNat_ofNat_of_lt (by simp only [UInt8.size]; omega),
    UInt8.toNat_ofNat_of_lt (by simp only [UInt8.size]; omega)]
  omega

/-- Two hex digits are read as the byte they spell. -/
theorem hexPair_iff (hi lo : Char) (b : UInt8) :
    (∃ h l, hexDigit hi = some h ∧ hexDigit lo = some l ∧ h * 16 + l = b) ↔
      hi.toLower = Nat.digitChar (b.toNat / 16) ∧ lo.toLower = Nat.digitChar (b.toNat % 16) := by
  have hb := b.toNat_lt_size
  simp only [UInt8.size] at hb
  constructor
  · rintro ⟨h, l, hh, hl, rfl⟩
    obtain ⟨h16, hhi⟩ := (hexDigit_eq_some_iff hi h).mp hh
    obtain ⟨l16, hlo⟩ := (hexDigit_eq_some_iff lo l).mp hl
    have hadd : (h * 16 + l).toNat = ((h * 16).toNat + l.toNat) % 256 := BitVec.toNat_add _ _
    have hmul : (h * 16).toNat = h.toNat * 16 % 256 := BitVec.toNat_mul _ _
    have hbyte : (h * 16 + l).toNat = h.toNat * 16 + l.toNat := by
      rw [hadd, hmul, Nat.mod_eq_of_lt (by omega), Nat.mod_eq_of_lt (by omega)]
    rw [hbyte, show (h.toNat * 16 + l.toNat) / 16 = h.toNat by omega,
      show (h.toNat * 16 + l.toNat) % 16 = l.toNat by omega]
    exact ⟨hhi, hlo⟩
  · rintro ⟨hhi, hlo⟩
    have hh : (b.toNat / 16).toUInt8.toNat = b.toNat / 16 :=
      UInt8.toNat_ofNat_of_lt (by simp only [UInt8.size]; omega)
    have hl : (b.toNat % 16).toUInt8.toNat = b.toNat % 16 :=
      UInt8.toNat_ofNat_of_lt (by simp only [UInt8.size]; omega)
    exact ⟨_, _, (hexDigit_eq_some_iff hi _).mpr ⟨by omega, by rw [hh]; exact hhi⟩,
      (hexDigit_eq_some_iff lo _).mpr ⟨by omega, by rw [hl]; exact hlo⟩, byte_of_halves b⟩

/-- Pairs of hex digits, high nibble first. -/
def decodeHex : List Char → Option (List UInt8)
  | [] => some []
  | [_] => none
  | hi :: lo :: rest => do
    let h ← hexDigit hi
    let l ← hexDigit lo
    let bytes ← decodeHex rest
    pure ((h * 16 + l) :: bytes)

theorem length_of_decodeHex :
    ∀ {s : List Char} {bytes : List UInt8}, decodeHex s = some bytes → s.length = 2 * bytes.length
  | [], _, h => by cases h; rfl
  | [_], _, h => by cases h
  | _ :: _ :: _, _, h => by
    simp only [decodeHex, Option.bind_eq_bind, Option.bind_eq_some, Option.pure_def,
      Option.some.injEq] at h
    obtain ⟨_, _, _, _, bytes, hrest, rfl⟩ := h
    simp only [List.length_cons, length_of_decodeHex hrest]
    omega

/-- `decodeHex` accepts exactly the texts that spell a byte string in hex, and
reads each as that string. -/
theorem decodeHex_eq_some_iff : ∀ {hex : List Char} {bytes : List UInt8},
    decodeHex hex = some bytes ↔ HexSpells hex bytes
  | [], [] => iff_of_true rfl rfl
  | [], _ :: _ => iff_of_false (by simp [decodeHex]) (by simp [HexSpells, hexByte])
  | [_], bytes => iff_of_false (by simp [decodeHex]) (by cases bytes <;> simp [HexSpells, hexByte])
  | hi :: lo :: rest, bytes => by
    have ih (bs : List UInt8) := @decodeHex_eq_some_iff rest bs
    cases bytes with
    | nil =>
      refine iff_of_false (fun h => ?_) (by simp [HexSpells])
      simp only [decodeHex, Option.bind_eq_bind, Option.bind_eq_some, Option.pure_def,
        Option.some.injEq] at h
      obtain ⟨_, _, _, _, _, _, h⟩ := h
      cases h
    | cons b bytes =>
      simp only [decodeHex, Option.bind_eq_bind, Option.bind_eq_some, Option.pure_def,
        Option.some.injEq, List.cons.injEq, HexSpells, List.map_cons, List.flatMap_cons, hexByte,
        List.cons_append, List.nil_append]
      constructor
      · rintro ⟨h, hh, l, hl, bs, hbs, hb, rfl⟩
        obtain ⟨hhi, hlo⟩ := (hexPair_iff hi lo b).mp ⟨h, l, hh, hl, hb⟩
        exact ⟨hhi, hlo, (ih bs).mp hbs⟩
      · rintro ⟨hhi, hlo, hrest⟩
        obtain ⟨h, l, hh, hl, hb⟩ := (hexPair_iff hi lo b).mpr ⟨hhi, hlo⟩
        exact ⟨h, hh, l, hl, bytes, (ih bytes).mpr hrest, hb, rfl⟩

/-- Models `<[u8; 64]>::from_hex`: exactly 128 hex digits. The crate counts
bytes, but a non-ASCII character is never a hex digit, so counting characters
accepts the same fields. -/
def fromHex64 (s : List Char) : Option Signature :=
  if hlen : s.length = 128 then
    match h : decodeHex s with
    | some bytes => some ⟨bytes, by have := length_of_decodeHex h; omega⟩
    | none => none
  else none

theorem fromHex64_eq_some_iff {s : List Char} {sig : Signature} :
    fromHex64 s = some sig ↔ decodeHex s = some sig.bytes := by
  unfold fromHex64
  split_ifs with hlen
  · split <;> rename_i hd
    · cases sig
      rw [Option.some_inj, Signature.mk.injEq, hd, Option.some_inj]
    · rw [hd]
      simp
  · refine iff_of_false (by simp) fun hd => hlen ?_
    rw [length_of_decodeHex hd, sig.length_eq]

/-- `strip_prefix("0x")` then `<[u8; 64]>::from_hex`, shared by both packets'
`parse_signature`. -/
def signatureFromHex (sig : String) : Except SignatureError Signature :=
  match sig.data.dropPrefix? "0x".data with
  | none => .error .prefixError
  | some stripSig =>
    match fromHex64 stripSig with
    | some bsig => .ok bsig
    | none => .error .lenghtError

theorem dropPrefix?_0x {l r : List Char} : l.dropPrefix? "0x".data = some r ↔ l = '0' :: 'x' :: r := by
  rw [List.dropPrefix?_eq_some_iff]
  constructor
  · rintro ⟨p, rfl, hp⟩
    rw [beq_iff_eq.mp hp]
    rfl
  · rintro rfl
    exact ⟨_, rfl, beq_self_eq_true _⟩

/-- `parse_signature` accepts exactly `0x` followed by the signature's bytes in
hex, two digits a byte, high half first, in either case. -/
theorem signatureFromHex_eq_ok_iff {s : String} {sig : Signature} :
    signatureFromHex s = .ok sig ↔ ∃ hex, s.data = '0' :: 'x' :: hex ∧ HexSpells hex sig.bytes := by
  unfold signatureFromHex
  split <;> rename_i hpre
  · refine iff_of_false (by simp) fun ⟨_, hs, _⟩ => ?_
    rw [dropPrefix?_0x.mpr hs] at hpre
    cases hpre
  · rename_i rest
    simp only [dropPrefix?_0x.mp hpre, List.cons.injEq, true_and, exists_eq_left',
      ← decodeHex_eq_some_iff, ← fromHex64_eq_some_iff]
    split <;> rename_i hf <;> simp [hf]

/-- Models `StoreKeysharePacket::parse_signature`: `"owner"` names the data
signature, `"signer"` the owner's signature over the signer field. -/
def StoreKeysharePacket.parseSignature (p : StoreKeysharePacket) (account : String) :
    Except SignatureError Signature :=
  match account with
  | "owner" => signatureFromHex p.signature
  | "signer" => signatureFromHex p.signersig
  | _ => .error .typeError

/-- Models `RetrieveKeysharePacket::parse_signature`. -/
def RetrieveKeysharePacket.parseSignature (p : RetrieveKeysharePacket) :
    Except SignatureError Signature :=
  signatureFromHex p.signature

end TernoaEnclave.Chain
