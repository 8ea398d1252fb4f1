import TernoaEnclave.Tools.Requests

/-! # The fetch-id tool against the backup handler

`generate_fetch_id` prints the request an admin sends to `admin_backup_fetch_id`:
the admin's SS58 address, the id list as given, a JSON token binding the chain's
height, ten blocks and the hash of the list, and the admin's signature of that
token. Its JSON keys are `admin_account` and `id_vec` where the handler's
`FetchIdPacket` has `admin_address` and `nftid_vec`, so the endpoint cannot read
the request as printed. Under the right keys, the request passes the handler's
checks exactly when the admin is whitelisted, the token's window is open and the
list parses: the signature, the hash and the token's encoding never fail.
`serde_json` on the token is given by what the handler relies on, as proof
fields of `TokenJson`.
-/

namespace TernoaEnclave.Tools

open Chain Text
open Backup (BackupEnv FetchIdPacket verifyFetchRequest verifyFetchRequest_eq_ok)

/-- A JSON object whose values are strings, as `serde_json` writes a struct of
`String` fields: each key with its value, in field order. -/
abbrev JsonObject := List (String × String)

/-- The tool's `IdAuthenticationToken`. -/
structure IdAuthenticationToken where
  blockNumber : UInt32
  blockValidation : UInt32
  dataHash : String

/-- The tool's `IdPacket`. -/
structure IdPacket where
  adminAccount : String
  idVec : String
  authToken : String
  signature : String

/-- `#[derive(Serialize)]` of `IdPacket`. -/
def IdPacket.toJson (p : IdPacket) : JsonObject :=
  [("admin_account", p.adminAccount), ("id_vec", p.idVec), ("auth_token", p.authToken),
    ("signature", p.signature)]

/-- `#[derive(Deserialize)]` of the handler's `FetchIdPacket`: each field is
read under its own key and a missing one fails; other keys are ignored. -/
def fetchIdPacketFromJson (o : JsonObject) : Option FetchIdPacket :=
  return ⟨← o.lookup "admin_address", ← o.lookup "nftid_vec", ← o.lookup "auth_token",
    ← o.lookup "signature"⟩

/-- `serde_json::to_string` of the tool's token, read back by the handler's
`serde_json::from_str` as the same token, its period as a `u8` when it fits. A
JSON object opens with `{`. -/
structure TokenJson (env : BackupEnv) where
  toString : IdAuthenticationToken → String
  tokenFromStr_toString : ∀ t, t.blockValidation.toNat < 256 →
    env.tokenFromStr (toString t) = .ok ⟨t.blockNumber, t.blockValidation.toUInt8, t.dataHash⟩
  head_toString : ∀ t, (toString t).data.head? = some '{'

/-- Models `generate_fetch_id` once the admin's keypair is made from the seed
phrase; `chainHeight` is what `get_current_block_number` returns. -/
def generateFetchId (env : BackupEnv) (json : TokenJson env) (ss58 : Ss58Codec env.sr)
    (admin : Pair env.sr) (idVec : String) (chainHeight : UInt32) : IdPacket :=
  let adminAccount := ss58.toSs58check admin.public
  let hash := env.sha256Digest idVec
  let auth : IdAuthenticationToken := ⟨chainHeight, 10, hash⟩
  let authStr := json.toString auth
  let sig := admin.sign authStr
  let signature := toHex sig
  ⟨adminAccount, idVec, authStr, signature⟩

/-- The handler's packet with the tool's fields under the handler's keys. -/
def IdPacket.renamed (p : IdPacket) : FetchIdPacket :=
  ⟨p.adminAccount, p.idVec, p.authToken, p.signature⟩

variable {env : BackupEnv}

/-- The fetch-id request the tool prints is never read by the endpoint, which
finds no `admin_address`. Under the handler's keys it passes every check
exactly when the admin is whitelisted, the window of the token stamped with the
chain's height and ten blocks is open where the handler checks it, and the id
list parses; the ids archived are then the list's. -/
theorem verifyFetchRequest_generated (json : TokenJson env) (ss58 : Ss58Codec env.sr)
    (admin : Pair env.sr) (idVec : String) (chainHeight : UInt32) (nftids : List String) :
    fetchIdPacketFromJson (generateFetchId env json ss58 admin idVec chainHeight).toJson = none ∧
      (verifyFetchRequest env (generateFetchId env json ss58 admin idVec chainHeight).renamed =
          .ok nftids ↔
        ss58.toSs58check admin.public ∈ env.whitelist ∧
          (⟨chainHeight, 10, env.sha256Digest idVec⟩ : Backup.AuthenticationToken).isValid
            env.currentBlockNumber = .success ∧
          ∃ ids, env.idsFromStr idVec = .ok ids ∧ nftids = ids.map ToString.toString) := by
  refine ⟨rfl, ?_⟩
  let authStr := json.toString ⟨chainHeight, 10, env.sha256Digest idVec⟩
  have hstrip : (⟨stripBytes authStr.data⟩ : String) = authStr := by
    rw [stripBytes_of_not_isWrapped (not_isWrapped_of_head (by rw [json.head_toString]; decide))]
  have htoken : env.tokenFromStr ⟨stripBytes authStr.data⟩ =
      .ok ⟨chainHeight, 10, env.sha256Digest idVec⟩ := by
    rw [hstrip, json.tokenFromStr_toString ⟨chainHeight, 10, env.sha256Digest idVec⟩
      (show (10 : UInt32).toNat < 256 by decide)]
    rfl
  have hsigned : ∃ pk sig, env.sr.fromSs58check (ss58.toSs58check admin.public) = some pk ∧
      Backup.getSignature (toHex (admin.sign authStr)) = some sig ∧
      env.sr.verify sig authStr pk = true :=
    ⟨_, _, ss58.fromSs58check_toSs58check _, getSignature_toHex _, admin.verify_sign _⟩
  rw [verifyFetchRequest_eq_ok]
  constructor
  · rintro ⟨hw, -, ⟨token, ht, hv, -⟩, hids⟩
    cases htoken.symm.trans ht
    exact ⟨hw, hv, hids⟩
  · rintro ⟨hw, hv, hids⟩
    exact ⟨hw, hsigned, ⟨_, htoken, hv, rfl⟩, hids⟩

/-! ## A token encoding to run the tool on -/

/-- A stand-in for `serde_json` on tokens: `{`, then the block number, the
period and the hash, separated by commas. -/
def tokenText (t : IdAuthenticationToken) : String :=
  "\x7b" ++ ToString.toString t.blockNumber ++ "," ++ ToString.toString t.blockValidation ++ "," ++
    t.dataHash

/-- Reads `tokenText` back, the period as a `u8`. -/
def tokenOfText (s : String) : Except String Backup.AuthenticationToken :=
  match s.data with
  | '{' :: rest =>
    let rest' := (rest.dropWhile (· != ',')).drop 1
    match parseU32 (rest.takeWhile (· != ',')), parseU32 (rest'.takeWhile (· != ',')) with
    | some bn, some bv =>
      if bv.toNat < 256 then .ok ⟨bn, bv.toUInt8, ⟨(rest'.dropWhile (· != ',')).drop 1⟩⟩
      else .error "invalid value"
    | _, _ => .error "invalid type"
  | _ => .error "expected value"

/-- The digits of a `u32` end at the first comma after them. -/
theorem toString_comma (n : UInt32) (rest : List Char) :
    ((ToString.toString n).data ++ ',' :: rest).takeWhile (· != ',') = (ToString.toString n).data ∧
      ((ToString.toString n).data ++ ',' :: rest).dropWhile (· != ',') = ',' :: rest := by
  have hdigits : ∀ c ∈ (ToString.toString n).data, (c != ',') = true := fun c hc => by
    have hd := isDigit_of_mem_toDigits c (u32_toString_data n ▸ hc)
    exact bne_iff_ne.mpr fun h => absurd (h ▸ hd) (by decide)
  rw [List.takeWhile_append_of_pos hdigits, List.dropWhile_append_of_pos hdigits]
  simp

theorem tokenOfText_tokenText (t : IdAuthenticationToken) (h : t.blockValidation.toNat < 256) :
    tokenOfText (tokenText t) = .ok ⟨t.blockNumber, t.blockValidation.toUInt8, t.dataHash⟩ := by
  have htext : (tokenText t).data = '{' :: ((ToString.toString t.blockNumber).data ++
      ',' :: ((ToString.toString t.blockValidation).data ++ ',' :: t.dataHash.data)) := by
    simp [tokenText]
  obtain ⟨hbn, hbn'⟩ := toString_comma t.blockNumber
    ((ToString.toString t.blockValidation).data ++ ',' :: t.dataHash.data)
  obtain ⟨hbv, hbv'⟩ := toString_comma t.blockValidation t.dataHash.data
  simp only [tokenOfText, htext, hbn, hbn', List.drop_one, List.tail_cons, hbv, hbv',
    parseU32_toString, if_pos h]

/-- The demo deployment with keys written as hex and tokens as `tokenText`. -/
def demoJsonEnv : BackupEnv :=
  { Backup.demoEnv true with sr := hexSr, tokenFromStr := tokenOfText }

@[simp] theorem demoJsonEnv_tokenFromStr : demoJsonEnv.tokenFromStr = tokenOfText := rfl

/-- `tokenText` has what `TokenJson` asks of `serde_json`, so the assumptions
of the fetch-id tool can all be met at once. -/
def demoTokenJson : TokenJson demoJsonEnv where
  toString := tokenText
  tokenFromStr_toString t := demoJsonEnv_tokenFromStr ▸ tokenOfText_tokenText t
  head_toString _ := rfl

end TernoaEnclave.Tools
