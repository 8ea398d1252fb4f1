import TernoaEnclave.Chain.Codec
import TernoaEnclave.Backup.AdminToken

/-! # The bulk backup handler

`admin_backup_fetch_id` checks a whitelisted admin's signed, hash-bound token,
removes the previous archive, has `add_list_zip` write the sealed key-shares of
the requested ids into a new one and streams it back. It marks the enclave as
busy in the shared state on entry and is meant to clear the mark on every way
out.

The handler is split as the code reads: `verifyFetchRequest` makes every check
before the file system is touched, `removePreviousBackup` is the removal loop,
and `adminBackupFetchId` runs both around `add_list_zip` and `File::open`. The
chain height, the JSON and hash libraries and the archiver are given by a
`BackupEnv`; the file system records each archive it is asked to write.
-/

namespace TernoaEnclave.Backup

open Text
open Chain (Sr25519 AccountId32 Signature fromHex64 failWhen failWhen_eq_ok bind_eq_ok
  mapError_eq_ok pure_eq_ok HexSpells hexByte signatureFromHex signatureFromHex_eq_ok_iff
  fromHex64_eq_some_iff decodeHex_eq_some_iff dropPrefix?_0x)

/-- Fetch Bulk Data. -/
structure FetchIdPacket where
  adminAddress : String
  nftidVec : String
  authToken : String
  signature : String

/-- One call of `add_list_zip(seal_path, nftids, backup_file)`. -/
structure ArchiveCall where
  sealPath : String
  nftids : List String
  backupFile : String
  deriving DecidableEq

/-- The enclave's files as the handler sees them. -/
structure FileSystem where
  /-- The paths that exist. -/
  files : List String
  /-- The paths `remove_file` fails on. -/
  locked : List String
  /-- The archives `add_list_zip` was asked to write, latest first. -/
  archives : List ArchiveCall
  deriving DecidableEq

/-- The fields of the shared `StateConfig` the handler reads and writes. -/
structure StateConfig where
  maintenance : String
  sealPath : String
  deriving DecidableEq

/-- The steps of the handler that are defined outside this file. -/
structure BackupEnv where
  /-- `BACKUP_WHITELIST` of the build's network. -/
  whitelist : List String
  sr : Sr25519
  /-- `get_current_block_number`. -/
  currentBlockNumber : Except String UInt32
  /-- `serde_json::from_str::<AuthenticationToken>`, its error as the message shows it. -/
  tokenFromStr : String → Except String AuthenticationToken
  /-- `serde_json::from_str::<Vec<u32>>`, its error as the message shows it. -/
  idsFromStr : String → Except String (List UInt32)
  /-- `sha256::digest` of a text's bytes. -/
  sha256Digest : String → String
  /-- The paths that exist once `add_list_zip` has run. -/
  addListZip : ArchiveCall → List String → List String

/-! ## Verification -/

/-- Models `verify_account_id`. -/
def verifyAccountId (whitelist : List String) (accountId : String) : Bool :=
  whitelist.contains accountId

/-- Models `get_public_key`. -/
def getPublicKey (sr : Sr25519) (accountId : String) : Option AccountId32 :=
  sr.fromSs58check accountId

/-- Models `get_signature`: one optional `0x`, then 64 bytes of hex. -/
def getSignature (signature : String) : Option Signature :=
  fromHex64 ((signature.data.dropPrefix? "0x".data).getD signature.data)

/-- A `0x` is never part of a hex spelling. -/
theorem not_hexSpells_0x (rest : List Char) (bytes : List UInt8) :
    ¬ HexSpells ('0' :: 'x' :: rest) bytes := by
  have hx : ∀ k < 16, Nat.digitChar k ≠ 'x' := by decide
  rcases bytes with _ | ⟨b, bytes⟩
  · simp [HexSpells]
  · simp only [HexSpells, List.map_cons, List.flatMap_cons, hexByte, List.cons_append,
      List.nil_append, List.cons.injEq, not_and]
    exact fun _ h => absurd (h.symm.trans rfl) (hx _ (Nat.mod_lt _ (by decide)))

/-- `get_signature` accepts the signature's bytes in hex, with or without `0x`. -/
theorem getSignature_eq_some_iff {s : String} {sig : Signature} :
    getSignature s = some sig ↔
      (∃ hex, s.data = '0' :: 'x' :: hex ∧ HexSpells hex sig.bytes) ∨ HexSpells s.data sig.bytes := by
  unfold getSignature
  rw [fromHex64_eq_some_iff, decodeHex_eq_some_iff]
  rcases hpre : s.data.dropPrefix? "0x".data with _ | rest
  · have hno : ¬ ∃ hex, s.data = '0' :: 'x' :: hex ∧ HexSpells hex sig.bytes :=
      fun ⟨_, hs, _⟩ => by rw [dropPrefix?_0x.mpr hs] at hpre; cases hpre
    simp only [Option.getD_none, hno, false_or]
  · simp only [Option.getD_some, dropPrefix?_0x.mp hpre, List.cons.injEq, true_and,
      exists_eq_left', iff_self_or]
    exact fun h => absurd h (not_hexSpells_0x rest _)

/-- The two signature readers accept one format: `0x` followed by the
signature's bytes in hex, two digits a byte, high half first, each digit in
either case. `parse_signature` of the request verifiers requires the `0x`;
`get_signature` of the backup handler takes the digits with or without it. -/
theorem signature_formats (s : String) (sig : Signature) :
    (signatureFromHex s = .ok sig ↔
        ∃ hex, s.data = '0' :: 'x' :: hex ∧ HexSpells hex sig.bytes) ∧
      (getSignature s = some sig ↔
        (∃ hex, s.data = '0' :: 'x' :: hex ∧ HexSpells hex sig.bytes) ∨
          HexSpells s.data sig.bytes) :=
  ⟨signatureFromHex_eq_ok_iff, getSignature_eq_some_iff⟩

/-- Models `verify_signature`. -/
def verifySignature (sr : Sr25519) (accountId signature message : String) : Bool :=
  match getPublicKey sr accountId with
  | some pk =>
    match getSignature signature with
    | some val => sr.verify val message pk
    | none => false
  | none => false

/-- The checks `admin_backup_fetch_id` makes before it touches the file system,
in the code's order, each failing with the message `error_handler` reports; on
success, the ids as `add_list_zip` receives them. The token is parsed after one
`<Bytes>` wrapper is stripped and the signature checked over the field as sent. -/
def verifyFetchRequest (env : BackupEnv) (backupRequest : FetchIdPacket) :
    Except String (List String) := do
  failWhen (!verifyAccountId env.whitelist backupRequest.adminAddress)
    ("Error backup key shares : Requester is not whitelisted : " ++ backupRequest.adminAddress)
  let auth : String := ⟨stripBytes backupRequest.authToken.data⟩
  let authToken ← (env.tokenFromStr auth).mapError fun e =>
    "Error backup key shares : Authentication token is not parsable : " ++ e
  failWhen (!verifySignature env.sr backupRequest.adminAddress backupRequest.signature
    backupRequest.authToken) "Invalid Signature"
  let validity := authToken.isValid env.currentBlockNumber
  failWhen (validity != .success)
    ("Authentication Token is not valid, or expired : " ++ validity.debugText)
  let hash := env.sha256Digest backupRequest.nftidVec
  failWhen (authToken.dataHash != hash) "Admin backup : Mismatch Data Hash"
  let nftidv ← (env.idsFromStr backupRequest.nftidVec).mapError fun e =>
    "unable to deserialize nftid vector : " ++ e
  pure (nftidv.map toString)

/-- What the handler requires before it archives `nftids`. -/
structure AdminAuthorized (env : BackupEnv) (r : FetchIdPacket) (nftids : List String) :
    Prop where
  whitelisted : r.adminAddress ∈ env.whitelist
  signed : ∃ pk sig, env.sr.fromSs58check r.adminAddress = some pk ∧
    getSignature r.signature = some sig ∧ env.sr.verify sig r.authToken pk = true
  token_valid : ∃ token, env.tokenFromStr ⟨stripBytes r.authToken.data⟩ = .ok token ∧
    token.isValid env.currentBlockNumber = .success ∧
    token.dataHash = env.sha256Digest r.nftidVec
  ids_rendered : ∃ ids, env.idsFromStr r.nftidVec = .ok ids ∧ nftids = ids.map toString

section Spec

variable {env : BackupEnv} {r : FetchIdPacket} {nftids : List String}

theorem verifyAccountId_iff {whitelist : List String} {accountId : String} :
    verifyAccountId whitelist accountId = true ↔ accountId ∈ whitelist := by
  simp [verifyAccountId]

theorem verifySignature_iff {sr : Sr25519} {accountId signature message : String} :
    verifySignature sr accountId signature message = true ↔ ∃ pk sig,
      sr.fromSs58check accountId = some pk ∧ getSignature signature = some sig ∧
        sr.verify sig message pk = true := by
  unfold verifySignature getPublicKey
  rcases sr.fromSs58check accountId with _ | pk <;> rcases getSignature signature with _ | sig <;>
    simp

theorem verifyFetchRequest_eq_ok :
    verifyFetchRequest env r = .ok nftids ↔ AdminAuthorized env r nftids := by
  simp only [verifyFetchRequest, bind_eq_ok, failWhen_eq_ok, mapError_eq_ok, pure_eq_ok,
    Bool.not_eq_false', verifyAccountId_iff, verifySignature_iff, bne_eq_false_iff_eq,
    Except.ok.injEq, exists_const]
  constructor
  · rintro ⟨hw, token, ht, hs, hv, hh, ids, hids, rfl⟩
    exact ⟨hw, hs, ⟨token, ht, hv, hh⟩, ⟨ids, hids, rfl⟩⟩
  · rintro ⟨hw, hs, ⟨token, ht, hv, hh⟩, ⟨ids, hids, rfl⟩⟩
    exact ⟨hw, token, ht, hs, hv, hh, ids, hids, rfl⟩

end Spec

/-! ## The file system -/

namespace FileSystem

/-- `Path::exists`. -/
def pathExists (fs : FileSystem) (path : String) : Bool :=
  fs.files.contains path

/-- `remove_file`, `none` being its error. -/
def removeFile (fs : FileSystem) (path : String) : Option FileSystem :=
  if fs.locked.contains path then none
  else some { fs with files := fs.files.filter (· != path) }

/-- `File::open`, its error as the message shows it. -/
def openFile (fs : FileSystem) (path : String) : Except String Unit :=
  if fs.pathExists path then .ok () else .error "No such file or directory (os error 2)"

/-- The file system once `add_list_zip` has run. -/
def addListZip (fs : FileSystem) (env : BackupEnv) (call : ArchiveCall) : FileSystem :=
  { fs with files := env.addListZip call fs.files, archives := call :: fs.archives }

@[simp] theorem addListZip_archives (fs : FileSystem) (env : BackupEnv) (call : ArchiveCall) :
    (fs.addListZip env call).archives = call :: fs.archives := rfl

theorem removeFile_archives {fs fs' : FileSystem} {path : String}
    (h : fs.removeFile path = some fs') : fs'.archives = fs.archives := by
  unfold removeFile at h
  split at h
  · cases h
  · cases h; rfl

theorem removeFile_removes {fs fs' : FileSystem} {path : String}
    (h : fs.removeFile path = some fs') : fs'.pathExists path = false := by
  unfold removeFile at h
  split at h
  · cases h
  · cases h; simp [pathExists]

theorem removeFile_eq_none {fs : FileSystem} {path : String} :
    fs.removeFile path = none ↔ fs.locked.contains path = true := by
  unfold removeFile
  split <;> simp_all

end FileSystem

/-! ## Removing the previous backup -/

/-- The path the loop falls back to, `format!("/temporary/backup-{counter}.zip")`. -/
def fallbackBackupFile (counter : Nat) : String :=
  "/temporary/backup-" ++ toString counter ++ ".zip"

/-- The `while` loop that removes the previous backup: a path `remove_file`
fails on is replaced by the fallback, and the loop runs until its path is free.
`none` is a loop that has not ended within `fuel` iterations. -/
def removePreviousBackup (counter : Nat) (fs : FileSystem) (backupFile : String) :
    Nat → Option (FileSystem × String)
  | 0 => none
  | fuel + 1 =>
    if fs.pathExists backupFile then
      match fs.removeFile backupFile with
      | some fs => removePreviousBackup counter fs backupFile fuel
      | none => removePreviousBackup counter fs (fallbackBackupFile counter) fuel
    else some (fs, backupFile)

/-- A path the loop cannot get past: it exists and cannot be removed. -/
def FileSystem.Stuck (fs : FileSystem) (path : String) : Prop :=
  fs.pathExists path = true ∧ fs.locked.contains path = true

instance (fs : FileSystem) (path : String) : Decidable (fs.Stuck path) :=
  inferInstanceAs (Decidable (_ ∧ _))

section Loop

variable {counter : Nat} {fs fs' : FileSystem} {backupFile path : String}

/-- One iteration of the loop, by what `remove_file` does. -/
theorem removePreviousBackup_succ (fuel : Nat) :
    removePreviousBackup counter fs backupFile (fuel + 1) =
      if fs.pathExists backupFile then
        match fs.removeFile backupFile with
        | some fs => removePreviousBackup counter fs backupFile fuel
        | none => removePreviousBackup counter fs (fallbackBackupFile counter) fuel
      else some (fs, backupFile) := rfl

/-- The loop only removes files: the archives are untouched, and the path it
ends with is free. -/
theorem removePreviousBackup_spec :
    ∀ {fuel : Nat} {fs : FileSystem} {backupFile : String},
      removePreviousBackup counter fs backupFile fuel = some (fs', path) →
        fs'.archives = fs.archives ∧ fs'.pathExists path = false
  | 0, _, _, h => by cases h
  | fuel + 1, fs, backupFile, h => by
    rw [removePreviousBackup_succ] at h
    split at h
    · split at h <;> rename_i hr
      · exact (removePreviousBackup_spec h).imp_left (·.trans (FileSystem.removeFile_archives hr))
      · exact removePreviousBackup_spec h
    · rename_i hfree
      cases h
      exact ⟨rfl, Bool.eq_false_iff.mpr hfree⟩

/-- Once the loop is on a stuck path that is also the fallback, it never ends. -/
theorem removePreviousBackup_stuck_fallback (hstuck : fs.Stuck (fallbackBackupFile counter)) :
    ∀ fuel, removePreviousBackup counter fs (fallbackBackupFile counter) fuel = none
  | 0 => rfl
  | fuel + 1 => by
    rw [removePreviousBackup_succ, if_pos hstuck.1,
      FileSystem.removeFile_eq_none.mpr hstuck.2]
    exact removePreviousBackup_stuck_fallback hstuck fuel

/-- A path that is free, or can be removed, ends the loop within two iterations. -/
theorem removePreviousBackup_unstuck (h : ¬ fs.Stuck backupFile) :
    ∃ r, ∀ fuel, 2 ≤ fuel → removePreviousBackup counter fs backupFile fuel = some r := by
  by_cases hex : fs.pathExists backupFile
  · obtain ⟨fs', hr⟩ : ∃ fs', fs.removeFile backupFile = some fs' := by
      cases hr : fs.removeFile backupFile with
      | none => exact absurd ⟨hex, FileSystem.removeFile_eq_none.mp hr⟩ h
      | some fs' => exact ⟨fs', rfl⟩
    refine ⟨(fs', backupFile), fun fuel hfuel => ?_⟩
    obtain ⟨n, rfl⟩ : ∃ n, fuel = n + 1 + 1 := ⟨fuel - 2, by omega⟩
    rw [removePreviousBackup_succ, if_pos hex, hr]
    dsimp only
    rw [removePreviousBackup_succ, if_neg (by simp [FileSystem.removeFile_removes hr])]
  · refine ⟨(fs, backupFile), fun fuel hfuel => ?_⟩
    obtain ⟨n, rfl⟩ : ∃ n, fuel = n + 1 := ⟨fuel - 1, by omega⟩
    rw [removePreviousBackup_succ, if_neg hex]

/-- The handler's loop, from `/temporary/backup.zip` with the fallback
`/temporary/backup-1.zip`, ends within three iterations, whatever the result,
unless both paths exist and cannot be removed; then it never ends. -/
theorem removePreviousBackup_ends :
    (¬ (fs.Stuck "/temporary/backup.zip" ∧ fs.Stuck (fallbackBackupFile 1)) →
        ∃ r, ∀ fuel, 3 ≤ fuel → removePreviousBackup 1 fs "/temporary/backup.zip" fuel = some r) ∧
      (fs.Stuck "/temporary/backup.zip" ∧ fs.Stuck (fallbackBackupFile 1) →
        ∀ fuel, removePreviousBackup 1 fs "/temporary/backup.zip" fuel = none) := by
  constructor
  · intro h
    by_cases h0 : fs.Stuck "/temporary/backup.zip"
    · obtain ⟨r, hr⟩ : ∃ r, ∀ fuel, 2 ≤ fuel →
          removePreviousBackup 1 fs (fallbackBackupFile 1) fuel = some r :=
        removePreviousBackup_unstuck fun h1 => h ⟨h0, h1⟩
      refine ⟨r, fun fuel hfuel => ?_⟩
      obtain ⟨n, rfl⟩ : ∃ n, fuel = n + 1 := ⟨fuel - 1, by omega⟩
      rw [removePreviousBackup_succ, if_pos h0.1, FileSystem.removeFile_eq_none.mpr h0.2]
      exact hr n (by omega)
    · obtain ⟨r, hr⟩ : ∃ r, ∀ fuel, 2 ≤ fuel →
          removePreviousBackup 1 fs "/temporary/backup.zip" fuel = some r :=
        removePreviousBackup_unstuck h0
      exact ⟨r, fun fuel hfuel => hr fuel (by omega)⟩
  · rintro ⟨h0, h1⟩ (_ | n)
    · rfl
    · rw [removePreviousBackup_succ, if_pos h0.1, FileSystem.removeFile_eq_none.mpr h0.2]
      exact removePreviousBackup_stuck_fallback h1 n

end Loop

/-! ## The handler -/

/-- Models `update_health_status`. -/
def updateHealthStatus (state : StateConfig) (message : String) : StateConfig :=
  { state with maintenance := message }

@[simp] theorem updateHealthStatus_twice (state : StateConfig) (m m' : String) :
    updateHealthStatus (updateHealthStatus state m) m' = updateHealthStatus state m' := rfl

@[simp] theorem updateHealthStatus_sealPath (state : StateConfig) (m : String) :
    (updateHealthStatus state m).sealPath = state.sealPath := rfl

/-- What the handler answers. -/
inductive Response where
  /-- Status 400 with the JSON object whose `error` is the message. -/
  | badRequest (message : String)
  /-- Status 200 with the JSON object whose `error` is the message. -/
  | jsonError (message : String)
  /-- The archive at the path, streamed as `Backup.zip`. -/
  | backupFile (path : String)
  deriving DecidableEq

/-- Models `error_handler`. -/
def errorHandler (message : String) (state : StateConfig) : Response × StateConfig :=
  (.badRequest message, updateHealthStatus state "")

/-- The handler's answer and what it leaves behind. -/
structure Outcome where
  response : Response
  state : StateConfig
  fs : FileSystem
  deriving DecidableEq

/-- Models `admin_backup_fetch_id`; `none` is a removal loop that has not ended
within `fuel` iterations. -/
def adminBackupFetchId (env : BackupEnv) (fuel : Nat) (state : StateConfig) (fs : FileSystem)
    (backupRequest : FetchIdPacket) : Option Outcome :=
  let state := updateHealthStatus state "Encalve is doing backup, please wait..."
  match verifyFetchRequest env backupRequest with
  | .error message =>
    let (response, state) := errorHandler message state
    some ⟨response, state, fs⟩
  | .ok nftids =>
    let counter := 1
    (removePreviousBackup counter fs "/temporary/backup.zip" fuel).map fun (fs, backupFile) =>
      let fs := fs.addListZip env ⟨state.sealPath, nftids, backupFile⟩
      match fs.openFile backupFile with
      | .ok () => ⟨.backupFile backupFile, updateHealthStatus state "", fs⟩
      | .error err => ⟨.jsonError ("Backup File not found: " ++ err), state, fs⟩

/-- A deployment whose one admin, `5Admin`, signs validly, whose token and ids
parse and whose hash matches; its `add_list_zip` writes the archive or not as
`archiveWritten` says. -/
def demoEnv (archiveWritten : Bool) : BackupEnv where
  whitelist := ["5Admin"]
  sr := ⟨fun a => if a = "5Admin" then some ⟨List.replicate 32 7, rfl⟩ else none, fun _ _ _ => true⟩
  currentBlockNumber := .ok 1000
  tokenFromStr := fun _ => .ok ⟨1000, 10, "digest"⟩
  idsFromStr := fun _ => .ok [163]
  sha256Digest := fun _ => "digest"
  addListZip := fun call files => if archiveWritten then call.backupFile :: files else files

/-- A request for the key-share of NFT 163. -/
def demoRequest : FetchIdPacket :=
  ⟨"5Admin", "[163]", "<Bytes>token</Bytes>", "0x" ++ ⟨List.replicate 128 'a'⟩⟩

section Handler

variable {env : BackupEnv} {fuel : Nat} {state : StateConfig} {fs : FileSystem}
  {r : FetchIdPacket} {o : Outcome}

/-- Every run of the handler that returns: rejected by a check, or through the
loop to `add_list_zip` and then `File::open`, which finds the archive or not. -/
theorem adminBackupFetchId_cases (h : adminBackupFetchId env fuel state fs r = some o) :
    (∃ message, verifyFetchRequest env r = .error message ∧
        o = ⟨.badRequest message, updateHealthStatus state "", fs⟩) ∨
      ∃ nftids fs' backupFile, verifyFetchRequest env r = .ok nftids ∧
        removePreviousBackup 1 fs "/temporary/backup.zip" fuel = some (fs', backupFile) ∧
        o.fs = fs'.addListZip env ⟨state.sealPath, nftids, backupFile⟩ ∧
        (o.fs.pathExists backupFile = true ∧ o.response = .backupFile backupFile ∧
            o.state = updateHealthStatus state "" ∨
          o.fs.pathExists backupFile = false ∧
            o.response = .jsonError "Backup File not found: No such file or directory (os error 2)" ∧
            o.state = updateHealthStatus state "Encalve is doing backup, please wait...") := by
  unfold adminBackupFetchId at h
  split at h <;> rename_i hv
  · cases h
    exact .inl ⟨_, hv, rfl⟩
  obtain ⟨⟨fs', backupFile⟩, hloop, hrun⟩ := Option.map_eq_some'.mp h
  refine .inr ⟨_, fs', backupFile, hv, hloop, ?_⟩
  subst hrun
  dsimp only [FileSystem.openFile, updateHealthStatus_sealPath, updateHealthStatus_twice]
  split <;> rename_i hopen <;> split at hopen <;> rename_i hex <;> cases hopen
  · exact ⟨rfl, .inl ⟨hex, rfl, rfl⟩⟩
  · exact ⟨rfl, .inr ⟨Bool.eq_false_iff.mpr hex, rfl, rfl⟩⟩

/-- Every way out of the handler clears the maintenance message, except a
failed `File::open`: that one answers with status 200 and leaves the message set
on entry. Nothing else of the shared state changes. -/
theorem adminBackupFetchId_maintenance (h : adminBackupFetchId env fuel state fs r = some o) :
    o.state = updateHealthStatus state "" ∨
      (∃ err, o.response = .jsonError ("Backup File not found: " ++ err)) ∧
        o.state = updateHealthStatus state "Encalve is doing backup, please wait..." := by
  rcases adminBackupFetchId_cases h with ⟨_, -, rfl⟩ | ⟨_, _, _, -, -, -, ⟨-, -, hs⟩ | ⟨-, hr, hs⟩⟩
  · exact .inl rfl
  · exact .inl hs
  · exact .inr ⟨⟨_, hr⟩, hs⟩

set_option maxRecDepth 4000 in
theorem adminBackupFetchId_maintenance_demo :
    adminBackupFetchId (demoEnv true) 3 ⟨"", "/seal"⟩ ⟨[], [], []⟩ demoRequest =
        some ⟨.backupFile "/temporary/backup.zip", ⟨"", "/seal"⟩,
          ⟨["/temporary/backup.zip"], [], [⟨"/seal", ["163"], "/temporary/backup.zip"⟩]⟩⟩ ∧
      ((⟨"", "/seal"⟩ : StateConfig) = updateHealthStatus ⟨"", "/seal"⟩ "" ∨
        (∃ err, Response.backupFile "/temporary/backup.zip" =
            .jsonError ("Backup File not found: " ++ err)) ∧
          (⟨"", "/seal"⟩ : StateConfig) =
            updateHealthStatus ⟨"", "/seal"⟩ "Encalve is doing backup, please wait...") :=
  have h : adminBackupFetchId (demoEnv true) 3 ⟨"", "/seal"⟩ ⟨[], [], []⟩ demoRequest =
      some ⟨.backupFile "/temporary/backup.zip", ⟨"", "/seal"⟩,
        ⟨["/temporary/backup.zip"], [], [⟨"/seal", ["163"], "/temporary/backup.zip"⟩]⟩⟩ := by
    rfl
  ⟨h, adminBackupFetchId_maintenance h⟩

set_option maxRecDepth 4000 in
/-- When `add_list_zip` leaves no archive behind, `File::open` fails and an
authorized request returns with the maintenance message still set. -/
theorem adminBackupFetchId_open_failure_keeps_maintenance :
    adminBackupFetchId (demoEnv false) 3 ⟨"", "/seal"⟩ ⟨[], [], []⟩ demoRequest =
      some ⟨.jsonError "Backup File not found: No such file or directory (os error 2)",
        ⟨"Encalve is doing backup, please wait...", "/seal"⟩,
        ⟨[], [], [⟨"/seal", ["163"], "/temporary/backup.zip"⟩]⟩⟩ := by
  rfl

/-- The handler asks `add_list_zip` for an archive only for an authorized
request, from the seal path of the shared state and for exactly the decimal
renderings of the ids the request lists. -/
theorem archive_step_requires_authorization
    (h : adminBackupFetchId env fuel state fs r = some o) :
    o.fs.archives = fs.archives ∨ ∃ call, o.fs.archives = call :: fs.archives ∧
      call.sealPath = state.sealPath ∧ AdminAuthorized env r call.nftids := by
  rcases adminBackupFetchId_cases h with ⟨_, -, rfl⟩ | ⟨nftids, fs', backupFile, hv, hloop, hfs, -⟩
  · exact .inl rfl
  · refine .inr ⟨⟨state.sealPath, nftids, backupFile⟩, ?_, rfl, verifyFetchRequest_eq_ok.mp hv⟩
    rw [hfs, FileSystem.addListZip_archives, (removePreviousBackup_spec hloop).1]

set_option maxRecDepth 4000 in
theorem archive_step_requires_authorization_demo :
    adminBackupFetchId (demoEnv true) 3 ⟨"", "/seal"⟩ ⟨[], [], []⟩ demoRequest =
        some ⟨.backupFile "/temporary/backup.zip", ⟨"", "/seal"⟩,
          ⟨["/temporary/backup.zip"], [], [⟨"/seal", ["163"], "/temporary/backup.zip"⟩]⟩⟩ ∧
      (([⟨"/seal", ["163"], "/temporary/backup.zip"⟩] : List ArchiveCall) =
          (⟨[], [], []⟩ : FileSystem).archives ∨
        ∃ call, ([⟨"/seal", ["163"], "/temporary/backup.zip"⟩] : List ArchiveCall) =
            call :: (⟨[], [], []⟩ : FileSystem).archives ∧
          call.sealPath = (⟨"", "/seal"⟩ : StateConfig).sealPath ∧
          AdminAuthorized (demoEnv true) demoRequest call.nftids) :=
  have h : adminBackupFetchId (demoEnv true) 3 ⟨"", "/seal"⟩ ⟨[], [], []⟩ demoRequest =
      some ⟨.backupFile "/temporary/backup.zip", ⟨"", "/seal"⟩,
        ⟨["/temporary/backup.zip"], [], [⟨"/seal", ["163"], "/temporary/backup.zip"⟩]⟩⟩ := by
    rfl
  ⟨h, archive_step_requires_authorization h⟩

/-- A request from outside the whitelist is turned away before any other check,
whatever else it carries: status 400, the maintenance message cleared and the
file system untouched. -/
theorem adminBackupFetchId_not_whitelisted (h : r.adminAddress ∉ env.whitelist) :
    adminBackupFetchId env fuel state fs r = some
      ⟨.badRequest ("Error backup key shares : Requester is not whitelisted : " ++ r.adminAddress),
        updateHealthStatus state "", fs⟩ := by
  have hw : verifyAccountId env.whitelist r.adminAddress = false :=
    Bool.eq_false_iff.mpr (mt verifyAccountId_iff.mp h)
  simp only [adminBackupFetchId, verifyFetchRequest, hw, Bool.not_false, Chain.failWhen_true,
    Chain.error_bind]
  rfl

/-- Both backup paths present, and neither can be removed. -/
def lockedBackups : FileSystem :=
  ⟨["/temporary/backup.zip", "/temporary/backup-1.zip"],
    ["/temporary/backup.zip", "/temporary/backup-1.zip"], []⟩

set_option maxRecDepth 4000 in
/-- On `lockedBackups` the removal loop fails on `/temporary/backup.zip`, falls
back to `/temporary/backup-1.zip`, fails there and comes back to the same state
at every iteration, since `counter` never changes: no bound on its iterations is
enough, and the handler never answers an authorized request. -/
theorem removal_loop_spins_on_locked_backups :
    (∀ fuel, removePreviousBackup 1 lockedBackups (fallbackBackupFile 1) (fuel + 1) =
        removePreviousBackup 1 lockedBackups (fallbackBackupFile 1) fuel) ∧
      (∀ fuel, removePreviousBackup 1 lockedBackups "/temporary/backup.zip" fuel = none) ∧
      ∀ fuel, adminBackupFetchId (demoEnv true) fuel ⟨"", "/seal"⟩ lockedBackups demoRequest = none := by
  have hstuck : lockedBackups.Stuck "/temporary/backup.zip" ∧
      lockedBackups.Stuck (fallbackBackupFile 1) := by decide
  have hloop := removePreviousBackup_ends.2 hstuck
  have hv : verifyFetchRequest (demoEnv true) demoRequest = .ok ["163"] := by rfl
  refine ⟨fun fuel => ?_, hloop, fun fuel => ?_⟩
  · rw [removePreviousBackup_succ, if_pos hstuck.2.1, FileSystem.removeFile_eq_none.mpr hstuck.2.2]
  · simp only [adminBackupFetchId, hv, hloop fuel, Option.map_none']

end Handler

end TernoaEnclave.Backup
