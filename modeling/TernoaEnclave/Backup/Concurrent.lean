import TernoaEnclave.Backup.FetchId
import Mathlib.Logic.Relation

/-! # Concurrent backup requests

The server runs each `admin_backup_fetch_id` request as a task of its own, so
requests interleave wherever one of them reads or writes what they share: the
`StateConfig` behind its lock and the file system. `Handler.step` cuts one run
of the handler at exactly those points, and `Reachable` lets any number of
requests take their steps in any order.

Two facts of the platform enter the model. `remove_file` fails on a path that
no longer exists, which another request may have removed since this one tested
it; and a file opened by `File::open` streams the contents it had when it was
opened. The second presumes that `add_list_zip` (in `zipdir.rs`, which the
sources here do not include) writes its archive to a new file rather than
rewriting the one at the path in place: the handler streams the body only after
it has answered, so another request can remove and rewrite the path in between,
and the open file keeps the old contents only if the new ones go to a new file.
A file's contents are recorded as the archive call that last wrote it, a ghost
field the code does not hold, so that what a request streams can be stated.

Over every interleaving: the seal path never changes, every archive written is
for the ids of a request that passed every check, and a request answered with a
file that holds an archive written in this run streams such an archive; when
`add_list_zip` writes no other file than its own, every file a request is
answered with holds one, so none is left from before. A request alone runs exactly as
`adminBackupFetchId`, and no request waits on another: run alone from any
reachable state, it answers unless the fallback path is stuck. Yet two
authorized requests can be interleaved so that one streams the other's archive,
and a rejected request can clear the maintenance message while a backup is
still running.
-/

namespace TernoaEnclave.Backup

/-- What the requests share. -/
structure Shared where
  state : StateConfig
  fs : FileSystem
  /-- The archive `add_list_zip` last wrote at each path; `none` for a file
  that was there before, or a path removed since. -/
  content : String → Option ArchiveCall

namespace Shared

/-- `update_health_status`, under the write lock. -/
def setHealth (sh : Shared) (message : String) : Shared :=
  { sh with state := updateHealthStatus sh.state message }

/-- `remove_file`, which fails on a locked path and on a missing one. -/
def remove (sh : Shared) (path : String) : Option Shared :=
  if sh.fs.pathExists path then
    (sh.fs.removeFile path).map fun fs =>
      { sh with fs, content := fun p => if p = path then none else sh.content p }
  else none

/-- `add_list_zip`, which writes the archive at `call.backupFile`. -/
def addListZip (sh : Shared) (env : BackupEnv) (call : ArchiveCall) : Shared :=
  { sh with fs := sh.fs.addListZip env call,
            content := fun p => if p = call.backupFile then some call else sh.content p }

variable {sh sh' : Shared} {path : String}

@[simp] theorem setHealth_fs (sh : Shared) (m : String) : (sh.setHealth m).fs = sh.fs := rfl

@[simp] theorem setHealth_content (sh : Shared) (m : String) :
    (sh.setHealth m).content = sh.content := rfl

@[simp] theorem setHealth_sealPath (sh : Shared) (m : String) :
    (sh.setHealth m).state.sealPath = sh.state.sealPath := rfl

/-- Where `remove` succeeds: the path exists and is not locked; it is gone after. -/
theorem remove_eq_some (h : sh.remove path = some sh') :
    sh.fs.pathExists path = true ∧ sh.fs.removeFile path = some sh'.fs ∧ sh'.state = sh.state ∧
      sh'.content = fun p => if p = path then none else sh.content p := by
  unfold remove at h
  split at h <;> rename_i hex
  · obtain ⟨fs, hfs, rfl⟩ := Option.map_eq_some'.mp h
    exact ⟨hex, hfs, rfl, rfl⟩
  · cases h

/-- On a path that exists, `remove` is the sequential handler's `remove_file`. -/
theorem remove_of_pathExists (hex : sh.fs.pathExists path = true) :
    sh.remove path = (sh.fs.removeFile path).map fun fs =>
      { sh with fs, content := fun p => if p = path then none else sh.content p } := by
  rw [remove, if_pos hex]

@[simp] theorem addListZip_fs (sh : Shared) (env : BackupEnv) (call : ArchiveCall) :
    (sh.addListZip env call).fs = sh.fs.addListZip env call := rfl

@[simp] theorem addListZip_state (sh : Shared) (env : BackupEnv) (call : ArchiveCall) :
    (sh.addListZip env call).state = sh.state := rfl

end Shared

/-- Where a run of the handler stands: before its next step that reads or
writes what the requests share. The ids and paths are its local variables. -/
inductive Pc where
  /-- Before `update_health_status` marks the enclave busy. -/
  | entry
  /-- Before the checks, which read nothing shared. -/
  | checks
  /-- At the `while` test of the removal loop. -/
  | whileExists (nftids : List String) (backupFile : String)
  /-- Before `remove_file`, the test having found the path. -/
  | removeFile (nftids : List String) (backupFile : String)
  /-- Before `state.read()` reads the seal path. -/
  | readSealPath (nftids : List String) (backupFile : String)
  /-- Before `add_list_zip`. -/
  | addListZip (call : ArchiveCall)
  /-- Before `File::open`, which fixes the contents the body streams. -/
  | openFile (backupFile : String)
  /-- Before the last `update_health_status`, with the answer and what it streams. -/
  | clearHealth (response : Response) (streamed : Option ArchiveCall)
  /-- Answered, with the archive streamed if the answer is a file. -/
  | done (response : Response) (streamed : Option ArchiveCall)

namespace Handler

/-- One step of a run of `admin_backup_fetch_id` for the request `r`; `none`
once it has answered. -/
def step (env : BackupEnv) (r : FetchIdPacket) (pc : Pc) (sh : Shared) : Option (Pc × Shared) :=
  match pc with
  | .entry => some (.checks, sh.setHealth "Encalve is doing backup, please wait...")
  | .checks =>
    match verifyFetchRequest env r with
    | .error message => some (.clearHealth (.badRequest message) none, sh)
    | .ok nftids => some (.whileExists nftids "/temporary/backup.zip", sh)
  | .whileExists nftids backupFile =>
    if sh.fs.pathExists backupFile then some (.removeFile nftids backupFile, sh)
    else some (.readSealPath nftids backupFile, sh)
  | .removeFile nftids backupFile =>
    match sh.remove backupFile with
    | some sh => some (.whileExists nftids backupFile, sh)
    | none => some (.whileExists nftids (fallbackBackupFile 1), sh)
  | .readSealPath nftids backupFile =>
    some (.addListZip ⟨sh.state.sealPath, nftids, backupFile⟩, sh)
  | .addListZip call => some (.openFile call.backupFile, sh.addListZip env call)
  | .openFile backupFile =>
    match sh.fs.openFile backupFile with
    | .ok () => some (.clearHealth (.backupFile backupFile) (sh.content backupFile), sh)
    | .error err => some (.done (.jsonError ("Backup File not found: " ++ err)) none, sh)
  | .clearHealth response streamed => some (.done response streamed, sh.setHealth "")
  | .done _ _ => none

/-- A run of one request's handler with no other request taking a step. -/
def Runs (env : BackupEnv) (r : FetchIdPacket) : Pc × Shared → Pc × Shared → Prop :=
  Relation.ReflTransGen fun a b => step env r a.1 a.2 = some b

end Handler

/-- The program point of every request; request `i` is the `i`-th of the list
the system runs. -/
structure Sys where
  shared : Shared
  pcs : Nat → Pc

namespace Sys

/-- Before any request has taken a step, no file holding a known archive. -/
def start (state : StateConfig) (fs : FileSystem) : Sys :=
  ⟨⟨state, fs, fun _ => none⟩, fun _ => .entry⟩

/-- The system with request `i` moved to `pc`. -/
def setPc (s : Sys) (i : Nat) (pc : Pc) (sh : Shared) : Sys :=
  ⟨sh, fun j => if j = i then pc else s.pcs j⟩

/-- Request `i` of `requests` takes its next step. -/
def step (env : BackupEnv) (requests : List FetchIdPacket) (s : Sys) (i : Nat) : Option Sys :=
  match requests[i]? with
  | some r => (Handler.step env r (s.pcs i) s.shared).map fun (pc, sh) => s.setPc i pc sh
  | none => none

@[simp] theorem setPc_shared (s : Sys) (i : Nat) (pc : Pc) (sh : Shared) :
    (s.setPc i pc sh).shared = sh := rfl

@[simp] theorem setPc_pcs_self (s : Sys) (i : Nat) (pc : Pc) (sh : Shared) :
    (s.setPc i pc sh).pcs i = pc := if_pos rfl

theorem setPc_pcs_of_ne {s : Sys} {i j : Nat} (pc : Pc) (sh : Shared) (h : j ≠ i) :
    (s.setPc i pc sh).pcs j = s.pcs j := if_neg h

@[simp] theorem setPc_setPc (s : Sys) (i : Nat) (pc pc' : Pc) (sh sh' : Shared) :
    (s.setPc i pc sh).setPc i pc' sh' = s.setPc i pc' sh' := by
  simp only [setPc, mk.injEq, true_and]
  funext j
  split <;> rfl

theorem step_eq_some {env : BackupEnv} {requests : List FetchIdPacket} {s s' : Sys} {i : Nat}
    (h : s.step env requests i = some s') : ∃ r pc sh, requests[i]? = some r ∧
      Handler.step env r (s.pcs i) s.shared = some (pc, sh) ∧ s' = s.setPc i pc sh := by
  unfold step at h
  split at h <;> rename_i r hr
  · obtain ⟨⟨pc, sh⟩, hs, rfl⟩ := Option.map_eq_some'.mp h
    exact ⟨r, pc, sh, hr, hs, rfl⟩
  · cases h

end Sys

/-- The states the requests reach from `init`, each step taken by whichever
request the scheduler picks. -/
inductive Reachable (env : BackupEnv) (requests : List FetchIdPacket) (init : Sys) : Sys → Prop
  | init : Reachable env requests init init
  | step {s s' : Sys} (i : Nat) : Reachable env requests init s →
      s.step env requests i = some s' → Reachable env requests init s'

namespace Reachable

variable {env : BackupEnv} {requests : List FetchIdPacket} {init s : Sys} {i : Nat}
  {r : FetchIdPacket}

/-- Request `i` running alone from a reachable state reaches reachable states. -/
theorem runs (hs : Reachable env requests init s) (hr : requests[i]? = some r)
    {b : Pc × Shared} (hrun : Handler.Runs env r (s.pcs i, s.shared) b) :
    Reachable env requests init (s.setPc i b.1 b.2) := by
  induction hrun with
  | refl =>
    have hself : s.setPc i (s.pcs i) s.shared = s := by
      simp only [Sys.setPc]
      congr
      funext j
      split <;> simp_all
    rwa [hself]
  | tail _ hstep ih =>
    refine Reachable.step i ih ?_
    simp only [Sys.step, hr, Sys.setPc_pcs_self, Sys.setPc_shared, hstep, Option.map_some',
      Sys.setPc_setPc]

end Reachable

/-! ## A request alone -/

namespace Handler

variable {env : BackupEnv} {r : FetchIdPacket}

@[simp] theorem step_entry (sh : Shared) : step env r .entry sh =
    some (.checks, sh.setHealth "Encalve is doing backup, please wait...") := rfl

@[simp] theorem step_readSealPath (nftids : List String) (backupFile : String) (sh : Shared) :
    step env r (.readSealPath nftids backupFile) sh =
      some (.addListZip ⟨sh.state.sealPath, nftids, backupFile⟩, sh) := rfl

@[simp] theorem step_addListZip (call : ArchiveCall) (sh : Shared) :
    step env r (.addListZip call) sh =
      some (.openFile call.backupFile, sh.addListZip env call) := rfl

@[simp] theorem step_clearHealth (response : Response) (streamed : Option ArchiveCall)
    (sh : Shared) : step env r (.clearHealth response streamed) sh =
      some (.done response streamed, sh.setHealth "") := rfl

theorem step_whileExists (nftids : List String) (backupFile : String) (sh : Shared) :
    step env r (.whileExists nftids backupFile) sh =
      if sh.fs.pathExists backupFile then some (.removeFile nftids backupFile, sh)
      else some (.readSealPath nftids backupFile, sh) := rfl

/-- The removal loop of a request running alone is `removePreviousBackup`. -/
theorem runs_removePreviousBackup {nftids : List String} {fs' : FileSystem} {path : String} :
    ∀ {fuel : Nat} {sh : Shared} {backupFile : String},
      removePreviousBackup 1 sh.fs backupFile fuel = some (fs', path) →
        ∃ sh', sh'.fs = fs' ∧ sh'.state = sh.state ∧
          Runs env r (.whileExists nftids backupFile, sh) (.readSealPath nftids path, sh')
  | 0, _, _, h => by cases h
  | fuel + 1, sh, backupFile, h => by
    by_cases hex : sh.fs.pathExists backupFile
    · have htest : step env r (.whileExists nftids backupFile) sh =
          some (.removeFile nftids backupFile, sh) := by rw [step_whileExists, if_pos hex]
      obtain ⟨sh1, path1, hst1, hremove, hloop⟩ : ∃ sh1 path1, sh1.state = sh.state ∧
          step env r (.removeFile nftids backupFile) sh = some (.whileExists nftids path1, sh1) ∧
          removePreviousBackup 1 sh1.fs path1 fuel = some (fs', path) := by
        rw [removePreviousBackup_succ, if_pos hex] at h
        simp only [step, Shared.remove_of_pathExists hex]
        cases hrm : sh.fs.removeFile backupFile with
        | none => rw [hrm] at h; exact ⟨sh, _, rfl, rfl, h⟩
        | some fs1 =>
          rw [hrm] at h
          exact ⟨{ sh with fs := fs1, content := fun p => if p = backupFile then none else sh.content p },
            backupFile, rfl, rfl, h⟩
      obtain ⟨sh', hfs, hst, hrun⟩ := runs_removePreviousBackup hloop
      exact ⟨sh', hfs, hst.trans hst1, .head htest (.head hremove hrun)⟩
    · rw [removePreviousBackup_succ, if_neg hex] at h
      cases h
      exact ⟨sh, rfl, rfl, .single (by rw [step_whileExists, if_neg hex])⟩

/-- A request running alone reaches the answer, the shared state and the file
system `adminBackupFetchId` returns, whatever the files held before. -/
theorem runs_adminBackupFetchId {fuel : Nat} {state : StateConfig} {fs : FileSystem}
    {o : Outcome} (content : String → Option ArchiveCall)
    (h : adminBackupFetchId env fuel state fs r = some o) :
    ∃ streamed sh, sh.state = o.state ∧ sh.fs = o.fs ∧
      Runs env r (.entry, ⟨state, fs, content⟩) (.done o.response streamed, sh) := by
  let sh1 := Shared.setHealth ⟨state, fs, content⟩ "Encalve is doing backup, please wait..."
  have hentry : step env r .entry ⟨state, fs, content⟩ = some (.checks, sh1) := rfl
  rcases adminBackupFetchId_cases h with
    ⟨message, hv, rfl⟩ | ⟨nftids, fs', backupFile, hv, hloop, hfs, hopen⟩
  · have hchecks : step env r .checks sh1 =
        some (.clearHealth (.badRequest message) none, sh1) := by
      simp only [step, hv]
    exact ⟨none, _, rfl, rfl, .head hentry (.head hchecks (.single (step_clearHealth _ _ _)))⟩
  have hchecks : step env r .checks sh1 =
      some (.whileExists nftids "/temporary/backup.zip", sh1) := by
    simp only [step, hv]
  obtain ⟨sh2, hfs2, hst2, hloopRun⟩ := runs_removePreviousBackup (show
    removePreviousBackup 1 sh1.fs "/temporary/backup.zip" fuel = some (fs', backupFile) from hloop)
  let sh3 := sh2.addListZip env ⟨state.sealPath, nftids, backupFile⟩
  have hread : step env r (.readSealPath nftids backupFile) sh2 =
      some (.addListZip ⟨state.sealPath, nftids, backupFile⟩, sh2) := by
    rw [step_readSealPath, hst2]
    rfl
  have hfs3 : sh3.fs = o.fs := by rw [hfs, Shared.addListZip_fs, hfs2]
  have hprefix : Runs env r (.entry, ⟨state, fs, content⟩) (.openFile backupFile, sh3) :=
    .head hentry (.head hchecks (hloopRun.trans (.head hread (.single (step_addListZip _ _)))))
  rcases hopen with ⟨hex, hresp, hst⟩ | ⟨hex, hresp, hst⟩
  · have hopened : step env r (.openFile backupFile) sh3 =
        some (.clearHealth (.backupFile backupFile) (sh3.content backupFile), sh3) := by
      simp only [step, FileSystem.openFile, hfs3, hex, if_true]
    refine ⟨_, sh3.setHealth "", ?_, hfs3, hresp ▸ hprefix.trans (.head hopened
      (.single (step_clearHealth _ _ _)))⟩
    rw [hst]
    simp only [Shared.setHealth, sh3, Shared.addListZip_state, hst2, sh1, updateHealthStatus_twice]
  · have hfailed : step env r (.openFile backupFile) sh3 = some (.done o.response none, sh3) := by
      simp only [step, FileSystem.openFile, hfs3, hex, hresp]
      rfl
    refine ⟨none, sh3, ?_, hfs3, hprefix.tail hfailed⟩
    rw [hst]
    simp only [sh3, Shared.addListZip_state, hst2, sh1]
    rfl

/-- One request's steps are a function of where it stands. -/
theorem rightUnique : Relator.RightUnique fun a b : Pc × Shared => step env r a.1 a.2 = some b :=
  fun _ _ _ h₁ h₂ => Option.some.inj (h₁.symm.trans h₂)

/-- A request that has answered takes no more steps. -/
theorem Runs.eq_of_done {response : Response} {streamed : Option ArchiveCall} {sh : Shared}
    {b : Pc × Shared} (h : Runs env r (.done response streamed, sh) b) :
    b = (.done response streamed, sh) := by
  rcases h.cases_head with h | ⟨c, hstep, -⟩
  · exact h.symm
  · cases hstep

/-- A request running alone answers at most one way. -/
theorem Runs.done_unique {a : Pc × Shared} {response₁ response₂ : Response}
    {streamed₁ streamed₂ : Option ArchiveCall} {sh₁ sh₂ : Shared}
    (h₁ : Runs env r a (.done response₁ streamed₁, sh₁))
    (h₂ : Runs env r a (.done response₂ streamed₂, sh₂)) :
    (Pc.done response₁ streamed₁, sh₁) = (.done response₂ streamed₂, sh₂) := by
  rcases Relation.ReflTransGen.total_of_right_unique rightUnique h₁ h₂ with h | h
  · exact (Runs.eq_of_done h).symm
  · exact Runs.eq_of_done h

end Handler

/-- With one request, every reachable state is on the request's own run. -/
theorem Reachable.lone_runs {env : BackupEnv} {state : StateConfig} {fs : FileSystem}
    {r : FetchIdPacket} {s : Sys} (h : Reachable env [r] (Sys.start state fs) s) :
    Handler.Runs env r (.entry, ⟨state, fs, fun _ => none⟩) (s.pcs 0, s.shared) := by
  induction h with
  | init => exact .refl
  | step i _ hstep ih =>
    obtain ⟨r', pc, sh, hr, hs, rfl⟩ := Sys.step_eq_some hstep
    rcases i with _ | i
    · cases Option.some.inj hr
      simpa using ih.tail hs
    · cases hr

/-- With one request, the concurrent model answers as the sequential handler
`adminBackupFetchId` does, with the same shared state and files, and in no other
way. -/
theorem lone_request_runs_as_adminBackupFetchId {env : BackupEnv} {fuel : Nat}
    {state : StateConfig} {fs : FileSystem} {r : FetchIdPacket} {o : Outcome}
    (h : adminBackupFetchId env fuel state fs r = some o) :
    (∃ s streamed, Reachable env [r] (Sys.start state fs) s ∧
        s.pcs 0 = .done o.response streamed ∧ s.shared.state = o.state ∧ s.shared.fs = o.fs) ∧
      ∀ s response streamed, Reachable env [r] (Sys.start state fs) s →
        s.pcs 0 = .done response streamed →
          response = o.response ∧ s.shared.state = o.state ∧ s.shared.fs = o.fs := by
  obtain ⟨streamed, sh, hst, hfs, hrun⟩ := Handler.runs_adminBackupFetchId (fun _ => none) h
  refine ⟨⟨_, streamed, Reachable.init.runs rfl hrun, Sys.setPc_pcs_self _ _ _ _, hst, hfs⟩,
    fun s response streamed' hs hi => ?_⟩
  have hlone := hs.lone_runs
  rw [hi] at hlone
  obtain ⟨hresp, rfl⟩ := Prod.mk.inj (Handler.Runs.done_unique hlone hrun)
  exact ⟨(Pc.done.inj hresp).1, hst, hfs⟩

set_option maxRecDepth 4000 in
theorem lone_request_runs_as_adminBackupFetchId_demo :
    adminBackupFetchId (demoEnv true) 3 ⟨"", "/seal"⟩ ⟨[], [], []⟩ demoRequest =
        some ⟨.backupFile "/temporary/backup.zip", ⟨"", "/seal"⟩,
          ⟨["/temporary/backup.zip"], [], [⟨"/seal", ["163"], "/temporary/backup.zip"⟩]⟩⟩ ∧
      (∃ s streamed,
          Reachable (demoEnv true) [demoRequest] (Sys.start ⟨"", "/seal"⟩ ⟨[], [], []⟩) s ∧
          s.pcs 0 = .done (.backupFile "/temporary/backup.zip") streamed ∧
          s.shared.state = ⟨"", "/seal"⟩ ∧
          s.shared.fs =
            ⟨["/temporary/backup.zip"], [], [⟨"/seal", ["163"], "/temporary/backup.zip"⟩]⟩) ∧
        ∀ s response streamed,
          Reachable (demoEnv true) [demoRequest] (Sys.start ⟨"", "/seal"⟩ ⟨[], [], []⟩) s →
          s.pcs 0 = .done response streamed →
            response = .backupFile "/temporary/backup.zip" ∧ s.shared.state = ⟨"", "/seal"⟩ ∧
            s.shared.fs =
              ⟨["/temporary/backup.zip"], [], [⟨"/seal", ["163"], "/temporary/backup.zip"⟩]⟩ :=
  have h : adminBackupFetchId (demoEnv true) 3 ⟨"", "/seal"⟩ ⟨[], [], []⟩ demoRequest =
      some ⟨.backupFile "/temporary/backup.zip", ⟨"", "/seal"⟩,
        ⟨["/temporary/backup.zip"], [], [⟨"/seal", ["163"], "/temporary/backup.zip"⟩]⟩⟩ := by
    rfl
  ⟨h, lone_request_runs_as_adminBackupFetchId h⟩

set_option maxRecDepth 4000 in
/-- The demo request, alone, is answered with its archive. -/
theorem demoRequest_answered : ∃ s streamed,
    Reachable (demoEnv true) [demoRequest] (Sys.start ⟨"", "/seal"⟩ ⟨[], [], []⟩) s ∧
      s.pcs 0 = .done (.backupFile "/temporary/backup.zip") streamed := by
  obtain ⟨streamed, sh, -, -, hrun⟩ := Handler.runs_adminBackupFetchId (fun _ => none)
    (show adminBackupFetchId (demoEnv true) 3 ⟨"", "/seal"⟩ ⟨[], [], []⟩ demoRequest =
      some ⟨.backupFile "/temporary/backup.zip", ⟨"", "/seal"⟩,
        ⟨["/temporary/backup.zip"], [], [⟨"/seal", ["163"], "/temporary/backup.zip"⟩]⟩⟩ by rfl)
  exact ⟨_, streamed, Reachable.init.runs rfl hrun, Sys.setPc_pcs_self _ _ _ _⟩

/-! ## What every interleaving keeps -/

section Safety

variable (env : BackupEnv) (requests : List FetchIdPacket) (sealPath : String)

/-- An archive of the seal path, for the ids of one of the requests that
passed every check. -/
def Genuine (call : ArchiveCall) : Prop :=
  call.sealPath = sealPath ∧ ∃ r ∈ requests, verifyFetchRequest env r = .ok call.nftids

/-- What a run of the request `r` has established at its program point. -/
def PcSafe (r : FetchIdPacket) : Pc → Prop
  | .whileExists nftids _ | .removeFile nftids _ | .readSealPath nftids _ =>
    verifyFetchRequest env r = .ok nftids
  | .addListZip call => Genuine env requests sealPath call
  | .clearHealth response streamed | .done response streamed =>
    ∀ c, streamed = some c → Genuine env requests sealPath c ∧ response = .backupFile c.backupFile
  | .entry | .checks | .openFile _ => True

/-- The seal path is unchanged, and each file with a known archive holds a
genuine one, written to that path. -/
def SharedSafe (sh : Shared) : Prop :=
  sh.state.sealPath = sealPath ∧
    ∀ p c, sh.content p = some c → Genuine env requests sealPath c ∧ c.backupFile = p

/-- `after` is `before` with genuine archives written on top. -/
def Written (before after : List ArchiveCall) : Prop :=
  ∃ written, after = written ++ before ∧ ∀ c ∈ written, Genuine env requests sealPath c

variable {env requests sealPath}

theorem Written.refl (l : List ArchiveCall) : Written env requests sealPath l l :=
  ⟨[], rfl, fun _ h => nomatch h⟩

theorem Written.trans {l₁ l₂ l₃ : List ArchiveCall} (h₁ : Written env requests sealPath l₁ l₂)
    (h₂ : Written env requests sealPath l₂ l₃) : Written env requests sealPath l₁ l₃ := by
  obtain ⟨w₁, rfl, hw₁⟩ := h₁
  obtain ⟨w₂, rfl, hw₂⟩ := h₂
  refine ⟨w₂ ++ w₁, (List.append_assoc _ _ _).symm, fun c hc => ?_⟩
  rcases List.mem_append.mp hc with hc | hc
  exacts [hw₂ c hc, hw₁ c hc]

namespace Handler

variable {r : FetchIdPacket} {pc pc' : Pc} {sh sh' : Shared}

/-- One step of a request keeps what its run has established and what the
requests share safe, and writes only genuine archives. -/
theorem step_safe (hr : r ∈ requests) (h : step env r pc sh = some (pc', sh'))
    (hpc : PcSafe env requests sealPath r pc) (hsh : SharedSafe env requests sealPath sh) :
    PcSafe env requests sealPath r pc' ∧ SharedSafe env requests sealPath sh' ∧
      Written env requests sealPath sh.fs.archives sh'.fs.archives := by
  cases pc with
  | entry =>
    cases h
    exact ⟨trivial, hsh, Written.refl _⟩
  | checks =>
    simp only [step] at h
    split at h <;> cases h
    · exact ⟨fun _ h => (nomatch h), hsh, Written.refl _⟩
    · rename_i nftids hv
      exact ⟨hv, hsh, Written.refl _⟩
  | whileExists nftids backupFile =>
    rw [step_whileExists] at h
    split at h <;> cases h <;> exact ⟨hpc, hsh, Written.refl _⟩
  | removeFile nftids backupFile =>
    simp only [step] at h
    split at h <;> rename_i hrm <;> cases h
    · obtain ⟨-, hfs, hst, hcontent⟩ := Shared.remove_eq_some hrm
      refine ⟨hpc, ⟨hst ▸ hsh.1, fun p c hc => ?_⟩, ?_⟩
      · rw [hcontent] at hc
        dsimp only at hc
        split at hc
        · cases hc
        · exact hsh.2 p c hc
      · rw [FileSystem.removeFile_archives hfs]
        exact Written.refl _
    · exact ⟨hpc, hsh, Written.refl _⟩
  | readSealPath nftids backupFile =>
    cases h
    exact ⟨⟨hsh.1, r, hr, hpc⟩, hsh, Written.refl _⟩
  | addListZip call =>
    cases h
    refine ⟨trivial, ⟨hsh.1, fun p c hc => ?_⟩, ⟨[call], rfl, fun c hc => ?_⟩⟩
    · simp only [Shared.addListZip] at hc
      split at hc <;> rename_i hp
      · cases hc
        exact ⟨hpc, hp.symm⟩
      · exact hsh.2 p c hc
    · rw [List.mem_singleton.mp hc]
      exact hpc
  | openFile backupFile =>
    simp only [step] at h
    split at h <;> cases h
    · exact ⟨fun c hc => ⟨(hsh.2 _ c hc).1, by rw [(hsh.2 _ c hc).2]⟩, hsh, Written.refl _⟩
    · exact ⟨fun _ h => (nomatch h), hsh, Written.refl _⟩
  | clearHealth response streamed =>
    cases h
    exact ⟨hpc, hsh, Written.refl _⟩
  | done response streamed => cases h

end Handler

variable (env requests sealPath) in
/-- Every request's run and what the requests share are safe; requests beyond
the list never move. -/
structure SysSafe (archives : List ArchiveCall) (s : Sys) : Prop where
  pcs : ∀ i r, requests[i]? = some r → PcSafe env requests sealPath r (s.pcs i)
  idle : ∀ i, requests[i]? = none → s.pcs i = .entry
  shared : SharedSafe env requests sealPath s.shared
  written : Written env requests sealPath archives s.shared.fs.archives

theorem SysSafe.start (state : StateConfig) (fs : FileSystem) :
    SysSafe env requests state.sealPath fs.archives (Sys.start state fs) :=
  ⟨fun _ _ _ => trivial, fun _ _ => rfl, ⟨rfl, fun _ _ h => nomatch h⟩, Written.refl _⟩

theorem SysSafe.step {archives : List ArchiveCall} {s s' : Sys} {i : Nat}
    (hs : SysSafe env requests sealPath archives s) (h : s.step env requests i = some s') :
    SysSafe env requests sealPath archives s' := by
  obtain ⟨r, pc, sh, hr, hstep, rfl⟩ := Sys.step_eq_some h
  obtain ⟨hpc, hsh, hw⟩ := Handler.step_safe (List.getElem?_mem hr) hstep (hs.pcs i r hr) hs.shared
  refine ⟨fun j r' hr' => ?_, fun j hj => ?_, hsh, hs.written.trans hw⟩
  · by_cases hj : j = i
    · subst hj
      cases hr.symm.trans hr'
      simpa using hpc
    · rw [Sys.setPc_pcs_of_ne _ _ hj]
      exact hs.pcs j r' hr'
  · have hji : j ≠ i := by rintro rfl; cases hr.symm.trans hj
    rw [Sys.setPc_pcs_of_ne _ _ hji]
    exact hs.idle j hj

theorem Reachable.sysSafe {state : StateConfig} {fs : FileSystem} {s : Sys}
    (h : Reachable env requests (Sys.start state fs) s) :
    SysSafe env requests state.sealPath fs.archives s := by
  induction h with
  | init => exact SysSafe.start state fs
  | step _ _ hstep ih => exact ih.step hstep

end Safety

theorem Genuine.authorized {env : BackupEnv} {requests : List FetchIdPacket} {sealPath : String}
    {c : ArchiveCall} (h : Genuine env requests sealPath c) :
    c.sealPath = sealPath ∧ ∃ r ∈ requests, AdminAuthorized env r c.nftids :=
  ⟨h.1, h.2.imp fun _ ⟨hr, hv⟩ => ⟨hr, verifyFetchRequest_eq_ok.mp hv⟩⟩

/-- However the requests interleave, the seal path never changes, every archive
`add_list_zip` writes is of the seal path for the ids of a request that passed
every check, and a request answered with a file that holds an archive written
in this run streams such an archive, written to that file. -/
theorem interleaved_backups_archive_only_authorized {env : BackupEnv}
    {requests : List FetchIdPacket} {state : StateConfig} {fs : FileSystem} {s : Sys}
    (h : Reachable env requests (Sys.start state fs) s) :
    s.shared.state.sealPath = state.sealPath ∧
      (∃ written, s.shared.fs.archives = written ++ fs.archives ∧ ∀ c ∈ written,
        c.sealPath = state.sealPath ∧ ∃ r ∈ requests, AdminAuthorized env r c.nftids) ∧
      ∀ i response c, s.pcs i = .done response (some c) → response = .backupFile c.backupFile ∧
        c.sealPath = state.sealPath ∧ ∃ r ∈ requests, AdminAuthorized env r c.nftids := by
  have hs := h.sysSafe
  obtain ⟨written, hw, hgen⟩ := hs.written
  refine ⟨hs.shared.1, ⟨written, hw, fun c hc => (hgen c hc).authorized⟩, fun i response c hi => ?_⟩
  cases hr : requests[i]? with
  | none => cases (hs.idle i hr).symm.trans hi
  | some r =>
    have hpc := hs.pcs i r hr
    rw [hi] at hpc
    obtain ⟨hg, hresp⟩ := hpc c rfl
    exact ⟨hresp, hg.authorized⟩

theorem interleaved_backups_archive_only_authorized_demo : ∃ s,
    Reachable (demoEnv true) [demoRequest] (Sys.start ⟨"", "/seal"⟩ ⟨[], [], []⟩) s ∧
      s.shared.state.sealPath = "/seal" ∧
      (∃ written, s.shared.fs.archives = written ++ [] ∧ ∀ c ∈ written,
        c.sealPath = "/seal" ∧ ∃ r ∈ [demoRequest], AdminAuthorized (demoEnv true) r c.nftids) ∧
      ∀ i response c, s.pcs i = .done response (some c) → response = .backupFile c.backupFile ∧
        c.sealPath = "/seal" ∧ ∃ r ∈ [demoRequest], AdminAuthorized (demoEnv true) r c.nftids :=
  let ⟨s, _, hs, _⟩ := demoRequest_answered
  ⟨s, hs, interleaved_backups_archive_only_authorized hs⟩

/-! ## No file left from before is streamed -/

section Fresh

/-- A file at `p` holds an archive written in this run. -/
def Shared.FreshAt (sh : Shared) (p : String) : Prop :=
  sh.fs.pathExists p = true → (sh.content p).isSome = true

/-- A request about to open its file finds it fresh, and one answering with a
file streams an archive. -/
def PcFresh (sh : Shared) : Pc → Prop
  | .openFile p => sh.FreshAt p
  | .clearHealth response streamed | .done response streamed =>
    ∀ p, response = .backupFile p → streamed.isSome = true
  | .entry | .checks | .whileExists _ _ | .removeFile _ _ | .readSealPath _ _ | .addListZip _ =>
    True

variable {env : BackupEnv} {sh sh' : Shared} {p : String}
  (hzip : ∀ call files p, p ∈ env.addListZip call files → p = call.backupFile ∨ p ∈ files)

theorem Shared.freshAt_remove {path : String} (h : sh.remove path = some sh') (hf : sh.FreshAt p) :
    sh'.FreshAt p := by
  obtain ⟨-, hfs, -, hcontent⟩ := Shared.remove_eq_some h
  intro hex
  unfold FileSystem.removeFile at hfs
  split at hfs
  · cases hfs
  · rw [← Option.some.inj hfs] at hex
    rw [hcontent]
    simp only [FileSystem.pathExists, List.elem_eq_mem, List.mem_filter, bne_iff_ne,
      decide_eq_true_eq] at hex
    simpa [hex.2] using hf (by simpa [FileSystem.pathExists] using hex.1)

include hzip in
theorem Shared.freshAt_addListZip (call : ArchiveCall) (hf : sh.FreshAt p) :
    (sh.addListZip env call).FreshAt p := by
  intro hex
  simp only [Shared.addListZip]
  split
  · rfl
  · rename_i hp
    simp only [FileSystem.pathExists, Shared.addListZip_fs, FileSystem.addListZip, List.elem_eq_mem,
      decide_eq_true_eq] at hex
    exact hf (by simpa [FileSystem.pathExists] using (hzip _ _ _ hex).resolve_left hp)

include hzip in
/-- Whatever a request does, a fresh file stays fresh. -/
theorem Handler.step_freshAt {r : FetchIdPacket} {pc pc' : Pc}
    (h : Handler.step env r pc sh = some (pc', sh')) (hf : sh.FreshAt p) : sh'.FreshAt p := by
  cases pc with
  | entry => cases h; exact hf
  | checks => simp only [Handler.step] at h; split at h <;> cases h <;> exact hf
  | whileExists => rw [Handler.step_whileExists] at h; split at h <;> cases h <;> exact hf
  | removeFile nftids backupFile =>
    simp only [Handler.step] at h
    split at h <;> rename_i hrm <;> cases h
    · exact Shared.freshAt_remove hrm hf
    · exact hf
  | readSealPath => cases h; exact hf
  | addListZip call => cases h; exact Shared.freshAt_addListZip hzip call hf
  | openFile => simp only [Handler.step] at h; split at h <;> cases h <;> exact hf
  | clearHealth => cases h; exact hf
  | done => cases h

/-- A request's own step keeps what `PcFresh` says of it. -/
theorem Handler.step_pcFresh {r : FetchIdPacket} {pc pc' : Pc}
    (h : Handler.step env r pc sh = some (pc', sh')) (hpc : PcFresh sh pc) : PcFresh sh' pc' := by
  cases pc with
  | checks =>
    simp only [Handler.step] at h
    split at h <;> cases h
    · exact fun _ h => nomatch h
    · trivial
  | addListZip call =>
    cases h
    intro _
    simp [Shared.addListZip]
  | openFile backupFile =>
    simp only [Handler.step] at h
    split at h <;> rename_i hopen <;> cases h
    · simp only [FileSystem.openFile] at hopen
      split at hopen
      · exact fun _ _ => hpc (by assumption)
      · cases hopen
    · exact fun _ h => nomatch h
  | clearHealth => cases h; exact hpc
  | done => cases h
  | entry | readSealPath => cases h; trivial
  | whileExists => rw [Handler.step_whileExists] at h; split at h <;> cases h <;> trivial
  | removeFile => simp only [Handler.step] at h; split at h <;> cases h <;> trivial

include hzip in
/-- Another request's step keeps what `PcFresh` says of this one. -/
theorem PcFresh.of_step {r : FetchIdPacket} {pc pc' q : Pc}
    (h : Handler.step env r pc sh = some (pc', sh')) (hq : PcFresh sh q) : PcFresh sh' q := by
  cases q with
  | openFile => exact Handler.step_freshAt hzip h hq
  | clearHealth | done => exact hq
  | entry | checks | whileExists | removeFile | readSealPath | addListZip => trivial

include hzip in
theorem Reachable.pcFresh {requests : List FetchIdPacket} {state : StateConfig}
    {fs : FileSystem} {s : Sys} (h : Reachable env requests (Sys.start state fs) s) :
    ∀ i, PcFresh s.shared (s.pcs i) := by
  induction h with
  | init => exact fun _ => trivial
  | step i _ hstep ih =>
    obtain ⟨r, pc, sh, -, hs, rfl⟩ := Sys.step_eq_some hstep
    intro j
    by_cases hj : j = i
    · subst hj
      simpa using Handler.step_pcFresh hs (ih j)
    · rw [Sys.setPc_pcs_of_ne _ _ hj]
      exact PcFresh.of_step hzip hs (ih j)

include hzip in
/-- When `add_list_zip` creates no file but its archive, a request answered
with a file, under any interleaving, streams an archive written to that file
during the run, of the seal path for the ids of a request that passed every
check: never a file that was there before, even one that cannot be removed. -/
theorem interleaved_backups_stream_no_stale_file {requests : List FetchIdPacket}
    {state : StateConfig} {fs : FileSystem} {s : Sys}
    (h : Reachable env requests (Sys.start state fs) s) (i : Nat) (p : String)
    (streamed : Option ArchiveCall) (hi : s.pcs i = .done (.backupFile p) streamed) :
    ∃ c, streamed = some c ∧ c.backupFile = p ∧ c.sealPath = state.sealPath ∧
      ∃ r ∈ requests, AdminAuthorized env r c.nftids := by
  have hfresh := h.pcFresh hzip i
  rw [hi] at hfresh
  obtain ⟨c, rfl⟩ := Option.isSome_iff_exists.mp (hfresh p rfl)
  have hs := h.sysSafe
  cases hr : requests[i]? with
  | none => cases (hs.idle i hr).symm.trans hi
  | some r =>
    have hpc := hs.pcs i r hr
    rw [hi] at hpc
    obtain ⟨hg, hresp⟩ := hpc c rfl
    exact ⟨c, rfl, (Response.backupFile.inj hresp).symm, hg.authorized⟩

theorem interleaved_backups_stream_no_stale_file_demo :
    (∀ call files p, p ∈ (demoEnv true).addListZip call files → p = call.backupFile ∨ p ∈ files) ∧
      ∃ s streamed,
        Reachable (demoEnv true) [demoRequest] (Sys.start ⟨"", "/seal"⟩ ⟨[], [], []⟩) s ∧
        s.pcs 0 = .done (.backupFile "/temporary/backup.zip") streamed ∧
        ∃ c, streamed = some c ∧ c.backupFile = "/temporary/backup.zip" ∧ c.sealPath = "/seal" ∧
          ∃ r ∈ [demoRequest], AdminAuthorized (demoEnv true) r c.nftids :=
  have hzip : ∀ call files p, p ∈ (demoEnv true).addListZip call files →
      p = call.backupFile ∨ p ∈ files := fun _ _ _ hp => List.mem_cons.mp hp
  let ⟨s, streamed, hs, hi⟩ := demoRequest_answered
  ⟨hzip, s, streamed, hs, hi, interleaved_backups_stream_no_stale_file hzip hs 0 _ streamed hi⟩

end Fresh

/-! ## Interleavings the code allows -/

section Races

variable {env : BackupEnv} {state : StateConfig} {fs : FileSystem}

@[simp] theorem FileSystem.addListZip_locked (fs : FileSystem) (call : ArchiveCall) :
    (fs.addListZip env call).locked = fs.locked := rfl

theorem Handler.step_checks_ok {r : FetchIdPacket} {nftids : List String} (sh : Shared)
    (hv : verifyFetchRequest env r = .ok nftids) :
    Handler.step env r .checks sh = some (.whileExists nftids "/temporary/backup.zip", sh) := by
  simp only [Handler.step, hv]

/-- From the `while` test on a path that can be removed, a request alone gets
past the loop on that path, the shared state and the locks untouched. -/
theorem Handler.runs_loop_unlocked (r : FetchIdPacket) (nftids : List String) {backupFile : String}
    (sh : Shared) (hlock : sh.fs.locked.contains backupFile = false) :
    ∃ sh', sh'.state = sh.state ∧ sh'.fs.locked = sh.fs.locked ∧
      Handler.Runs env r (.whileExists nftids backupFile, sh)
        (.readSealPath nftids backupFile, sh') := by
  by_cases hex : sh.fs.pathExists backupFile
  · have hrm : sh.fs.removeFile backupFile =
        some { sh.fs with files := sh.fs.files.filter (· != backupFile) } := by
      simp only [FileSystem.removeFile, hlock, Bool.false_eq_true, if_false]
    obtain ⟨sh1, hrm1⟩ : ∃ sh1, sh.remove backupFile = some sh1 :=
      ⟨_, by rw [Shared.remove_of_pathExists hex, hrm]; rfl⟩
    obtain ⟨-, hfs1, hst1, -⟩ := Shared.remove_eq_some hrm1
    have hfs1' := Option.some.inj (hrm.symm.trans hfs1)
    have hgone : sh1.fs.pathExists backupFile = false := FileSystem.removeFile_removes hfs1
    have htest : Handler.step env r (.whileExists nftids backupFile) sh =
        some (.removeFile nftids backupFile, sh) := by rw [Handler.step_whileExists, if_pos hex]
    have hremove : Handler.step env r (.removeFile nftids backupFile) sh =
        some (.whileExists nftids backupFile, sh1) := by simp only [Handler.step, hrm1]
    refine ⟨sh1, hst1, by rw [← hfs1'], .head htest (.head hremove (.single ?_))⟩
    rw [Handler.step_whileExists, if_neg (by simp [hgone])]
  · exact ⟨sh, rfl, rfl, .single (by rw [Handler.step_whileExists, if_neg hex])⟩

/-- A request that passes its checks, alone from its entry with the backup
path unlocked, writes its archive there and stands before opening it; the seal
path and the locks are untouched. -/
theorem Handler.runs_checked_unlocked {r : FetchIdPacket} {nftids : List String} (sh : Shared)
    (hv : verifyFetchRequest env r = .ok nftids)
    (hlock : sh.fs.locked.contains "/temporary/backup.zip" = false) :
    ∃ sh' : Shared, sh'.state.sealPath = sh.state.sealPath ∧ sh'.fs.locked = sh.fs.locked ∧
      Handler.Runs env r (.entry, sh) (.openFile "/temporary/backup.zip",
        sh'.addListZip env ⟨sh.state.sealPath, nftids, "/temporary/backup.zip"⟩) := by
  obtain ⟨sh', hst, hlock', hloop⟩ := Handler.runs_loop_unlocked r nftids
    (sh.setHealth "Encalve is doing backup, please wait...") hlock
  have hseal : sh'.state.sealPath = sh.state.sealPath := by rw [hst, Shared.setHealth_sealPath]
  exact ⟨sh', hseal, hlock', .head (Handler.step_entry _) (.head (Handler.step_checks_ok _ hv)
    (hloop.trans (.head (by rw [Handler.step_readSealPath, hseal])
      (.single (Handler.step_addListZip _ _)))))⟩

/-- Two requests that pass every check can be interleaved so that the first is
answered with the archive of the second: the first writes its archive, the
second removes it and writes its own to the same path, and only then does the
first open the file. -/
theorem interleaved_requests_swap_archives {r₁ r₂ : FetchIdPacket} {ids₁ ids₂ : List String}
    (h₁ : verifyFetchRequest env r₁ = .ok ids₁) (h₂ : verifyFetchRequest env r₂ = .ok ids₂)
    (hunlocked : fs.locked.contains "/temporary/backup.zip" = false)
    (hwrite : ∀ call files, call.backupFile ∈ env.addListZip call files) :
    ∃ s, Reachable env [r₁, r₂] (Sys.start state fs) s ∧
      s.pcs 0 = .done (.backupFile "/temporary/backup.zip")
        (some ⟨state.sealPath, ids₂, "/temporary/backup.zip"⟩) := by
  -- the first request, up to its archive
  obtain ⟨shA, hsealA, hlockA, hrun₁⟩ := Handler.runs_checked_unlocked (r := r₁)
    (Sys.start state fs).shared h₁ hunlocked
  have hs₁ : Reachable env [r₁, r₂] (Sys.start state fs) _ :=
    Reachable.runs (s := Sys.start state fs) (i := 0) .init rfl hrun₁
  -- the second request, through its archive over the first's
  let shA' := shA.addListZip env ⟨state.sealPath, ids₁, "/temporary/backup.zip"⟩
  obtain ⟨shB, -, -, hrun₂⟩ := Handler.runs_checked_unlocked (r := r₂) shA' h₂
    (by rw [Shared.addListZip_fs, FileSystem.addListZip_locked, hlockA]; exact hunlocked)
  have hs₂ := hs₁.runs (i := 1) rfl hrun₂
  -- the first request opens the file the second wrote
  let call₂ : ArchiveCall := ⟨state.sealPath, ids₂, "/temporary/backup.zip"⟩
  let shC := shB.addListZip env call₂
  have hshC : shB.addListZip env ⟨shA'.state.sealPath, ids₂, "/temporary/backup.zip"⟩ = shC := by
    rw [Shared.addListZip_state, hsealA]
    rfl
  have hopen : Handler.step env r₁ (.openFile "/temporary/backup.zip") shC =
      some (.clearHealth (.backupFile "/temporary/backup.zip") (some call₂), shC) := by
    have hex : shC.fs.pathExists "/temporary/backup.zip" = true := by
      simpa [FileSystem.pathExists, FileSystem.addListZip, shC] using hwrite call₂ shB.fs.files
    simp only [Handler.step, FileSystem.openFile, hex, if_true]
    simp [shC, Shared.addListZip, call₂]
  have hrun₃ : Handler.Runs env r₁ (.openFile "/temporary/backup.zip", shC)
      (.done (.backupFile "/temporary/backup.zip") (some call₂), shC.setHealth "") :=
    .head hopen (.single (Handler.step_clearHealth _ _ _))
  exact ⟨_, (hshC ▸ hs₂).runs (i := 0) rfl hrun₃, Sys.setPc_pcs_self _ _ _ _⟩

/-- The demo deployment, whose id list `[164]` parses as NFT 164 and every
other as NFT 163. -/
def demoIdsEnv : BackupEnv :=
  { demoEnv true with idsFromStr := fun s => if s = "[164]" then .ok [164] else .ok [163] }

set_option maxRecDepth 4000 in
theorem interleaved_requests_swap_archives_demo :
    verifyFetchRequest demoIdsEnv demoRequest = .ok ["163"] ∧
      verifyFetchRequest demoIdsEnv { demoRequest with nftidVec := "[164]" } = .ok ["164"] ∧
      (⟨[], [], []⟩ : FileSystem).locked.contains "/temporary/backup.zip" = false ∧
      (∀ call files, call.backupFile ∈ demoIdsEnv.addListZip call files) ∧
      ∃ s, Reachable demoIdsEnv [demoRequest, { demoRequest with nftidVec := "[164]" }]
          (Sys.start ⟨"", "/seal"⟩ ⟨[], [], []⟩) s ∧
        s.pcs 0 = .done (.backupFile "/temporary/backup.zip")
          (some ⟨"/seal", ["164"], "/temporary/backup.zip"⟩) :=
  have h₁ : verifyFetchRequest demoIdsEnv demoRequest = .ok ["163"] := by rfl
  have h₂ : verifyFetchRequest demoIdsEnv { demoRequest with nftidVec := "[164]" } =
      .ok ["164"] := by rfl
  have hwrite : ∀ call files, call.backupFile ∈ demoIdsEnv.addListZip call files :=
    fun _ _ => List.mem_cons_self _ _
  ⟨h₁, h₂, rfl, hwrite, interleaved_requests_swap_archives h₁ h₂ rfl hwrite⟩

/-- A request that fails a check clears the maintenance message while another
request, past its checks, has yet to remove the previous backup and write its
own: the health status reads as idle in the middle of a backup. -/
theorem rejected_request_clears_maintenance_mid_backup {r₁ r₂ : FetchIdPacket} {message : String}
    {ids₂ : List String} (h₁ : verifyFetchRequest env r₁ = .error message)
    (h₂ : verifyFetchRequest env r₂ = .ok ids₂) :
    ∃ s, Reachable env [r₁, r₂] (Sys.start state fs) s ∧ s.shared.state.maintenance = "" ∧
      s.pcs 0 = .done (.badRequest message) none ∧
      s.pcs 1 = .whileExists ids₂ "/temporary/backup.zip" := by
  let sh₁ := Shared.setHealth ⟨state, fs, fun _ => none⟩ "Encalve is doing backup, please wait..."
  have hrun₂ : Handler.Runs env r₂ (.entry, ⟨state, fs, fun _ => none⟩)
      (.whileExists ids₂ "/temporary/backup.zip", sh₁) :=
    .head (Handler.step_entry _) (.single (Handler.step_checks_ok _ h₂))
  have hs₁ : Reachable env [r₁, r₂] (Sys.start state fs) _ :=
    Reachable.runs (s := Sys.start state fs) (i := 1) .init rfl hrun₂
  let sh₂ := sh₁.setHealth "Encalve is doing backup, please wait..."
  have hchecks : Handler.step env r₁ .checks sh₂ =
      some (.clearHealth (.badRequest message) none, sh₂) := by
    simp only [Handler.step, h₁]
  have hrun₁ : Handler.Runs env r₁ (.entry, sh₁)
      (.done (.badRequest message) none, sh₂.setHealth "") :=
    .head (Handler.step_entry _) (.head hchecks (.single (Handler.step_clearHealth _ _ _)))
  exact ⟨_, hs₁.runs (i := 0) rfl hrun₁, rfl, Sys.setPc_pcs_self _ _ _ _, rfl⟩

set_option maxRecDepth 4000 in
theorem rejected_request_clears_maintenance_mid_backup_eve :
    verifyFetchRequest (demoEnv true) { demoRequest with adminAddress := "5Eve" } =
        .error ("Error backup key shares : Requester is not whitelisted : " ++ "5Eve") ∧
      verifyFetchRequest (demoEnv true) demoRequest = .ok ["163"] ∧
      ∃ s, Reachable (demoEnv true) [{ demoRequest with adminAddress := "5Eve" }, demoRequest]
          (Sys.start ⟨"", "/seal"⟩ ⟨[], [], []⟩) s ∧ s.shared.state.maintenance = "" ∧
        s.pcs 0 = .done (.badRequest ("Error backup key shares : Requester is not whitelisted : " ++
          "5Eve")) none ∧
        s.pcs 1 = .whileExists ["163"] "/temporary/backup.zip" :=
  have h₁ : verifyFetchRequest (demoEnv true) { demoRequest with adminAddress := "5Eve" } =
      .error ("Error backup key shares : Requester is not whitelisted : " ++ "5Eve") := by rfl
  have h₂ : verifyFetchRequest (demoEnv true) demoRequest = .ok ["163"] := by rfl
  ⟨h₁, h₂, rejected_request_clears_maintenance_mid_backup h₁ h₂⟩

end Races

/-! ## No request waits on another -/

section Progress

variable {env : BackupEnv} {r : FetchIdPacket}

namespace Handler

/-- From `File::open` on, a request answers. -/
theorem runs_done_of_openFile (backupFile : String) (sh : Shared) : ∃ response streamed sh',
    Runs env r (.openFile backupFile, sh) (.done response streamed, sh') := by
  cases hopen : sh.fs.openFile backupFile with
  | ok u =>
    have hstep : step env r (.openFile backupFile) sh =
        some (.clearHealth (.backupFile backupFile) (sh.content backupFile), sh) := by
      simp only [step, hopen]
    exact ⟨_, _, _, .head hstep (.single (step_clearHealth _ _ _))⟩
  | error err =>
    have hstep : step env r (.openFile backupFile) sh =
        some (.done (.jsonError ("Backup File not found: " ++ err)) none, sh) := by
      simp only [step, hopen]
    exact ⟨_, _, _, .single hstep⟩

/-- Once past the removal loop, a request answers. -/
theorem runs_done_of_readSealPath (nftids : List String) (backupFile : String) (sh : Shared) :
    ∃ response streamed sh',
      Runs env r (.readSealPath nftids backupFile, sh) (.done response streamed, sh') := by
  obtain ⟨response, streamed, sh', hrun⟩ := runs_done_of_openFile (r := r) backupFile
    (sh.addListZip env ⟨sh.state.sealPath, nftids, backupFile⟩)
  exact ⟨response, streamed, sh', .head (step_readSealPath _ _ _)
    (.head (step_addListZip _ _) hrun)⟩

/-- A request gets past the loop on a path that is not stuck. -/
theorem runs_loop_of_not_stuck (nftids : List String) {backupFile : String} {sh : Shared}
    (h : ¬ sh.fs.Stuck backupFile) : ∃ sh',
      Runs env r (.whileExists nftids backupFile, sh) (.readSealPath nftids backupFile, sh') := by
  by_cases hex : sh.fs.pathExists backupFile
  · obtain ⟨sh', -, -, hrun⟩ := runs_loop_unlocked r nftids sh
      (Bool.eq_false_iff.mpr fun hl => h ⟨hex, hl⟩)
    exact ⟨sh', hrun⟩
  · exact ⟨sh, .single (by rw [step_whileExists, if_neg hex])⟩

/-- From the `while` test on any path, a request gets past the loop when the
fallback path is not stuck. -/
theorem runs_loop_of_fallback (nftids : List String) (backupFile : String) {sh : Shared}
    (hfree : ¬ sh.fs.Stuck (fallbackBackupFile 1)) : ∃ path sh',
      Runs env r (.whileExists nftids backupFile, sh) (.readSealPath nftids path, sh') := by
  by_cases hstuck : sh.fs.Stuck backupFile
  · have htest : step env r (.whileExists nftids backupFile) sh =
        some (.removeFile nftids backupFile, sh) := by rw [step_whileExists, if_pos hstuck.1]
    have hremove : step env r (.removeFile nftids backupFile) sh =
        some (.whileExists nftids (fallbackBackupFile 1), sh) := by
      simp only [step, Shared.remove_of_pathExists hstuck.1,
        FileSystem.removeFile_eq_none.mpr hstuck.2, Option.map_none']
    obtain ⟨sh', hrun⟩ := runs_loop_of_not_stuck (r := r) nftids hfree
    exact ⟨_, sh', .head htest (.head hremove hrun)⟩
  · obtain ⟨sh', hrun⟩ := runs_loop_of_not_stuck (r := r) nftids hstuck
    exact ⟨_, sh', hrun⟩

/-- From the `while` test on any path, a request answers when the fallback
path is not stuck. -/
theorem runs_done_of_whileExists (nftids : List String) (backupFile : String) {sh : Shared}
    (hfree : ¬ sh.fs.Stuck (fallbackBackupFile 1)) : ∃ response streamed sh',
      Runs env r (.whileExists nftids backupFile, sh) (.done response streamed, sh') :=
  let ⟨path, sh₁, hloop⟩ := runs_loop_of_fallback (r := r) nftids backupFile hfree
  let ⟨response, streamed, sh', hrun⟩ := runs_done_of_readSealPath (r := r) nftids path sh₁
  ⟨response, streamed, sh', hloop.trans hrun⟩

/-- From the checks, a request answers when the fallback path is not stuck. -/
theorem runs_done_of_checks {sh : Shared} (hfree : ¬ sh.fs.Stuck (fallbackBackupFile 1)) :
    ∃ response streamed sh', Runs env r (.checks, sh) (.done response streamed, sh') := by
  cases hv : verifyFetchRequest env r with
  | error message =>
    have hchecks : step env r .checks sh =
        some (.clearHealth (.badRequest message) none, sh) := by simp only [step, hv]
    exact ⟨_, _, _, .head hchecks (.single (step_clearHealth _ _ _))⟩
  | ok nftids =>
    obtain ⟨response, streamed, sh', hrun⟩ :=
      runs_done_of_whileExists (r := r) nftids "/temporary/backup.zip" hfree
    exact ⟨response, streamed, sh', .head (step_checks_ok sh hv) hrun⟩

/-- From any point, a request running alone answers, unless the fallback path
exists and cannot be removed. -/
theorem runs_done {sh : Shared} (hfree : ¬ sh.fs.Stuck (fallbackBackupFile 1)) :
    ∀ pc, ∃ response streamed sh', Runs env r (pc, sh) (.done response streamed, sh')
  | .done response streamed => ⟨response, streamed, sh, .refl⟩
  | .clearHealth response streamed => ⟨_, _, _, .single (step_clearHealth _ _ _)⟩
  | .openFile backupFile => runs_done_of_openFile backupFile sh
  | .addListZip call =>
    let ⟨response, streamed, sh', hrun⟩ :=
      runs_done_of_openFile (r := r) call.backupFile (sh.addListZip env call)
    ⟨response, streamed, sh', .head (step_addListZip _ _) hrun⟩
  | .readSealPath nftids backupFile => runs_done_of_readSealPath nftids backupFile sh
  | .whileExists nftids backupFile => runs_done_of_whileExists nftids backupFile hfree
  | .removeFile nftids backupFile => by
    cases hrm : sh.remove backupFile with
    | none =>
      have hremove : step env r (.removeFile nftids backupFile) sh =
          some (.whileExists nftids (fallbackBackupFile 1), sh) := by simp only [step, hrm]
      obtain ⟨response, streamed, sh', hrun⟩ :=
        runs_done_of_whileExists (r := r) nftids (fallbackBackupFile 1) hfree
      exact ⟨response, streamed, sh', .head hremove hrun⟩
    | some sh₁ =>
      have hremove : step env r (.removeFile nftids backupFile) sh =
          some (.whileExists nftids backupFile, sh₁) := by simp only [step, hrm]
      obtain ⟨-, hfs, -, -⟩ := Shared.remove_eq_some hrm
      have hgone : sh₁.fs.pathExists backupFile = false := FileSystem.removeFile_removes hfs
      have hleave : step env r (.whileExists nftids backupFile) sh₁ =
          some (.readSealPath nftids backupFile, sh₁) := by
        rw [step_whileExists, if_neg (by simp [hgone])]
      obtain ⟨response, streamed, sh', hrun⟩ :=
        runs_done_of_readSealPath (r := r) nftids backupFile sh₁
      exact ⟨response, streamed, sh', .head hremove (.head hleave hrun)⟩
  | .checks => runs_done_of_checks hfree
  | .entry =>
    let ⟨response, streamed, sh', hrun⟩ := runs_done_of_checks (r := r) (show ¬ (sh.setHealth
      "Encalve is doing backup, please wait...").fs.Stuck (fallbackBackupFile 1) from hfree)
    ⟨response, streamed, sh', .head (step_entry _) hrun⟩

end Handler

/-- Requests never wait on one another: from every reachable state, any request
that the scheduler lets run alone answers, unless the fallback backup path
exists and cannot be removed. -/
theorem requests_never_block {requests : List FetchIdPacket} {init s : Sys} {i : Nat}
    (h : Reachable env requests init s) (hi : i < requests.length)
    (hfree : ¬ s.shared.fs.Stuck (fallbackBackupFile 1)) :
    ∃ s' response streamed, Reachable env requests init s' ∧ s'.pcs i = .done response streamed := by
  obtain ⟨response, streamed, sh', hrun⟩ :=
    Handler.runs_done (r := requests[i]) hfree (s.pcs i)
  exact ⟨_, response, streamed, h.runs (List.getElem?_eq_getElem hi) hrun,
    Sys.setPc_pcs_self _ _ _ _⟩

/-- `/temporary/backup.zip` is there and cannot be removed; the fallback is free. -/
def lockedFirstBackup : FileSystem :=
  ⟨["/temporary/backup.zip"], ["/temporary/backup.zip"], []⟩

theorem requests_never_block_locked_first :
    0 < [demoRequest].length ∧
      ¬ (Sys.start ⟨"", "/seal"⟩ lockedFirstBackup).shared.fs.Stuck (fallbackBackupFile 1) ∧
      ∃ s' response streamed,
        Reachable (demoEnv true) [demoRequest] (Sys.start ⟨"", "/seal"⟩ lockedFirstBackup) s' ∧
        s'.pcs 0 = .done response streamed :=
  ⟨by decide, by decide, requests_never_block .init (by decide) (by decide)⟩

end Progress

end TernoaEnclave.Backup
