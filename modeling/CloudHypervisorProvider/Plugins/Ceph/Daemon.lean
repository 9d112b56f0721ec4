import CloudHypervisorProvider.Plugins.Ceph.Conf

/-! # The ceph plugins that run `qemu-storage-daemon`

`qemu` and `QemuStorage` record a started daemon's pid in the volume's pid file, and
`Unmount` reads it back with `strconv.Atoi` to kill the daemon. Neither writes the pid
as a number, so from the first start on `Atoi` fails and no signal is sent
(`unmount_sends_no_kill`).
-/

namespace CloudHypervisorProvider.Plugins.Ceph
open Go Host.Layout Go.Filepath

def pidFilePathIn (paths : Paths) (pluginDir machineID volumeHandle : String) : String :=
  joinPath (paths.machineVolumeDir machineID pluginDir volumeHandle) "pid"

def Qemu.pidFilePath (q : Qemu) (machineID volumeHandle : String) : String :=
  pidFilePathIn q.paths q.pluginDir machineID volumeHandle

def QemuStorage.pidFilePath (q : QemuStorage) (machineID volumeHandle : String) : String :=
  pidFilePathIn q.paths q.pluginDir machineID volumeHandle

/-- `startDaemon`, given the text the plugin writes to the pid file for the new pid. -/
def startDaemonWith (pidPath : String) (pidText : Nat → String) (socket confPath : String) : Op Unit := do
  errorf "error cleaning up socket" (cleanupSocketIfExists socket)
  let pid ← errorf "failed to start qemu-storage-daemon" startProcess
  errorf "error waiting for socket" (waitForSocketWithTimeout socket)
  errorf ("error opening conf file " ++ pidPath) (openFile pidPath)
  errorf ("error writing to pid file " ++ confPath) (writeString pidPath (pidText pid))

def Qemu.startDaemon (q : Qemu) (machineID socket confPath : String) (volume : ValidatedVolume) : Op Unit :=
  startDaemonWith (q.pidFilePath machineID volume.handle) sprintfS socket confPath

def QemuStorage.startDaemon (q : QemuStorage) (machineID socket confPath : String) (volume : ValidatedVolume) :
    Op Unit :=
  startDaemonWith (q.pidFilePath machineID volume.handle) (fun _ => "[client." ++ volume.userID ++ "]\n")
    socket confPath

def Qemu.mount (q : Qemu) (machineID : String) (volume : ValidatedVolume) : Op String := do
  let volumeDir := q.paths.machineVolumeDir machineID q.pluginDir volume.handle
  mkdirAll volumeDir
  let socketPath := joinPath (q.paths.machineVolumeDir machineID q.pluginDir volume.handle) "socket"
  let present ← errorf ("error checking if " ++ socketPath ++ " is a socket") (isSocketPresent socketPath)
  let active ← errorf ("error checking if " ++ socketPath ++ " is a active socket") (isSocketActive socketPath)
  let confPath ← errorf "error creating ceph conf" (q.createCephConf machineID volume)
  if !present || !active then
    errorf "error starting qemu-storage-daemon" (q.startDaemon machineID socketPath confPath volume)
  else pure ()
  pure socketPath

/-- `QemuStorage.Mount`: unlike `qemu`, it asks whether the daemon is active only when
the socket is present. -/
def QemuStorage.mount (q : QemuStorage) (machineID : String) (volume : ValidatedVolume) : Op String := do
  let volumeDir := q.paths.machineVolumeDir machineID q.pluginDir volume.handle
  mkdirAll volumeDir
  let socketPath := joinPath volumeDir "socket"
  let present ← errorf ("error checking if " ++ socketPath ++ " is a socket") (isSocketPresent socketPath)
  let active ← if present then
      errorf ("error checking if " ++ socketPath ++ " is a active socket") (isSocketActive socketPath)
    else pure false
  let confPath ← errorf "error creating ceph conf" (q.createCephConf machineID volume)
  if !present || !active then
    errorf "error starting qemu-storage-daemon" (q.startDaemon machineID socketPath confPath volume)
  else pure ()
  pure socketPath

/-- `qemu.Unmount`: its test of the socket has an empty body, so it goes on to the pid
file whether or not the socket is there. -/
def Qemu.unmount (q : Qemu) (machineID volumeID : String) : Op Unit := do
  let socketPath := joinPath (q.paths.machineVolumeDir machineID q.pluginDir volumeID) "socket"
  let _present ← errorf ("error checking if " ++ socketPath ++ " is a socket") (isSocketPresent socketPath)
  let pidPath := q.pidFilePath machineID volumeID
  let pidFile ← errorf ("error opening conf file " ++ pidPath) (readFile pidPath)
  let pid ← errorf ("error parsing pid file " ++ pidPath) (liftExcept (atoi pidFile))
  errorf ("error sending SIGKILL to " ++ socketPath) (kill pid)

/-- `QemuStorage.Unmount`: it returns nil when the socket is not there. -/
def QemuStorage.unmount (q : QemuStorage) (machineID volumeID : String) : Op Unit := do
  let socketPath := joinPath (q.paths.machineVolumeDir machineID q.pluginDir volumeID) "socket"
  let present ← errorf ("error checking if " ++ socketPath ++ " is a socket") (isSocketPresent socketPath)
  if !present then pure ()
  else do
    let pidPath := q.pidFilePath machineID volumeID
    let pidFile ← errorf ("error opening conf file " ++ pidPath) (readFile pidPath)
    let pid ← errorf ("error parsing pid file " ++ pidPath) (liftExcept (atoi pidFile))
    errorf ("error sending SIGKILL to " ++ socketPath) (kill pid)

/-- Mount calls one after the other, each on the host the one before left, whatever it
returned. -/
def Qemu.mountRun (q : Qemu) : List (String × ValidatedVolume) → Host × Faults → Host × Faults
  | [], s => s
  | (m, vol) :: rest, s => q.mountRun rest (resultState (q.mount m vol s))

def QemuStorage.mountRun (q : QemuStorage) : List (String × ValidatedVolume) → Host × Faults → Host × Faults
  | [], s => s
  | (m, vol) :: rest, s => q.mountRun rest (resultState (q.mount m vol s))

theorem bytes_sprintfS_head (n : Nat) : (bytes (sprintfS n)).head? = some 37 := by
  simp only [sprintfS, bytes_append, List.head?_append]
  rfl

theorem bytes_client_head (userID : String) : (bytes ("[client." ++ userID ++ "]\n")).head? = some 91 := by
  simp only [bytes_append, List.head?_append]
  rfl

section FirstByte
variable {c : UInt8} {P : String}

theorem createCephConfWith_firstByte {volumeDir confName keyName : String} {keyring : String → String}
    {newline : String} {volume : ValidatedVolume}
    (hconf : joinPath volumeDir confName ≠ P ∨
      (bytes (confData volume.monitors volume.userID (keyring (joinPath volumeDir keyName)) newline)).head? = some c)
    (hkey : joinPath volumeDir keyName ≠ P ∨ (bytes (keyData volume.userID volume.userKey newline)).head? = some c) :
    Preserves (FirstByte c P) (createCephConfWith volumeDir confName keyName keyring newline volume) := by
  simp only [createCephConfWith]
  exact preserves_bind (preserves_errorf _ (openFile_firstByte _)) fun _ =>
    preserves_bind (preserves_errorf _ (writeString_firstByte hconf)) fun _ =>
    preserves_bind (preserves_errorf _ (openFile_firstByte _)) fun _ =>
    preserves_bind (preserves_errorf _ (writeString_firstByte hkey)) fun _ => preserves_pure _

theorem startDaemonWith_firstByte {pidPath socket confPath : String} {pidText : Nat → String}
    (hpid : ∀ n, (bytes (pidText n)).head? = some c) :
    Preserves (FirstByte c P) (startDaemonWith pidPath pidText socket confPath) := by
  simp only [startDaemonWith]
  exact preserves_bind (preserves_errorf _ (sys_firstByte fun _ => rfl)) fun _ =>
    preserves_bind (preserves_errorf _ (sys_firstByte fun _ => rfl)) fun pid =>
    preserves_bind (preserves_errorf _ (sys_firstByte fun _ => rfl)) fun _ =>
    preserves_bind (preserves_errorf _ (openFile_firstByte _)) fun _ =>
    preserves_errorf _ (writeString_firstByte (.inr (hpid pid)))

theorem startDaemonWith_firstByte_of_ok {pidPath socket confPath : String} {pidText : Nat → String}
    (hpid : ∀ n, (bytes (pidText n)).head? = some c) {s s' : Host × Faults}
    (h : startDaemonWith pidPath pidText socket confPath s = .ok () s') : FirstByte c pidPath s'.1 := by
  simp only [startDaemonWith] at h
  obtain ⟨_, _, -, h⟩ := op_bind_eq_ok.mp h
  obtain ⟨pid, _, -, h⟩ := op_bind_eq_ok.mp h
  obtain ⟨_, _, -, h⟩ := op_bind_eq_ok.mp h
  obtain ⟨_, s₄, -, h⟩ := op_bind_eq_ok.mp h
  rw [writeString_eq_ok (errorf_eq_ok.mp h)]
  have hp := hpid pid
  cases hb : bytes (pidText pid) with
  | nil => simp [hb] at hp
  | cons d ds =>
    simp only [hb, List.head?_cons, Option.some.injEq] at hp
    subst hp
    exact ⟨ds ++ ((s₄.1.files pidPath).getD []).drop (ds.length + 1), by simp [overwrite, hb]⟩

end FirstByte

theorem createCephConfWith_nextPid {volumeDir confName keyName : String} {keyring : String → String}
    {newline : String} {volume : ValidatedVolume} {n : Nat} :
    Preserves (fun h => h.nextPid = n) (createCephConfWith volumeDir confName keyName keyring newline volume) := by
  simp only [createCephConfWith]
  exact preserves_bind (preserves_errorf _ (preserves_sys fun _ hh => hh)) fun _ =>
    preserves_bind (preserves_errorf _ (preserves_sys fun _ hh => hh)) fun _ =>
    preserves_bind (preserves_errorf _ (preserves_sys fun _ hh => hh)) fun _ =>
    preserves_bind (preserves_errorf _ (preserves_sys fun _ hh => hh)) fun _ => preserves_pure _

/-- The end of both Mounts: a daemon is started only under their test, so one whose end
moved the pid counter has written the pid text. -/
theorem startDaemonIf_firstByte {c : UInt8} {cond : Prop} [Decidable cond] {msg pidPath socket confPath r : String}
    {pidText : Nat → String} (hpid : ∀ n, (bytes (pidText n)).head? = some c) {s s' : Host × Faults}
    {socketPath : String}
    (h : (if cond then errorf msg (startDaemonWith pidPath pidText socket confPath) >>= fun _ => pure socketPath
      else (pure () : Op Unit) >>= fun _ => pure socketPath) s = .ok r s')
    (hstart : s'.1.nextPid ≠ s.1.nextPid) : FirstByte c pidPath s'.1 := by
  split at h
  · obtain ⟨_, _, h₅, h⟩ := op_bind_eq_ok.mp h
    cases h
    exact startDaemonWith_firstByte_of_ok hpid (errorf_eq_ok.mp h₅)
  · obtain ⟨_, _, h₅, h⟩ := op_bind_eq_ok.mp h
    cases h₅
    cases h
    exact absurd rfl hstart

/-- The end of both Unmounts: a pid file that starts with a byte other than a sign or a
digit is read, fails to parse, and nothing is signalled. -/
theorem killPid_of_firstByte {c : UInt8} (hc : c ≠ 45 ∧ c ≠ 43 ∧ isDigit c = false)
    {pidPath msgRead msgParse msgKill : String} {s : Host × Faults} (hP : FirstByte c pidPath s.1) :
    ∃ e s', (errorf msgRead (readFile pidPath) >>= fun pidFile =>
      errorf msgParse (liftExcept (atoi pidFile)) >>= fun pid => errorf msgKill (kill pid)) s = .error e s' ∧
      s'.1 = s.1 := by
  obtain ⟨rest, hrest⟩ := hP
  have hread : Preserves (· = s.1) (errorf msgRead (readFile pidPath)) :=
    preserves_errorf _ (preserves_read fun _ => rfl)
  rcases hB : errorf msgRead (readFile pidPath) s with ⟨content, s₂⟩ | ⟨e, s₂⟩
  · obtain ⟨hcontent, hs₂⟩ := sys_eq_ok (errorf_eq_ok.mp hB)
    simp only [hrest, Except.ok.injEq] at hcontent
    have hparse : errorf msgParse (liftExcept (atoi content)) s₂ =
        .error (.wrap msgParse (.other "strconv.Atoi: invalid syntax")) s₂ := by
      simp [errorf, liftExcept, ← hcontent, atoi_of_head rest hc]
    rw [op_bind_ok hB, op_bind_error hparse]
    exact ⟨_, _, rfl, hs₂⟩
  · rw [op_bind_error hB]
    exact ⟨e, s₂, rfl, hread.of_error hB rfl⟩

namespace Qemu
variable (q : Qemu)

/-- Every Mount, of any volume, keeps a pid file that starts with `%`. -/
theorem mount_firstByte (m : String) (vol : ValidatedVolume) (d : String) :
    Preserves (FirstByte 37 (joinPath d "pid")) (q.mount m vol) := by
  have hpid : Normal "pid".data := by decide
  simp only [Qemu.mount, Qemu.createCephConf, Qemu.startDaemon]
  exact preserves_bind (sys_firstByte fun _ => rfl) fun _ =>
    preserves_bind (preserves_errorf _ (sys_firstByte fun _ => rfl)) fun _ =>
    preserves_bind (preserves_errorf _ (sys_firstByte fun _ => rfl)) fun _ =>
    preserves_bind (preserves_errorf _ (createCephConfWith_firstByte
      (.inl (joinPath_ne (by decide) hpid (by decide))) (.inl (joinPath_ne (by decide) hpid (by decide))))) fun _ =>
    preserves_ite
      (preserves_bind (preserves_errorf _ (startDaemonWith_firstByte bytes_sprintfS_head)) fun _ => preserves_pure _)
      (preserves_bind (preserves_pure _) fun _ => preserves_pure _)

theorem mountRun_firstByte (d : String) :
    ∀ (later : List (String × ValidatedVolume)) (s : Host × Faults),
    FirstByte 37 (joinPath d "pid") s.1 → FirstByte 37 (joinPath d "pid") (q.mountRun later s).1
  | [], _, hs => hs
  | (m, vol) :: later, s, hs => by
    have h := q.mount_firstByte m vol d s hs
    show FirstByte 37 _ (q.mountRun later (resultState (q.mount m vol s))).1
    rcases hm : q.mount m vol s with ⟨_, s₁⟩ | ⟨_, s₁⟩ <;> rw [hm] at h <;>
      exact mountRun_firstByte d later s₁ h

theorem mount_started {m : String} {vol : ValidatedVolume} {s s' : Host × Faults} {socketPath : String}
    (h : q.mount m vol s = .ok socketPath s') (hstart : s'.1.nextPid ≠ s.1.nextPid) :
    FirstByte 37 (q.pidFilePath m vol.handle) s'.1 := by
  simp only [Qemu.mount] at h
  obtain ⟨_, s₁, h₁, h⟩ := op_bind_eq_ok.mp h
  obtain ⟨_, s₂, h₂, h⟩ := op_bind_eq_ok.mp h
  obtain ⟨_, s₃, h₃, h⟩ := op_bind_eq_ok.mp h
  obtain ⟨_, s₄, h₄, h⟩ := op_bind_eq_ok.mp h
  have hread {β : Type} {act : Host → Except Err β × Host} (hact : ∀ h, (act h).2 = h) :
      Preserves (fun h : Host => h.nextPid = s.1.nextPid) (sys act) := preserves_read hact
  have e₁ := (hread fun _ => rfl).of_ok h₁ rfl
  have e₂ := (preserves_errorf _ (hread fun _ => rfl)).of_ok h₂ e₁
  have e₃ := (preserves_errorf _ (hread fun _ => rfl)).of_ok h₃ e₂
  have e₄ := (preserves_errorf _ createCephConfWith_nextPid).of_ok h₄ e₃
  exact startDaemonIf_firstByte bytes_sprintfS_head h fun e => hstart (e.trans e₄)

/-- An Unmount of a volume whose pid file starts with `%` fails before it signals, and
leaves the host as it was. -/
theorem unmount_of_firstByte (m volumeID : String) (s : Host × Faults)
    (hP : FirstByte 37 (q.pidFilePath m volumeID) s.1) :
    ∃ e s', q.unmount m volumeID s = .error e s' ∧ s'.1 = s.1 := by
  have hpresent (msg path : String) : Preserves (· = s.1) (errorf msg (isSocketPresent path)) :=
    preserves_errorf _ (preserves_read fun _ => rfl)
  simp only [Qemu.unmount]
  rcases hA : errorf _ (isSocketPresent _) s with ⟨_, s₁⟩ | ⟨e, s₁⟩
  · have hs₁ : s₁.1 = s.1 := (hpresent _ _).of_ok hA rfl
    rw [op_bind_ok hA]
    obtain ⟨e, s₂, he, hs₂⟩ := killPid_of_firstByte (by decide) (hs₁ ▸ hP)
    exact ⟨e, s₂, he, hs₂.trans hs₁⟩
  · rw [op_bind_error hA]
    exact ⟨e, s₁, rfl, (hpresent _ _).of_error hA rfl⟩

end Qemu

theorem bytes_confData_head (monitors : List String) (userID keyring newline : String) :
    (bytes (confData monitors userID keyring newline)).head? = some 91 := by
  simp only [confData, bytes_append, List.head?_append]
  rfl

theorem bytes_keyData_head (userID userKey newline : String) :
    (bytes (keyData userID userKey newline)).head? = some 91 := by
  simp only [keyData, bytes_append, List.head?_append]
  rfl

namespace QemuStorage
variable (q : QemuStorage)

/-- Every text `QemuStorage` writes starts with `[`, so every Mount, of any volume,
keeps a file that starts with `[` starting with it. -/
theorem mount_firstByte (m : String) (vol : ValidatedVolume) (P : String) :
    Preserves (FirstByte 91 P) (q.mount m vol) := by
  simp only [QemuStorage.mount, QemuStorage.createCephConf, QemuStorage.startDaemon]
  refine preserves_bind (sys_firstByte fun _ => rfl) fun _ =>
    preserves_bind (preserves_errorf _ (sys_firstByte fun _ => rfl)) fun _ => ?_
  split <;> refine preserves_bind ?_ fun _ =>
    preserves_bind (preserves_errorf _ (createCephConfWith_firstByte (.inr (bytes_confData_head ..))
      (.inr (bytes_keyData_head ..)))) fun _ =>
    preserves_ite
      (preserves_bind (preserves_errorf _ (startDaemonWith_firstByte fun _ => bytes_client_head _)) fun _ =>
        preserves_pure _)
      (preserves_bind (preserves_pure _) fun _ => preserves_pure _)
  · exact preserves_errorf _ (sys_firstByte fun _ => rfl)
  · exact preserves_pure _

theorem mountRun_firstByte (P : String) :
    ∀ (later : List (String × ValidatedVolume)) (s : Host × Faults),
    FirstByte 91 P s.1 → FirstByte 91 P (q.mountRun later s).1
  | [], _, hs => hs
  | (m, vol) :: later, s, hs => by
    have h := q.mount_firstByte m vol P s hs
    show FirstByte 91 _ (q.mountRun later (resultState (q.mount m vol s))).1
    rcases hm : q.mount m vol s with ⟨_, s₁⟩ | ⟨_, s₁⟩ <;> rw [hm] at h <;>
      exact mountRun_firstByte P later s₁ h

theorem mount_started {m : String} {vol : ValidatedVolume} {s s' : Host × Faults} {socketPath : String}
    (h : q.mount m vol s = .ok socketPath s') (hstart : s'.1.nextPid ≠ s.1.nextPid) :
    FirstByte 91 (q.pidFilePath m vol.handle) s'.1 := by
  simp only [QemuStorage.mount] at h
  obtain ⟨_, s₁, h₁, h⟩ := op_bind_eq_ok.mp h
  obtain ⟨_, s₂, h₂, h⟩ := op_bind_eq_ok.mp h
  have hread {β : Type} {act : Host → Except Err β × Host} (hact : ∀ h, (act h).2 = h) :
      Preserves (fun h : Host => h.nextPid = s.1.nextPid) (sys act) := preserves_read hact
  have e₁ := (hread fun _ => rfl).of_ok h₁ rfl
  have e₂ := (preserves_errorf _ (hread fun _ => rfl)).of_ok h₂ e₁
  -- the socket is present and its activity is read, or it is not and is taken as inactive
  split at h
  all_goals
    obtain ⟨_, s₃, h₃, h⟩ := op_bind_eq_ok.mp h
    obtain ⟨_, s₄, h₄, h⟩ := op_bind_eq_ok.mp h
    have e₃ : s₃.1.nextPid = s.1.nextPid := by
      first
        | exact (preserves_errorf _ (hread fun _ => rfl)).of_ok h₃ e₂
        | cases h₃; exact e₂
    have e₄ := (preserves_errorf _ createCephConfWith_nextPid).of_ok h₄ e₃
    exact startDaemonIf_firstByte (fun _ => bytes_client_head _) h fun e => hstart (e.trans e₄)

/-- An Unmount of a volume whose pid file starts with `[` leaves the host as it was: it
returns nil when the socket is gone, and otherwise fails before it signals. -/
theorem unmount_of_firstByte (m volumeID : String) (s : Host × Faults)
    (hP : FirstByte 91 (q.pidFilePath m volumeID) s.1) :
    (resultState (q.unmount m volumeID s)).1 = s.1 := by
  have hpresent (msg path : String) : Preserves (· = s.1) (errorf msg (isSocketPresent path)) :=
    preserves_errorf _ (preserves_read fun _ => rfl)
  simp only [QemuStorage.unmount]
  rcases hA : errorf _ (isSocketPresent _) s with ⟨present, s₁⟩ | ⟨e, s₁⟩
  · have hs₁ : s₁.1 = s.1 := (hpresent _ _).of_ok hA rfl
    rw [op_bind_ok hA]
    cases present
    · exact hs₁
    · obtain ⟨e, s₂, he, hs₂⟩ := killPid_of_firstByte (by decide) (hs₁ ▸ hP)
      simp only [Bool.not_true, Bool.false_eq_true, if_false]
      rw [he]
      exact hs₂.trans hs₁
  · rw [op_bind_error hA]
    exact (hpresent _ _).of_error hA rfl

end QemuStorage

/-- Once a Mount of a volume has started a daemon, whatever Mounts follow, the next
Unmount of the volume sends no signal: `qemu`'s fails at parsing the pid file, and
neither plugin changes the host. -/
theorem unmount_sends_no_kill :
    (∀ (q : Qemu) (m : String) (vol : ValidatedVolume) (later : List (String × ValidatedVolume))
      (s s₁ : Host × Faults) (socketPath : String),
      q.mount m vol s = .ok socketPath s₁ → s₁.1.nextPid ≠ s.1.nextPid →
      ∃ e s₂, q.unmount m vol.handle (q.mountRun later s₁) = .error e s₂ ∧ s₂.1 = (q.mountRun later s₁).1) ∧
    (∀ (q : QemuStorage) (m : String) (vol : ValidatedVolume) (later : List (String × ValidatedVolume))
      (s s₁ : Host × Faults) (socketPath : String),
      q.mount m vol s = .ok socketPath s₁ → s₁.1.nextPid ≠ s.1.nextPid →
      (resultState (q.unmount m vol.handle (q.mountRun later s₁))).1 = (q.mountRun later s₁).1) := by
  refine ⟨fun q m vol later s s₁ _ h hstart => ?_, fun q m vol later s s₁ _ h hstart => ?_⟩
  · exact q.unmount_of_firstByte m vol.handle _ (q.mountRun_firstByte _ later s₁ (q.mount_started h hstart))
  · exact q.unmount_of_firstByte m vol.handle _ (q.mountRun_firstByte _ later s₁ (q.mount_started h hstart))

theorem unmount_sends_no_kill_h1 :
    let q : Qemu := ⟨⟨"/var/lib/cloud-hypervisor-provider"⟩, "ceph"⟩
    let vol : ValidatedVolume := ⟨"h1", ["10.0.0.1"], "admin", "secret", "rbd", "image"⟩
    let host : Host := ⟨fun _ => none, fun _ => none, [], 100, [], ⟨[], []⟩⟩
    ∃ socketPath s₁ e s₂, q.mount "m1" vol (host, []) = .ok socketPath s₁ ∧ s₁.1.nextPid = 101 ∧
      q.unmount "m1" "h1" s₁ = .error e s₂ ∧ s₂.1.kills = [] := by
  intro q vol host
  obtain ⟨e, s₂, he, hs₂⟩ := unmount_sends_no_kill.1 q "m1" vol [] (host, []) _ _ rfl (by decide)
  exact ⟨_, _, e, s₂, rfl, rfl, he, by rw [hs₂]; rfl⟩

end CloudHypervisorProvider.Plugins.Ceph
