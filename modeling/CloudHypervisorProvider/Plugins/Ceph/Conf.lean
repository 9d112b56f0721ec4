import CloudHypervisorProvider.Plugins.Ceph.Os

/-! # The ceph configuration of a volume

The three ceph mounts write a conf and a key file in the volume's directory; they differ
in the directory, the file names, the keyring text and a final newline, and are one
definition here. The files are opened without `O_TRUNC`, so a shorter rendering leaves
the old tail behind it (`createCephConfWith_keeps_tail`).
-/

namespace CloudHypervisorProvider.Plugins.Ceph
open Go Host.Layout Go.Filepath

/-- `validatedVolume`, a ceph volume as the plugins mount it. Its type is not in the
sources; the fields are those the modelled code reads. -/
structure ValidatedVolume where
  handle : String
  monitors : List String
  userID : String
  userKey : String
  pool : String
  image : String

/-- The plugin `qemu` of `qemu-storage.go`. `pluginDir` is
`utilstrings.EscapeQualifiedName(pluginName)`, a constant not in the sources. -/
structure Qemu where
  paths : Paths
  pluginDir : String

structure QemuStorage where
  paths : Paths
  pluginDir : String

/-- The plugin `QMP`; `cephDriverName` is a constant not in the sources. -/
structure QMP where
  paths : Paths
  cephDriverName : String

def confData (monitors : List String) (userID keyring newline : String) : String :=
  "[global]\nmon_host = " ++ ",".intercalate monitors ++ " \n\n[client." ++ userID ++ "]\nkeyring = " ++
    keyring ++ newline

def keyData (userID userKey newline : String) : String :=
  "[client." ++ userID ++ "]\nkey = " ++ userKey ++ newline

/-- `createCephConf`, given the volume's directory, the names of the two files, the
keyring text for the key file's path, and the end of both texts. -/
def createCephConfWith (volumeDir confName keyName : String) (keyring : String → String) (newline : String)
    (volume : ValidatedVolume) : Op String := do
  let confPath := joinPath volumeDir confName
  let keyPath := joinPath volumeDir keyName
  errorf ("error opening conf file " ++ confPath) (openFile confPath)
  errorf ("error writing to conf file " ++ confPath)
    (writeString confPath (confData volume.monitors volume.userID (keyring keyPath) newline))
  errorf ("error opening key file " ++ keyPath) (openFile keyPath)
  errorf ("error writing to key file " ++ keyPath)
    (writeString keyPath (keyData volume.userID volume.userKey newline))
  pure confPath

def Qemu.createCephConf (q : Qemu) (machineID : String) (volume : ValidatedVolume) : Op String :=
  createCephConfWith (q.paths.machineVolumeDir machineID q.pluginDir volume.handle) "conf" "key" id ""
    volume

def QemuStorage.createCephConf (q : QemuStorage) (machineID : String) (volume : ValidatedVolume) : Op String :=
  createCephConfWith (q.paths.machineVolumeDir machineID q.pluginDir volume.handle) "conf" "key"
    (fun _ => "./key") "" volume

def QMP.volumeDir (q : QMP) (machineID volumeHandle : String) : String :=
  q.paths.machineVolumeDir machineID q.cephDriverName volumeHandle

def QMP.createCephConf (q : QMP) (machineID : String) (volume : ValidatedVolume) : Op String :=
  createCephConfWith (q.volumeDir machineID volume.handle) "ceph.conf" "ceph.key" id "\n" volume

theorem overwrite_eq_iff (data : String) (old : Option (List UInt8)) :
    overwrite data old = bytes data ↔ (old.getD []).length ≤ (bytes data).length := by
  simp [overwrite, List.drop_eq_nil_iff]

theorem openFile_eq_ok {path : String} {s s' : Host × Faults} (h : openFile path s = .ok () s') :
    s'.1 = s.1.write path ((s.1.files path).getD []) :=
  (sys_eq_ok h).2

theorem writeString_eq_ok {path data : String} {s s' : Host × Faults} (h : writeString path data s = .ok () s') :
    s'.1 = s.1.write path (overwrite data (s.1.files path)) :=
  (sys_eq_ok h).2

/-- Once `createCephConf` returns, each of its files holds its text followed by what the
old file held beyond the text's length, and that is the text alone exactly when the old
file was no longer than it. -/
theorem createCephConfWith_keeps_tail (volumeDir confName keyName : String) (keyring : String → String)
    (newline : String) (volume : ValidatedVolume) (hconf : Normal confName.data) (hkey : Normal keyName.data)
    (hne : confName ≠ keyName) (s : Host × Faults) {confPath : String} {s' : Host × Faults}
    (h : createCephConfWith volumeDir confName keyName keyring newline volume s = .ok confPath s') :
    let keyPath := joinPath volumeDir keyName
    let conf := confData volume.monitors volume.userID (keyring keyPath) newline
    let key := keyData volume.userID volume.userKey newline
    s'.1.files confPath = some (overwrite conf (s.1.files confPath)) ∧
    s'.1.files keyPath = some (overwrite key (s.1.files keyPath)) ∧
    (s'.1.files confPath = some (bytes conf) ↔ ((s.1.files confPath).getD []).length ≤ (bytes conf).length) ∧
    (s'.1.files keyPath = some (bytes key) ↔ ((s.1.files keyPath).getD []).length ≤ (bytes key).length) := by
  intro keyPath conf key
  have hpaths : joinPath volumeDir confName ≠ keyPath := joinPath_ne hconf hkey hne
  simp only [createCephConfWith] at h
  obtain ⟨_, s₁, h₁, h⟩ := op_bind_eq_ok.mp h
  obtain ⟨_, s₂, h₂, h⟩ := op_bind_eq_ok.mp h
  obtain ⟨_, s₃, h₃, h⟩ := op_bind_eq_ok.mp h
  obtain ⟨_, s₄, h₄, h⟩ := op_bind_eq_ok.mp h
  cases h
  have e₁ := openFile_eq_ok (errorf_eq_ok.mp h₁)
  have e₂ := writeString_eq_ok (errorf_eq_ok.mp h₂)
  have e₃ := openFile_eq_ok (errorf_eq_ok.mp h₃)
  have e₄ := writeString_eq_ok (errorf_eq_ok.mp h₄)
  have hc : s'.1.files (joinPath volumeDir confName) = some (overwrite conf (s.1.files (joinPath volumeDir confName))) := by
    simp [e₄, e₃, e₂, e₁, hpaths, overwrite]
  have hk : s'.1.files keyPath = some (overwrite key (s.1.files keyPath)) := by
    simp [e₄, e₃, e₂, e₁, Ne.symm hpaths, overwrite]
  refine ⟨hc, hk, ?_, ?_⟩
  · rw [hc, Option.some.injEq, overwrite_eq_iff]
  · rw [hk, Option.some.injEq, overwrite_eq_iff]

theorem createCephConfWith_keeps_tail_stale :
    let volumeDir := (⟨"/r"⟩ : Paths).machineVolumeDir "m" "ceph" "v"
    let confPath := joinPath volumeDir "conf"
    let old := bytes (confData ["10.0.0.1", "10.0.0.2"] "admin" (joinPath volumeDir "key") "")
    let volume : ValidatedVolume := ⟨"v", ["10.0.0.1"], "admin", "secret", "rbd", "image"⟩
    let host : Host := ⟨fun p => if p = confPath then some old else none, fun _ => none, [], 1, [], ⟨[], []⟩⟩
    ∃ s', createCephConfWith volumeDir "conf" "key" id "" volume (host, []) = .ok confPath s' ∧
      s'.1.files confPath ≠ some (bytes (confData volume.monitors "admin" (joinPath volumeDir "key") "")) := by
  intro volumeDir confPath old volume host
  refine ⟨_, rfl, fun h => ?_⟩
  have hiff := (createCephConfWith_keeps_tail volumeDir "conf" "key" id "" volume (by decide) (by decide) (by decide)
    (host, []) rfl).2.2.1
  have hlong := hiff.mp h
  simp only [host, if_pos, Option.getD_some, old, confData, bytes_append, List.length_append] at hlong
  revert hlong
  decide

end CloudHypervisorProvider.Plugins.Ceph
