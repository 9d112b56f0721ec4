import CloudHypervisorProvider.Plugins.Ceph.Daemon
import CloudHypervisorProvider.Plugins.Ceph.Qmp

/-! # Mounting a volume again

`reconcileVolumes` mounts every volume on every pass. For each ceph plugin a second
Mount, with every call answered, returns the same socket and leaves the host as it
found it: the files are rewritten with the bytes they begin with, no daemon is started
and no command changes the monitor.
-/

namespace CloudHypervisorProvider.Plugins.Ceph
open Go Host.Layout Go.Filepath

theorem Host.write_of_eq {h : Host} {path : String} {c : List UInt8} (hc : h.files path = some c) :
    h.write path c = h := by
  cases h
  simp only [Host.write, Host.mk.injEq, and_true]
  funext p
  split_ifs with hp
  · rw [hp]; exact hc.symm
  · rfl

section Again
variable {host : Host} {path data : String}

theorem openFile_again {c : List UInt8} (hc : host.files path = some c) :
    openFile path (host, []) = .ok () (host, []) := by
  simp only [openFile, sys, hc, Option.getD_some, Host.write_of_eq hc]

theorem writeString_again {rest : List UInt8} (hc : host.files path = some (bytes data ++ rest)) :
    writeString path data (host, []) = .ok () (host, []) := by
  have hw : overwrite data (host.files path) = bytes data ++ rest := by simp [overwrite, hc]
  simp only [writeString, sys, hw, Host.write_of_eq hc]

end Again

/-- The volume's conf and key files begin with the texts `createCephConfWith` writes. -/
structure ConfWritten (volumeDir confName keyName : String) (keyring : String → String) (newline : String)
    (volume : ValidatedVolume) (h : Host) : Prop where
  conf : ∃ rest, h.files (joinPath volumeDir confName) =
    some (bytes (confData volume.monitors volume.userID (keyring (joinPath volumeDir keyName)) newline) ++ rest)
  key : ∃ rest, h.files (joinPath volumeDir keyName) =
    some (bytes (keyData volume.userID volume.userKey newline) ++ rest)

section Conf
variable {volumeDir confName keyName : String} {keyring : String → String} {newline : String}
  {volume : ValidatedVolume} {h h' : Host}

theorem ConfWritten.of_files (hw : ConfWritten volumeDir confName keyName keyring newline volume h)
    (hf : h'.files = h.files) : ConfWritten volumeDir confName keyName keyring newline volume h' :=
  ⟨hf ▸ hw.conf, hf ▸ hw.key⟩

theorem ConfWritten.write (hw : ConfWritten volumeDir confName keyName keyring newline volume h) {p : String}
    (hc : p ≠ joinPath volumeDir confName) (hk : p ≠ joinPath volumeDir keyName) (c : List UInt8) :
    ConfWritten volumeDir confName keyName keyring newline volume (h.write p c) :=
  ⟨by simpa [Ne.symm hc] using hw.conf, by simpa [Ne.symm hk] using hw.key⟩

theorem createCephConfWith_written (hne : joinPath volumeDir confName ≠ joinPath volumeDir keyName)
    {s s' : Host × Faults} {confPath : String}
    (h : createCephConfWith volumeDir confName keyName keyring newline volume s = .ok confPath s') :
    confPath = joinPath volumeDir confName ∧ ConfWritten volumeDir confName keyName keyring newline volume s'.1 := by
  simp only [createCephConfWith] at h
  obtain ⟨_, s₁, -, h⟩ := op_bind_eq_ok.mp h
  obtain ⟨_, s₂, h₂, h⟩ := op_bind_eq_ok.mp h
  obtain ⟨_, s₃, h₃, h⟩ := op_bind_eq_ok.mp h
  obtain ⟨_, s₄, h₄, h⟩ := op_bind_eq_ok.mp h
  cases h
  have e₂ := writeString_eq_ok (errorf_eq_ok.mp h₂)
  have e₃ := openFile_eq_ok (errorf_eq_ok.mp h₃)
  have e₄ := writeString_eq_ok (errorf_eq_ok.mp h₄)
  refine ⟨rfl, ?_, ?_⟩
  · exact ⟨_, by
      rw [e₄, Host.write_files, if_neg hne, e₃, Host.write_files, if_neg hne, e₂, Host.write_files, if_pos rfl]
      rfl⟩
  · exact ⟨_, by rw [e₄, Host.write_files, if_pos rfl]; rfl⟩

theorem createCephConfWith_keeps {P : Host → Prop} (hP : ∀ h p c, P h → P (h.write p c)) :
    Preserves P (createCephConfWith volumeDir confName keyName keyring newline volume) := by
  have hw : ∀ {α : Type} (x : Host → Except Err α × Host), (∀ h, ∃ p c, (x h).2 = h.write p c) →
      Preserves P (sys x) := fun x hx => preserves_sys fun h hh => by
    obtain ⟨p, c, he⟩ := hx h
    rw [he]; exact hP _ _ _ hh
  unfold createCephConfWith
  exact preserves_bind (preserves_errorf _ (hw _ fun _ => ⟨_, _, rfl⟩)) fun _ =>
    preserves_bind (preserves_errorf _ (hw _ fun _ => ⟨_, _, rfl⟩)) fun _ =>
    preserves_bind (preserves_errorf _ (hw _ fun _ => ⟨_, _, rfl⟩)) fun _ =>
    preserves_bind (preserves_errorf _ (hw _ fun _ => ⟨_, _, rfl⟩)) fun _ => preserves_pure _

/-- On files that begin with their texts, `createCephConf` rewrites them to what they hold. -/
theorem createCephConfWith_again (hw : ConfWritten volumeDir confName keyName keyring newline volume h) :
    createCephConfWith volumeDir confName keyName keyring newline volume (h, []) =
      .ok (joinPath volumeDir confName) (h, []) := by
  obtain ⟨⟨r₁, h₁⟩, ⟨r₂, h₂⟩⟩ := hw
  simp only [createCephConfWith]
  rw [op_bind_ok (errorf_eq_ok.mpr (openFile_again h₁)), op_bind_ok (errorf_eq_ok.mpr (writeString_again h₁)),
    op_bind_ok (errorf_eq_ok.mpr (openFile_again h₂)), op_bind_ok (errorf_eq_ok.mpr (writeString_again h₂))]
  rfl

theorem startDaemonWith_keeps_conf {pidPath socket confPath : String} {pidText : Nat → String}
    (hc : pidPath ≠ joinPath volumeDir confName) (hk : pidPath ≠ joinPath volumeDir keyName) :
    Preserves (ConfWritten volumeDir confName keyName keyring newline volume)
      (startDaemonWith pidPath pidText socket confPath) := by
  unfold startDaemonWith
  exact preserves_bind (preserves_errorf _ (preserves_sys fun _ hh => hh.of_files rfl)) fun _ =>
    preserves_bind (preserves_errorf _ (preserves_sys fun _ hh => hh.of_files rfl)) fun _ =>
    preserves_bind (preserves_errorf _ (preserves_sys fun _ hh => hh.of_files rfl)) fun _ =>
    preserves_bind (preserves_errorf _ (preserves_sys fun _ hh => hh.write hc hk _)) fun _ =>
    preserves_errorf _ (preserves_sys fun _ hh => hh.write hc hk _)

end Conf

theorem startDaemonWith_socket {pidPath socket confPath : String} {pidText : Nat → String} {s s' : Host × Faults}
    (h : startDaemonWith pidPath pidText socket confPath s = .ok () s') : s'.1.sockets socket = some true := by
  unfold startDaemonWith at h
  obtain ⟨_, s₁, -, h⟩ := op_bind_eq_ok.mp h
  obtain ⟨_, s₂, -, h⟩ := op_bind_eq_ok.mp h
  obtain ⟨_, s₃, h₃, h⟩ := op_bind_eq_ok.mp h
  obtain ⟨_, s₄, h₄, h₅⟩ := op_bind_eq_ok.mp h
  rw [(sys_eq_ok (errorf_eq_ok.mp h₅)).2, (sys_eq_ok (errorf_eq_ok.mp h₄)).2, (sys_eq_ok (errorf_eq_ok.mp h₃)).2]
  simp [Host.write, Host.setSocket]

theorem volumeFiles_ne (dir : String) :
    joinPath dir "conf" ≠ joinPath dir "key" ∧ joinPath dir "pid" ≠ joinPath dir "conf" ∧
      joinPath dir "pid" ≠ joinPath dir "key" :=
  ⟨joinPath_ne (by decide) (by decide) (by decide), joinPath_ne (by decide) (by decide) (by decide),
    joinPath_ne (by decide) (by decide) (by decide)⟩

namespace Qemu
variable (q : Qemu) (m : String) (vol : ValidatedVolume)

/-- A Mount that returns leaves the conf and key files written and a daemon listening on
the volume's socket, which it returns. -/
theorem mount_settled {s s' : Host × Faults} {p : String} (h : q.mount m vol s = .ok p s') :
    p = joinPath (q.paths.machineVolumeDir m q.pluginDir vol.handle) "socket" ∧
    ConfWritten (q.paths.machineVolumeDir m q.pluginDir vol.handle) "conf" "key" id "" vol s'.1 ∧
    s'.1.sockets p = some true := by
  obtain ⟨hne, hpc, hpk⟩ := volumeFiles_ne (q.paths.machineVolumeDir m q.pluginDir vol.handle)
  simp only [Qemu.mount, Qemu.createCephConf] at h
  obtain ⟨_, s₁, -, h⟩ := op_bind_eq_ok.mp h
  obtain ⟨present, s₂, h₂, h⟩ := op_bind_eq_ok.mp h
  obtain ⟨active, s₃, h₃, h⟩ := op_bind_eq_ok.mp h
  obtain ⟨confPath, s₄, h₄, h⟩ := op_bind_eq_ok.mp h
  obtain ⟨-, e₂⟩ := sys_eq_ok (errorf_eq_ok.mp h₂)
  obtain ⟨ha, e₃⟩ := sys_eq_ok (errorf_eq_ok.mp h₃)
  obtain ⟨rfl, hw⟩ := createCephConfWith_written hne (errorf_eq_ok.mp h₄)
  split at h
  · obtain ⟨_, s₅, h₅, h⟩ := op_bind_eq_ok.mp h
    cases h
    exact ⟨rfl, (preserves_errorf _ (startDaemonWith_keeps_conf hpc hpk)).of_ok h₅ hw,
      startDaemonWith_socket (errorf_eq_ok.mp h₅)⟩
  · next hcond =>
    obtain ⟨_, s₅, h₅, h⟩ := op_bind_eq_ok.mp h
    cases h₅; cases h
    refine ⟨rfl, hw, ?_⟩
    have hs₄ : s'.1.sockets (joinPath (q.paths.machineVolumeDir m q.pluginDir vol.handle) "socket") =
        s₃.1.sockets (joinPath (q.paths.machineVolumeDir m q.pluginDir vol.handle) "socket") :=
      (createCephConfWith_keeps fun h _ _ (hh : h.sockets _ = _) => hh).of_ok (errorf_eq_ok.mp h₄) rfl
    simp only [Bool.or_eq_true, Bool.not_eq_true', not_or, Bool.not_eq_false] at hcond
    simp only [hcond.2, Except.ok.injEq, decide_eq_true_eq] at ha
    rw [hs₄, e₃, ha]

/-- On a host with the conf and key files written and a daemon listening on the volume's
socket, Mount with every call answered returns the socket and changes nothing. -/
theorem mount_of_settled {host : Host}
    (hw : ConfWritten (q.paths.machineVolumeDir m q.pluginDir vol.handle) "conf" "key" id "" vol host)
    (hs : host.sockets (joinPath (q.paths.machineVolumeDir m q.pluginDir vol.handle) "socket") = some true) :
    q.mount m vol (host, []) = .ok (joinPath (q.paths.machineVolumeDir m q.pluginDir vol.handle) "socket") (host, []) := by
  simp only [Qemu.mount, Qemu.createCephConf]
  rw [op_bind_ok (rfl : mkdirAll _ (host, []) = .ok () (host, [])),
    op_bind_ok (errorf_eq_ok.mpr (show isSocketPresent _ (host, []) = .ok true (host, []) by
      simp [isSocketPresent, sys, hs])),
    op_bind_ok (errorf_eq_ok.mpr (show isSocketActive _ (host, []) = .ok true (host, []) by
      simp [isSocketActive, sys, hs])),
    op_bind_ok (errorf_eq_ok.mpr (createCephConfWith_again hw))]
  rfl

theorem mount_again {s s' : Host × Faults} {p : String} (h : q.mount m vol s = .ok p s') :
    q.mount m vol (s'.1, []) = .ok p (s'.1, []) := by
  obtain ⟨rfl, hw, hs⟩ := q.mount_settled m vol h
  exact q.mount_of_settled m vol hw hs

end Qemu

namespace QemuStorage
variable (q : QemuStorage) (m : String) (vol : ValidatedVolume)

theorem mount_settled {s s' : Host × Faults} {p : String} (h : q.mount m vol s = .ok p s') :
    p = joinPath (q.paths.machineVolumeDir m q.pluginDir vol.handle) "socket" ∧
    ConfWritten (q.paths.machineVolumeDir m q.pluginDir vol.handle) "conf" "key" (fun _ => "./key") "" vol s'.1 ∧
    s'.1.sockets p = some true := by
  obtain ⟨hne, hpc, hpk⟩ := volumeFiles_ne (q.paths.machineVolumeDir m q.pluginDir vol.handle)
  simp only [QemuStorage.mount, QemuStorage.createCephConf] at h
  obtain ⟨_, s₁, -, h⟩ := op_bind_eq_ok.mp h
  obtain ⟨present, s₂, -, h⟩ := op_bind_eq_ok.mp h
  -- the socket is present and its activity is read, or it is not and is taken as inactive
  split at h
  all_goals
    obtain ⟨active, s₃, h₃, h⟩ := op_bind_eq_ok.mp h
    have hact : present = true → active = true →
        s₃.1.sockets (joinPath (q.paths.machineVolumeDir m q.pluginDir vol.handle) "socket") = some true := by
      first
        | intro _ ha'
          obtain ⟨ha, e₃⟩ := sys_eq_ok (errorf_eq_ok.mp h₃)
          simp only [ha', Except.ok.injEq, decide_eq_true_eq] at ha
          rw [e₃]; exact ha
        | intro hp; simp_all
    obtain ⟨confPath, s₄, h₄, h⟩ := op_bind_eq_ok.mp h
    obtain ⟨rfl, hw⟩ := createCephConfWith_written hne (errorf_eq_ok.mp h₄)
    split at h
    · obtain ⟨_, s₅, h₅, h⟩ := op_bind_eq_ok.mp h
      cases h
      exact ⟨rfl, (preserves_errorf _ (startDaemonWith_keeps_conf hpc hpk)).of_ok h₅ hw,
        startDaemonWith_socket (errorf_eq_ok.mp h₅)⟩
    · next hcond =>
      obtain ⟨_, s₅, h₅, h⟩ := op_bind_eq_ok.mp h
      cases h₅; cases h
      refine ⟨rfl, hw, ?_⟩
      have hs₄ : s'.1.sockets (joinPath (q.paths.machineVolumeDir m q.pluginDir vol.handle) "socket") =
          s₃.1.sockets (joinPath (q.paths.machineVolumeDir m q.pluginDir vol.handle) "socket") :=
        (createCephConfWith_keeps fun h _ _ (hh : h.sockets _ = _) => hh).of_ok (errorf_eq_ok.mp h₄) rfl
      simp only [Bool.or_eq_true, Bool.not_eq_true', not_or, Bool.not_eq_false] at hcond
      rw [hs₄, hact hcond.1 hcond.2]

theorem mount_of_settled {host : Host}
    (hw : ConfWritten (q.paths.machineVolumeDir m q.pluginDir vol.handle) "conf" "key" (fun _ => "./key") "" vol host)
    (hs : host.sockets (joinPath (q.paths.machineVolumeDir m q.pluginDir vol.handle) "socket") = some true) :
    q.mount m vol (host, []) = .ok (joinPath (q.paths.machineVolumeDir m q.pluginDir vol.handle) "socket") (host, []) := by
  simp only [QemuStorage.mount, QemuStorage.createCephConf]
  rw [op_bind_ok (rfl : mkdirAll _ (host, []) = .ok () (host, [])),
    op_bind_ok (errorf_eq_ok.mpr (show isSocketPresent _ (host, []) = .ok true (host, []) by
      simp [isSocketPresent, sys, hs])), if_pos rfl,
    op_bind_ok (errorf_eq_ok.mpr (show isSocketActive _ (host, []) = .ok true (host, []) by
      simp [isSocketActive, sys, hs])),
    op_bind_ok (errorf_eq_ok.mpr (createCephConfWith_again hw))]
  rfl

theorem mount_again {s s' : Host × Faults} {p : String} (h : q.mount m vol s = .ok p s') :
    q.mount m vol (s'.1, []) = .ok p (s'.1, []) := by
  obtain ⟨rfl, hw, hs⟩ := q.mount_settled m vol h
  exact q.mount_of_settled m vol hw hs

end QemuStorage

namespace QMP
variable (q : QMP) (m : String) (vol : ValidatedVolume)

theorem mount_settled {s s' : Host × Faults} {p : String} (h : q.mount m vol s = .ok p s') :
    p = joinPath "/test" "socket" ∧
    ConfWritten (q.volumeDir m vol.handle) "ceph.conf" "ceph.key" id "\n" vol s'.1 ∧
    s'.1.monitor.hasNode ("ceph-" ++ vol.handle) ∧ s'.1.monitor.hasExport ("ceph-" ++ vol.handle) := by
  have hne : joinPath (q.volumeDir m vol.handle) "ceph.conf" ≠ joinPath (q.volumeDir m vol.handle) "ceph.key" :=
    joinPath_ne (by decide) (by decide) (by decide)
  have hmon : ∀ req, Preserves (ConfWritten (q.volumeDir m vol.handle) "ceph.conf" "ceph.key" id "\n" vol)
      (runRequest req) := fun _ => runRequest_keeps fun _ hh => hh.of_files rfl
  obtain ⟨hn, hx⟩ := q.mount_mounted h
  simp only [QMP.mount, QMP.createCephConf] at h
  obtain ⟨_, s₁, -, h⟩ := op_bind_eq_ok.mp h
  obtain ⟨confPath, s₂, h₂, h⟩ := op_bind_eq_ok.mp h
  obtain ⟨_, s₃, h₃, h⟩ := op_bind_eq_ok.mp h
  obtain ⟨_, s₄, h₄, h⟩ := op_bind_eq_ok.mp h
  cases h
  obtain ⟨rfl, hw⟩ := createCephConfWith_written hne (errorf_eq_ok.mp h₂)
  refine ⟨rfl, ?_, hn, hx⟩
  exact (preserves_unlessFound (q.queryBlockExports_keeps _) (hmon _)).of_ok h₄
    ((preserves_unlessFound (q.queryBlockNode_keeps _) (hmon _)).of_ok h₃ hw)

theorem mount_of_settled {host : Host}
    (hw : ConfWritten (q.volumeDir m vol.handle) "ceph.conf" "ceph.key" id "\n" vol host)
    (hn : host.monitor.hasNode ("ceph-" ++ vol.handle)) (hx : host.monitor.hasExport ("ceph-" ++ vol.handle)) :
    q.mount m vol (host, []) = .ok (joinPath "/test" "socket") (host, []) := by
  obtain ⟨_, hdev⟩ := q.queryBlockNode_found host hn
  obtain ⟨_, hexp⟩ := q.queryBlockExports_found host hx
  simp only [QMP.mount, QMP.createCephConf]
  rw [op_bind_ok (rfl : mkdirAll _ (host, []) = .ok () (host, [])),
    op_bind_ok (errorf_eq_ok.mpr (createCephConfWith_again hw)), op_bind_ok (unlessFound_of_ok hdev),
    op_bind_ok (unlessFound_of_ok hexp)]
  rfl

theorem mount_again {s s' : Host × Faults} {p : String} (h : q.mount m vol s = .ok p s') :
    q.mount m vol (s'.1, []) = .ok p (s'.1, []) := by
  obtain ⟨rfl, hw, hn, hx⟩ := q.mount_settled m vol h
  exact q.mount_of_settled m vol hw hn hx

end QMP

/-- For each of the three ceph plugins, Mount run again on the host a Mount that
returned left, with every call answered, returns the same socket and leaves the host as
it was: no daemon starts, no file changes, and the monitor keeps its nodes and exports. -/
theorem mount_idempotent :
    (∀ (q : Qemu) (m : String) (vol : ValidatedVolume) (s s' : Host × Faults) (p : String),
      q.mount m vol s = .ok p s' → q.mount m vol (s'.1, []) = .ok p (s'.1, [])) ∧
    (∀ (q : QemuStorage) (m : String) (vol : ValidatedVolume) (s s' : Host × Faults) (p : String),
      q.mount m vol s = .ok p s' → q.mount m vol (s'.1, []) = .ok p (s'.1, [])) ∧
    (∀ (q : QMP) (m : String) (vol : ValidatedVolume) (s s' : Host × Faults) (p : String),
      q.mount m vol s = .ok p s' → q.mount m vol (s'.1, []) = .ok p (s'.1, [])) :=
  ⟨fun q m vol _ _ _ h => q.mount_again m vol h, fun q m vol _ _ _ h => q.mount_again m vol h,
    fun q m vol _ _ _ h => q.mount_again m vol h⟩

theorem mount_idempotent_h1 :
    let paths : Paths := ⟨"/var/lib/cloud-hypervisor-provider"⟩
    let vol : ValidatedVolume := ⟨"h1", ["10.0.0.1"], "admin", "secret", "rbd", "image"⟩
    let host : Host := ⟨fun _ => none, fun _ => none, [], 100, [], ⟨[], []⟩⟩
    ∃ (p₁ p₂ p₃ : String) (s₁ s₂ s₃ : Host × Faults),
      (⟨paths, "ceph"⟩ : Qemu).mount "m1" vol (host, []) = .ok p₁ s₁ ∧
      (⟨paths, "ceph"⟩ : Qemu).mount "m1" vol (s₁.1, []) = .ok p₁ (s₁.1, []) ∧
      (⟨paths, "ceph"⟩ : QemuStorage).mount "m1" vol (host, []) = .ok p₂ s₂ ∧
      (⟨paths, "ceph"⟩ : QemuStorage).mount "m1" vol (s₂.1, []) = .ok p₂ (s₂.1, []) ∧
      (⟨paths, "ceph"⟩ : QMP).mount "m1" vol (host, []) = .ok p₃ s₃ ∧
      (⟨paths, "ceph"⟩ : QMP).mount "m1" vol (s₃.1, []) = .ok p₃ (s₃.1, []) := by
  intro paths vol host
  exact ⟨_, _, _, _, _, _, rfl, mount_idempotent.1 _ "m1" vol (host, []) _ _ rfl,
    rfl, mount_idempotent.2.1 _ "m1" vol (host, []) _ _ rfl, rfl, mount_idempotent.2.2 _ "m1" vol (host, []) _ _ rfl⟩

end CloudHypervisorProvider.Plugins.Ceph
