import CloudHypervisorProvider.Plugins.Ceph.Remount

/-! # Mounting other volumes

A volume's files lie in its own directory, and `QMP` only adds nodes and exports named
after the volume. So a Mount of another volume, or of the same volume for another
machine, leaves a mounted volume as it was, and mounting it again stays a no-op.
-/

namespace CloudHypervisorProvider.Plugins.Ceph
open Go Host.Layout Go.Filepath Go.Filepath.CleanPath

theorem machineVolumeDir_eq (p : Paths) {m plugin h : String} (hm : Normal m.data) (hplugin : Normal plugin.data)
    (hh : Normal h.data) :
    p.machineVolumeDir m plugin h =
      ⟨((((p.machinesPath.push m.data).push "volumes".data).push plugin.data).push h.data).text⟩ := by
  rw [Paths.machineVolumeDir, Paths.machineVolumesPluginDir, Paths.machineVolumesDir, machineDir_eq p hm,
    joinPath_normal _ (by decide : Normal "volumes".data), joinPath_normal _ hplugin, joinPath_normal _ hh]

/-- A file named by one element in the directory of a volume of a machine is no such
file of another volume or another machine. -/
theorem joinPath_machineVolumeDir_ne (p : Paths) {m m' plugin h h' e e' : String} (hm : Normal m.data)
    (hm' : Normal m'.data) (hplugin : Normal plugin.data) (hh : Normal h.data) (hh' : Normal h'.data)
    (he : Normal e.data) (he' : Normal e'.data) (hne : m ≠ m' ∨ h ≠ h') :
    joinPath (p.machineVolumeDir m plugin h) e ≠ joinPath (p.machineVolumeDir m' plugin h') e' := by
  have hv : Normal "volumes".data := by decide
  rw [machineVolumeDir_eq p hm hplugin hh, machineVolumeDir_eq p hm' hplugin hh', joinPath_normal _ he,
    joinPath_normal _ he']
  intro heq
  have hnames := congrArg (fun s : String => (ofPath s.data).names) heq
  simp only [ofPath_text, (push_of_normal _ hm).2, (push_of_normal _ hm').2, (push_of_normal _ hv).2,
    (push_of_normal _ hplugin).2, (push_of_normal _ hh).2, (push_of_normal _ hh').2, (push_of_normal _ he).2,
    (push_of_normal _ he').2, List.append_assoc, List.singleton_append, List.cons_append, List.nil_append,
    List.append_cancel_left_eq, List.cons.injEq] at hnames
  exact hne.elim (fun h => h (String.ext hnames.1)) (fun h => h (String.ext hnames.2.2.2.1))

section Touches
variable {P : Host → Prop}

theorem createCephConfWith_keeps_of {volumeDir confName keyName : String} {keyring : String → String}
    {newline : String} {volume : ValidatedVolume}
    (hc : ∀ h c, P h → P (h.write (joinPath volumeDir confName) c))
    (hk : ∀ h c, P h → P (h.write (joinPath volumeDir keyName) c)) :
    Preserves P (createCephConfWith volumeDir confName keyName keyring newline volume) := by
  unfold createCephConfWith
  exact preserves_bind (preserves_errorf _ (preserves_sys fun h hh => hc h _ hh)) fun _ =>
    preserves_bind (preserves_errorf _ (preserves_sys fun h hh => hc h _ hh)) fun _ =>
    preserves_bind (preserves_errorf _ (preserves_sys fun h hh => hk h _ hh)) fun _ =>
    preserves_bind (preserves_errorf _ (preserves_sys fun h hh => hk h _ hh)) fun _ => preserves_pure _

theorem startDaemonWith_keeps_of {pidPath socket confPath : String} {pidText : Nat → String}
    (hs : ∀ h b, P h → P (h.setSocket socket b)) (hp : ∀ h c, P h → P (h.write pidPath c))
    (hn : ∀ h, P h → P { h with processes := h.nextPid :: h.processes, nextPid := h.nextPid + 1 }) :
    Preserves P (startDaemonWith pidPath pidText socket confPath) := by
  unfold startDaemonWith
  exact preserves_bind (preserves_errorf _ (preserves_sys fun h hh => hs h _ hh)) fun _ =>
    preserves_bind (preserves_errorf _ (preserves_sys fun h hh => hn h hh)) fun _ =>
    preserves_bind (preserves_errorf _ (preserves_sys fun h hh => hs h _ hh)) fun _ =>
    preserves_bind (preserves_errorf _ (preserves_sys fun h hh => hp h _ hh)) fun _ =>
    preserves_errorf _ (preserves_sys fun h hh => hp h _ hh)

/-- `P` survives every change a daemon plugin's Mount of the volume in `dir` makes: a
write to its conf, key or pid file, its socket set or removed, a process started. -/
structure DaemonMountKeeps (dir : String) (P : Host → Prop) : Prop where
  write : ∀ h name c, name = "conf" ∨ name = "key" ∨ name = "pid" → P h → P (h.write (joinPath dir name) c)
  socket : ∀ h b, P h → P (h.setSocket (joinPath dir "socket") b)
  start : ∀ h, P h → P { h with processes := h.nextPid :: h.processes, nextPid := h.nextPid + 1 }

theorem Qemu.mount_keeps (q : Qemu) (m : String) (vol : ValidatedVolume)
    (hP : DaemonMountKeeps (q.paths.machineVolumeDir m q.pluginDir vol.handle) P) : Preserves P (q.mount m vol) := by
  have hread : ∀ {α : Type} (x : Host → Except Err α × Host), (∀ h, (x h).2 = h) → Preserves P (sys x) :=
    fun _ hx => preserves_read hx
  unfold Qemu.mount Qemu.createCephConf Qemu.startDaemon Qemu.pidFilePath pidFilePathIn
  refine preserves_bind (hread _ fun _ => rfl) fun _ =>
    preserves_bind (preserves_errorf _ (hread _ fun _ => rfl)) fun _ =>
    preserves_bind (preserves_errorf _ (hread _ fun _ => rfl)) fun _ =>
    preserves_bind (preserves_errorf _ (createCephConfWith_keeps_of (fun h c => hP.write h _ c (.inl rfl))
      (fun h c => hP.write h _ c (.inr (.inl rfl))))) fun _ => ?_
  dsimp only
  exact preserves_ite (preserves_bind (preserves_errorf _ (startDaemonWith_keeps_of hP.socket
    (fun h c => hP.write h _ c (.inr (.inr rfl))) hP.start)) fun _ => preserves_pure _)
    (preserves_bind (preserves_pure _) fun _ => preserves_pure _)

theorem QemuStorage.mount_keeps (q : QemuStorage) (m : String) (vol : ValidatedVolume)
    (hP : DaemonMountKeeps (q.paths.machineVolumeDir m q.pluginDir vol.handle) P) : Preserves P (q.mount m vol) := by
  have hread : ∀ {α : Type} (x : Host → Except Err α × Host), (∀ h, (x h).2 = h) → Preserves P (sys x) :=
    fun _ hx => preserves_read hx
  unfold QemuStorage.mount QemuStorage.createCephConf QemuStorage.startDaemon QemuStorage.pidFilePath pidFilePathIn
  refine preserves_bind (hread _ fun _ => rfl) fun _ =>
    preserves_bind (preserves_errorf _ (hread _ fun _ => rfl)) fun _ => ?_
  dsimp only
  -- `active` is read only when the socket is present; the rest of the Mount follows either way
  refine preserves_ite (preserves_bind (preserves_errorf _ (hread _ fun _ => rfl)) fun _ => ?_)
    (preserves_bind (preserves_pure _) fun _ => ?_)
  all_goals
    refine preserves_bind (preserves_errorf _ (createCephConfWith_keeps_of (fun h c => hP.write h _ c (.inl rfl))
      (fun h c => hP.write h _ c (.inr (.inl rfl))))) fun _ => ?_
    exact preserves_ite (preserves_bind (preserves_errorf _ (startDaemonWith_keeps_of hP.socket
      (fun h c => hP.write h _ c (.inr (.inr rfl))) hP.start)) fun _ => preserves_pure _)
      (preserves_bind (preserves_pure _) fun _ => preserves_pure _)

theorem Monitor.blockdevAdd_keeps {m : Monitor} {args : BlockdevAddArguments} {n x : String}
    (hn : m.hasNode n) (hx : m.hasExport x) :
    (m.run ⟨"blockdev-add", .blockdevAdd args⟩).2.hasNode n ∧ (m.run ⟨"blockdev-add", .blockdevAdd args⟩).2.hasExport x := by
  rw [Monitor.run_blockdevAdd]
  split
  · exact ⟨hn, hx⟩
  · simp_all [Monitor.hasNode, Monitor.hasExport]

theorem Monitor.blockExportAdd_keeps {m : Monitor} {args : BlockExportAddArguments} {n x : String}
    (hn : m.hasNode n) (hx : m.hasExport x) :
    (m.run ⟨"block-export-add", .blockExportAdd args⟩).2.hasNode n ∧
      (m.run ⟨"block-export-add", .blockExportAdd args⟩).2.hasExport x := by
  rw [Monitor.run_blockExportAdd]
  split
  · exact ⟨hn, hx⟩
  · simp_all [Monitor.hasNode, Monitor.hasExport]

end Touches

/-- What a Mount of `qemu` or `QemuStorage` leaves for the volume in `dir`: its conf and
key files written, its daemon listening. -/
def DaemonSettled (dir : String) (keyring : String → String) (vol : ValidatedVolume) (h : Host) : Prop :=
  ConfWritten dir "conf" "key" keyring "" vol h ∧ h.sockets (joinPath dir "socket") = some true

/-- What a Mount of `QMP` leaves for a volume: its conf and key files written, and the
monitor holding its node and its export. -/
def MonitorSettled (dir : String) (vol : ValidatedVolume) (h : Host) : Prop :=
  ConfWritten dir "ceph.conf" "ceph.key" id "\n" vol h ∧
    h.monitor.hasNode ("ceph-" ++ vol.handle) ∧ h.monitor.hasExport ("ceph-" ++ vol.handle)

theorem DaemonSettled.mountKeeps {dir dir' : String} {keyring : String → String} {vol : ValidatedVolume}
    (hne : ∀ e ∈ ["conf", "key", "pid", "socket"], ∀ e' ∈ ["conf", "key", "socket"], joinPath dir' e ≠ joinPath dir e') :
    DaemonMountKeeps dir' (DaemonSettled dir keyring vol) where
  write h name c hname hh := by
    have hname' : name ∈ ["conf", "key", "pid", "socket"] := by simp only [List.mem_cons] at hname ⊢; tauto
    exact ⟨hh.1.write (hne name hname' "conf" (by simp)) (hne name hname' "key" (by simp)) c, hh.2⟩
  socket h b hh := by
    refine ⟨hh.1.of_files rfl, ?_⟩
    simp only [Host.setSocket]
    rw [if_neg (hne "socket" (by simp) "socket" (by simp)).symm]
    exact hh.2
  start _ hh := ⟨hh.1.of_files rfl, hh.2⟩

theorem QMP.mount_keeps_settled (q : QMP) (m : String) (vol : ValidatedVolume) {dir : String}
    {vol₀ : ValidatedVolume}
    (hne : ∀ e ∈ ["ceph.conf", "ceph.key"], ∀ e' ∈ ["ceph.conf", "ceph.key"],
      joinPath (q.volumeDir m vol.handle) e ≠ joinPath dir e') :
    Preserves (MonitorSettled dir vol₀) (q.mount m vol) := by
  have hw : ∀ e ∈ ["ceph.conf", "ceph.key"], ∀ h c, MonitorSettled dir vol₀ h →
      MonitorSettled dir vol₀ (h.write (joinPath (q.volumeDir m vol.handle) e) c) :=
    fun e he h c hh => ⟨hh.1.write (hne e he _ (by simp)) (hne e he _ (by simp)) c, hh.2⟩
  unfold QMP.mount QMP.createCephConf QMP.addBlockDev QMP.exportBlockDev
  exact preserves_bind (preserves_read fun _ => rfl) fun _ =>
    preserves_bind (preserves_errorf _ (createCephConfWith_keeps_of (hw _ (by simp)) (hw _ (by simp)))) fun _ =>
    preserves_bind (preserves_unlessFound (q.queryBlockNode_keeps _) (runRequest_keeps fun _ hh =>
      ⟨hh.1.of_files rfl, Monitor.blockdevAdd_keeps hh.2.1 hh.2.2⟩)) fun _ =>
    preserves_bind (preserves_unlessFound (q.queryBlockExports_keeps _) (runRequest_keeps fun _ hh =>
      ⟨hh.1.of_files rfl, Monitor.blockExportAdd_keeps hh.2.1 hh.2.2⟩)) fun _ => preserves_pure _

def QMP.mountRun (q : QMP) : List (String × ValidatedVolume) → Host × Faults → Host × Faults
  | [], s => s
  | (m, vol) :: rest, s => q.mountRun rest (resultState (q.mount m vol s))

section Runs
variable {P : Host → Prop}

theorem Preserves.resultState {α : Type} {x : Op α} (hx : Preserves P x) {s : Host × Faults} (hs : P s.1) :
    P (resultState (x s)).1 := by
  have := hx s hs
  rcases h : x s with ⟨_, s'⟩ | ⟨_, s'⟩ <;> rw [h] at this <;> exact this

theorem mountRun_keeps_of {mount : String → ValidatedVolume → Op String}
    {run : List (String × ValidatedVolume) → Host × Faults → Host × Faults}
    (hcons : ∀ m vol rest s, run ((m, vol) :: rest) s = run rest (resultState (mount m vol s)))
    (hnil : ∀ s, run [] s = s) :
    ∀ (later : List (String × ValidatedVolume)) (s : Host × Faults),
      (∀ x ∈ later, Preserves P (mount x.1 x.2)) → P s.1 → P (run later s).1
  | [], s, _, hs => (hnil s).symm ▸ hs
  | (m, vol) :: rest, s, h, hs => by
    rw [hcons]
    exact mountRun_keeps_of hcons hnil rest _ (fun x hx => h x (List.mem_cons_of_mem _ hx))
      ((h (m, vol) (List.mem_cons_self _ _)).resultState hs)

theorem Qemu.mountRun_keeps (q : Qemu) : ∀ (later : List (String × ValidatedVolume)) (s : Host × Faults),
    (∀ x ∈ later, Preserves P (q.mount x.1 x.2)) → P s.1 → P (q.mountRun later s).1 :=
  mountRun_keeps_of (fun _ _ _ _ => rfl) fun _ => rfl

theorem QemuStorage.mountRun_keeps (q : QemuStorage) : ∀ (later : List (String × ValidatedVolume)) (s : Host × Faults),
    (∀ x ∈ later, Preserves P (q.mount x.1 x.2)) → P s.1 → P (q.mountRun later s).1 :=
  mountRun_keeps_of (fun _ _ _ _ => rfl) fun _ => rfl

theorem QMP.mountRun_keeps (q : QMP) : ∀ (later : List (String × ValidatedVolume)) (s : Host × Faults),
    (∀ x ∈ later, Preserves P (q.mount x.1 x.2)) → P s.1 → P (q.mountRun later s).1 :=
  mountRun_keeps_of (fun _ _ _ _ => rfl) fun _ => rfl

end Runs

theorem normal_of_mem_volumeFiles {e : String} (he : e ∈ ["conf", "key", "pid", "socket", "ceph.conf", "ceph.key"]) :
    Normal e.data := by
  simp only [List.mem_cons, List.not_mem_nil, or_false] at he
  rcases he with rfl | rfl | rfl | rfl | rfl | rfl <;> decide

/-- For each of the three ceph plugins, once Mount of a volume for a machine has
returned, Mounts of other volumes, or of the volume for other machines, in any number
and whatever the host answers them, leave it mounted: Mount of it again, with every call
answered, returns the same socket and changes nothing. Machine ids, volume handles and
the plugin's directory are single path elements. -/
theorem mount_isolated :
    (∀ (q : Qemu) (m : String) (vol : ValidatedVolume) (later : List (String × ValidatedVolume))
      (s s' : Host × Faults) (p : String) (faults : Faults),
      Normal q.pluginDir.data → Normal m.data → Normal vol.handle.data →
      (∀ x ∈ later, Normal x.1.data ∧ Normal x.2.handle.data ∧ (x.1 ≠ m ∨ x.2.handle ≠ vol.handle)) →
      q.mount m vol s = .ok p s' →
      q.mount m vol ((q.mountRun later (s'.1, faults)).1, []) = .ok p ((q.mountRun later (s'.1, faults)).1, [])) ∧
    (∀ (q : QemuStorage) (m : String) (vol : ValidatedVolume) (later : List (String × ValidatedVolume))
      (s s' : Host × Faults) (p : String) (faults : Faults),
      Normal q.pluginDir.data → Normal m.data → Normal vol.handle.data →
      (∀ x ∈ later, Normal x.1.data ∧ Normal x.2.handle.data ∧ (x.1 ≠ m ∨ x.2.handle ≠ vol.handle)) →
      q.mount m vol s = .ok p s' →
      q.mount m vol ((q.mountRun later (s'.1, faults)).1, []) = .ok p ((q.mountRun later (s'.1, faults)).1, [])) ∧
    (∀ (q : QMP) (m : String) (vol : ValidatedVolume) (later : List (String × ValidatedVolume))
      (s s' : Host × Faults) (p : String) (faults : Faults),
      Normal q.cephDriverName.data → Normal m.data → Normal vol.handle.data →
      (∀ x ∈ later, Normal x.1.data ∧ Normal x.2.handle.data ∧ (x.1 ≠ m ∨ x.2.handle ≠ vol.handle)) →
      q.mount m vol s = .ok p s' →
      q.mount m vol ((q.mountRun later (s'.1, faults)).1, []) = .ok p ((q.mountRun later (s'.1, faults)).1, [])) := by
  have hfiles (paths : Paths) (plugin m : String) (vol : ValidatedVolume) (hplugin : Normal plugin.data)
      (hm : Normal m.data) (hh : Normal vol.handle.data) (x : String × ValidatedVolume)
      (hx : Normal x.1.data ∧ Normal x.2.handle.data ∧ (x.1 ≠ m ∨ x.2.handle ≠ vol.handle)) (e e' : String)
      (he : e ∈ ["conf", "key", "pid", "socket", "ceph.conf", "ceph.key"])
      (he' : e' ∈ ["conf", "key", "pid", "socket", "ceph.conf", "ceph.key"]) :
      joinPath (paths.machineVolumeDir x.1 plugin x.2.handle) e ≠ joinPath (paths.machineVolumeDir m plugin vol.handle) e' :=
    joinPath_machineVolumeDir_ne paths hx.1 hm hplugin hx.2.1 hh (normal_of_mem_volumeFiles he)
      (normal_of_mem_volumeFiles he') hx.2.2
  refine ⟨fun q m vol later s s' p faults hplugin hm hh hlater h => ?_,
    fun q m vol later s s' p faults hplugin hm hh hlater h => ?_,
    fun q m vol later s s' p faults hplugin hm hh hlater h => ?_⟩
  -- `qemu` and `QemuStorage`: the conf and key files stay written and the daemon listening
  iterate 2
    obtain ⟨rfl, hw, hs⟩ := q.mount_settled m vol h
    have hkept := q.mountRun_keeps later (s'.1, faults) (fun x hx => q.mount_keeps x.1 x.2
      (DaemonSettled.mountKeeps fun e he e' he' => hfiles q.paths q.pluginDir m vol hplugin hm hh x (hlater x hx) e e'
        (by simp only [List.mem_cons, List.not_mem_nil, or_false] at he ⊢; tauto)
        (by simp only [List.mem_cons, List.not_mem_nil, or_false] at he' ⊢; tauto))) ⟨hw, hs⟩
    exact q.mount_of_settled m vol hkept.1 hkept.2
  -- `QMP`: the conf and key files stay written and the monitor keeps the node and the export
  · obtain ⟨rfl, hw, hn, hx⟩ := q.mount_settled m vol h
    have hkept := q.mountRun_keeps later (s'.1, faults) (fun x hx => q.mount_keeps_settled x.1 x.2
      fun e he e' he' => hfiles q.paths q.cephDriverName m vol hplugin hm hh x (hlater x hx) e e'
        (by simp only [List.mem_cons, List.not_mem_nil, or_false] at he ⊢; tauto)
        (by simp only [List.mem_cons, List.not_mem_nil, or_false] at he' ⊢; tauto)) ⟨hw, hn, hx⟩
    exact q.mount_of_settled m vol hkept.1 hkept.2.1 hkept.2.2

theorem mount_isolated_h1 :
    let paths : Paths := ⟨"/var/lib/cloud-hypervisor-provider"⟩
    let vol₁ : ValidatedVolume := ⟨"h1", ["10.0.0.1"], "admin", "secret", "rbd", "image"⟩
    let vol₂ : ValidatedVolume := ⟨"h2", ["10.0.0.1"], "admin", "secret", "rbd", "image2"⟩
    let later : List (String × ValidatedVolume) := [("m1", vol₂), ("m2", vol₁)]
    let host : Host := ⟨fun _ => none, fun _ => none, [], 100, [], ⟨[], []⟩⟩
    let qa : Qemu := ⟨paths, "ceph"⟩
    let qs : QemuStorage := ⟨paths, "ceph"⟩
    let qm : QMP := ⟨paths, "ceph"⟩
    ∃ (p₁ p₂ p₃ : String) (s₁ s₂ s₃ : Host × Faults),
      qa.mount "m1" vol₁ (host, []) = .ok p₁ s₁ ∧
      qa.mount "m1" vol₁ ((qa.mountRun later (s₁.1, [])).1, []) = .ok p₁ ((qa.mountRun later (s₁.1, [])).1, []) ∧
      qs.mount "m1" vol₁ (host, []) = .ok p₂ s₂ ∧
      qs.mount "m1" vol₁ ((qs.mountRun later (s₂.1, [])).1, []) = .ok p₂ ((qs.mountRun later (s₂.1, [])).1, []) ∧
      qm.mount "m1" vol₁ (host, []) = .ok p₃ s₃ ∧
      qm.mount "m1" vol₁ ((qm.mountRun later (s₃.1, [])).1, []) = .ok p₃ ((qm.mountRun later (s₃.1, [])).1, []) := by
  intro paths vol₁ vol₂ later host qa qs qm
  have hlater : ∀ x ∈ later, Normal x.1.data ∧ Normal x.2.handle.data ∧ (x.1 ≠ "m1" ∨ x.2.handle ≠ vol₁.handle) := by
    intro x hx
    simp only [later, List.mem_cons, List.not_mem_nil, or_false] at hx
    rcases hx with rfl | rfl <;> decide
  exact ⟨_, _, _, _, _, _, rfl,
    mount_isolated.1 qa "m1" vol₁ later (host, []) _ _ [] (by decide) (by decide) (by decide) hlater rfl, rfl,
    mount_isolated.2.1 qs "m1" vol₁ later (host, []) _ _ [] (by decide) (by decide) (by decide) hlater rfl, rfl,
    mount_isolated.2.2 qm "m1" vol₁ later (host, []) _ _ [] (by decide) (by decide) (by decide) hlater rfl⟩

end CloudHypervisorProvider.Plugins.Ceph
