import CloudHypervisorProvider.Plugins.Ceph.Conf

/-! # The ceph plugin that drives a QMP monitor

`QMP` mounts a volume by adding a block node and a `vhost-user-blk` export, each only
when a query does not find it. Unmount keeps Mount's tests unchanged, so an Unmount
that returns nil has removed neither, and one without the export fails
(`unmount_keeps_mounted`).
-/

namespace CloudHypervisorProvider.Plugins.Ceph
open Go Host.Layout

structure BlockdevAddArguments where
  nodeName : String
  driver : String
  pool : String
  image : String
  user : String
  conf : String
  discard : String
  cacheDirect : Bool

structure BlockExportAddArguments where
  id : String
  nodeName : String
  type : String
  addrType : String
  addrPath : String
  writable : Bool

structure DeleteArguments where
  id : String

/-- The `arguments` of a request, as the plugin fills them in. -/
inductive Arguments where
  | none
  | blockdevAdd (args : BlockdevAddArguments)
  | blockExportAdd (args : BlockExportAddArguments)
  | delete (args : DeleteArguments)

structure QMPRequest where
  execute : String
  arguments : Arguments

/-- The `return` value of the monitor's answer. -/
inductive Response where
  | empty
  | blockNodes (nodes : List BlockDevice)
  | blockExports (exports : List BlockExportNode)

namespace Monitor

def hasNode (m : Monitor) (nodeName : String) : Bool := m.nodes.any (·.nodeName == nodeName)

def hasExport (m : Monitor) (id : String) : Bool := m.exports.any (·.id == id)

/-- How the daemon's monitor answers a request. QEMU is not in the sources; this follows
its QMP reference for the commands the plugin sends. `blockdev-add` needs a driver and a
`node-name` no node has; `block-export-add` an `id` no export has and an existing node;
`block-export-del` an existing export, which it removes; any other request fails. The
texts of the errors are not modelled. -/
def run (m : Monitor) : QMPRequest → Except Err Response × Monitor
  | ⟨"query-named-block-nodes", _⟩ => (.ok (.blockNodes m.nodes), m)
  | ⟨"query-block-exports", _⟩ => (.ok (.blockExports m.exports), m)
  | ⟨"blockdev-add", .blockdevAdd args⟩ =>
    if m.hasNode args.nodeName then (.error (.other "duplicate node-name"), m)
    else (.ok .empty, { m with nodes := m.nodes ++ [⟨args.nodeName⟩] })
  | ⟨"block-export-add", .blockExportAdd args⟩ =>
    if m.hasExport args.id || !m.hasNode args.nodeName then (.error (.other "invalid export"), m)
    else (.ok .empty, { m with exports := m.exports ++ [⟨args.nodeName, args.id⟩] })
  | ⟨"block-export-del", .delete args⟩ =>
    if m.hasExport args.id then (.ok .empty, { m with exports := m.exports.filter (·.id != args.id) })
    else (.error (.other "export not found"), m)
  | _ => (.error (.other "invalid request"), m)

theorem hasNode_iff {m : Monitor} {nodeName : String} :
    m.hasNode nodeName ↔ ∃ d ∈ m.nodes, d.nodeName = nodeName := by
  simp [hasNode]

theorem hasExport_iff {m : Monitor} {id : String} : m.hasExport id ↔ ∃ x ∈ m.exports, x.id = id := by
  simp [hasExport]

variable (m : Monitor)

@[simp] theorem run_queryNamedBlockNodes (a : Arguments) :
    m.run ⟨"query-named-block-nodes", a⟩ = (.ok (.blockNodes m.nodes), m) := rfl

@[simp] theorem run_queryBlockExports (a : Arguments) :
    m.run ⟨"query-block-exports", a⟩ = (.ok (.blockExports m.exports), m) := rfl

theorem run_blockdevAdd (args : BlockdevAddArguments) :
    m.run ⟨"blockdev-add", .blockdevAdd args⟩ =
      if m.hasNode args.nodeName then (.error (.other "duplicate node-name"), m)
      else (.ok .empty, { m with nodes := m.nodes ++ [⟨args.nodeName⟩] }) := rfl

/-- A `blockdev-add` that names no driver is refused. -/
@[simp] theorem run_blockdevAdd_delete (args : DeleteArguments) :
    m.run ⟨"blockdev-add", .delete args⟩ = (.error (.other "invalid request"), m) := rfl

theorem run_blockExportAdd (args : BlockExportAddArguments) :
    m.run ⟨"block-export-add", .blockExportAdd args⟩ =
      if m.hasExport args.id || !m.hasNode args.nodeName then (.error (.other "invalid export"), m)
      else (.ok .empty, { m with exports := m.exports ++ [⟨args.nodeName, args.id⟩] }) := rfl

theorem run_blockExportDel (args : DeleteArguments) :
    m.run ⟨"block-export-del", .delete args⟩ =
      if m.hasExport args.id then (.ok .empty, { m with exports := m.exports.filter (·.id != args.id) })
      else (.error (.other "export not found"), m) := rfl

end Monitor

def errNotFound : Err := .other "not found"

/-- `q.monitor.Run(cmd)`: the request goes to the monitor over its socket. -/
def monitorRun (req : QMPRequest) : Op Response :=
  sys fun h => ((h.monitor.run req).1, { h with monitor := (h.monitor.run req).2 })

def unmarshalBlockDevices : Response → Except Err (List BlockDevice)
  | .blockNodes nodes => .ok nodes
  | _ => .error (.other "cannot unmarshal")

def unmarshalBlockExports : Response → Except Err (List BlockExportNode)
  | .blockExports exports => .ok exports
  | _ => .error (.other "cannot unmarshal")

/-- The two queries: run a `query-…` command, decode the list it answers, and return the
entry whose key is the name, or `ErrNotFound`. -/
def queryWith {β : Type} (execute : String) (unmarshal : Response → Except Err (List β)) (key : β → String)
    (name : String) : Op β := do
  let res ← errorf "error executing cmd" (monitorRun ⟨execute, .none⟩)
  let devs ← errorf "error unmarshalling response" (liftExcept (unmarshal res))
  match devs.find? (key · == name) with
  | some dev => pure dev
  | none => throw errNotFound

def QMP.queryBlockNode (_q : QMP) (nodeName : String) : Op BlockDevice :=
  queryWith "query-named-block-nodes" unmarshalBlockDevices BlockDevice.nodeName nodeName

def QMP.queryBlockExports (_q : QMP) (nodeName : String) : Op BlockExportNode :=
  queryWith "query-block-exports" unmarshalBlockExports BlockExportNode.id nodeName

/-- The commands that change the monitor: send the request, and return nil once it is
answered. -/
def runRequest (req : QMPRequest) : Op Unit := do
  let _ ← errorf "error executing cmd" (monitorRun req)
  pure ()

def QMP.addBlockDev (_q : QMP) (volume : ValidatedVolume) (confPath : String) : Op Unit :=
  runRequest ⟨"blockdev-add", .blockdevAdd
    ⟨"ceph-" ++ volume.handle, "rbd", volume.pool, volume.image, volume.userID, confPath, "unmap", true⟩⟩

/-- `deleteBlockDev`: it sends `blockdev-add`, with only an `id`. -/
def QMP.deleteBlockDev (_q : QMP) (handle : String) : Op Unit :=
  runRequest ⟨"blockdev-add", .delete ⟨handle⟩⟩

def QMP.exportBlockDev (_q : QMP) (handle socketPath : String) : Op Unit :=
  runRequest ⟨"block-export-add", .blockExportAdd ⟨handle, handle, "vhost-user-blk", "unix", socketPath, true⟩⟩

/-- `deleteExportBlockDev`: once the monitor has answered, it returns `ErrNotFound`. -/
def QMP.deleteExportBlockDev (_q : QMP) (nodeName : String) : Op Unit := do
  let _ ← errorf "error executing cmd" (monitorRun ⟨"block-export-del", .delete ⟨nodeName⟩⟩)
  throw errNotFound

/-- The block that Mount and Unmount each run twice: `act` runs when the query fails with
`ErrNotFound`, and any other error of the query is returned. All four use these texts. -/
def unlessFound {α : Type} (query : Op α) (act : Op Unit) : Op Unit := fun s =>
  match query s with
  | .ok _ s' => .ok () s'
  | .error err s' =>
    if !err.is errNotFound then .error (.wrap "error querying block device" err) s'
    else errorf "error adding block device" act s'

def QMP.mount (q : QMP) (machineID : String) (volume : ValidatedVolume) : Op String := do
  mkdirAll (q.volumeDir machineID volume.handle)
  let socketPath := joinPath "/test" "socket"
  let confPath ← errorf "error creating ceph conf" (q.createCephConf machineID volume)
  let handle := "ceph-" ++ volume.handle
  unlessFound (q.queryBlockNode handle) (q.addBlockDev volume confPath)
  unlessFound (q.queryBlockExports handle) (q.exportBlockDev handle socketPath)
  pure socketPath

def QMP.unmount (q : QMP) (_machineID volumeID : String) : Op Unit := do
  let handle := "ceph-" ++ volumeID
  unlessFound (q.queryBlockExports handle) (q.deleteExportBlockDev handle)
  unlessFound (q.queryBlockNode handle) (q.deleteBlockDev handle)

section Calls
variable {P : Host → Prop} {s s' : Host × Faults}

theorem monitorRun_keeps {req : QMPRequest} (hreq : ∀ m : Monitor, (m.run req).2 = m) :
    Preserves P (monitorRun req) :=
  preserves_sys fun h hh => by simp only [hreq]; exact hh

theorem preserves_liftExcept {α : Type} (x : Except Err α) : Preserves P (liftExcept x) := by
  cases x
  · exact preserves_throw _
  · exact preserves_pure _

theorem runRequest_eq_ok {req : QMPRequest} (h : runRequest req s = .ok () s') :
    (∃ r, (s.1.monitor.run req).1 = .ok r) ∧ s'.1 = { s.1 with monitor := (s.1.monitor.run req).2 } := by
  obtain ⟨r, _, h₁, h⟩ := op_bind_eq_ok.mp h
  cases h
  obtain ⟨hr, hs⟩ := sys_eq_ok (errorf_eq_ok.mp h₁)
  exact ⟨⟨r, hr⟩, hs⟩

theorem runRequest_keeps {req : QMPRequest} (hreq : ∀ h, P h → P { h with monitor := (h.monitor.run req).2 }) :
    Preserves P (runRequest req) :=
  preserves_bind (preserves_errorf _ (preserves_sys hreq)) fun _ => preserves_pure _

section UnlessFound
variable {α : Type} {query : Op α} {act : Op Unit}

theorem preserves_unlessFound (hq : Preserves P query) (ha : Preserves P act) : Preserves P (unlessFound query act) := by
  intro s hs
  have := hq s hs
  simp only [unlessFound]
  rcases h : query s with ⟨_, s₁⟩ | ⟨err, s₁⟩ <;> rw [h] at this
  · exact this
  · dsimp only
    split
    · exact this
    · exact preserves_errorf _ ha s₁ this

theorem unlessFound_eq_ok (h : unlessFound query act s = .ok () s') :
    (∃ a, query s = .ok a s') ∨ ∃ e s₁, query s = .error e s₁ ∧ act s₁ = .ok () s' := by
  simp only [unlessFound] at h
  rcases hq : query s with ⟨a, s₁⟩ | ⟨err, s₁⟩ <;> rw [hq] at h
  · cases h
    exact .inl ⟨a, rfl⟩
  · dsimp only at h
    split at h
    · cases h
    · exact .inr ⟨err, s₁, rfl, errorf_eq_ok.mp h⟩

/-- With an `act` that never returns nil, a block that passes found what it queried. -/
theorem unlessFound_eq_ok_of_act (hact : ∀ s s', act s ≠ .ok () s') (h : unlessFound query act s = .ok () s') :
    ∃ a, query s = .ok a s' :=
  (unlessFound_eq_ok h).resolve_right fun ⟨_, _, _, ha⟩ => hact _ _ ha

theorem unlessFound_of_ok {a : α} (h : query s = .ok a s') : unlessFound query act s = .ok () s' := by
  simp only [unlessFound, h]

/-- A block whose query finds nothing, and whose `act` fails, fails and keeps the host. -/
theorem unlessFound_fails (hq : ∀ a s₁, query s ≠ .ok a s₁) (hkeep : Preserves (· = s.1) query)
    (hact : ∀ s₁ : Host × Faults, s₁.1 = s.1 → ∃ e s₂, act s₁ = .error e s₂ ∧ s₂.1 = s.1) :
    ∃ e s', unlessFound query act s = .error e s' ∧ s'.1 = s.1 := by
  rcases h : query s with ⟨a, s₁⟩ | ⟨err, s₁⟩
  · exact absurd h (hq a s₁)
  · have hs₁ : s₁.1 = s.1 := hkeep.of_error h rfl
    simp only [unlessFound, h]
    split
    · exact ⟨_, _, rfl, hs₁⟩
    · obtain ⟨e, s₂, he, hs₂⟩ := hact s₁ hs₁
      exact ⟨.wrap "error adding block device" e, s₂, by simp only [errorf, he], hs₂⟩

end UnlessFound

section Query
variable {β : Type} {execute : String} {unmarshal : Response → Except Err (List β)} {key : β → String}
  {name : String}

theorem queryWith_keeps (hrun : ∀ m : Monitor, (m.run ⟨execute, .none⟩).2 = m) :
    Preserves P (queryWith execute unmarshal key name) := by
  refine preserves_bind (preserves_errorf _ (monitorRun_keeps hrun)) fun _ =>
    preserves_bind (preserves_errorf _ (preserves_liftExcept _)) fun _ => ?_
  split
  · exact preserves_pure _
  · exact preserves_throw _

variable {items : Monitor → List β}
  (hrun : ∀ m : Monitor, ∃ answer, m.run ⟨execute, .none⟩ = (.ok answer, m) ∧ unmarshal answer = .ok (items m))
include hrun

theorem queryWith_eq_ok {x : β} (h : queryWith execute unmarshal key name s = .ok x s') :
    s'.1 = s.1 ∧ ∃ y ∈ items s.1.monitor, key y = name := by
  have hkeep : Preserves (· = s.1) (queryWith execute unmarshal key name) :=
    queryWith_keeps fun m => by obtain ⟨_, hm, -⟩ := hrun m; rw [hm]
  refine ⟨hkeep.of_ok h rfl, ?_⟩
  obtain ⟨answer, hm, hdec⟩ := hrun s.1.monitor
  obtain ⟨res, s₁, h₁, h⟩ := op_bind_eq_ok.mp h
  obtain ⟨devs, s₂, h₂, h⟩ := op_bind_eq_ok.mp h
  obtain ⟨hres, -⟩ := sys_eq_ok (errorf_eq_ok.mp h₁)
  simp only [hm, Except.ok.injEq] at hres
  subst hres
  simp only [errorf_eq_ok, hdec, liftExcept, op_pure_apply, EStateM.Result.ok.injEq] at h₂
  obtain ⟨rfl, -⟩ := h₂
  cases hf : (items s.1.monitor).find? (key · == name) with
  | none => simp [hf] at h
  | some d => exact ⟨d, List.mem_of_find?_eq_some hf, by simpa using List.find?_some hf⟩

theorem queryWith_found (host : Host) (hfound : ∃ y ∈ items host.monitor, key y = name) :
    ∃ x, queryWith execute unmarshal key name (host, []) = .ok x (host, []) := by
  obtain ⟨answer, hm, hdec⟩ := hrun host.monitor
  obtain ⟨x, hx⟩ : ∃ x, (items host.monitor).find? (key · == name) = some x := by
    obtain ⟨y, hy, hk⟩ := hfound
    exact Option.isSome_iff_exists.mp (List.find?_isSome.mpr ⟨y, hy, by simpa using hk⟩)
  have h₁ : errorf "error executing cmd" (monitorRun ⟨execute, .none⟩) (host, []) = .ok answer (host, []) := by
    simp [errorf, monitorRun, sys, hm]
  have h₂ : errorf "error unmarshalling response" (liftExcept (unmarshal answer)) (host, []) =
      .ok (items host.monitor) (host, []) := by
    simp [errorf, liftExcept, hdec]
  exact ⟨x, by rw [queryWith, op_bind_ok h₁, op_bind_ok h₂]; simp [hx]⟩

end Query

namespace QMP
variable (q : QMP)

theorem queryBlockNode_keeps (nodeName : String) : Preserves P (q.queryBlockNode nodeName) :=
  queryWith_keeps fun _ => rfl

theorem queryBlockExports_keeps (nodeName : String) : Preserves P (q.queryBlockExports nodeName) :=
  queryWith_keeps fun _ => rfl

theorem queryBlockNode_eq_ok {nodeName : String} {dev : BlockDevice} (h : q.queryBlockNode nodeName s = .ok dev s') :
    s'.1 = s.1 ∧ s.1.monitor.hasNode nodeName := by
  obtain ⟨hs, hfound⟩ := queryWith_eq_ok (fun m => ⟨_, m.run_queryNamedBlockNodes _, rfl⟩) h
  exact ⟨hs, Monitor.hasNode_iff.mpr hfound⟩

theorem queryBlockExports_eq_ok {nodeName : String} {x : BlockExportNode}
    (h : q.queryBlockExports nodeName s = .ok x s') : s'.1 = s.1 ∧ s.1.monitor.hasExport nodeName := by
  obtain ⟨hs, hfound⟩ := queryWith_eq_ok (fun m => ⟨_, m.run_queryBlockExports _, rfl⟩) h
  exact ⟨hs, Monitor.hasExport_iff.mpr hfound⟩

theorem queryBlockNode_found (host : Host) {nodeName : String} (h : host.monitor.hasNode nodeName) :
    ∃ dev, q.queryBlockNode nodeName (host, []) = .ok dev (host, []) :=
  queryWith_found (fun m => ⟨_, m.run_queryNamedBlockNodes _, rfl⟩) host (Monitor.hasNode_iff.mp h)

theorem queryBlockExports_found (host : Host) {nodeName : String} (h : host.monitor.hasExport nodeName) :
    ∃ x, q.queryBlockExports nodeName (host, []) = .ok x (host, []) :=
  queryWith_found (fun m => ⟨_, m.run_queryBlockExports _, rfl⟩) host (Monitor.hasExport_iff.mp h)

theorem addBlockDev_eq_ok {volume : ValidatedVolume} {confPath : String}
    (h : q.addBlockDev volume confPath s = .ok () s') : s'.1.monitor.hasNode ("ceph-" ++ volume.handle) := by
  obtain ⟨⟨r, hr⟩, hs⟩ := runRequest_eq_ok h
  rw [Monitor.run_blockdevAdd] at hr hs
  cases hn : s.1.monitor.hasNode ("ceph-" ++ volume.handle)
  · simp only [hn] at hs
    simp [hs, Monitor.hasNode]
  · simp [hn] at hr

theorem exportBlockDev_eq_ok {handle socketPath : String} (h : q.exportBlockDev handle socketPath s = .ok () s') :
    s'.1.monitor.hasExport handle := by
  obtain ⟨⟨r, hr⟩, hs⟩ := runRequest_eq_ok h
  rw [Monitor.run_blockExportAdd] at hr hs
  cases hc : (s.1.monitor.hasExport handle || !s.1.monitor.hasNode handle)
  · simp only [hc] at hs
    simp [hs, Monitor.hasExport]
  · simp [hc] at hr

theorem exportBlockDev_keeps_node (handle socketPath nodeName : String) :
    Preserves (fun h => h.monitor.hasNode nodeName) (q.exportBlockDev handle socketPath) :=
  runRequest_keeps fun h hh => by
    simp only [Monitor.run_blockExportAdd]
    split <;> exact hh

/-- `deleteBlockDev` never returns nil: the monitor refuses its request. -/
theorem deleteBlockDev_ne_ok (handle : String) (s s' : Host × Faults) : q.deleteBlockDev handle s ≠ .ok () s' := by
  intro h
  obtain ⟨⟨r, hr⟩, -⟩ := runRequest_eq_ok h
  simp at hr

theorem deleteExportBlockDev_ne_ok (nodeName : String) (s s' : Host × Faults) :
    q.deleteExportBlockDev nodeName s ≠ .ok () s' := by
  intro h
  obtain ⟨_, _, -, h⟩ := op_bind_eq_ok.mp h
  cases h

/-- `deleteExportBlockDev` of an export that is not there fails, and keeps the host. -/
theorem deleteExportBlockDev_of_missing {nodeName : String} (hx : s.1.monitor.hasExport nodeName = false) :
    ∃ e s', q.deleteExportBlockDev nodeName s = .error e s' ∧ s'.1 = s.1 := by
  have hkeep : Preserves (· = s.1) (q.deleteExportBlockDev nodeName) :=
    preserves_bind (preserves_errorf _ (preserves_sys fun h hh => by
      subst hh
      simp [Monitor.run_blockExportDel, hx])) fun _ => preserves_throw _
  rcases h : q.deleteExportBlockDev nodeName s with ⟨_, s'⟩ | ⟨e, s'⟩
  · exact absurd h (q.deleteExportBlockDev_ne_ok nodeName s s')
  · exact ⟨e, s', rfl, hkeep.of_error h rfl⟩

end QMP

end Calls

namespace QMP
variable (q : QMP) {s s' : Host × Faults}

/-- A Mount that returns nil leaves the node and the export `ceph-<handle>`. -/
theorem mount_mounted {m : String} {vol : ValidatedVolume} {socketPath : String}
    (h : q.mount m vol s = .ok socketPath s') :
    s'.1.monitor.hasNode ("ceph-" ++ vol.handle) ∧ s'.1.monitor.hasExport ("ceph-" ++ vol.handle) := by
  simp only [QMP.mount] at h
  obtain ⟨_, s₁, -, h⟩ := op_bind_eq_ok.mp h
  obtain ⟨_, s₂, -, h⟩ := op_bind_eq_ok.mp h
  obtain ⟨_, s₃, h₃, h⟩ := op_bind_eq_ok.mp h
  obtain ⟨_, s₄, h₄, h⟩ := op_bind_eq_ok.mp h
  cases h
  have hnode : s₃.1.monitor.hasNode ("ceph-" ++ vol.handle) := by
    rcases unlessFound_eq_ok h₃ with ⟨_, hq⟩ | ⟨_, _, -, ha⟩
    · obtain ⟨hs, hn⟩ := q.queryBlockNode_eq_ok hq
      rwa [hs]
    · exact q.addBlockDev_eq_ok ha
  refine ⟨(preserves_unlessFound (q.queryBlockExports_keeps _) (q.exportBlockDev_keeps_node _ _ _)).of_ok h₄ hnode,
    ?_⟩
  rcases unlessFound_eq_ok h₄ with ⟨_, hq⟩ | ⟨_, _, -, ha⟩
  · obtain ⟨hs, hx⟩ := q.queryBlockExports_eq_ok hq
    rwa [hs]
  · exact q.exportBlockDev_eq_ok ha

theorem unmount_eq_ok {m volumeID : String} (h : q.unmount m volumeID s = .ok () s') :
    s'.1 = s.1 ∧ s.1.monitor.hasNode ("ceph-" ++ volumeID) ∧ s.1.monitor.hasExport ("ceph-" ++ volumeID) := by
  simp only [QMP.unmount] at h
  obtain ⟨_, s₁, h₁, h₂⟩ := op_bind_eq_ok.mp h
  obtain ⟨_, hq₁⟩ := unlessFound_eq_ok_of_act (q.deleteExportBlockDev_ne_ok _) h₁
  obtain ⟨_, hq₂⟩ := unlessFound_eq_ok_of_act (q.deleteBlockDev_ne_ok _) h₂
  obtain ⟨e₁, hx⟩ := q.queryBlockExports_eq_ok hq₁
  obtain ⟨e₂, hn⟩ := q.queryBlockNode_eq_ok hq₂
  exact ⟨e₂.trans e₁, e₁ ▸ hn, hx⟩

theorem unmount_of_mounted {m volumeID : String} (host : Host) (hn : host.monitor.hasNode ("ceph-" ++ volumeID))
    (hx : host.monitor.hasExport ("ceph-" ++ volumeID)) : q.unmount m volumeID (host, []) = .ok () (host, []) := by
  obtain ⟨_, h₁⟩ := q.queryBlockExports_found host hx
  obtain ⟨_, h₂⟩ := q.queryBlockNode_found host hn
  simp only [QMP.unmount]
  rw [op_bind_ok (unlessFound_of_ok h₁), unlessFound_of_ok h₂]

theorem unmount_of_missing_export {m volumeID : String} (hx : s.1.monitor.hasExport ("ceph-" ++ volumeID) = false) :
    ∃ e s', q.unmount m volumeID s = .error e s' ∧ s'.1 = s.1 := by
  have hfail : ∃ e s', unlessFound (q.queryBlockExports ("ceph-" ++ volumeID))
      (q.deleteExportBlockDev ("ceph-" ++ volumeID)) s = .error e s' ∧ s'.1 = s.1 :=
    unlessFound_fails (fun _ _ hq => by simp [(q.queryBlockExports_eq_ok hq).2] at hx) (q.queryBlockExports_keeps _)
      fun s₁ hs₁ => hs₁ ▸ q.deleteExportBlockDev_of_missing (by rw [hs₁]; exact hx)
  obtain ⟨e, s', h, hs⟩ := hfail
  simp only [QMP.unmount]
  exact ⟨e, s', op_bind_error h, hs⟩

end QMP

/-- Mount leaves the node and the export `ceph-<handle>`; an Unmount that returns nil has
found both and changed nothing, and it does return nil on them when no call fails; on a
monitor without the export, Unmount fails and changes nothing. -/
theorem unmount_keeps_mounted (q : QMP) :
    (∀ (m : String) (vol : ValidatedVolume) (s s' : Host × Faults) (socketPath : String),
      q.mount m vol s = .ok socketPath s' →
      s'.1.monitor.hasNode ("ceph-" ++ vol.handle) ∧ s'.1.monitor.hasExport ("ceph-" ++ vol.handle)) ∧
    (∀ (m volumeID : String) (s s' : Host × Faults), q.unmount m volumeID s = .ok () s' →
      s'.1 = s.1 ∧ s.1.monitor.hasNode ("ceph-" ++ volumeID) ∧ s.1.monitor.hasExport ("ceph-" ++ volumeID)) ∧
    (∀ (m volumeID : String) (host : Host), host.monitor.hasNode ("ceph-" ++ volumeID) →
      host.monitor.hasExport ("ceph-" ++ volumeID) → q.unmount m volumeID (host, []) = .ok () (host, [])) ∧
    (∀ (m volumeID : String) (s : Host × Faults), s.1.monitor.hasExport ("ceph-" ++ volumeID) = false →
      ∃ e s', q.unmount m volumeID s = .error e s' ∧ s'.1 = s.1) :=
  ⟨fun _ _ _ _ _ h => q.mount_mounted h, fun _ _ _ _ h => q.unmount_eq_ok h,
    fun _ _ host hn hx => q.unmount_of_mounted host hn hx, fun _ _ _ hx => q.unmount_of_missing_export hx⟩

theorem unmount_keeps_mounted_h1 :
    let q : QMP := ⟨⟨"/var/lib/cloud-hypervisor-provider"⟩, "ceph"⟩
    let vol : ValidatedVolume := ⟨"h1", ["10.0.0.1"], "admin", "secret", "rbd", "image"⟩
    let host : Host := ⟨fun _ => none, fun _ => none, [], 100, [], ⟨[], []⟩⟩
    ∃ (socketPath : String) (host' : Host), q.mount "m1" vol (host, []) = .ok socketPath (host', []) ∧
      q.unmount "m1" "h1" (host', []) = .ok () (host', []) ∧
      host'.monitor.hasNode "ceph-h1" ∧ host'.monitor.hasExport "ceph-h1" := by
  intro q vol host
  obtain ⟨hn, hx⟩ := (unmount_keeps_mounted q).1 "m1" vol (host, []) _ _ rfl
  exact ⟨_, _, rfl, (unmount_keeps_mounted q).2.2.1 "m1" "h1" _ hn hx, hn, hx⟩

end CloudHypervisorProvider.Plugins.Ceph
