import CloudHypervisorProvider.Controllers.Pass

/-! # Machine records and host files during a pass

A pass writes no record but its machine's, keeps the deletion mark and the API socket
of the record it read but for the socket it assigns, and never drops a record not
marked deleted. On the host it makes only its machine's directories and root disk,
while the record is live with the finalizer; the teardown's `RemoveAll` is the only
removal, and the finalizer comes off only after it.
-/

namespace CloudHypervisorProvider.Controllers
open Go Api Client

namespace World
variable {w : World} {key : String}

/-- `w'` has the machine store and the host files of `w`. -/
structure StoreKept (w w' : World) : Prop where
  machines : w'.machines = w.machines
  files : w'.files = w.files

theorem StoreKept.refl (w : World) : StoreKept w w := ⟨rfl, rfl⟩

variable {f : VmInfo → VmInfo}

theorem changeVm_storeKept (w : World) : StoreKept w (changeVm key f w).2 := by
  unfold changeVm; split <;> exact ⟨rfl, rfl⟩

theorem addToVm_storeKept {id : String} (w : World) : StoreKept w (addToVm key id f w).2 := by
  unfold addToVm
  split
  · split
    · exact .refl w
    · exact changeVm_storeKept w
  · exact changeVm_storeKept w

theorem vmmCreateVM_storeKept {r : MachineReconciler} {machine : Machine} (w : World) :
    StoreKept w (vmmCreateVM r machine w).2 := by
  unfold vmmCreateVM; dsimp only; split <;> exact ⟨rfl, rfl⟩

theorem vmmDelete_storeKept (w : World) : StoreKept w (vmmDelete key w).2 := by
  unfold vmmDelete; split <;> exact ⟨rfl, rfl⟩

theorem vmmPing_storeKept (w : World) : StoreKept w (vmmPing key w).2 := by
  unfold vmmPing; split_ifs <;> exact ⟨rfl, rfl⟩

theorem nicsCreate_storeKept (nic : NetworkInterface) (w : World) : StoreKept w (nicsCreate nic w).2 := by
  unfold nicsCreate; split <;> exact ⟨rfl, rfl⟩

theorem nicsUpdate_storeKept (nic : NetworkInterface) (w : World) : StoreKept w (nicsUpdate nic w).2 := by
  unfold nicsUpdate; split <;> exact ⟨rfl, rfl⟩

theorem nicsDelete_storeKept (id : String) (w : World) : StoreKept w (nicsDelete id w).2 := by
  unfold nicsDelete; split <;> exact ⟨rfl, rfl⟩

theorem removeAll_cleared (dir : String) (w : World) :
    ∀ f ∈ (removeAll dir w).2.files, ¬(f = dir ∨ (dir ++ "/").isPrefixOf f) := fun f hf => by
  simp only [removeAll, List.mem_filter, Bool.not_eq_true', decide_eq_false_iff_not] at hf
  exact hf.2

end World

/-- A record that holds an API socket and is not marked deleted carries the
reconciler's finalizer, so that `DeleteMachine` can only mark it. -/
def Guarded (m : Machine) : Prop :=
  m.spec.apiSocketPath.isSome → m.metadata.deletedAt = none → MachineFinalizer ∈ m.metadata.finalizers

instance (m : Machine) : Decidable (Guarded m) := inferInstanceAs (Decidable (_ → _ → _))

open World

/-- The world during a pass for the machine `id` that started in `w₀`, whose copy of
the record carries the deletion mark `d` and the API socket `k`: no other record
moved, `id` is stored only if it was, its record carries `d` and `k` and stays while
not marked deleted, and a guarded record stays guarded. On the host, a file is gone
only if `id` was stored marked deleted and the file lay at or below its directory; a
new file is one of the machine's directories or its root disk, made while its record
was live with the finalizer; and a record that had the finalizer keeps it, but in a
teardown that left nothing at or below the machine's directory. -/
structure During (r : MachineReconciler) (w₀ : World) (id : String) (d : Option Timestamp)
    (k : Option String) (w : World) : Prop where
  others : ∀ j, j ≠ id → w.machines.get j = w₀.machines.get j
  fresh : w₀.machines.get id = none → w.machines.get id = none
  stored : ∀ m, w.machines.get id = some m → m.metadata.deletedAt = d ∧ m.spec.apiSocketPath = k
  live : (w₀.machines.get id).isSome → d = none → (w.machines.get id).isSome
  guarded : (∀ m, w₀.machines.get id = some m → Guarded m) → ∀ m, w.machines.get id = some m → Guarded m
  removed : ∀ f ∈ w₀.files, f ∉ w.files → (∃ m, w₀.machines.get id = some m ∧ m.metadata.deletedAt.isSome) ∧
    (f = r.paths.machineDir id ∨ (r.paths.machineDir id ++ "/").isPrefixOf f)
  created : ∀ f ∈ w.files, f ∉ w₀.files →
    (∃ m, w₀.machines.get id = some m ∧ m.metadata.deletedAt = none ∧ MachineFinalizer ∈ m.metadata.finalizers) ∧
    (f ∈ (Host.machineDirs r.paths id).map Prod.fst ∨ f = r.paths.machineRootFSFile id)
  cleared : ∀ m₀, w₀.machines.get id = some m₀ → MachineFinalizer ∈ m₀.metadata.finalizers →
    (∃ m, w.machines.get id = some m ∧ MachineFinalizer ∈ m.metadata.finalizers) ∨
    d.isSome ∧ ∀ f ∈ w.files, ¬(f = r.paths.machineDir id ∨ (r.paths.machineDir id ++ "/").isPrefixOf f)

namespace During
variable {r : MachineReconciler} {w₀ w w' : World} {id : String} {d : Option Timestamp} {k : Option String}

theorem storeKept (h : During r w₀ id d k w) (hq : StoreKept w w') : During r w₀ id d k w' where
  others j hj := hq.machines ▸ h.others j hj
  fresh h₀ := hq.machines ▸ h.fresh h₀
  stored m hm := h.stored m (hq.machines ▸ hm)
  live h₀ hd := hq.machines ▸ h.live h₀ hd
  guarded h₀ m hm := h.guarded h₀ m (hq.machines ▸ hm)
  removed f hf hgone := h.removed f hf (hq.files ▸ hgone)
  created f hf hnew := h.created f (hq.files ▸ hf) hnew
  cleared m₀ hm₀ hfin := hq.machines ▸ hq.files ▸ h.cleared m₀ hm₀ hfin

theorem record (h : During r w₀ id d k w) (request : World → Option Call) :
    During r w₀ id d k (w.record request) :=
  h.storeKept ⟨rfl, rfl⟩

theorem start {m : Machine} (h : w₀.machines.get id = some m) :
    During r w₀ id m.metadata.deletedAt m.spec.apiSocketPath w₀ where
  others _ _ := rfl
  fresh h₀ := by rw [h] at h₀; cases h₀
  stored m' hm' := by rw [h] at hm'; cases hm'; exact ⟨rfl, rfl⟩
  live _ _ := by rw [h]; rfl
  guarded h₀ := h₀
  removed _ hf hgone := absurd hf hgone
  created _ hf hnew := absurd hf hnew
  cleared m₀ hm₀ hfin := .inl ⟨m₀, hm₀, hfin⟩

theorem start_none (h : w₀.machines.get id = none) : During r w₀ id none none w₀ where
  others _ _ := rfl
  fresh _ := h
  stored m hm := by rw [h] at hm; cases hm
  live h₀ := by rw [h] at h₀; cases h₀
  guarded h₀ := h₀
  removed _ hf hgone := absurd hf hgone
  created _ hf hnew := absurd hf hnew
  cleared _ hm₀ := by rw [h] at hm₀; cases hm₀

/-- Writing a record under `id` with the pass's deletion mark; the record has the
finalizer, or the pass is a teardown that left nothing at or below the machine's
directory. -/
theorem write (h : During r w₀ id d k w) {m : Machine} (hid : m.metadata.id = id)
    (hd : m.metadata.deletedAt = d)
    (hg : MachineFinalizer ∈ m.metadata.finalizers ∨
      d.isSome ∧ ∀ f ∈ w.files, ¬(f = r.paths.machineDir id ∨ (r.paths.machineDir id ++ "/").isPrefixOf f))
    (hpresent : (w.machines.get id).isSome) (hw' : w'.machines = w.machines.write m) (hf : w'.files = w.files) :
    During r w₀ id d m.spec.apiSocketPath w' := by
  have hget : ∀ j, w'.machines.get j = if j = id then
      (if d.isSome ∧ m.metadata.finalizers = [] then none else some m) else w.machines.get j := by
    intro j; rw [hw', Store.get_write, hid, hd]
  have hrec : ∀ m', w'.machines.get id = some m' → m' = m := fun m' hm' => by
    rw [hget, if_pos rfl] at hm'
    split_ifs at hm'
    exact (Option.some.inj hm').symm
  have hlive : d = none → MachineFinalizer ∈ m.metadata.finalizers := fun hdn =>
    hg.resolve_right fun hdel => by rw [hdn] at hdel; exact Bool.false_ne_true hdel.1
  refine ⟨fun j hj => ?_, fun h₀ => ?_, fun m' hm' => ?_, fun h₀ hdn => ?_, fun _ m' hm' => ?_,
    fun f hf₀ hgone => h.removed f hf₀ (hf ▸ hgone), fun f hin hnew => h.created f (hf ▸ hin) hnew,
    fun _ _ _ => hf ▸ hg.imp (fun hfin => ⟨m, ?_, hfin⟩) fun h => h⟩
  · rw [hget, if_neg hj]; exact h.others j hj
  · rw [h.fresh h₀] at hpresent; cases hpresent
  · obtain rfl := hrec m' hm'; exact ⟨hd, rfl⟩
  · rw [hget, if_pos rfl, hdn]; rfl
  · obtain rfl := hrec m' hm'; exact fun _ hdn => hlive (hd.symm.trans hdn)
  · rw [hget, if_pos rfl, if_neg fun h => List.ne_nil_of_mem hfin h.2]

theorem machinesUpdate (h : During r w₀ id d k w) {m : Machine} (hid : m.metadata.id = id)
    (hd : m.metadata.deletedAt = d)
    (hg : MachineFinalizer ∈ m.metadata.finalizers ∨
      d.isSome ∧ ∀ f ∈ w.files, ¬(f = r.paths.machineDir id ∨ (r.paths.machineDir id ++ "/").isPrefixOf f))
    (hk : m.spec.apiSocketPath = k) :
    During r w₀ id d k (World.machinesUpdate m w).2 := by
  unfold World.machinesUpdate
  split
  · next hpresent => exact hk ▸ h.write hid hd hg (hid ▸ hpresent) rfl rfl
  · exact h

/-- `RemoveAll` of the machine's directory, in the teardown of a machine the pass found
marked deleted. -/
theorem removeAll (h : During r w₀ id d k w)
    (hdel : ∃ m, w₀.machines.get id = some m ∧ m.metadata.deletedAt.isSome) :
    During r w₀ id d k (World.removeAll (r.paths.machineDir id) w).2 where
  others := h.others
  fresh := h.fresh
  stored := h.stored
  live := h.live
  guarded := h.guarded
  removed f hf hgone := by
    by_cases hin : f ∈ w.files
    · simp only [World.removeAll, List.mem_filter, hin, true_and, Bool.not_eq_true', decide_eq_false_iff_not,
        not_not] at hgone
      exact ⟨hdel, hgone⟩
    · exact h.removed f hf hin
  created f hf hnew := h.created f (List.mem_filter.mp hf).1 hnew
  cleared m₀ hm₀ hfin := (h.cleared m₀ hm₀ hfin).imp (fun h => h) fun hno =>
    ⟨hno.1, fun f hf => hno.2 f (List.mem_filter.mp hf).1⟩

/-- `MkdirAll` of one of the machine's directories, or the raw create of its root disk,
in a pass for a machine stored live with the finalizer: the path is added if it is
not there. -/
theorem addFile (h : During r w₀ id d k w) {path : String} (hdn : d = none)
    (hlive : ∃ m, w₀.machines.get id = some m ∧ m.metadata.deletedAt = none ∧
      MachineFinalizer ∈ m.metadata.finalizers)
    (hpath : path ∈ (Host.machineDirs r.paths id).map Prod.fst ∨ path = r.paths.machineRootFSFile id) :
    During r w₀ id d k { w with files := if path ∈ w.files then w.files else w.files ++ [path] } where
  others := h.others
  fresh := h.fresh
  stored := h.stored
  live := h.live
  guarded := h.guarded
  removed f hf hgone := h.removed f hf fun hin => hgone (by dsimp only; split <;> simp [hin])
  created f hf hnew := by
    dsimp only at hf
    split at hf
    · exact h.created f hf hnew
    · rcases List.mem_append.mp hf with hf | hf
      · exact h.created f hf hnew
      · exact List.mem_singleton.mp hf ▸ ⟨hlive, hpath⟩
  cleared m₀ hm₀ hfin := (h.cleared m₀ hm₀ hfin).elim .inl fun hno => absurd hno.1 (by rw [hdn]; decide)

end During

/-- What a pass for `id` from `w₀` leaves behind: the pass's invariant for the
deletion mark of the record it started from and a socket that extends that
record's. -/
def PassFrame (r : MachineReconciler) (w₀ : World) (id : String) (w : World) : Prop :=
  ∃ d k, (∀ m, w₀.machines.get id = some m →
    d = m.metadata.deletedAt ∧ ∀ key, m.spec.apiSocketPath = some key → k = some key) ∧ During r w₀ id d k w

theorem PassFrame.refl (r : MachineReconciler) (w₀ : World) (id : String) : PassFrame r w₀ id w₀ := by
  rcases h : w₀.machines.get id with _ | m
  · exact ⟨none, none, (fun m hm => by rw [h] at hm; cases hm), During.start_none h⟩
  · exact ⟨_, _, (fun m' hm' => by cases h.symm.trans hm'; exact ⟨rfl, fun _ hk => hk⟩), During.start h⟩

theorem PassFrame.storeKept {r : MachineReconciler} {w₀ w w' : World} {id : String} (h : PassFrame r w₀ id w)
    (hq : StoreKept w w') : PassFrame r w₀ id w' :=
  let ⟨d, k, hdk, hw⟩ := h
  ⟨d, k, hdk, hw.storeKept hq⟩

/-- The invariant of a pass for a socket that extends `k`. -/
def Extends (r : MachineReconciler) (w₀ : World) (id : String) (d : Option Timestamp) (k : Option String)
    (w : World) : Prop :=
  ∃ k', (∀ key, k = some key → k' = some key) ∧ During r w₀ id d k' w

theorem During.toExtends {r : MachineReconciler} {w₀ w : World} {id : String} {d : Option Timestamp}
    {k : Option String} (h : During r w₀ id d k w) : Extends r w₀ id d k w :=
  ⟨k, fun _ hk => hk, h⟩

theorem Extends.settled {r : MachineReconciler} {w₀ w : World} {id : String} {d : Option Timestamp}
    {k : Option String} (h : Extends r w₀ id d k w)
    (hrec : ∀ m, w₀.machines.get id = some m → d = m.metadata.deletedAt ∧ k = m.spec.apiSocketPath) :
    PassFrame r w₀ id w :=
  let ⟨k', hk', hw⟩ := h
  ⟨d, k', fun m hm => ⟨(hrec m hm).1, fun key hkey => hk' key ((hrec m hm).2.trans hkey)⟩, hw⟩

section Leads
variable {α γ : Type} {P Q : World → Prop}

/-- `x` takes a world with `P` to one with `Q`, whether it returns or fails. -/
def Leads (P Q : World → Prop) (x : Pass α) : Prop := ∀ s, P s.1 → Q (resultWorld (x s))

theorem Preserves.leads {x : Pass α} (hx : Preserves P x) (hPQ : ∀ w, P w → Q w) : Leads P Q x :=
  fun s hs => hPQ _ (hx s hs)

theorem leads_bind {x : Pass α} {f : α → Pass γ} (hx : Preserves P x) (hf : ∀ a, Leads P Q (f a))
    (hPQ : ∀ w, P w → Q w) : Leads P Q (x >>= f) := by
  intro s hs
  have := hx s hs
  rcases h : x s with ⟨a, s'⟩ | ⟨e, s'⟩
  · rw [bind_ok h]; rw [h] at this; exact hf a s' this
  · rw [bind_error h]; rw [h] at this; exact hPQ _ this

theorem preserves_bind_of {x : Pass α} {f : α → Pass γ} {R : α → Prop} (hx : Preserves P x)
    (hR : ∀ s a s', x s = .ok a s' → R a) (hf : ∀ a, R a → Preserves P (f a)) : Preserves P (x >>= f) := by
  intro s hs
  have := hx s hs
  rcases h : x s with ⟨a, s'⟩ | ⟨e, s'⟩
  · rw [bind_ok h]; rw [h] at this; exact hf a (hR s a s' h) s' this
  · rw [bind_error h]; rw [h] at this; exact this

theorem preserves_bind_ok (P' : World → Prop) {x : Pass α} {f : α → Pass γ} (hx : Preserves P x)
    (hok : ∀ s a s', P s.1 → x s = .ok a s' → P' s'.1) (hf : ∀ a, Leads P' P (f a)) : Preserves P (x >>= f) := by
  intro s hs
  rcases h : x s with ⟨a, s'⟩ | ⟨e, s'⟩
  · rw [bind_ok h]; exact hf a s' (hok s a s' hs h)
  · rw [bind_error h]; have := hx s hs; rw [h] at this; exact this

theorem preserves_forM_of_mem {l : List γ} {f : γ → Pass PUnit} (hf : ∀ a ∈ l, Preserves P (f a)) :
    Preserves P (l.forM f) := by
  induction l with
  | nil => exact preserves_pure _
  | cons a l ih =>
    exact preserves_bind (hf a (List.mem_cons_self _ _)) fun _ => ih fun b hb => hf b (List.mem_cons_of_mem _ hb)

theorem check_fault {msg : String} {x : Pass (Except Err α)} {s s' : World × Faults} {e : Err}
    (h : x s = .ok (.error e) s') : check msg x s = .error (.error (.wrap msg e)) s' := by
  simp only [check, bind_ok h]; rfl

/-- A checked `machines.Update` of `m` and what follows it: the call fails with the
world as it was, but for the log, or `f m` runs from the world with `m` written. -/
theorem leads_check_machinesUpdate (P : World → Prop) (m : Machine) {R : World → Prop} {msg : String}
    {request : World → Option Call} {f : Machine → Pass γ}
    (hrecord : ∀ w, P w → P (w.record request))
    (hwrite : ∀ w, P w → (w.machines.get m.metadata.id).isSome → R { w with machines := w.machines.write m })
    (hf : Leads R Q (f m)) (hPQ : ∀ w, P w → Q w) :
    Leads P Q (check msg (call request (World.machinesUpdate m)) >>= f) := by
  intro s hs
  obtain ⟨s', ⟨e, hc, hs'⟩ | ⟨hc, hs'⟩⟩ := call_cases request (World.machinesUpdate m) s
  · rw [bind_error (check_fault hc)]
    show Q s'.1
    rw [hs']
    exact hPQ _ (hrecord _ hs)
  by_cases hpresent : ((s.1.record request).machines.get m.metadata.id).isSome
  · have hact : World.machinesUpdate m (s.1.record request) =
        (.ok m, { s.1.record request with machines := (s.1.record request).machines.write m }) := by
      unfold World.machinesUpdate; rw [if_pos hpresent]
    rw [hact] at hc hs'
    rw [bind_ok ((check_eq_ok _).mpr hc)]
    exact hf s' (by rw [hs']; exact hwrite _ (hrecord _ hs) hpresent)
  · have hact : World.machinesUpdate m (s.1.record request) = (.error .notFound, s.1.record request) := by
      unfold World.machinesUpdate; rw [if_neg hpresent]
    rw [hact] at hc hs'
    rw [bind_error (check_fault hc)]
    show Q s'.1
    rw [hs']
    exact hPQ _ (hrecord _ hs)

end Leads

section During
variable {r : MachineReconciler} {w₀ : World} {id : String} {d : Option Timestamp} {k : Option String}
  {α : Type} {request : World → Option Call} {act : World → Except Err α × World}

theorem preserves_call_during (hact : ∀ w, During r w₀ id d k w → During r w₀ id d k (act w).2) :
    Preserves (During r w₀ id d k) (call request act) :=
  preserves_call (fun _ h => h.record _) hact

theorem preserves_call_storeKept (hq : ∀ w, StoreKept w (act w).2) : Preserves (During r w₀ id d k) (call request act) :=
  preserves_call_during fun w h => h.storeKept (hq w)

theorem preserves_call_idle (hact : ∀ w, (act w).2 = w) : Preserves (During r w₀ id d k) (call request act) :=
  preserves_call_storeKept fun w => by rw [hact w]; exact .refl w

section Live
variable (hdn : d = none) (hlive : ∃ m, w₀.machines.get id = some m ∧ m.metadata.deletedAt = none ∧
  MachineFinalizer ∈ m.metadata.finalizers)
include hdn hlive

theorem makeMachineDirs_during {uid : String} (huid : uid = id) :
    Preserves (During r w₀ id d k) (makeMachineDirs r.paths uid) := by
  subst huid
  exact preserves_forM_of_mem fun dir hdir => preserves_bind (preserves_check _ (preserves_call_during fun _ h =>
    h.addFile hdn hlive (.inl (List.mem_map_of_mem _ hdir)))) fun _ => preserves_pure _

theorem reconcileImage_during {machine : Machine} (hid : machine.metadata.id = id) :
    Preserves (During r w₀ id d k) (reconcileImage r machine) := by
  subst hid
  unfold reconcileImage
  refine preserves_ite (preserves_pure _) (preserves_bind (preserves_pure _) fun _ =>
    preserves_bind (preserves_call_idle fun _ => rfl) fun res => ?_)
  rcases res with err | ⟨⟩
  · exact preserves_ite (preserves_pure _) (preserves_bind (preserves_pure _) fun _ => preserves_throw _)
  · refine preserves_bind (preserves_call_idle fun _ => rfl) fun res => ?_
    rcases res with err | _
    · exact preserves_throw _
    · exact preserves_ite (preserves_bind (preserves_check _ (preserves_call_during fun _ h =>
        h.addFile hdn hlive (.inr rfl))) fun _ => preserves_bind (preserves_pure _) fun _ => preserves_pure _)
        (preserves_bind (preserves_pure _) fun _ => preserves_pure _)

end Live

theorem addFinalizerToNIC_during (nic : NetworkInterface) : Preserves (During r w₀ id d k) (addFinalizerToNIC nic) :=
  preserves_ite (preserves_pure _)
    (preserves_bind (preserves_check _ (preserves_call_storeKept (nicsUpdate_storeKept _))) fun _ => preserves_pure _)

theorem removeFinalizerFromNIC_during (nic : NetworkInterface) :
    Preserves (During r w₀ id d k) (removeFinalizerFromNIC nic) :=
  preserves_ite (preserves_pure _)
    (preserves_bind (preserves_check _ (preserves_call_storeKept (nicsUpdate_storeKept _))) fun _ => preserves_pure _)

theorem materializeNics_during (machine : Machine) :
    ∀ (specs : List NetworkInterfaceSpec) (nics : NicMap),
      Preserves (During r w₀ id d k) (materializeNics machine specs nics)
  | [], _ => preserves_pure _
  | nic :: rest, nics => by
    have fetched : Preserves (During r w₀ id d k) (fetchNic machine nic) := by
      unfold fetchNic
      refine preserves_bind (preserves_call_idle fun _ => rfl) fun res => ?_
      rcases res with err | _
      · exact preserves_ite (preserves_throw _) (preserves_ite (preserves_pure _)
          (preserves_bind (preserves_check _ (preserves_call_storeKept (nicsCreate_storeKept _))) fun _ => preserves_pure _))
      · exact preserves_pure _
    unfold materializeNics
    refine preserves_bind fetched fun found => ?_
    rcases found with _ | found
    · exact materializeNics_during machine rest nics
    · exact preserves_ite (preserves_bind (preserves_check _ (preserves_call_storeKept (nicsDelete_storeKept _))) fun _ =>
        preserves_bind (preserves_pure _) fun _ => materializeNics_during machine rest _)
        (preserves_bind (preserves_pure _) fun _ => materializeNics_during machine rest _)

theorem reconcileVolumesLoop_during (machine : Machine) :
    ∀ vols : List VolumeSpec, Preserves (During r w₀ id d k) (reconcileVolumesLoop r machine vols)
  | [] => preserves_pure _
  | vol :: vols => by
    have ih := reconcileVolumesLoop_during machine vols
    unfold reconcileVolumesLoop
    exact preserves_bind (preserves_check _ (preserves_call_idle fun _ => rfl)) fun _ =>
      preserves_ite (preserves_bind (preserves_check _ (preserves_call_idle fun _ => rfl)) fun _ => ih)
        (preserves_bind (preserves_check _ (preserves_call_idle fun _ => rfl)) fun _ =>
          preserves_bind ih fun _ => preserves_pure _)

/-- The machine record of a pass, as it goes from step to step: same id, deletion
mark, socket and finalizers. -/
structure SameRecord (machine m : Machine) : Prop where
  id : m.metadata.id = machine.metadata.id
  deletedAt : m.metadata.deletedAt = machine.metadata.deletedAt
  socket : m.spec.apiSocketPath = machine.spec.apiSocketPath
  finalizers : m.metadata.finalizers = machine.metadata.finalizers

section Machine
variable {machine : Machine} (hid : machine.metadata.id = id) (hd : machine.metadata.deletedAt = d)
  (hk : machine.spec.apiSocketPath = k) (hfin : MachineFinalizer ∈ machine.metadata.finalizers)
include hid hd hk hfin

theorem machinesUpdate_during {m : Machine} (hm : SameRecord machine m) :
    Preserves (During r w₀ id d k) (call request (World.machinesUpdate m)) :=
  preserves_call_during fun _ h =>
    h.machinesUpdate (hm.id.trans hid) (hm.deletedAt.trans hd) (.inl (hm.finalizers ▸ hfin)) (hm.socket.trans hk)

theorem reconcileVolumes_during : Preserves (During r w₀ id d k) (reconcileVolumes r machine) :=
  preserves_bind (reconcileVolumesLoop_during _ _) fun _ =>
    preserves_bind (preserves_check _ (machinesUpdate_during hid hd hk hfin ⟨rfl, rfl, rfl, rfl⟩)) fun _ => preserves_pure _

end Machine

theorem reconcilePower_during (key : String) (power : Power) (vm : VmInfo) :
    Preserves (During r w₀ id d k) (reconcilePower key power vm) := by
  cases power <;> exact preserves_ite (preserves_check _ (preserves_call_storeKept changeVm_storeKept)) (preserves_pure _)

theorem reconcileNicsDevices_during (key : String) :
    ∀ (devices : List DeviceConfig) (nics : NicMap) (cur : List String),
      Preserves (During r w₀ id d k) (reconcileNicsDevices key devices nics cur)
  | [], _, _ => preserves_pure _
  | dev :: ds, nics, cur => by
    simp only [reconcileNicsDevices]
    rcases getNicName (dev.id.getD "") with _ | name
    · exact reconcileNicsDevices_during key ds nics cur
    dsimp only
    rcases nics.lookup name with _ | nic
    · exact reconcileNicsDevices_during key ds nics cur
    dsimp only
    refine preserves_ite (reconcileNicsDevices_during key ds nics _) ?_
    exact preserves_bind (preserves_check _ (preserves_call_storeKept changeVm_storeKept)) fun _ =>
      preserves_bind (preserves_wrapErr _ (removeFinalizerFromNIC_during nic)) fun _ =>
      reconcileNicsDevices_during key ds _ cur

theorem reconcileNicsAdd_during (key : String) (cur : List String) :
    ∀ nics : NicMap, Preserves (During r w₀ id d k) (reconcileNicsAdd key cur nics)
  | [] => preserves_pure _
  | (name, nic) :: rest => by
    simp only [reconcileNicsAdd]
    refine preserves_ite ?_ (reconcileNicsAdd_during key cur rest)
    exact preserves_bind (preserves_wrapErr _ (addFinalizerToNIC_during nic)) fun _ =>
      preserves_bind (preserves_check _ (preserves_call_storeKept addToVm_storeKept)) fun _ =>
      reconcileNicsAdd_during key cur rest

theorem attachDetachDisksLoop_during (machine : Machine) (key : String) (cur : List String) :
    ∀ vols : List VolumeSpec, Preserves (During r w₀ id d k) (attachDetachDisksLoop machine key cur vols)
  | [] => preserves_pure _
  | vol :: vols => by
    have ih := attachDetachDisksLoop_during machine key cur vols
    have kept : ∀ f : List VolumeStatus → List VolumeStatus, Preserves (During r w₀ id d k)
        (do let kept ← attachDetachDisksLoop machine key cur vols; pure (f kept)) :=
      fun _ => preserves_bind ih fun _ => preserves_pure _
    have added := fun f => preserves_bind (preserves_pure PUnit.unit) fun _ => kept f
    simp only [attachDetachDisksLoop]
    refine preserves_ite (preserves_ite ih (preserves_ite ?_ (added _))) (preserves_ite ?_ (kept _))
    · exact preserves_bind (preserves_check _ (preserves_call_storeKept addToVm_storeKept)) fun _ => added _
    · exact preserves_bind (preserves_check _ (preserves_call_storeKept changeVm_storeKept)) fun _ => kept _

section Machine
variable {machine : Machine} (hid : machine.metadata.id = id) (hd : machine.metadata.deletedAt = d)
  (hk : machine.spec.apiSocketPath = k) (hfin : MachineFinalizer ∈ machine.metadata.finalizers)
include hid hd hk hfin

theorem attachDetachDisks_during (config : VmConfig) :
    Preserves (During r w₀ id d k) (attachDetachDisks machine config) :=
  preserves_bind (attachDetachDisksLoop_during _ _ _ _) fun _ =>
    preserves_bind (preserves_check _ (machinesUpdate_during hid hd hk hfin ⟨rfl, rfl, rfl, rfl⟩)) fun _ => preserves_pure _

theorem reconcileVm_during (nics : NicMap) (vm : VmInfo) :
    Preserves (During r w₀ id d k) (reconcileVm machine nics vm) := by
  unfold reconcileVm reconcileNics
  refine preserves_ite (preserves_throw _) ?_
  refine preserves_bind (reconcilePower_during _ _ _) fun _ =>
    preserves_bind (preserves_wrapErr _ (preserves_bind (reconcileNicsDevices_during _ _ _ _) fun p =>
      reconcileNicsAdd_during _ p.1 p.2)) fun _ => ?_
  refine preserves_bind_of (preserves_wrapErr _ (attachDetachDisks_during hid hd hk hfin _))
    (fun _ m _ h => show SameRecord machine m by
      obtain ⟨rfl, -⟩ := attachDetachDisks_ok ((wrapErr_eq_ok _).mp h)
      exact ⟨rfl, rfl, rfl, rfl⟩) fun m hm => ?_
  exact preserves_bind (preserves_check _ (machinesUpdate_during hid hd hk hfin
      (show SameRecord machine (finalRecord nics m) from ⟨hm.id, hm.deletedAt, hm.socket, hm.finalizers⟩)))
    fun _ => preserves_pure _

end Machine

theorem getMachineState_during (machine : Machine) : Preserves (During r w₀ id d k) (getMachineState r machine) := by
  refine preserves_bind (preserves_call_idle fun _ => rfl) fun res => ?_
  rcases res with err | _ | vm
  · exact preserves_ite (preserves_pure _) (preserves_throw _)
  · exact preserves_throw _
  · exact preserves_pure _

theorem deleteMachineNics_during (machine : Machine) (nics : List NetworkInterfaceSpec) (b : Bool) :
    Preserves (During r w₀ id d k) (deleteMachineNics machine nics b) := by
  induction nics generalizing b with
  | nil => exact preserves_pure _
  | cons nic rest ih =>
    refine preserves_bind (preserves_call_idle fun _ => rfl) fun res => preserves_ite (ih b) ?_
    rcases res with e | found
    · exact preserves_throw _
    · refine preserves_bind (preserves_wrapErr _ (removeFinalizerFromNIC_during _)) fun _ =>
        preserves_bind (preserves_call_storeKept (nicsDelete_storeKept _)) fun err => ?_
      rcases ignoreErrNotFound err with _ | e
      · exact ih false
      · exact preserves_throw _

theorem enqueue_during (j : String) : Preserves (During r w₀ id d k) (enqueue j) :=
  fun _ h => h.storeKept ⟨rfl, rfl⟩

section Machine
variable {machine : Machine} (hid : machine.metadata.id = id) (hd : machine.metadata.deletedAt = d)
include hid hd

theorem deleteMachine_during (hk : machine.spec.apiSocketPath = k) (hget : w₀.machines.get id = some machine)
    (hdel : machine.metadata.deletedAt.isSome) :
    Preserves (During r w₀ id d k) (deleteMachine r machine) := by
  subst hid
  unfold deleteMachine
  lift_lets
  intro _ _ _ updated nicsDeleted vmmDeleted
  -- after `RemoveAll`, nothing is left at or below the directory when the finalizer comes off
  have h₃ (u : PUnit) : Preserves (During r w₀ machine.metadata.id d k) (updated u) := by
    let dir := r.paths.machineDir machine.metadata.id
    refine preserves_bind_ok (fun w => During r w₀ machine.metadata.id d k w ∧
        ∀ f ∈ w.files, ¬(f = dir ∨ (dir ++ "/").isPrefixOf f))
      (preserves_check _ (preserves_call_during fun _ h => h.removeAll ⟨machine, hget, hdel⟩))
      (fun s _ s' hs hc => ?_) fun _ => ?_
    · obtain ⟨-, hs'⟩ := call_eq_ok_ok ((check_eq_ok _).mp hc)
      rw [hs']
      exact ⟨(hs.record _).removeAll ⟨machine, hget, hdel⟩, removeAll_cleared _ _⟩
    · refine (preserves_bind (preserves_call (fun _ h => ⟨h.1.record _, h.2⟩) fun w h =>
        ⟨h.1.machinesUpdate rfl hd (.inr ⟨hd ▸ hdel, h.2⟩) hk, ?_⟩) fun _ => ?_).leads fun _ h => h.1
      · split
        · exact preserves_throw _
        · exact preserves_pure _
      · unfold World.machinesUpdate; split <;> exact h.2
  have h₂ (u : PUnit) : Preserves (During r w₀ machine.metadata.id d k) (nicsDeleted u) :=
    preserves_bind (deleteMachineNics_during _ _ _) fun _ =>
      preserves_ite (preserves_pure _) (preserves_bind (preserves_pure _) h₃)
  have h₁ (u : PUnit) : Preserves (During r w₀ machine.metadata.id d k) (vmmDeleted u) :=
    preserves_bind (preserves_call_storeKept vmmDelete_storeKept) fun _ =>
      preserves_ite (preserves_bind (preserves_throw _) h₂) (preserves_bind (preserves_pure _) h₂)
  exact preserves_bind (getMachineState_during _) fun _ =>
    preserves_ite (preserves_bind (preserves_call_storeKept changeVm_storeKept) fun _ =>
      preserves_ite (preserves_bind (preserves_throw _) h₁) (preserves_bind (preserves_pure _) h₁))
      (preserves_bind (preserves_pure _) h₁)

variable (hfin : MachineFinalizer ∈ machine.metadata.finalizers)
include hfin

/-- Step 6 of `reconcileMachine` and the rest of the pass: the rest keeps the invariant
for the socket the machine leaves with, which extends the one it came with. -/
theorem assignApiSocket_leads {γ : Type} {f : Machine → Pass γ}
    (hf : ∀ m key, m.metadata.id = id → m.metadata.deletedAt = d →
      MachineFinalizer ∈ m.metadata.finalizers → m.spec.apiSocketPath = some key →
      Preserves (During r w₀ id d (some key)) (f m)) :
    Leads (During r w₀ id d machine.spec.apiSocketPath) (Extends r w₀ id d machine.spec.apiSocketPath)
      (assignApiSocket r machine >>= f) := by
  rcases hk : machine.spec.apiSocketPath with _ | key
  · intro s hs
    simp only [assignApiSocket, hk, Option.isNone_none, if_true, bind_assoc]
    obtain ⟨s₁, ⟨e, hc, hs₁⟩ | ⟨hc, hs₁⟩⟩ := call_cases (fun _ => none) (World.getFreeApiSocket r) s
    · rw [bind_error (check_fault hc)]
      exact (hs.storeKept (show StoreKept s.1 s₁.1 by rw [hs₁, record_none]; exact .refl _)).toExtends
    rw [bind_ok ((check_eq_ok _).mpr hc)]
    simp only [World.getFreeApiSocket, record_none] at hs₁
    let m : Machine := { machine with spec.apiSocketPath := some (r.freeApiSocket (s.1.processes · |>.isSome)) }
    refine leads_check_machinesUpdate (StoreKept s.1) m (fun _ hw => ⟨hw.machines, hw.files⟩) (fun w hw hpresent => ?_)
      ((hf m _ hid hd hfin rfl).leads fun _ h => ⟨_, (fun _ hkey => nomatch hkey), h⟩)
      (fun w hw => (hs.storeKept hw).toExtends) s₁ (by rw [hs₁]; exact .refl _)
    exact hs.write (m := m) hid hd (.inl hfin) (by rw [← hw.machines, ← hid]; exact hpresent) (by rw [← hw.machines])
      hw.files
  · have hpure : assignApiSocket r machine = pure machine := by simp [assignApiSocket, hk]
    rw [hpure]
    exact (hf machine key hid hd hfin hk).leads fun _ h => h.toExtends

theorem reconcileLive_leads (hdn : d = none) (hget : w₀.machines.get id = some machine) :
    Leads (During r w₀ id d machine.spec.apiSocketPath) (Extends r w₀ id d machine.spec.apiSocketPath)
      (reconcileLive r machine) := by
  have hE : ∀ w, During r w₀ id d machine.spec.apiSocketPath w → Extends r w₀ id d machine.spec.apiSocketPath w :=
    fun _ h => h.toExtends
  unfold reconcileLive
  have hlive : ∃ m, w₀.machines.get id = some m ∧ m.metadata.deletedAt = none ∧
      MachineFinalizer ∈ m.metadata.finalizers := ⟨machine, hget, hd.trans hdn, hfin⟩
  refine leads_bind (preserves_wrapErr _ (makeMachineDirs_during hdn hlive hid)) (fun _ =>
    leads_bind (reconcileImage_during hdn hlive hid) (fun b => ?_) hE) hE
  split
  · exact (preserves_pure _).leads hE
  refine assignApiSocket_leads hid hd hfin fun m key hid' hd' hfin' hk' => ?_
  simp only [hk', Option.getD_some]
  refine preserves_bind (preserves_check _ (preserves_call_storeKept vmmPing_storeKept)) fun _ =>
    preserves_bind (materializeNics_during _ _ _) fun nics => ?_
  refine preserves_bind_of (preserves_wrapErr _ (reconcileVolumes_during hid' hd' hk' hfin'))
    (fun _ m₆ _ h => show SameRecord m m₆ by
      obtain ⟨kept, s₁, m₀, -, rfl, -⟩ := reconcileVolumes_ok ((wrapErr_eq_ok _).mp h)
      exact ⟨rfl, rfl, rfl, rfl⟩) fun m₆ hm₆ => ?_
  refine preserves_bind (preserves_call_idle fun _ => rfl) fun res => ?_
  rcases res with err | _ | vm
  · refine preserves_ite (preserves_throw _) (preserves_ite (preserves_pure _) ?_)
    exact preserves_bind (preserves_check _ (preserves_call_storeKept vmmCreateVM_storeKept)) fun _ =>
      preserves_bind (preserves_forM fun p => preserves_wrapErr _ (addFinalizerToNIC_during p.2)) fun _ =>
      preserves_bind (enqueue_during _) fun _ => preserves_pure _
  · exact preserves_throw _
  · exact reconcileVm_during (hm₆.id.trans hid') (hm₆.deletedAt.trans hd') (hm₆.socket.trans hk')
      (hm₆.finalizers ▸ hfin') _ _

end Machine

theorem reconcileMachine_frame (r : MachineReconciler) (id : String) (s : World × Faults) :
    PassFrame r s.1 id (resultWorld (reconcileMachine r id s)) := by
  have h₀ : ∀ w, StoreKept s.1 w → PassFrame r s.1 id w := fun w hw => (PassFrame.refl r s.1 id).storeKept hw
  unfold reconcileMachine
  obtain ⟨s₁, ⟨e, hc, hs₁⟩ | ⟨hc, hs₁⟩⟩ := call_cases (fun _ => none) (World.machinesGet id) s
  · rw [bind_ok hc]
    simp only [record_none] at hs₁
    dsimp only
    split <;> exact h₀ _ (hs₁ ▸ .refl _)
  simp only [World.machinesGet, record_none] at hc hs₁
  rcases hget : s.1.machines.get id with _ | m
  · rw [hget] at hc
    rw [bind_ok hc]
    dsimp only
    split <;> exact h₀ _ (hs₁ ▸ .refl _)
  rw [hget] at hc
  rw [bind_ok hc]
  dsimp only
  have hid : m.metadata.id = id := s.1.machines.keyed id m hget
  have hs : During r s.1 id m.metadata.deletedAt m.spec.apiSocketPath s₁.1 := by
    rw [hs₁]; exact During.start hget
  have hset : ∀ w, Extends r s.1 id m.metadata.deletedAt m.spec.apiSocketPath w → PassFrame r s.1 id w :=
    fun w h => h.settled fun m' hm' => by cases hget.symm.trans hm'; exact ⟨rfl, rfl⟩
  split_ifs with hdel hfin
  · exact hset _ ((preserves_bind (preserves_wrapErr _ (deleteMachine_during hid rfl rfl hget hdel)) fun _ =>
      preserves_pure _) s₁ hs).toExtends
  · exact hset _ (reconcileLive_leads hid rfl hfin (Option.not_isSome_iff_eq_none.mp hdel) hget s₁ hs)
  · refine hset _ (During.toExtends ((preserves_bind (preserves_check _ (preserves_call_during fun _ h =>
      h.machinesUpdate ?_ ?_ ?_ ?_)) fun _ => preserves_pure _) s₁ hs))
    exacts [hid, rfl, .inl (List.mem_append_right _ (List.mem_singleton_self _)), rfl]

theorem processNextWorkItem_frame (r : MachineReconciler) (id : String) (s : World × Faults) :
    PassFrame r s.1 id (resultWorld (processNextWorkItem r id s)) := by
  have := reconcileMachine_frame r id s
  rw [processNextWorkItem_eq]
  rcases h : reconcileMachine r id s with ⟨_, s'⟩ | ⟨_ | _, s'⟩ <;> rw [h] at this
  · exact this
  · exact this.storeKept ⟨rfl, rfl⟩
  · exact this

end During

/-- Whatever its collaborators answer, a worker's pass for `id` leaves every other
machine record as it was, stores `id` only if it was stored, never drops a record
not marked deleted, and never changes a deletion mark or an API socket once assigned. -/
theorem processNextWorkItem_keeps_records (r : MachineReconciler) (id : String) (s : World × Faults) :
    let w := resultWorld (processNextWorkItem r id s)
    (∀ j, j ≠ id → w.machines.get j = s.1.machines.get j) ∧
    (∀ m', w.machines.get id = some m' → ∃ m, s.1.machines.get id = some m ∧
      m'.metadata.deletedAt = m.metadata.deletedAt ∧
      ∀ key, m.spec.apiSocketPath = some key → m'.spec.apiSocketPath = some key) ∧
    (∀ m, s.1.machines.get id = some m → m.metadata.deletedAt = none → (w.machines.get id).isSome) := by
  obtain ⟨d, k, hdk, h⟩ := processNextWorkItem_frame r id s
  refine ⟨h.others, fun m' hm' => ?_, fun m hm hd => h.live (by rw [hm]; rfl) ((hdk m hm).1.trans hd)⟩
  rcases hget : s.1.machines.get id with _ | m
  · rw [h.fresh hget] at hm'; cases hm'
  · obtain ⟨hd, hk⟩ := h.stored m' hm'
    exact ⟨m, rfl, hd.trans (hdk m hget).1, fun key hkey => hk.trans ((hdk m hget).2 key hkey)⟩

end CloudHypervisorProvider.Controllers
