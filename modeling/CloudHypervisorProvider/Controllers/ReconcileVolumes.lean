import CloudHypervisorProvider.Controllers.Pass

/-! # What `reconcileVolumes` writes

The loop of `reconcileVolumes` hands every volume entry marked deleted whose recorded
status is not `Attached` to its plugin's `Delete`, and drops it; it applies every
other entry and keeps it, with the plugin's status, an `Attached` one never rewound.
The record is written once, after the loop, so a lookup, `Apply` or `Delete` that
fails leaves the stored record as it was.
-/

namespace CloudHypervisorProvider.Controllers
open Go Api Client

/-- The entries `reconcileVolumes` hands to `Delete` and drops. -/
def deletesVolume (machine : Machine) (vol : VolumeSpec) : Bool :=
  vol.deletedAt.isSome ∧ (getVolumeStatus machine.status.volumeStatus vol.name).state ≠ .attached

def deleteRequest (machine : Machine) (w : World) (vol : VolumeSpec) : Call :=
  .volumeDelete machine.metadata.id vol.connection.handle (vol.connection.handle ∈ w.liveDisks machine.metadata.id)

/-- `st` is what the plugin of `vol` answers to `Apply`, kept `Attached` if the
recorded status was. -/
def AppliedStatus (r : MachineReconciler) (machine : Machine) (vol : VolumeSpec) (st : VolumeStatus) : Prop :=
  ∃ plugin applied, r.volumePluginManager.findPluginBySpec vol = .ok plugin ∧
    plugin.apply vol machine.metadata.id = .ok applied ∧
    st = if (getVolumeStatus machine.status.volumeStatus vol.name).state = .attached then
      { applied with state := .attached } else applied

@[simp] theorem deleteRequest_calls (machine : Machine) (w : World) (calls : List Call) :
    deleteRequest machine { w with calls := calls } = deleteRequest machine w := rfl

section Answers
variable {α : Type} {request : World → Option Call} {act : World → Except Err α} {s s' : World × Faults}
  {msg : String}

theorem check_answer_ok {a : α} (h : check msg (call request fun w => (act w, w)) s = .ok a s') :
    act (s.1.record request) = .ok a ∧ s'.1 = s.1.record request :=
  call_eq_ok_ok ((check_eq_ok _).mp h)

theorem check_call_error {act : World → Except Err α × World} {e : Abort}
    (hact : ∀ w err, (act w).1 = .error err → (act w).2 = w)
    (h : check msg (call request act) s = .error e s') :
    (∃ err, e = .error (.wrap msg err)) ∧ s'.1 = s.1.record request := by
  unfold check at h
  obtain ⟨s'', ⟨err, hc, hs⟩ | ⟨hc, hs⟩⟩ := call_cases request act s <;> rw [bind_ok hc] at h
  · cases h; exact ⟨⟨err, rfl⟩, hs⟩
  · rcases ha : (act (s.1.record request)).1 with err | a <;> rw [ha] at h <;> cases h
    exact ⟨⟨err, rfl⟩, hs.trans (hact _ _ ha)⟩

theorem machinesUpdate_error_world (m : Machine) (w : World) (err : Err)
    (h : (World.machinesUpdate m w).1 = .error err) : (World.machinesUpdate m w).2 = w := by
  unfold World.machinesUpdate at h ⊢
  split_ifs at h ⊢
  rfl

end Answers

section Loop
variable {r : MachineReconciler} {machine : Machine}

/-- A loop that returns keeps the entries it does not delete, each with its applied
status; every `Delete` it sent succeeded, and the world gained exactly their requests. -/
theorem reconcileVolumesLoop_returns :
    ∀ {vols : List VolumeSpec} {kept : List VolumeSpec × List VolumeStatus} {s s' : World × Faults},
    reconcileVolumesLoop r machine vols s = .ok kept s' →
    kept.1 = vols.filter (fun vol => !deletesVolume machine vol) ∧
    List.Forall₂ (AppliedStatus r machine) kept.1 kept.2 ∧
    (∀ vol ∈ vols, deletesVolume machine vol → ∃ plugin, r.volumePluginManager.findPluginBySpec vol = .ok plugin ∧
      plugin.delete vol.connection.handle machine.metadata.id = .ok ()) ∧
    s'.1 = { s.1 with calls := s.1.calls ++ (vols.filter (deletesVolume machine)).map (deleteRequest machine s.1) }
  | [], _, _, _, h => by cases h; exact ⟨rfl, .nil, by simp, by simp⟩
  | vol :: vols, kept, s, s', h => by
    simp only [reconcileVolumesLoop] at h
    obtain ⟨plugin, s₁, hp, h⟩ := bind_eq_ok.mp h
    obtain ⟨hfind, hs₁⟩ := check_answer_ok hp
    rw [record_none] at hs₁
    by_cases hd : vol.deletedAt.isSome ∧ (getVolumeStatus machine.status.volumeStatus vol.name).state ≠ .attached
    · have hdel : deletesVolume machine vol = true := by simp [deletesVolume, hd]
      rw [if_pos hd] at h
      obtain ⟨_, s₂, hc, h⟩ := bind_eq_ok.mp h
      obtain ⟨hdelete, hs₂⟩ := check_answer_ok hc
      obtain ⟨h₁, h₂, h₃, h₄⟩ := reconcileVolumesLoop_returns h
      refine ⟨by simp [h₁, hdel], h₂, fun v hv hdv => ?_, ?_⟩
      · rcases List.mem_cons.mp hv with rfl | hv
        · exact ⟨plugin, hfind, hdelete⟩
        · exact h₃ v hv hdv
      · rw [h₄, hs₂, hs₁]
        simp [World.record, hdel, deleteRequest]
    · have hdel : deletesVolume machine vol = false := by simp [deletesVolume, hd]
      rw [if_neg hd] at h
      obtain ⟨applied, s₂, ha, h⟩ := bind_eq_ok.mp h
      obtain ⟨happly, hs₂⟩ := check_answer_ok ha
      rw [record_none] at hs₂
      obtain ⟨k, hk, rfl⟩ := bind_pure_eq_ok.mp h
      obtain ⟨h₁, h₂, h₃, h₄⟩ := reconcileVolumesLoop_returns hk
      refine ⟨by simp [h₁, hdel], .cons ⟨plugin, applied, hfind, happly, ?_⟩ h₂,
        fun v hv hdv => ?_, ?_⟩
      · split_ifs with hatt <;> simp [hatt]
      · rcases List.mem_cons.mp hv with rfl | hv
        · simp [hdel] at hdv
        · exact h₃ v hv hdv
      · rw [h₄, hs₂, hs₁]
        simp [hdel]

/-- A loop that fails failed at a lookup, an `Apply` or a `Delete`, and the world
gained only `Delete` requests of entries it hands to `Delete`. -/
theorem reconcileVolumesLoop_fails :
    ∀ {vols : List VolumeSpec} {e : Abort} {s s' : World × Faults},
    reconcileVolumesLoop r machine vols s = .error e s' →
    (∃ msg err, e = .error (.wrap msg err) ∧ (msg = "failed to find plugin" ∨ msg = "failed to apply volume" ∨
      ∃ vol ∈ vols, msg = "failed to delete volume " ++ vol.name)) ∧
    ∃ cs, s'.1 = { s.1 with calls := s.1.calls ++ cs } ∧
      ∀ c ∈ cs, ∃ vol ∈ vols, deletesVolume machine vol ∧ c = deleteRequest machine s.1 vol
  | [], _, _, _, h => by cases h
  | vol :: vols, e, s, s', h => by
    have hsub : ∀ {msg : String}, (msg = "failed to find plugin" ∨ msg = "failed to apply volume" ∨
        ∃ v ∈ vols, msg = "failed to delete volume " ++ v.name) →
        msg = "failed to find plugin" ∨ msg = "failed to apply volume" ∨
          ∃ v ∈ vol :: vols, msg = "failed to delete volume " ++ v.name :=
      Or.imp_right (Or.imp_right fun ⟨v, hv, hm⟩ => ⟨v, List.mem_cons_of_mem _ hv, hm⟩)
    simp only [reconcileVolumesLoop] at h
    obtain hp | ⟨plugin, s₁, hp, h⟩ := bind_eq_error.mp h
    · obtain ⟨⟨err, rfl⟩, hs'⟩ := check_call_error (fun _ _ _ => rfl) hp
      exact ⟨⟨_, err, rfl, .inl rfl⟩, [], by simpa using hs', fun _ h => nomatch h⟩
    obtain ⟨-, hs₁⟩ := check_answer_ok hp
    rw [record_none] at hs₁
    by_cases hd : vol.deletedAt.isSome ∧ (getVolumeStatus machine.status.volumeStatus vol.name).state ≠ .attached
    · have hdel : deletesVolume machine vol = true := by simp [deletesVolume, hd]
      rw [if_pos hd] at h
      obtain hc | ⟨_, s₂, hc, h⟩ := bind_eq_error.mp h
      · obtain ⟨⟨err, rfl⟩, hs'⟩ := check_call_error (fun _ _ _ => rfl) hc
        refine ⟨⟨_, err, rfl, .inr (.inr ⟨vol, List.mem_cons_self _ _, rfl⟩)⟩, [deleteRequest machine s.1 vol], ?_,
          fun c hc => ⟨vol, List.mem_cons_self _ _, hdel, List.eq_of_mem_singleton hc⟩⟩
        rw [hs', hs₁]; rfl
      · obtain ⟨-, hs₂⟩ := check_answer_ok hc
        obtain ⟨⟨msg, err, he, hm⟩, cs, hs', hcs⟩ := reconcileVolumesLoop_fails h
        refine ⟨⟨msg, err, he, hsub hm⟩, deleteRequest machine s.1 vol :: cs, ?_, fun c hc => ?_⟩
        · rw [hs', hs₂, hs₁]; simp [World.record, deleteRequest]
        · rcases List.mem_cons.mp hc with rfl | hc
          · exact ⟨vol, List.mem_cons_self _ _, hdel, rfl⟩
          · obtain ⟨v, hv, hdv, rfl⟩ := hcs c hc
            exact ⟨v, List.mem_cons_of_mem _ hv, hdv, by rw [hs₂, hs₁]; rfl⟩
    · rw [if_neg hd] at h
      obtain ha | ⟨applied, s₂, ha, h⟩ := bind_eq_error.mp h
      · obtain ⟨⟨err, rfl⟩, hs'⟩ := check_call_error (fun _ _ _ => rfl) ha
        exact ⟨⟨_, err, rfl, .inr (.inl rfl)⟩, [], by simpa [hs₁] using hs', fun _ h => nomatch h⟩
      · obtain ⟨-, hs₂⟩ := check_answer_ok ha
        rw [record_none, hs₁] at hs₂
        obtain hk | ⟨_, _, _, hpure⟩ := bind_eq_error.mp h
        · obtain ⟨⟨msg, err, he, hm⟩, cs, hs', hcs⟩ := reconcileVolumesLoop_fails hk
          refine ⟨⟨msg, err, he, hsub hm⟩, cs, by rw [hs', hs₂], fun c hc => ?_⟩
          obtain ⟨v, hv, hdv, rfl⟩ := hcs c hc
          exact ⟨v, List.mem_cons_of_mem _ hv, hdv, by rw [hs₂]⟩
        · cases hpure

end Loop

/-- What `reconcileVolumes` writes. On success: the machine keeps, in order, the entries
it does not hand to `Delete`, each with its plugin's applied status; each `Delete` sent
succeeded; and the world gained exactly those `Delete` requests, in order, and the write
of the machine. On failure: no machine is written. The error is that of a plugin (only
`Delete` requests of removed entries then went out) or that of the write. -/
theorem reconcileVolumes_writes (r : MachineReconciler) (machine : Machine) (s : World × Faults) :
    (∀ machine' s', reconcileVolumes r machine s = .ok machine' s' →
      ∃ statuses, machine' = { machine with
          spec.volumes := machine.spec.volumes.filter (fun vol => !deletesVolume machine vol),
          status.volumeStatus := statuses } ∧
        List.Forall₂ (AppliedStatus r machine)
          (machine.spec.volumes.filter (fun vol => !deletesVolume machine vol)) statuses ∧
        (∀ vol ∈ machine.spec.volumes, deletesVolume machine vol → ∃ plugin,
          r.volumePluginManager.findPluginBySpec vol = .ok plugin ∧
          plugin.delete vol.connection.handle machine.metadata.id = .ok ()) ∧
        s'.1 = { s.1 with machines := s.1.machines.write machine'
                          calls := s.1.calls ++ (machine.spec.volumes.filter (deletesVolume machine)).map
                            (deleteRequest machine s.1) ++ [.machineUpdate machine.metadata.id] }) ∧
    (∀ e s', reconcileVolumes r machine s = .error e s' → s'.1.machines = s.1.machines ∧
      (((∃ msg err, e = .error (.wrap msg err) ∧ (msg = "failed to find plugin" ∨ msg = "failed to apply volume" ∨
          ∃ vol ∈ machine.spec.volumes, msg = "failed to delete volume " ++ vol.name)) ∧
        ∃ cs, s'.1 = { s.1 with calls := s.1.calls ++ cs } ∧
          ∀ c ∈ cs, ∃ vol ∈ machine.spec.volumes, deletesVolume machine vol ∧ c = deleteRequest machine s.1 vol) ∨
       ∃ err, e = .error (.wrap "failed to update machine status" err))) := by
  constructor
  · intro machine' s' h
    obtain ⟨kept, s₁, m, hl, rfl, hc⟩ := reconcileVolumes_ok h
    obtain ⟨h₁, h₂, h₃, h₄⟩ := reconcileVolumesLoop_returns hl
    refine ⟨kept.2, by rw [h₁], h₁ ▸ h₂, h₃, ?_⟩
    rw [check_machinesUpdate_ok hc, h₄]
    simp [World.record]
  · intro e s' h
    unfold reconcileVolumes at h
    obtain hl | ⟨kept, s₁, hl, h⟩ := bind_eq_error.mp h
    · have hf := reconcileVolumesLoop_fails hl
      obtain ⟨cs, hs', -⟩ := hf.2
      exact ⟨by rw [hs'], .inl hf⟩
    · obtain hc | ⟨_, _, _, hp⟩ := bind_eq_error.mp h
      · obtain ⟨he, hs'⟩ := check_call_error (machinesUpdate_error_world _) hc
        refine ⟨?_, .inr he⟩
        rw [hs', (reconcileVolumesLoop_returns hl).2.2.2]
        rfl
      · cases hp

end CloudHypervisorProvider.Controllers
