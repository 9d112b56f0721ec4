import CloudHypervisorProvider.Host.Paths
import CloudHypervisorProvider.Go.Filepath

/-! # Where `host.Paths` puts a machine's files

`PathsAt` names every directory and file by `filepath.Join` of its parent and one more
element. For a clean root and single-element names this is the plain join of
`Host.pathsAt` (`pathsAt_refines`); a volume handle that begins with `..` leaves the
machine's directory.
-/

namespace CloudHypervisorProvider.Host.Layout
open Go.Filepath Go.Filepath.CleanPath

/-- `filepath.Join(dir, elem)`. -/
def joinPath (dir elem : String) : String := ⟨Go.Filepath.join [dir.data, elem.data]⟩

/-- `paths`, the implementation of `host.Paths` that `PathsAt(rootDir)` returns. -/
structure Paths where
  rootDir : String

namespace Paths
variable (p : Paths)

def machinesDir : String := joinPath p.rootDir "machines"

def machineDir (machineUID : String) : String := joinPath p.machinesDir machineUID

def machineRootFSDir (machineUID : String) : String := joinPath (p.machineDir machineUID) "rootfs"

def machineRootFSFile (machineUID : String) : String := joinPath (p.machineRootFSDir machineUID) "rootfs"

def machineVolumesDir (machineUID : String) : String := joinPath (p.machineDir machineUID) "volumes"

def machineVolumesPluginDir (machineUID pluginName : String) : String :=
  joinPath (p.machineVolumesDir machineUID) pluginName

def machineVolumeDir (machineUID pluginName volumeName : String) : String :=
  joinPath (p.machineVolumesPluginDir machineUID pluginName) volumeName

def machinePluginsDir (machineUID : String) : String := joinPath (p.machineDir machineUID) "plugins"

def machinePluginDir (machineUID pluginName : String) : String :=
  joinPath (p.machinePluginsDir machineUID) pluginName

def machineNetworkInterfacesDir (machineUID : String) : String :=
  joinPath (p.machineDir machineUID) "networkinterfaces"

def machineNetworkInterfaceDir (machineUID networkInterfaceName : String) : String :=
  joinPath (p.machineNetworkInterfacesDir machineUID) networkInterfaceName

def machineIgnitionsDir (machineUID : String) : String := joinPath (p.machineDir machineUID) "ignitions"

def machineIgnitionFile (machineUID : String) : String :=
  joinPath (p.machineIgnitionsDir machineUID) "data.ign"

def machinesPath : CleanPath := (ofPath p.rootDir.data).push "machines".data

end Paths

theorem joinPath_text (q : CleanPath) (elem : String) :
    joinPath ⟨q.text⟩ elem = ⟨((elements elem.data).foldl push q).text⟩ :=
  congrArg String.mk (join_text q elem.data)

theorem joinPath_normal (q : CleanPath) {elem : String} (h : Normal elem.data) :
    joinPath ⟨q.text⟩ elem = ⟨(q.push elem.data).text⟩ := by
  rw [joinPath_text, elements_of_not_mem h.2.2.2]
  rfl

theorem joinPath_eq_push (dir : String) {elem : String} (h : Normal elem.data) :
    joinPath dir elem = ⟨((ofPath dir.data).push elem.data).text⟩ :=
  congrArg String.mk (join_normal _ h)

theorem joinPath_ne {dir dir' e e' : String} (he : Normal e.data) (he' : Normal e'.data) (hne : e ≠ e') :
    joinPath dir e ≠ joinPath dir' e' := by
  rw [joinPath_eq_push _ he, joinPath_eq_push _ he']
  intro h
  have hnames := congrArg (fun s : String => (ofPath s.data).names) h
  simp only [ofPath_text, (push_of_normal _ he).2, (push_of_normal _ he').2] at hnames
  obtain ⟨-, hlast⟩ := List.append_inj' hnames rfl
  exact hne (String.ext (List.singleton_inj.mp hlast))

theorem machinesDir_eq (p : Paths) : p.machinesDir = ⟨p.machinesPath.text⟩ :=
  congrArg String.mk (join_normal _ (by decide : Normal "machines".data))

theorem machineDir_eq (p : Paths) {machineUID : String} (h : Normal machineUID.data) :
    p.machineDir machineUID = ⟨(p.machinesPath.push machineUID.data).text⟩ := by
  rw [Paths.machineDir, machinesDir_eq, joinPath_normal _ h]

theorem machineDir_not_below (p : Paths) {m m' : String} (hm : Normal m.data) (hm' : Normal m'.data) :
    ¬ ∃ rest, p.machineDir m' = p.machineDir m ++ "/" ++ rest := by
  rintro ⟨rest, hrest⟩
  rw [machineDir_eq p hm, machineDir_eq p hm'] at hrest
  have hdata : elements (p.machinesPath.push m'.data).text =
      elements ((p.machinesPath.push m.data).text ++ ['/'] ++ rest.data) :=
    congrArg (fun s => elements s.data) hrest
  rw [List.append_assoc, List.singleton_append, elements_append_sep] at hdata
  have hlen := congrArg List.length hdata
  obtain ⟨hu, hn⟩ := p.machinesPath.push_of_normal hm
  obtain ⟨hu', hn'⟩ := p.machinesPath.push_of_normal hm'
  rw [elements_text _ (by simp [parts, hn']), elements_text _ (by simp [parts, hn])] at hlen
  simp only [parts, push_rooted, hu, hn, hu', hn', List.length_append, List.length_replicate,
    List.length_singleton] at hlen
  have hrest_pos := List.length_pos_of_ne_nil (elements_ne_nil rest.data)
  omega

/-- A volume handle `../../../m'`, or a NIC name `../../m'`, joined below the directory
of the machine `m` is cleaned to the directory of the machine `m'`, which does not lie
below that of `m`. -/
theorem machineVolumeDir_escapes (p : Paths) {m m' pluginName : String}
    (hm : Normal m.data) (hm' : Normal m'.data) (hplugin : Normal pluginName.data) :
    p.machineVolumeDir m pluginName ("../../../" ++ m') = p.machineDir m' ∧
    p.machineNetworkInterfaceDir m ("../../" ++ m') = p.machineDir m' ∧
    ¬ ∃ rest, p.machineDir m' = p.machineDir m ++ "/" ++ rest := by
  have hv : Normal "volumes".data := by decide
  have hn : Normal "networkinterfaces".data := by decide
  refine ⟨?_, ?_, machineDir_not_below p hm hm'⟩
  · rw [Paths.machineVolumeDir, Paths.machineVolumesPluginDir, Paths.machineVolumesDir, machineDir_eq p hm,
      joinPath_normal _ hv, joinPath_normal _ hplugin, joinPath_text, machineDir_eq p hm']
    show (⟨((elements ('.' :: '.' :: '/' :: '.' :: '.' :: '/' :: '.' :: '.' :: '/' :: m'.data)).foldl push
      (((p.machinesPath.push m.data).push "volumes".data).push pluginName.data)).text⟩ : String) = _
    simp only [elements_dotdot_sep, elements_of_not_mem hm'.2.2.2, List.foldl_cons, List.foldl_nil,
      push_normal_dotdot _ hplugin, push_normal_dotdot _ hv, push_normal_dotdot _ hm]
  · rw [Paths.machineNetworkInterfaceDir, Paths.machineNetworkInterfacesDir, machineDir_eq p hm,
      joinPath_normal _ hn, joinPath_text, machineDir_eq p hm']
    show (⟨((elements ('.' :: '.' :: '/' :: '.' :: '.' :: '/' :: m'.data)).foldl push
      ((p.machinesPath.push m.data).push "networkinterfaces".data)).text⟩ : String) = _
    simp only [elements_dotdot_sep, elements_of_not_mem hm'.2.2.2, List.foldl_cons, List.foldl_nil,
      push_normal_dotdot _ hn, push_normal_dotdot _ hm]

theorem machineVolumeDir_escapes_m1 :
    let p : Paths := ⟨"/var/lib/cloud-hypervisor-provider"⟩
    p.machineVolumeDir "m1" "ceph" "../../../m2" = p.machineDir "m2" ∧
    p.machineNetworkInterfaceDir "m1" "../../m2" = p.machineDir "m2" ∧
    ¬ ∃ rest, p.machineDir "m2" = p.machineDir "m1" ++ "/" ++ rest :=
  machineVolumeDir_escapes _ (by decide) (by decide) (by decide)

def CleanText (a : String) : Prop := ∃ q : CleanPath, q.parts ≠ [] ∧ a = ⟨q.text⟩

/-- Joining a single element onto a clean text is appending a separator and the
element, and gives a clean text again. -/
theorem joinPath_of_cleanText {a e : String} (ha : CleanText a) (h : Normal e.data) :
    joinPath a e = Host.join a e ∧ CleanText (Host.join a e) := by
  obtain ⟨q, hq, rfl⟩ := ha
  have hj : Host.join ⟨q.text⟩ e = ⟨(q.push e.data).text⟩ :=
    String.ext (by simp [Host.join, text_push q hq h])
  exact ⟨(joinPath_normal q h).trans hj.symm, q.push e.data, q.push_parts_ne_nil h, hj⟩

/-- For a clean root and a single-element machine id, `Host.pathsAt` names every
directory of the machine as `PathsAt` does. -/
theorem pathsAt_refines {rootDir machineUID : String} (hroot : CleanText rootDir) (h : Normal machineUID.data) :
    let p : Paths := ⟨rootDir⟩
    p.machineDir machineUID = (pathsAt rootDir).machineDir machineUID ∧
    p.machineRootFSDir machineUID = (pathsAt rootDir).machineRootFSDir machineUID ∧
    p.machineRootFSFile machineUID = (pathsAt rootDir).machineRootFSFile machineUID ∧
    p.machineVolumesDir machineUID = (pathsAt rootDir).machineVolumesDir machineUID ∧
    p.machineIgnitionsDir machineUID = (pathsAt rootDir).machineIgnitionsDir machineUID ∧
    p.machineNetworkInterfacesDir machineUID = (pathsAt rootDir).machineNetworkInterfacesDir machineUID := by
  have hM := joinPath_of_cleanText hroot (by decide : Normal "machines".data)
  have hD := joinPath_of_cleanText hM.2 h
  have hdir : (⟨rootDir⟩ : Paths).machineDir machineUID = Host.join (Host.join rootDir "machines") machineUID := by
    rw [Paths.machineDir, Paths.machinesDir, hM.1, hD.1]
  have hrootfs := joinPath_of_cleanText hD.2 (by decide : Normal "rootfs".data)
  refine ⟨hdir, ?_, ?_, ?_, ?_, ?_⟩
  · rw [Paths.machineRootFSDir, hdir, hrootfs.1]; rfl
  · rw [Paths.machineRootFSFile, Paths.machineRootFSDir, hdir, hrootfs.1,
      (joinPath_of_cleanText hrootfs.2 (by decide : Normal "rootfs".data)).1]; rfl
  · rw [Paths.machineVolumesDir, hdir, (joinPath_of_cleanText hD.2 (by decide : Normal "volumes".data)).1]; rfl
  · rw [Paths.machineIgnitionsDir, hdir, (joinPath_of_cleanText hD.2 (by decide : Normal "ignitions".data)).1]; rfl
  · rw [Paths.machineNetworkInterfacesDir, hdir,
      (joinPath_of_cleanText hD.2 (by decide : Normal "networkinterfaces".data)).1]; rfl

theorem pathsAt_refines_varLibChp :
    CleanText "/var/lib/chp" ∧ Normal "m1".data ∧
      let p : Paths := ⟨"/var/lib/chp"⟩
      p.machineDir "m1" = (pathsAt "/var/lib/chp").machineDir "m1" ∧
      p.machineRootFSDir "m1" = (pathsAt "/var/lib/chp").machineRootFSDir "m1" ∧
      p.machineRootFSFile "m1" = (pathsAt "/var/lib/chp").machineRootFSFile "m1" ∧
      p.machineVolumesDir "m1" = (pathsAt "/var/lib/chp").machineVolumesDir "m1" ∧
      p.machineIgnitionsDir "m1" = (pathsAt "/var/lib/chp").machineIgnitionsDir "m1" ∧
      p.machineNetworkInterfacesDir "m1" = (pathsAt "/var/lib/chp").machineNetworkInterfacesDir "m1" :=
  have hroot : CleanText "/var/lib/chp" := ⟨CleanPath.ofPath "/var/lib/chp".data, by decide, by decide⟩
  ⟨hroot, by decide, pathsAt_refines hroot (by decide)⟩

end CloudHypervisorProvider.Host.Layout
