import CsdlRoutes.Command.Plan

/-!
# What is left of a host

Whatever is done on a host changes its disk and nothing else: its environment, its working directory
and its ways of reading and printing stay as they are.

* `Host.SameButDisk`: hosts that differ in their disks at most.
* `Host.sameButDisk_andThen`: steps one after the other.
* `Host.sameButDisk_configDirectory`, `Host.sameButDisk_saveSettings`: the steps of commands.
-/

namespace CsdlRoutes.Host

variable {host after last : Host} {α β : Type}

/-- A second host differs from the first one in its disk at most. -/
def SameButDisk (host after : Host) : Prop := ∃ disk, after = { host with disk }

theorem SameButDisk.refl (host : Host) : host.SameButDisk host := ⟨host.disk, rfl⟩

theorem SameButDisk.trans (h : host.SameButDisk after) (hlast : after.SameButDisk last) :
    host.SameButDisk last := by
  obtain ⟨_, rfl⟩ := h
  obtain ⟨disk, rfl⟩ := hlast
  exact ⟨disk, rfl⟩

theorem SameButDisk.environment (h : host.SameButDisk after) :
    after.environment = host.environment := by
  obtain ⟨disk, rfl⟩ := h
  rfl

theorem SameButDisk.prints (h : host.SameButDisk after) : after.prints = host.prints := by
  obtain ⟨disk, rfl⟩ := h
  rfl

theorem sameButDisk_andThen {state : Host × Except Failure α}
    {next : Host → α → Host × Except Failure β} (h : host.SameButDisk state.1)
    (hnext : ∀ (after : Host) (a : α), after.SameButDisk (next after a).1) :
    host.SameButDisk (andThen state next).1 := by
  obtain ⟨after, result⟩ := state
  cases result with
  | ok a => exact h.trans (hnext after a)
  | error failure => exact h

theorem sameButDisk_makeDirectories (host : Host) (p : Path) :
    host.SameButDisk (host.makeDirectories p).1 := ⟨_, rfl⟩

theorem sameButDisk_madeDirectory (host : Host) (path : Except Failure Path) :
    host.SameButDisk (host.madeDirectory path).1 :=
  sameButDisk_andThen (.refl host) fun after path =>
    sameButDisk_andThen (sameButDisk_makeDirectories after path) fun made _ => .refl made

theorem sameButDisk_configDirectory (host : Host) : host.SameButDisk host.configDirectory.1 :=
  sameButDisk_madeDirectory host host.configPath

theorem sameButDisk_globalSettings (host : Host) : host.SameButDisk host.globalSettings.1 :=
  sameButDisk_andThen (sameButDisk_configDirectory host) fun made _ => .refl made

theorem sameButDisk_replaceInDirectory (host : Host) (p : Path) (data : ByteArray)
    (d : Disturbance) : host.SameButDisk (host.replaceInDirectory p data d).1 := by
  unfold replaceInDirectory
  split
  · exact .refl host
  · exact ⟨_, rfl⟩

theorem sameButDisk_saveSettings (host : Host) (s : Settings) (d : Disturbance) :
    host.SameButDisk (host.saveSettings s d).1 :=
  sameButDisk_andThen (sameButDisk_configDirectory host) fun after directory =>
    sameButDisk_andThen (sameButDisk_makeDirectories after _) fun made _ =>
      sameButDisk_replaceInDirectory made (settingsFile directory) s.fileText.toUTF8 d

end CsdlRoutes.Host
