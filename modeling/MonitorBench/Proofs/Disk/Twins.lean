import MonitorBench.Proofs.Disk.Put

/-!
# Disks that are the same but for one place

Two disks that have the same entries everywhere but at one location stay so when something is put
at that location, on both of them or on one.
-/

set_option autoImplicit false

namespace MonitorBench.Disk

/-- The disks are the same but for what stands at the location. -/
structure SameBeside (location : Location) (disk other : Disk) : Prop where
  home : other.home = disk.home
  programs : other.programs = disk.programs
  elsewhere : ∀ place, place ≠ location → Disk.entry? other place = Disk.entry? disk place

variable {location : Location} {disk other third : Disk}

/-- Being the same beside a location goes both ways. -/
theorem SameBeside.symm (h : SameBeside location disk other) : SameBeside location other disk where
  home := h.home.symm
  programs := h.programs.symm
  elsewhere place ne := (h.elsewhere place ne).symm

/-- Being the same beside a location carries over from disk to disk. -/
theorem SameBeside.trans (h : SameBeside location disk other)
    (others : SameBeside location other third) : SameBeside location disk third where
  home := others.home.trans h.home
  programs := others.programs.trans h.programs
  elsewhere place ne := (others.elsewhere place ne).trans (h.elsewhere place ne)

/-- Putting something at a location changes nothing beside it. -/
theorem sameBeside_put (below_root : location ≠ []) (disk : Disk) (entry : Entry) :
    SameBeside location disk (disk.put location entry) where
  home := rfl
  programs := rfl
  elsewhere place ne := by rw [entry?_put below_root, if_neg ne]

/-- Whatever is put there, disks stay the same beside it. -/
theorem SameBeside.put (h : SameBeside location disk other) (below_root : location ≠ [])
    (entry others : Entry) :
    SameBeside location (disk.put location entry) (other.put location others) :=
  ((sameBeside_put below_root disk entry).symm.trans h).trans
    (sameBeside_put below_root other others)

/-- A file that can be opened does not stand at the root. -/
theorem ne_root_of_openFile {path : String} {held : Bytes}
    (opened : disk.openFile path = .ok (location, held)) : location ≠ [] :=
  ne_root_of_not_directory (not_directory_of_openFile opened)

end MonitorBench.Disk
