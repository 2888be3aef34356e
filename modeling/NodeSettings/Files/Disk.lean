-- The tree of files as a list of entries by their places. A place is the
-- list of names from the top; the top itself is always a directory.
import NodeSettings.Sorted

namespace NodeSettings.Files

/-- The two devices that paths may lead to: one takes and gives nothing, the other is always full.
-/
inductive Device
  | null
  | full
deriving DecidableEq

inductive Entry
  | directory
  | file (content : ByteArray)
  | link (target : String)
  | device (d : Device)

abbrev Location := List String

/-- The entries below the top in the order of their places, and the directory that relative paths
start from. A file has one name: what is under one place is under no other, links apart. -/
structure Disk where
  entries : List (Location × Entry)
  working : Location
  increasing : Sorted.Increasing entries

namespace Disk

def get? (d : Disk) (l : Location) : Option Entry :=
  if l = [] then some .directory else d.entries.lookup l

def put (d : Disk) (l : Location) (e : Entry) : Disk where
  entries := Sorted.put l e d.entries
  working := d.working
  increasing := Sorted.increasing_put l e d.increasing

def erase (d : Disk) (l : Location) : Disk where
  entries := Sorted.remove l d.entries
  working := d.working
  increasing := Sorted.increasing_remove l d.increasing

/-- Takes a place away with everything below it. -/
def eraseBelow (d : Disk) (l : Location) : Disk where
  entries := d.entries.filter fun e => !l.isPrefixOf e.1
  working := d.working
  increasing := Sorted.increasing_filter _ d.increasing

/-- A disk with an empty working directory and the two devices. -/
def fresh : Disk where
  entries := [
    (["dev"], .directory),
    (["dev", "full"], .device .full),
    (["dev", "null"], .device .null),
    (["work"], .directory)]
  working := ["work"]
  increasing := by decide

/-! ## Laws -/

@[simp] theorem get?_put_same (d : Disk) {l : Location} (e : Entry) (h : l ≠ []) :
    (d.put l e).get? l = some e := by
  simp [get?, put, h, Sorted.lookup_put_same]

@[simp] theorem get?_put_other (d : Disk) {l l' : Location} (e : Entry) (h : l' ≠ l) :
    (d.put l e).get? l' = d.get? l' := by
  simp [get?, put, Sorted.lookup_put_other e d.entries h]

@[simp] theorem get?_erase_same (d : Disk) {l : Location} (h : l ≠ []) :
    (d.erase l).get? l = none := by
  simp [get?, erase, h, Sorted.lookup_remove_same]

@[simp] theorem get?_erase_other (d : Disk) {l l' : Location} (h : l' ≠ l) :
    (d.erase l).get? l' = d.get? l' := by
  simp [get?, erase, Sorted.lookup_remove_other d.entries h]

end Disk

end NodeSettings.Files
