import AssetBroker.Dictionary
import AssetBroker.FileSystem

/-! A working directory to rehearse with. Paths are relative to it and are followed part
by part: only a directory can be gone through, also by a path that goes up again. Nothing
else is known of what is around it. -/
namespace AssetBroker.Rehearsal

inductive Entry where
  | file (bytes : ByteArray)
  | directory

/-- Entries by their paths from the working directory, without dots or doubled
slashes. -/
structure Directory where
  entries : Dictionary Entry

namespace Directory

def empty : Directory := ⟨.empty⟩

def joinPath (parts : List String) : String := "/".intercalate parts

/-- A place that a path has led to: the parts from the working directory, last one
first, or somewhere outside it, where nothing but directories is known. -/
inductive Place where
  | below (parts : List String)
  | outside

def entryAt (d : Directory) : Place → Option Entry
  | .below [] => some .directory
  | .below parts => d.entries.get? (joinPath parts.reverse)
  | .outside => some .directory

/-- Puts an entry below the working directory, at parts given last one first. What is
there stays, except that a file replaces a file. -/
def put (d : Directory) (parts : List String) (entry : Entry) : Directory :=
  match d.entryAt (.below parts), entry with
  | none, _ | some (.file _), .file _ => ⟨d.entries.insert (joinPath parts.reverse) entry⟩
  | some _, _ => d

/-- Where the parts of a path lead if every directory on the way is there, last one
first. -/
def settle (parts : List String) : List String :=
  parts.foldl (fun place part =>
    if part = "" ∨ part = "." then place
    else if part = ".." then place.tail
    else part :: place) []

/-- Adds an entry, and the directories on the way to it. -/
def add (d : Directory) (path : String) (entry : Entry) : Directory :=
  let parts := path.splitOn "/"
  let parents := (List.range (parts.length - 1)).map fun n => settle (parts.take (n + 1))
  (parents.foldl (fun d parent => d.put parent .directory) d).put (settle parts) entry

/-- One part further along a path, from a directory. -/
def step (d : Directory) (place : Place) (part : String) : Option Place :=
  match d.entryAt place with
  | some .directory =>
    if part = "" ∨ part = "." then some place
    else
      match place with
      | .below parts =>
        if part ≠ ".." then some (.below (part :: parts))
        else if parts = [] then some .outside
        else some (.below parts.tail)
      | .outside => if part = ".." then some .outside else none
  | _ => none

/-- Paths of this many bytes and more name nothing. -/
def pathLimit : Nat := 4096

/-- Where a path starts: one that begins with a slash starts at the root. -/
def start (path : String) : Place :=
  if path.toList.head? = some '/' then .outside else .below []

/-- The entry that a path names. The empty path names nothing. -/
def find? (d : Directory) (path : String) : Option Entry :=
  if path = "" ∨ pathLimit ≤ path.utf8ByteSize then none
  else ((path.splitOn "/").foldlM d.step (start path)).bind d.entryAt

/-- The files that can be named from the working directory. -/
def fileSystem (d : Directory) : FileSystem where
  lookup path := match d.find? path with
    | none => .missing
    | some .directory => .directory
    | some (.file bytes) => .file bytes

end Directory
end AssetBroker.Rehearsal
