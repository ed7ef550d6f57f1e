/-! The files that a host can name, as a value: what is found at each path. -/
namespace AssetBroker

/-- What is found at a path. -/
inductive FileNode where
  /-- Nothing, as far as can be told. -/
  | missing
  | directory
  /-- Something that cannot be read, for a reason that the system gives. -/
  | unreadable (reason : String)
  | file (bytes : ByteArray)

structure FileSystem where
  lookup : String → FileNode

namespace FileSystem

/-- Whether anything is found at a path. -/
def isThere (fs : FileSystem) (path : String) : Bool :=
  match fs.lookup path with
  | .missing => false
  | .directory | .unreadable _ | .file _ => true

/-- The text of a file, or why there is none. -/
def readText (fs : FileSystem) (path : String) : Except String String :=
  match fs.lookup path with
  | .missing => .error "No such file or directory (os error 2)"
  | .directory => .error "Is a directory (os error 21)"
  | .unreadable reason => .error reason
  | .file bytes =>
    match String.fromUTF8? bytes with
    | some text => .ok text
    | none => .error "stream did not contain valid UTF-8"

end FileSystem
end AssetBroker
