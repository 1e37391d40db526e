import Reindexing.Text.Search

/-!
# Disk

A small file system. Names lead to directories or to files, and a file lives on
for those who have it open after its name is gone. Besides ordinary files there
is a device that takes everything and keeps nothing, and one that is always full.
-/
namespace Reindexing

/-- What a path leads to. -/
inductive Node where
  | directory
  | file (handle : Nat)
  | nullDevice
  | fullDevice
  deriving DecidableEq, Repr

inductive DiskError where
  | notFound
  | isDirectory
  | notDirectory
  | exists
  | noSpace
  | denied
  | nameTooLong
  /-- The bytes of the file are no text. -/
  | notText
  | other (text : String)
  deriving DecidableEq, Repr

def DiskError.message : DiskError → String
  | .notFound => "No such file or directory (os error 2)"
  | .isDirectory => "Is a directory (os error 21)"
  | .notDirectory => "Not a directory (os error 20)"
  | .exists => "File exists (os error 17)"
  | .noSpace => "No space left on device (os error 28)"
  | .denied => "Permission denied (os error 13)"
  | .nameTooLong => "File name too long (os error 36)"
  | .notText => "stream did not contain valid UTF-8"
  | .other text => text

/-- A path as the list of its names. -/
abbrev Path := List String

structure Disk where
  /-- Ordinary files and directories; a directory need not be listed to hold a file. -/
  nodes : List (Path × Node)
  /-- The contents of the files by handle; `none` where the bytes of a file are no text. -/
  contents : List (Option String)
  deriving DecidableEq, Repr, Inhabited

namespace Disk

def empty : Disk := ⟨[], []⟩

/-- The names of a written path; one dot stands for the same directory. -/
def pathOf (s : String) : Path :=
  ((Text.splitAt (· == '/') s.toList).map String.ofList).filter fun name => name ≠ "" && name ≠ "."

def node? (d : Disk) (path : Path) : Option Node :=
  if path = ["dev", "null"] then some .nullDevice
  else if path = ["dev", "full"] then some .fullDevice
  else if path = [] || path = ["dev"] then some .directory
  else (d.nodes.find? (·.1 = path)).map (·.2)

/-- The greatest length of a name, in bytes. -/
def longestName : Nat := 255

/-- The greatest length of a written path, in bytes. -/
def longestPath : Nat := 4095

/-- Where a name leads from a directory; two dots lead to the one above. -/
def follow (path : Path) (name : String) : Except DiskError Path :=
  if name = "." then .ok path
  else if name = ".." then .ok path.dropLast
  else if longestName < name.utf8ByteSize then .error .nameTooLong
  else .ok (path ++ [name])

/-- Goes from a directory through others, which exist. -/
def enter (d : Disk) (path : Path) : List String → Except DiskError Path
  | [] => .ok path
  | name :: rest => do
    let path ← follow path name
    match d.node? path with
    | some .directory => enter d path rest
    | some _ => .error .notDirectory
    | none => .error .notFound

/-- Where a written path leads from a directory. A path with a slash or with dots at its end leads to a
directory only, and to none where a file is to be created. -/
def locate (d : Disk) (creates : Bool) (start : Path) (s : String) : Except DiskError Path := do
  if longestPath < s.utf8ByteSize then throw .nameTooLong
  let names := ((Text.splitAt (· == '/') s.toList).map String.ofList).filter (· ≠ "")
  let start := if s.toList.head? = some '/' then [] else start
  let last := names.getLast?.getD "."
  let above ← d.enter start names.dropLast
  let endsAsDirectory := s.toList.getLast? == some '/' || last == "." || last == ".."
  if endsAsDirectory && creates then throw .isDirectory
  let path ← follow above last
  match d.node? path, endsAsDirectory with
  | _, false | some .directory, true => pure path
  | some _, true => throw .notDirectory
  | none, true => throw .notFound

/-- Creates one directory inside an existing one. -/
def makeDirectory (d : Disk) (path : Path) : Except DiskError Disk :=
  match d.node? path with
  | some .directory => .ok d
  | some _ => .error .exists
  | none => .ok { d with nodes := d.nodes ++ [(path, .directory)] }

/-- Creates a directory and those above it, of which `made` exist. -/
def makeDirectories (d : Disk) (made : Path) : List String → Except DiskError Disk
  | [] => .ok d
  | name :: rest => do
    let path ← follow made name
    match d.node? path, rest with
    | some (.file _), _ :: _ => .error .notDirectory
    | _, _ => do (← d.makeDirectory path).makeDirectories path rest

/-- The directories above a path exist. -/
def checkParents (d : Disk) (path : Path) : Except DiskError Unit :=
  match d.node? path.dropLast with
  | some .directory => .ok ()
  | some _ => .error .notDirectory
  | none => .error .notFound

/-- Opens a file for appending, creating it if there is none. -/
def openAppend (d : Disk) (path : Path) : Except DiskError (Disk × Node) :=
  match d.node? path with
  | some .directory => .error .isDirectory
  | some node => .ok (d, node)
  | none => do
    d.checkParents path
    let node := Node.file d.contents.length
    pure (⟨d.nodes ++ [(path, node)], d.contents ++ [some ""]⟩, node)

/-- Appends to an open file. -/
def append (d : Disk) (node : Node) (text : String) : Except DiskError Disk :=
  match node with
  | .file handle => .ok { d with contents := d.contents.modify handle fun held => held.map (· ++ text) }
  | .nullDevice => .ok d
  | .fullDevice => .error .noSpace
  | .directory => .error .isDirectory

def read (d : Disk) (path : Path) : Except DiskError String :=
  match d.node? path with
  | some (.file handle) =>
    match d.contents[handle]? with
    | some (some text) => .ok text
    | some none => .error .notText
    | none => .ok ""
  | some .directory => .error .isDirectory
  | some _ => .ok ""
  | none => do
    d.checkParents path
    .error .notFound

/-- Puts a content into a file, creating it if there is none. -/
def write (d : Disk) (path : Path) (text : Option String) : Except DiskError Disk :=
  match d.node? path with
  | some (.file handle) => .ok { d with contents := d.contents.set handle text }
  | some .directory => .error .isDirectory
  | some .nullDevice => .ok d
  | some .fullDevice => .error .noSpace
  | none => do
    d.checkParents path
    pure ⟨d.nodes ++ [(path, .file d.contents.length)], d.contents ++ [text]⟩

/-- Puts a content into a file and creates its directories; what cannot be done is left undone. -/
def put (d : Disk) (path : Path) (text : Option String) : Disk :=
  let d := (d.makeDirectories [] path.dropLast).toOption.getD d
  (d.write path text).toOption.getD d

/-- A disk with the given files. -/
def ofFiles (files : List (String × String)) : Disk :=
  files.foldl (fun d (name, text) => d.put (pathOf name) (some text)) empty

/-- Takes the name of a file away; its content stays for those who have it open. -/
def unlink (d : Disk) (path : Path) : Disk := { d with nodes := d.nodes.filter (·.1 ≠ path) }

end Disk

end Reindexing
