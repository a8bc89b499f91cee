import ChildWatch.Error.Io
import ChildWatch.Files.Path

/-! # File trees

A file tree is a list of files and directories by the names that lead to them.

* `FileTree.find` — what a path leads to, or why it leads nowhere.
* `FileTree.read` — the bytes of a file.
* `FileTree.namesIn` — the names in a directory. -/

namespace ChildWatch

/-- What stands at a place of a tree. Only some files can be run. -/
inductive FileEntry where
  | directory
  | file (bytes : List UInt8) (runnable : Bool)
deriving DecidableEq, Repr

/-- A **file tree**: entries by their names from the root on, and the directory in which paths start
that do not start at the root. Every directory on the way to an entry exists. -/
structure FileTree where
  entries : List (List String × FileEntry)
  current : List String
deriving DecidableEq, Repr

namespace FileTree

/-- The longest name, in bytes. -/
def maxName : Nat := 255

/-- The longest path, in bytes. -/
def maxPath : Nat := 4095

/-- The entry at a place. -/
def entry? (t : FileTree) (place : List String) : Option FileEntry :=
  match t.entries.find? (·.1 == place) with
  | some e => some e.2
  | none => if t.entries.any (fun e => place.isPrefixOf e.1) || place.isEmpty then some .directory
    else none

/-- The place that names lead to, from a place on. -/
def walk (t : FileTree) (place : List String) : List String → Except IoError (List String)
  | [] => .ok place
  | name :: rest =>
    match t.entry? place with
    | some .directory =>
      if maxName < name.utf8ByteSize then .error .nameTooLong
      else if name = "." then walk t place rest
      else if name = ".." then walk t place.dropLast rest
      else if (t.entry? (place ++ [name])).isSome then walk t (place ++ [name]) rest
      else .error .noSuchFile
    | some (.file ..) => .error .notADirectory
    | none => .error .noSuchFile

/-- The error of a path with a character that ends texts. -/
def nulInPath : IoError := .custom .invalidInput "file name contained an unexpected NUL byte"

/-- **What a path leads to**: its place and what stands there. -/
def find (t : FileTree) (path : String) : Except IoError (List String × FileEntry) :=
  if path.toList.contains '\x00' then .error nulInPath
  else if path.isEmpty then .error .noSuchFile
  else if maxPath < path.utf8ByteSize then .error .nameTooLong
  else
    match walk t (if Path.isAbsolute path then [] else t.current) (Path.names path) with
    | .error e => .error e
    | .ok place =>
      match t.entry? place with
      | some e => .ok (place, e)
      | none => .error .noSuchFile

/-- A path leads to what stands at its place. -/
theorem entry?_of_find {t : FileTree} {path : String} {place : List String} {e : FileEntry}
    (h : t.find path = .ok (place, e)) : t.entry? place = some e := by
  rw [find] at h
  split at h
  · cases h
  split at h
  · cases h
  split at h
  · cases h
  split at h
  · cases h
  split at h
  · rename_i e' hentry
    cases h
    exact hentry
  · cases h

/-- Whether a path leads to a file. -/
def isFile (t : FileTree) (path : String) : Bool :=
  match t.find path with
  | .ok (_, .file ..) => true
  | _ => false

/-- **The bytes of the file at a path.** -/
def read (t : FileTree) (path : String) : Except IoError (List UInt8) :=
  match t.find path with
  | .ok (_, .file bytes _) => .ok bytes
  | .ok (_, .directory) => .error .isADirectory
  | .error e => .error e

/-- The names in the directory at a place, in order. -/
def namesIn (t : FileTree) (place : List String) : List String :=
  let names := t.entries.filterMap fun e =>
    if place.isPrefixOf e.1 then (e.1.drop place.length).head? else none
  names.eraseDups.mergeSort fun a b => decide (a ≤ b)

end FileTree

end ChildWatch
