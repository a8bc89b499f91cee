import ChildWatch.Files.Tree

/-! # Access to files

What a program learns of the files of its system when it looks for them by their paths. A file may be
there and still not be readable.

* `FileAccess` — the answers that paths get.
* `FileTree.access` — those of a file tree. -/

namespace ChildWatch

/-- What paths lead to: whether it **is a file**, and its bytes or why they cannot be **read**. -/
structure FileAccess where
  isFile : String → Bool
  read : String → Except IoError (List UInt8)

/-- In a file tree every file can be read. -/
def FileTree.access (t : FileTree) : FileAccess := ⟨t.isFile, t.read⟩

instance : Coe FileTree FileAccess := ⟨FileTree.access⟩

end ChildWatch
