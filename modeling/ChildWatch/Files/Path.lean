/-! # Paths

Paths are texts; names are separated by slashes.

* `Path.join` — a path taken from a directory.
* `Path.names` — the names of a path. -/

namespace ChildWatch.Path

/-- Whether a path starts at the root. -/
def isAbsolute (path : String) : Bool := path.toList.head? == some '/'

/-- **A path taken from a directory**: the path itself if it starts at the root, else the directory, a
slash unless it ends in one, and the path. -/
def join (dir path : String) : String :=
  if isAbsolute path then path
  else if dir.isEmpty || dir.toList.getLast? == some '/' then dir ++ path
  else dir ++ "/" ++ path

/-- The pieces between the slashes of a path, the empty ones too. -/
def pieces : List Char → List (List Char)
  | [] => [[]]
  | c :: rest =>
    if c = '/' then [] :: pieces rest
    else
      match pieces rest with
      | [] => [[c]]
      | piece :: more => (c :: piece) :: more

/-- **The names of a path**, in order. A slash at the end asks for a directory and counts as the name
of the directory itself. -/
def names (path : String) : List String :=
  let all := (pieces path.toList).map String.ofList
  let named := all.filter (· != "")
  if all.getLast? == some "" && all.length > 1 then named ++ ["."] else named

end ChildWatch.Path
