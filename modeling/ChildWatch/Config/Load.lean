import ChildWatch.Config.Decode
import ChildWatch.Files.Access
import ChildWatch.Text.Utf8

/-! # Loading a configuration

One place decides: the path that is asked for, or else the first path of a list that leads to a
file, or else the settings where none are given.

* `Config.loadFile` — the configuration of a file.
* `Config.load` — the configuration of the place that decides. -/

namespace ChildWatch.Config

/-- The error of a file that is no text. -/
def notText : IoError := .custom .invalidData "stream did not contain valid UTF-8"

/-- The text of the file at a path. -/
def readText (files : FileAccess) (path : String) : Except IoError String :=
  match files.read path with
  | .error e => .error e
  | .ok bytes =>
    match Text.Utf8.decode? bytes with
    | some text => .ok text
    | none => .error notText

/-- **The configuration of a file**, which must be there and be valid. -/
def loadFile (files : FileAccess) (path : String) : Except Error Config :=
  match readText files path with
  | .error e => .error (.configLoadFailed path e.message)
  | .ok text => parse text

/-- **The configuration of the place that decides.** -/
def load (files : FileAccess) (search : List String) (asked : Option String) :
    Except Error Config :=
  match asked with
  | some path => loadFile files path
  | none =>
    match search.find? files.isFile with
    | some path => loadFile files path
    | none => .ok default

end ChildWatch.Config
