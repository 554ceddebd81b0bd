import Dialogue.RunStore
import Dialogue.Text.Quoted

/-!
# The files around the program

What stands at a path, why nothing can be found there, and whether a store of runs can be opened.
-/
namespace Dialogue.Console

inductive Entry where
  | directory
  | file (text : String)
  /-- A device reads as an empty text and keeps nothing. -/
  | device

/-- Why nothing is found at a path. -/
inductive PathFault where
  | missing
  | notDirectory
  | nameTooLong
  deriving DecidableEq

/-- What stands at every path. -/
abbrev Disk := String → Except PathFault Entry

/-- Why the text of a file cannot be read. -/
inductive FileError where
  | badPath
  | directory (path : String)
  | fault (path : String) (f : PathFault)
  deriving DecidableEq

def FileError.message : FileError → String
  | badPath => "embedded null byte"
  | directory path => "[Errno 21] Is a directory: " ++ Text.quote path
  | fault path .missing => "[Errno 2] No such file or directory: " ++ Text.quote path
  | fault path .notDirectory => "[Errno 20] Not a directory: " ++ Text.quote path
  | fault path .nameTooLong => "[Errno 36] File name too long: " ++ Text.quote path

/-- The names in a path that lead somewhere. -/
def pathNames (path : String) : List String :=
  (path.splitOn "/").filter fun n => n ≠ "" && n ≠ "."

/-- A path without the names that lead nowhere. Two slashes at the start are kept, more are one. -/
def normalPath (path : String) : String :=
  let slashes := (path.toList.takeWhile (· = '/')).length
  let root := if slashes = 0 then "" else if slashes = 2 then "//" else "/"
  let whole := root ++ "/".intercalate (pathNames path)
  if whole = "" then "." else whole

namespace Disk

/-- The text of a file. -/
def read (disk : Disk) (path : String) : Except FileError String :=
  if path.contains '\x00' then .error .badPath
  else match disk path with
    | .ok (.file text) => .ok text
    | .ok .device => .ok ""
    | .ok .directory => .error (.directory (normalPath path))
    | .error f => .error (.fault (normalPath path) f)

end Disk

/-! ## Stores -/

/-- Why a store of runs cannot be opened. -/
inductive StoreError where
  | badPath
  | unopenable
  | keepsNothing
  | notStore
  deriving DecidableEq

def StoreError.message : StoreError → String
  | badPath => "embedded null byte"
  | unopenable => "unable to open database file"
  | keepsNothing => "disk I/O error"
  | notStore => "file is not a database"

/-- The place that is kept in memory alone. -/
def memoryPlace : String := ":memory:"

/-- The longest name of a store; files beside it have longer ones. -/
def storeNameLimit : Nat := 247

def storePathLimit : Nat := 504

/-- The names of a path without those that are taken back by two dots. Two dots that take nothing
back stay where the path does not begin at the root. -/
def straightNames (path : String) : List String :=
  let names := (pathNames path).foldl (fun out n =>
    if n ≠ ".." then n :: out
    else match out with
      | [] => if path.startsWith "/" then [] else [n]
      | last :: rest => if last = ".." then n :: out else rest) []
  names.reverse

/-- The path of names under the root or the directory that the program is in. -/
def pathOf (fromRoot : Bool) (names : List String) : String :=
  let whole := (if fromRoot then "/" else "") ++ "/".intercalate names
  if whole = "" then "." else whole

/-- Opens the store at a place. It is made where there is none, in a directory. -/
def Disk.openStore (disk : Disk) (place : String) : Except StoreError RunStore :=
  let fromRoot := place.startsWith "/"
  let names := straightNames place
  let path := pathOf fromRoot names
  if place.contains '\x00' then .error .badPath
  else if place = memoryPlace then .ok {}
  else if storePathLimit < path.utf8ByteSize
      || names.any (storeNameLimit < ·.utf8ByteSize) then .error .unopenable
  else match disk path with
    | .ok .directory => .error .unopenable
    | .ok .device => .error .keepsNothing
    | .ok (.file text) => if text = "" then .ok {} else .error .notStore
    | .error _ =>
      match disk (pathOf fromRoot names.dropLast) with
      | .ok .directory => .ok {}
      | _ => .error .unopenable

end Dialogue.Console
