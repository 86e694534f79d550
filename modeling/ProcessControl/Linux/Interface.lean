import ProcessControl.Unix.Interface

namespace ProcessControl.Linux

def standardRoot : String := "/proc"

abbrev FileName := List UInt8

inductive Call
  -- The names of what lies in the root, in the order of the system; an entry that cannot be read has none.
  | listRoot
  | readFile (path : List FileName)
  -- Seconds since boot.
  | bootClock
  -- The size of a page, if the system has one.
  | pageSize
deriving DecidableEq, Repr

def files : Interface where
  Call := Call
  Answer
    | .listRoot => Except PathFailure (List (Option FileName))
    | .readFile _ => Except PathFailure (List UInt8)
    | .bootClock => Except Errno Int64
    | .pageSize => Except Errno (Option Int64)

def interface : Interface := Unix.interface.sum files

def listRoot : Program files (Except PathFailure (List (Option FileName))) := .call (I := files) .listRoot

def readFile (path : List FileName) : Program files (Except PathFailure (List UInt8)) :=
  .call (I := files) (.readFile path)

def readBootClock : Program files (Except Errno Int64) := .call (I := files) .bootClock

def readPageSize : Program files (Except Errno (Option Int64)) := .call (I := files) .pageSize

def readText (path : List FileName) : Program files (Option (List Char)) := do
  match ← readFile path with
  | .ok bytes => return Text.Utf8.decode? bytes
  | .error _ => return none

def fileName (name : List Char) : FileName := Text.Utf8.encode name

end ProcessControl.Linux
