import ProcessControl.Unix.Interface

namespace ProcessControl.Macos

-- An entry of the kernel's process table. The command is a field of bytes that a zero ends.
structure Entry where
  pid : Int32
  command : List UInt8
deriving DecidableEq, Repr

-- What was copied out of the table: the entries, and how many bytes the kernel says they take.
structure Copied where
  bytes : Nat
  entries : List Entry
deriving DecidableEq, Repr

-- A fact about one process, with the number of bytes that the kernel wrote to tell it.
structure Fact where
  written : Int32
  value : UInt64
deriving DecidableEq, Repr

inductive Call
  | tableSize
  -- Copies the process table into a buffer for so many entries.
  | tableCopy (room : Nat)
  | taskInfo (pid : Int32)
  | bsdInfo (pid : Int32)
  -- The time of boot in seconds since 1970. It is told even where the call fails.
  | bootTime
deriving DecidableEq, Repr

def kernel : Interface where
  Call := Call
  Answer
    | .tableSize => Except Errno Nat
    | .tableCopy _ => Except Errno Copied
    | .taskInfo _ => Fact
    | .bsdInfo _ => Fact
    | .bootTime => Int64 × Option Errno

def interface : Interface := Unix.interface.sum kernel

def readTableSize : Program kernel (Except Errno Nat) := .call (I := kernel) .tableSize

def copyTable (room : Nat) : Program kernel (Except Errno Copied) := .call (I := kernel) (.tableCopy room)

def readTaskInfo (pid : Int32) : Program kernel Fact := .call (I := kernel) (.taskInfo pid)

def readBsdInfo (pid : Int32) : Program kernel Fact := .call (I := kernel) (.bsdInfo pid)

def readBootTime : Program kernel (Int64 × Option Errno) := .call (I := kernel) .bootTime

end ProcessControl.Macos
