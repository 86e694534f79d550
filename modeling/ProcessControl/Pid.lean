namespace ProcessControl

-- A process identifier. Zero names no process.
abbrev Pid := UInt32

-- A number of bytes of memory. Zero also stands for an unknown reading.
abbrev Memory := UInt64

namespace Pid

def greatestTarget : Nat := 0x7FFFFFFF

-- The identifier as the target of a signal: positive in a signed word, so that it names one process and never
-- a group.
def target? (pid : Pid) : Option Int32 :=
  if 0 < pid.toNat ∧ pid.toNat ≤ greatestTarget then some (Int32.ofNat pid.toNat) else none

end Pid

end ProcessControl
