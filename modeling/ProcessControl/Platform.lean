import ProcessControl.Program
import ProcessControl.Record
import ProcessControl.Uptime

namespace ProcessControl

-- The operations of one kind of system. They check nothing that their callers must check.
structure Platform (I : Interface) where
  name : String
  -- The processes that can be seen, at most so many of them.
  enumerate : UInt64 → Program I (List Record)
  -- The memory of a process, or zero when it cannot be told.
  probeMemory : Pid → Program I Memory
  spawn : String → Program I (Except Failure Record)
  terminate : Pid → Program I (Except Failure Unit)
  uptime : Program I Uptime
  yieldNow : Program I Unit

end ProcessControl
