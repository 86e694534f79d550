import ProcessControl.Platform

namespace ProcessControl.Degraded

inductive Call
  -- Seconds since 1970.
  | wallClock
deriving DecidableEq, Repr

def interface : Interface := ⟨Call, fun _ => UInt64⟩

def platform : Platform interface where
  name := "fallback"
  enumerate _ := return []
  probeMemory _ := return 0
  spawn _ := return .error (.unsupported "spawn")
  terminate _ := return .error (.unsupported "terminate")
  uptime := do return .wallClock (← Program.call (I := interface) .wallClock)
  yieldNow := return ()

end ProcessControl.Degraded
