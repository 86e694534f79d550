import ProcessControl.Log

namespace ProcessControl

def slowThreshold : Duration := .ofMillis 100

inductive Remark
  | field (field : Field)
  | failure (text : String)
  | pause (time : Duration)
deriving DecidableEq, Repr

namespace Remark

def entries : Remark → List LogEntry
  | .field f => [.recorded f]
  | .failure text => LogEntry.failed text
  | .pause _ => []

def nanos : Remark → Nat
  | .pause time => time.nanos
  | _ => 0

end Remark

-- What closing an operation tells, so many nanoseconds after its opening.
def operationClose (nanos : Nat) : List LogEntry :=
  if slowThreshold.nanos < nanos then [.noticed .slow] else []

def operationLog (name : String) (remarks : List Remark) : List LogEntry :=
  .opened name :: remarks.flatMap Remark.entries ++ operationClose (remarks.foldl (fun n r => n + r.nanos) 0)

end ProcessControl
