import ProcessControl.Errno

namespace ProcessControl

inductive PathFailure
  -- A path is a text that ends at a NUL, so the system is not asked for one with a NUL in it.
  | nulInPath
  | system (why : Errno)
deriving DecidableEq, Repr

namespace PathFailure

def explain : PathFailure → String
  | .nulInPath => "file name contained an unexpected NUL byte"
  | .system why => why.explain

end PathFailure

end ProcessControl
