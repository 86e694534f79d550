import ProcessControl.Text.Binary64

namespace ProcessControl.Json

-- A number of 64 bits is kept exactly; every other one is the double nearest to it.
inductive Number
  | natural (n : Nat)
  | negative (n : Nat)
  | floating (x : Text.Binary64)
deriving DecidableEq, Repr

inductive Value
  | null
  | bool (b : Bool)
  | num (n : Number)
  | str (s : String)
  | arr (items : List Value)
  | obj (members : List (String × Value))
deriving Repr

namespace Value

def nat (n : Nat) : Value := .num (.natural n)

-- The member of an object with the given name; of several the last one.
def get? (v : Value) (name : String) : Option Value :=
  match v with
  | .obj members => (members.reverse.find? (·.1 == name)).map (·.2)
  | _ => none

end Value

end ProcessControl.Json
