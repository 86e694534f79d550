import ProcessControl.Text.Binary64
import ProcessControl.Text.Decimal
import ProcessControl.Text.Printable

namespace ProcessControl.Json

inductive Found
  | null
  | bool (b : Bool)
  | natural (n : Nat)
  | negative (n : Nat)
  | floating (x : Text.Binary64)
  | text (s : String)
  | sequence
  | map
deriving DecidableEq, Repr

-- How a JSON value differs from the shape asked for.
inductive Mismatch
  | kind (found : Found) (expected : String)
  | range (found : Found) (expected : String)
  | length (count : Nat) (expected : String)
  | variant (name : String) (known : List String)
  | missing (field : String)
  | duplicate (field : String)
deriving DecidableEq, Repr

inductive Fault
  | malformed
  | truncated
  | mismatch (why : Mismatch)
deriving DecidableEq, Repr

namespace Found

def describe : Found → String
  | .null => "null"
  | .bool b => if b then "boolean `true`" else "boolean `false`"
  | .natural n => "integer `" ++ String.ofList (Text.Decimal.digits n) ++ "`"
  | .negative n => "integer `-" ++ String.ofList (Text.Decimal.digits n) ++ "`"
  | .floating x => "floating point `" ++ String.ofList x.text ++ "`"
  | .text s => "string " ++ String.ofList (Text.literal s.toList)
  | .sequence => "sequence"
  | .map => "map"

end Found

namespace Mismatch

-- The names of the known variants: one, two joined by "or", or a list.
def choices : List String → String
  | [] => "there are no variants"
  | [a] => "expected `" ++ a ++ "`"
  | [a, b] => "expected `" ++ a ++ "` or `" ++ b ++ "`"
  | names => "expected one of " ++ String.intercalate ", " (names.map fun n => "`" ++ n ++ "`")

def message : Mismatch → String
  | .kind found expected => "invalid type: " ++ found.describe ++ ", expected " ++ expected
  | .range found expected => "invalid value: " ++ found.describe ++ ", expected " ++ expected
  | .length count expected => "invalid length " ++ Text.Decimal.text count ++ ", expected " ++ expected
  | .variant name known => "unknown variant `" ++ name ++ "`, " ++ choices known
  | .missing field => "missing field `" ++ field ++ "`"
  | .duplicate field => "duplicate field `" ++ field ++ "`"

end Mismatch

end ProcessControl.Json
