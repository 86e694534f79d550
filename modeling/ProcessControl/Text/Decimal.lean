namespace ProcessControl.Text.Decimal

def isDigit (c : Char) : Bool := '0' ≤ c && c ≤ '9'

def digitValue (c : Char) : Nat := c.toNat - '0'.toNat

def value (ds : List Char) : Nat :=
  ds.foldl (fun n d => 10 * n + digitValue d) 0

-- The same number, worked out from both halves of the row up to so many times; long rows take less time so.
def valueInHalves : Nat → List Char → Nat
  | 0, ds => value ds
  | rounds + 1, ds =>
    if ds.length ≤ 64 then value ds
    else
      let (high, low) := ds.splitAt (ds.length / 2)
      valueInHalves rounds high * Nat.pow 10 low.length + valueInHalves rounds low

-- The number that a row of digits denotes, or the limit if the number is greater.
def valueUpTo (limit : Nat) (ds : List Char) : Nat :=
  ds.foldl (fun n d => min limit (10 * n + digitValue d)) 0

def digits (n : Nat) : List Char := Nat.toDigits 10 n

def text (n : Nat) : String := String.ofList (digits n)

def signedText (n : Int) : String :=
  String.ofList (if n < 0 then '-' :: digits n.natAbs else digits n.natAbs)

def read? (cs : List Char) : Option Nat :=
  if cs ≠ [] ∧ cs.all isDigit then some (value cs) else none

def readPlain? (limit : Nat) (cs : List Char) : Option Nat :=
  if cs ≠ [] ∧ cs.all isDigit then some (valueUpTo limit cs) |>.filter (· < limit) else none

-- A number below `limit`, written with digits and at most one plus sign before them.
def readBelow? (limit : Nat) (cs : List Char) : Option Nat :=
  readPlain? limit (match cs with
    | '+' :: rest => rest
    | _ => cs)

theorem value_append (xs ys : List Char) : value (xs ++ ys) = value xs * Nat.pow 10 ys.length + value ys := by
  have step (ys : List Char) (n : Nat) :
      ys.foldl (fun n d => 10 * n + digitValue d) n = n * Nat.pow 10 ys.length + value ys := by
    induction ys generalizing n
    case nil => simp [value]
    case cons y ys hi =>
      simp only [List.foldl_cons, List.length_cons, value, Nat.mul_zero, Nat.zero_add]
      rw [hi, hi (digitValue y)]
      simp only [Nat.pow_eq, Nat.pow_succ, Nat.add_mul]
      rw [Nat.add_assoc, Nat.mul_comm 10 n, Nat.mul_assoc, Nat.mul_comm 10]
  simp only [value, List.foldl_append]
  exact step ys _

theorem valueInHalves_eq_value (rounds : Nat) (ds : List Char) : valueInHalves rounds ds = value ds := by
  induction rounds generalizing ds
  case zero => rfl
  case succ rounds hi =>
    simp only [valueInHalves]
    split
    case isTrue  => rfl
    case isFalse =>
      simp only [hi, List.splitAt_eq]
      rw [← value_append, List.take_append_drop]

theorem valueUpTo_eq_min (limit : Nat) (ds : List Char) : valueUpTo limit ds = min limit (value ds) := by
  have step (n : Nat) : ds.foldl (fun n d => min limit (10 * n + digitValue d)) (min limit n) =
      min limit (ds.foldl (fun n d => 10 * n + digitValue d) n) := by
    induction ds generalizing n
    case nil => rfl
    case cons d ds hi =>
      have h : min limit (10 * min limit n + digitValue d) = min limit (10 * n + digitValue d) := by omega
      simp only [List.foldl_cons, h, hi]
  have h := step 0
  simpa only [valueUpTo, value, Nat.min_zero] using h

end ProcessControl.Text.Decimal
