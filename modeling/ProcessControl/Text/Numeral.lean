import ProcessControl.Text.Binary64
import ProcessControl.Text.Decimal

namespace ProcessControl.Text

inductive Numeral
  | decimal (negative : Bool) (coefficient : Nat) (exponent : Int)
  | infinite (negative : Bool)
  | nan
deriving DecidableEq, Repr

namespace Numeral

open Decimal (isDigit digitValue)

-- From here on the further digits of an exponent are not looked at.
def exponentBound : Nat := 65536

def exponentValue (ds : List Char) : Nat :=
  ds.foldl (fun n d => if n < exponentBound then 10 * n + digitValue d else n) 0

def exponent? : List Char → Option Int
  | [] => some 0
  | c :: cs =>
    if c = 'e' ∨ c = 'E' then
      let (negative, ds) := match cs with
        | '-' :: rest => (true, rest)
        | '+' :: rest => (false, rest)
        | rest => (false, rest)
      if ds ≠ [] ∧ ds.all isDigit then
        some (if negative then -(exponentValue ds : Int) else exponentValue ds)
      else none
    else none

-- Digits, perhaps a point and more digits, perhaps an exponent; at least one digit before the exponent.
def unsigned? (negative : Bool) (cs : List Char) : Option Numeral :=
  let whole := cs.takeWhile isDigit
  let rest := cs.dropWhile isDigit
  let (fraction, tail) := match rest with
    | '.' :: more => (more.takeWhile isDigit, more.dropWhile isDigit)
    | _ => ([], rest)
  if whole = [] ∧ fraction = [] then none
  else (exponent? tail).map fun e =>
    let ds := whole ++ fraction
    .decimal negative (Decimal.valueInHalves ds.length ds) (e - fraction.length)

def isWord (cs : List Char) (word : String) : Bool :=
  cs.map Char.toLower == word.toList

def read? (cs : List Char) : Option Numeral :=
  let (negative, body) := match cs with
    | '-' :: rest => (true, rest)
    | '+' :: rest => (false, rest)
    | _ => (false, cs)
  if isWord body "inf" || isWord body "infinity" then some (.infinite negative)
  else if isWord body "nan" then some .nan
  else unsigned? negative body

-- Far outside the range of doubles the digits no longer matter; a binary digit is worth between three and four
-- tenths of a decimal one.
def toBinary64 : Numeral → Binary64
  | .nan => .nan
  | .infinite s => .infinite s
  | .decimal s c e =>
    if c = 0 then .finite s 0 0 else
      if e + (3 * c.log2 / 10 : Nat) > 400 then .infinite s
      else if e + (4 * c.log2 / 10 : Nat) < -400 then .finite s 0 0
      else if 0 ≤ e then Binary64.ofRatio s (c * Nat.pow 10 e.toNat) 1
      else Binary64.ofRatio s c (Nat.pow 10 (-e).toNat)

end Numeral

end ProcessControl.Text
