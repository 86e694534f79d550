namespace ProcessControl.Text

-- A finite number is `mantissa * 2 ^ exponent`, with the sign kept apart so that zero has two forms.
inductive Binary64
  | finite (negative : Bool) (mantissa : Nat) (exponent : Int)
  | infinite (negative : Bool)
  | nan
deriving DecidableEq, Repr

namespace Binary64

def zero : Binary64 := .finite false 0 0

def scale (a : Nat) (e : Int) : Nat × Nat :=
  if 0 ≤ e then (a <<< e.toNat, 1) else (a, 1 <<< (-e).toNat)

-- The quotient rounded to the nearest natural, a half to the even neighbour.
def divideToEven (num den : Nat) : Nat :=
  let q := num / den
  let r := num % den
  if 2 * r > den || (2 * r == den && q % 2 == 1) then q + 1 else q

-- The double nearest to `num / den`, ties to even; beyond the largest one it is infinite.
def ofRatio (negative : Bool) (num den : Nat) : Binary64 :=
  if num = 0 then .finite negative 0 0 else
    let guess : Int := num.log2 - den.log2 - 52
    let e := max (if fits num den guess then guess else guess - 1) (-1074)
    let (n, d) := shifted num den e
    let m := divideToEven n d
    let (m, e) := if m = 1 <<< 53 then (1 <<< 52, e + 1) else (m, e)
    if e > 971 then .infinite negative else .finite negative m e
where
  shifted (num den : Nat) (e : Int) : Nat × Nat :=
    if 0 ≤ e then (num, den <<< e.toNat) else (num <<< (-e).toNat, den)
  fits (num den : Nat) (e : Int) : Bool :=
    let (n, d) := shifted num den e
    d <<< 52 ≤ n

def ofNat (n : Nat) : Binary64 := ofRatio false n 1

def isInfinite : Binary64 → Bool
  | .infinite _ => true
  | _ => false

def isZero : Binary64 → Bool
  | .finite _ 0 _ => true
  | _ => false

def negate : Binary64 → Binary64
  | .finite s m e => .finite (!s) m e
  | .infinite s => .infinite (!s)
  | .nan => .nan

def times : Binary64 → Binary64 → Binary64
  | .finite s m e, .finite t n f =>
    let (num, den) := scale (m * n) (e + f)
    ofRatio (s != t) num den
  | .nan, _ => .nan
  | _, .nan => .nan
  | x, .finite t _ _ => if t then x.negate else x
  | .finite s _ _, y => if s then y.negate else y
  | x, .infinite t => if t then x.negate else x

def dividedBy : Binary64 → Binary64 → Binary64
  | .finite s m e, .finite t n f =>
    let (num, den) := scale m (e - f)
    ofRatio (s != t) num (den * n)
  | x, .finite t _ _ => if t then x.negate else x
  | .finite s _ _, .infinite t => .finite (s != t) 0 0
  | _, _ => .nan

-- The integer part of a number that is neither negative nor infinite; `-0` counts as zero.
def floor? : Binary64 → Option Nat
  | .finite s m e => if s && m != 0 then none else let (n, d) := scale m e; some (n / d)
  | _ => none

-- A row of decimal digits and the exponent of the first: `d.ddd * 10 ^ exponent`.
structure Digits where
  digits : List Char
  exponent : Int

-- The fewest decimal digits that round back to the number, of those the nearest, and of two as near the even
-- one.
def shortest (m : Nat) (e : Int) : Digits :=
  let (vn, vd) := scale m e
  -- The half-gaps to the neighbours, in units of a quarter of the last place.
  let below := if m = 1 <<< 52 && e > -1074 then 1 else 2
  let (lowN, lowD) := scale (4 * m - below) (e - 2)
  let (highN, highD) := scale (4 * m + 2) (e - 2)
  let closed := m % 2 == 0
  let lead := leading vn vd
  let inside (n d : Nat) : Bool :=
    if closed then lowN * d ≤ n * lowD && n * highD ≤ highN * d
    else lowN * d < n * lowD && n * highD < highN * d
  let pick (count : Nat) : Option Digits :=
    let unit : Int := lead - (count - 1 : Nat)
    let (un, ud) := power unit
    let down := vn * ud / (vd * un)
    let candidates := [down, down + 1].filter fun c => 0 < c && inside (c * un) ud
    let nearer (a b : Nat) : Nat :=
      match compare (2 * vn * ud) ((a + b) * un * vd) with
      | .lt => a
      | .gt => b
      | .eq => if a % 2 = 0 then a else b
    match candidates with
    | [] => none
    | [c] => some (laidOut c unit)
    | a :: b :: _ => some (laidOut (nearer a b) unit)
  ((List.range 17).findSome? fun i => pick (i + 1)).getD (laidOut (vn / vd) 0)
where
  power (k : Int) : Nat × Nat := if 0 ≤ k then (Nat.pow 10 k.toNat, 1) else (1, Nat.pow 10 (-k).toNat)
  leading (n d : Nat) : Int :=
    if d ≤ n then ((Nat.toDigits 10 (n / d)).length : Int) - 1
    else
      let k := (Nat.toDigits 10 (d / n)).length
      if d ≤ n * Nat.pow 10 (k - 1) then -((k : Int) - 1) else -(k : Int)
  laidOut (c : Nat) (unit : Int) : Digits :=
    let ds := Nat.toDigits 10 c
    let kept := (ds.reverse.dropWhile (· == '0')).reverse
    ⟨kept, unit + (ds.length : Int) - 1⟩

-- Positional between 10^-5 and 10^16, always with a fraction; otherwise with a signed exponent.
def text : Binary64 → List Char
  | .nan => "NaN".toList
  | .infinite s => sign s ++ "inf".toList
  | .finite s 0 _ => sign s ++ "0.0".toList
  | .finite s m e =>
    let ⟨ds, x⟩ := shortest m e
    sign s ++
      if x < -5 || 15 < x then
        let mark := 'e' :: (if x < 0 then '-' else '+') :: Nat.toDigits 10 x.natAbs
        match ds with
        | [d] => d :: mark
        | d :: rest => d :: '.' :: rest ++ mark
        | [] => mark
      else if x < 0 then '0' :: '.' :: List.replicate (x.natAbs - 1) '0' ++ ds
      else
        let whole := x.toNat + 1
        if ds.length ≤ whole then ds ++ List.replicate (whole - ds.length) '0' ++ ['.', '0']
        else ds.take whole ++ '.' :: ds.drop whole
where
  sign (negative : Bool) : List Char := if negative then ['-'] else []

end Binary64

end ProcessControl.Text
