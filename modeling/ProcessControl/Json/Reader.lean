import ProcessControl.Json.Fault
import ProcessControl.Json.Value
import ProcessControl.Text.Utf8

namespace ProcessControl.Json

-- A reader consumes bytes from the front of a text.
abbrev Reader := StateT (List UInt8) (Except Fault)

namespace Reader

variable {α : Type}

def malformed : Reader α := throw .malformed

def truncated : Reader α := throw .truncated

def refuse (why : Mismatch) : Reader α := throw (.mismatch why)

def isBlank (b : UInt8) : Bool := b == 0x20 || b == 0x0A || b == 0x09 || b == 0x0D

def isDigit (b : UInt8) : Bool := 0x30 ≤ b && b ≤ 0x39

def byteChar (b : UInt8) : Char := Char.ofNat b.toNat

def front? : Reader (Option Char) := do
  return (← get).head?.map byteChar

-- The next byte that is not a blank; blanks before it are dropped.
def peek? : Reader (Option Char) := do
  modify (·.dropWhile isBlank)
  front?

def advance : Reader Unit := modify List.tail

def word : List Char → Reader Unit
  | [] => return
  | c :: cs => do
    match ← front? with
    | none => truncated
    | some d => if d = c then do advance; word cs else malformed

def finish : Reader Unit := do
  match ← peek? with
  | none => return
  | some _ => malformed

-- A number greater than that of the bytes that are left. No loop over the text takes more rounds.
def bound : Reader Nat := return (← get).length + 1

def readAll (reader : Reader α) (bytes : List UInt8) : Except Fault α := do
  let (a, rest) ← StateT.run reader bytes
  let _ ← StateT.run finish rest
  return a

def hexValue? (b : UInt8) : Option Nat :=
  if isDigit b then some (b.toNat - 0x30)
  else if 0x41 ≤ b && b ≤ 0x46 then some (b.toNat - 0x41 + 10)
  else if 0x61 ≤ b && b ≤ 0x66 then some (b.toNat - 0x61 + 10)
  else none

def hex4? (a b c d : UInt8) : Option Nat := do
  return (((← hexValue? a) * 16 + (← hexValue? b)) * 16 + (← hexValue? c)) * 16 + (← hexValue? d)

-- The byte that a one-letter escape stands for.
def unescape? (b : UInt8) : Option UInt8 :=
  match byteChar b with
  | '"' => some 0x22
  | '\\' => some 0x5C
  | '/' => some 0x2F
  | 'b' => some 0x08
  | 'f' => some 0x0C
  | 'n' => some 0x0A
  | 'r' => some 0x0D
  | 't' => some 0x09
  | _ => none

-- The bytes of a string up to its closing quote, escapes resolved; `done` holds those already read, last one
-- first. A surrogate must have its partner.
def stringBytes (done : List UInt8) : List UInt8 → Except Fault (List UInt8 × List UInt8)
  | [] => .error .truncated
  | 0x22 :: rest => .ok (done.reverse, rest)
  | 0x5C :: 0x75 :: a :: b :: c :: d :: rest =>
    match hex4? a b c d with
    | none => .error .malformed
    | some n =>
      if n < 0xD800 ∨ 0xDFFF < n then
        stringBytes ((String.utf8EncodeChar (Char.ofNat n)).reverse ++ done) rest
      else if 0xDC00 ≤ n then .error .malformed
      else
        match rest with
        | [] => .error .truncated
        | 0x5C :: 0x75 :: e :: f :: g :: h :: more =>
          match hex4? e f g h with
          | none => .error .malformed
          | some m =>
            if m < 0xDC00 ∨ 0xDFFF < m then .error .malformed
            else
              let code := 0x10000 + (n - 0xD800) * 0x400 + (m - 0xDC00)
              stringBytes ((String.utf8EncodeChar (Char.ofNat code)).reverse ++ done) more
        | [0x5C] => .error .truncated
        | 0x5C :: 0x75 :: _ => .error .truncated
        | _ => .error .malformed
  | [0x5C] => .error .truncated
  | 0x5C :: 0x75 :: _ => .error .truncated
  | 0x5C :: e :: rest =>
    match unescape? e with
    | some b => stringBytes (b :: done) rest
    | none => .error .malformed
  | b :: rest => if b < 0x20 then .error .malformed else stringBytes (b :: done) rest

def string : Reader String := do
  let (bytes, rest) ← (stringBytes [] (← get) : Except Fault _)
  set rest
  match Text.Utf8.decode? bytes with
  | some cs => return String.ofList cs
  | none => malformed

-- Appends digits to a number as long as the result stays below 2^64, and counts those appended.
def absorb (n : Nat) : List UInt8 → Nat × Nat
  | [] => (n, 0)
  | d :: ds =>
    let next := 10 * n + (d.toNat - 0x30)
    if next < UInt64.size then let (m, k) := absorb next ds; (m, k + 1) else (n, 0)

def digits : Reader (List UInt8) := do
  let ds := (← get).takeWhile isDigit
  modify (·.dropWhile isDigit)
  return ds

def powerOfTen (k : Nat) : Text.Binary64 := .ofNat (Nat.pow 10 k)

-- Divides by 10^308 until the exponent can be applied in one division; doubles are used up after two.
def scaleDown : Nat → Text.Binary64 → Nat → Text.Binary64
  | 0, x, _ => x
  | fuel + 1, x, k =>
    if k ≤ 308 then x.dividedBy (powerOfTen k)
    else if x.isZero then x
    else scaleDown fuel (x.dividedBy (powerOfTen 308)) (k - 308)

-- `significand * 10 ^ exponent`, computed with one rounding for the significand and one for each scaling.
def assemble (negative : Bool) (significand : Nat) (exponent : Int) : Reader Number := do
  let x := Text.Binary64.ofNat significand
  let signed (y : Text.Binary64) := Number.floating (if negative then y.negate else y)
  if 0 ≤ exponent then
    if exponent ≤ 308 then
      let y := x.times (powerOfTen exponent.toNat)
      if y.isInfinite then malformed else return signed y
    else if x.isZero then return signed x
    else malformed
  else return signed (scaleDown 3 x (-exponent).toNat)

-- Exponents from here on are not told apart.
def exponentLimit : Nat := 0x80000000

def exponentSign : Reader Bool := do
  match ← front? with
  | some '+' => advance; return false
  | some '-' => advance; return true
  | _ => return false

def exponentPart (negative : Bool) (significand : Nat) (start : Int) : Reader Number := do
  advance
  let down ← exponentSign
  let ds ← digits
  if ds.isEmpty then
    match ← front? with
    | none => truncated
    | some _ => malformed
  else
    let e := ds.foldl (fun n d => min (10 * n + (d.toNat - 0x30)) exponentLimit) 0
    if e = exponentLimit then
      if significand ≠ 0 ∧ !down then malformed
      else return .floating (.finite negative 0 0)
    else assemble negative significand (if down then start - Int.ofNat e else start + Int.ofNat e)

def afterDigits (negative : Bool) (significand : Nat) (exponent : Int) : Reader Number := do
  match ← front? with
  | some 'e' | some 'E' => exponentPart negative significand exponent
  | _ => assemble negative significand exponent

-- The fraction, from its point on; digits beyond the 64-bit range of the significand are dropped.
def fractionPart (negative : Bool) (significand : Nat) (exponent : Int) : Reader Number := do
  advance
  let ds ← digits
  if ds.isEmpty then
    match ← front? with
    | none => truncated
    | some _ => malformed
  else
    let (n, used) := absorb significand ds
    afterDigits negative n (exponent - used)

-- What a number is that has no more than its digits, of which so many were dropped. An integer of 64 bits is exact;
-- minus zero and all other numbers are doubles.
def integer (negative : Bool) (n dropped : Nat) : Reader Number :=
  if dropped ≠ 0 then assemble negative n dropped
  else if !negative then return .natural n
  else if 1 ≤ n ∧ n ≤ 0x8000000000000000 then return .negative n
  else return .floating (Text.Binary64.ofNat n).negate

def number (negative : Bool) : Reader Number := do
  let ds ← digits
  match ds with
  | [] =>
    match ← front? with
    | none => truncated
    | some _ => malformed
  | 0x30 :: _ :: _ => malformed
  | _ =>
    let (n, used) := absorb 0 ds
    let dropped := ds.length - used
    match ← front? with
    | some '.' => fractionPart negative n dropped
    | some 'e' | some 'E' => exponentPart negative n dropped
    | _ => integer negative n dropped

def colon : Reader Unit := do
  match ← peek? with
  | some ':' => advance
  | some _ => malformed
  | none => truncated

def nextItem (first : Bool) : Reader Bool := do
  match ← peek? with
  | none => truncated
  | some ']' => return false
  | some c =>
    if first then return true
    else if c = ',' then
      advance
      match ← peek? with
      | none => truncated
      | some ']' => malformed
      | some _ => return true
    else malformed

def closeArray : Reader Unit := do
  match ← peek? with
  | some ']' => advance
  | some _ => malformed
  | none => truncated

def nextName? (first : Bool) : Reader (Option String) := do
  match ← peek? with
  | none => truncated
  | some '\x7d' => advance; return none
  | some c =>
    if first then name c
    else if c = ',' then
      advance
      match ← peek? with
      | none => truncated
      | some d => name d
    else malformed
where
  name (c : Char) : Reader (Option String) := do
    if c = '"' then
      advance
      return some (← string)
    else malformed

-- Reads the members of an object, fewer than so many, up to its closing brace; what reads a member starts at the
-- colon after its name.
def members {σ : Type} (most : Nat) (member : σ → String → Reader σ) (start : σ) : Reader σ :=
  loop most true start
where
  loop : Nat → Bool → σ → Reader σ
    | 0, _, _ => malformed
    | fuel + 1, first, s => do
      match ← nextName? first with
      | none => return s
      | some name => loop fuel false (← member s name)

def items (most : Nat) (item : Reader α) : Reader (List α) :=
  loop most true []
where
  loop : Nat → Bool → List α → Reader (List α)
    | 0, _, _ => malformed
    | fuel + 1, first, done => do
      if ← nextItem first then loop fuel false ((← item) :: done)
      else
        advance
        return done.reverse

-- Any value whose arrays and objects are nested at most `depth` deep and have fewer than `most` parts each.
def value (most depth : Nat) : Reader Value := do
  match ← peek? with
  | none => truncated
  | some 'n' => advance; word "ull".toList; return .null
  | some 't' => advance; word "rue".toList; return .bool true
  | some 'f' => advance; word "alse".toList; return .bool false
  | some '"' => advance; return .str (← string)
  | some '-' => advance; return .num (← number true)
  | some '[' =>
    match depth with
    | 0 => malformed
    | inner + 1 => advance; return .arr (← items most (value most inner))
  | some '\x7b' =>
    match depth with
    | 0 => malformed
    | inner + 1 =>
      advance
      let ms ← members most (fun done name => do colon; return (name, ← value most inner) :: done) []
      return .obj ms.reverse
  | some c => if c.isDigit then return .num (← number false) else malformed

def nestingLimit : Nat := 127

def anyValue : Reader Value := do
  value (← bound) nestingLimit

end Reader

end ProcessControl.Json
