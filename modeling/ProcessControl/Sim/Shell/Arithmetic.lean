import ProcessControl.Text.Decimal

namespace ProcessControl.Sim.Shell.Arithmetic

inductive Lexeme
  | number (n : Nat)
  | name (s : String)
  | op (s : String)
deriving DecidableEq

inductive Expression
  | number (n : Int64)
  | name (s : String)
  | unary (op : String) (a : Expression)
  | binary (op : String) (a b : Expression)
  | choice (c a b : Expression)
  | assign (name : String) (op : String) (a : Expression)

def operators : List String :=
  ["<<=", ">>=", "<<", ">>", "<=", ">=", "==", "!=", "&&", "||", "+=", "-=", "*=", "/=", "%=", "&=", "|=", "^=",
    "+", "-", "*", "/", "%", "<", ">", "&", "|", "^", "!", "~", "?", ":", "=", "(", ")"]

def digitValue (c : Char) : Nat :=
  if c.isDigit then c.toNat - 48 else if 'a' ≤ c && c ≤ 'z' then c.toNat - 87 else c.toNat - 55

-- A number in base ten, or in base eight after a zero, or in base sixteen after `0x`.
def numeral? (cs : List Char) : Option Nat :=
  let (base, ds) : Nat × List Char := match cs with
    | '0' :: 'x' :: ds | '0' :: 'X' :: ds => (16, ds)
    | '0' :: d :: ds => (8, d :: ds)
    | ds => (10, ds)
  if ds ≠ [] ∧ ds.all (fun c => c.isAlphanum && digitValue c < base) then
    some (ds.foldl (fun n d => n * base + digitValue d) 0)
  else none

-- A number with an optional sign, as the value of a variable; an empty text counts as zero.
def value? (cs : List Char) : Option Int64 :=
  let cs := (cs.dropWhile Char.isWhitespace).takeWhile (!·.isWhitespace)
  match cs with
  | [] => some 0
  | '-' :: ds => (numeral? ds).map fun n => -(Int64.ofNat n)
  | '+' :: ds => (numeral? ds).map Int64.ofNat
  | ds => (numeral? ds).map Int64.ofNat

def lexemes? : Nat → List Char → Option (List Lexeme)
  | 0, _ => none
  | _, [] => some []
  | fuel + 1, c :: cs =>
    if c.isWhitespace then lexemes? fuel cs
    else if c.isDigit then do
      let ds := (c :: cs).takeWhile Char.isAlphanum
      let n ← numeral? ds
      return .number n :: (← lexemes? fuel ((c :: cs).drop ds.length))
    else if c.isAlpha || c == '_' then do
      let name := (c :: cs).takeWhile fun c => c.isAlphanum || c == '_'
      return .name (String.ofList name) :: (← lexemes? fuel ((c :: cs).drop name.length))
    else do
      let op ← operators.find? fun op => op.toList.isPrefixOf (c :: cs)
      return .op op :: (← lexemes? fuel ((c :: cs).drop op.length))

-- How tightly a binary operator binds.
def strength : String → Nat
  | "||" => 1
  | "&&" => 2
  | "|" => 3
  | "^" => 4
  | "&" => 5
  | "==" | "!=" => 6
  | "<" | "<=" | ">" | ">=" => 7
  | "<<" | ">>" => 8
  | "+" | "-" => 9
  | "*" | "/" | "%" => 10
  | _ => 0

def assignments : List String := ["=", "+=", "-=", "*=", "/=", "%=", "<<=", ">>=", "&=", "|=", "^="]

mutual

def expression? : Nat → List Lexeme → Option (Expression × List Lexeme)
  | 0, _ => none
  | fuel + 1, ls => do
    match ls with
    | .name s :: .op op :: rest =>
      if assignments.contains op then
        let (a, rest) ← expression? fuel rest
        return (.assign s op a, rest)
      conditional? fuel ls
    | ls => conditional? fuel ls

def conditional? : Nat → List Lexeme → Option (Expression × List Lexeme)
  | 0, _ => none
  | fuel + 1, ls => do
    let (c, rest) ← binary? fuel 1 ls
    match rest with
    | .op "?" :: rest =>
      match ← expression? fuel rest with
      | (a, .op ":" :: rest) =>
        let (b, rest) ← conditional? fuel rest
        return (.choice c a b, rest)
      | _ => none
    | _ => return (c, rest)

def binary? : Nat → Nat → List Lexeme → Option (Expression × List Lexeme)
  | 0, _, _ => none
  | fuel + 1, least, ls => do
    let (a, rest) ← unary? fuel ls
    more? fuel least a rest

def more? : Nat → Nat → Expression → List Lexeme → Option (Expression × List Lexeme)
  | 0, _, _, _ => none
  | fuel + 1, least, a, ls => do
    match ls with
    | .op op :: rest =>
      if least ≤ strength op then
        let (b, rest) ← binary? fuel (strength op + 1) rest
        more? fuel least (.binary op a b) rest
      else return (a, ls)
    | _ => return (a, ls)

def unary? : Nat → List Lexeme → Option (Expression × List Lexeme)
  | 0, _ => none
  | fuel + 1, ls => do
    match ls with
    | .number n :: rest => return (.number (Int64.ofNat n), rest)
    | .name s :: rest => return (.name s, rest)
    | .op "(" :: rest =>
      match ← expression? fuel rest with
      | (a, .op ")" :: rest) => return (a, rest)
      | _ => none
    | .op op :: rest =>
      if ["+", "-", "!", "~"].contains op then
        let (a, rest) ← unary? fuel rest
        return (.unary op a, rest)
      none
    | [] => none

end

def read? (cs : List Char) : Option Expression := do
  match ← lexemes? (cs.length + 1) cs with
  | [] => return .number 0
  | ls =>
    match ← expression? (16 * ls.length + 16) ls with
    | (e, []) => return e
    | _ => none

def ofBool (b : Bool) : Int64 := if b then 1 else 0

-- The value of an operator; nothing for a division by zero.
def combine? (op : String) (a b : Int64) : Option Int64 :=
  match op with
  | "+" => some (a + b)
  | "-" => some (a - b)
  | "*" => some (a * b)
  | "/" => if b = 0 then none else some (a / b)
  | "%" => if b = 0 then none else some (a % b)
  | "<<" => some (a <<< b)
  | ">>" => some (a >>> b)
  | "&" => some (a &&& b)
  | "|" => some (a ||| b)
  | "^" => some (a ^^^ b)
  | "<" => some (ofBool (a < b))
  | "<=" => some (ofBool (a ≤ b))
  | ">" => some (ofBool (a > b))
  | ">=" => some (ofBool (a ≥ b))
  | "==" => some (ofBool (a == b))
  | "!=" => some (ofBool (a != b))
  | _ => none

structure Memory (σ : Type) where
  get : σ → String → List Char
  set : String → List Char → σ → σ

def text (n : Int64) : List Char := (Text.Decimal.signedText n.toInt).toList

variable {σ : Type}

def load (m : Memory σ) (s : σ) (name : String) : Except String Int64 :=
  match value? (m.get s name) with
  | some n => .ok n
  | none => .error ("Illegal number: " ++ String.ofList (m.get s name))

def evaluate (m : Memory σ) : Expression → σ → Except String (Int64 × σ)
  | .number n, s => .ok (n, s)
  | .name x, s => do return (← load m s x, s)
  | .unary op a, s => do
    let (n, s) ← evaluate m a s
    return (match op with
      | "-" => -n
      | "!" => ofBool (n == 0)
      | "~" => ~~~n
      | _ => n, s)
  | .binary "&&" a b, s => do
    let (n, s) ← evaluate m a s
    if n == 0 then return (0, s)
    let (k, s) ← evaluate m b s
    return (ofBool (k != 0), s)
  | .binary "||" a b, s => do
    let (n, s) ← evaluate m a s
    if n != 0 then return (1, s)
    let (k, s) ← evaluate m b s
    return (ofBool (k != 0), s)
  | .binary op a b, s => do
    let (n, s) ← evaluate m a s
    let (k, s) ← evaluate m b s
    match combine? op n k with
    | some r => return (r, s)
    | none => throw "division by zero"
  | .choice c a b, s => do
    let (n, s) ← evaluate m c s
    if n != 0 then evaluate m a s else evaluate m b s
  | .assign x op a, s => do
    let (n, s) ← evaluate m a s
    let old ← if op = "=" then .ok 0 else load m s x
    let result := if op = "=" then some n else combine? (op.dropEnd 1).toString old n
    match result with
    | some r => return (r, m.set x (text r) s)
    | none => throw "division by zero"

end ProcessControl.Sim.Shell.Arithmetic
