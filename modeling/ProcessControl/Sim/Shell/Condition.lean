import ProcessControl.Sim.Directory
import ProcessControl.Sim.Shell.Word
import ProcessControl.Text.Decimal

namespace ProcessControl.Sim.Shell.Condition

structure Scene where
  node? : List Char → Option Node
  isDevice : List Char → Bool

inductive Kind
  | unary
  | binary
  | not
  | and
  | or
  | opening
  | operand
  | nothing
deriving DecidableEq

def unaryOperators : List String :=
  ["-b", "-c", "-d", "-e", "-f", "-g", "-G", "-h", "-k", "-L", "-n", "-O", "-p", "-r", "-s", "-S", "-t", "-u", "-w",
    "-x", "-z"]

def binaryOperators : List String :=
  ["=", "!=", "<", ">", "-eq", "-ne", "-ge", "-gt", "-le", "-lt", "-nt", "-ot", "-ef"]

def isBinary (w : List Char) : Bool := binaryOperators.contains (String.ofList w)

-- Whether the word at the front is an operand although it looks like an operator before one operand.
def isOperand : List (List Char) → Bool
  | [_] => true
  | _ :: w :: _ :: _ => isBinary w
  | _ => false

def kind (ws : List (List Char)) : Kind :=
  match ws with
  | [] => .nothing
  | w :: rest =>
    let s := String.ofList w
    if s = "!" then .not
    else if s = "-a" then .and
    else if s = "-o" then .or
    else if s = "(" then if rest.isEmpty then .operand else .opening
    else if isBinary w then .binary
    else if unaryOperators.contains s && !isOperand ws then .unary
    else .operand

def number (w : List Char) : Except String Int :=
  let blank (c : Char) := c == ' ' || c == '\t' || c == '\n'
  let inner := ((w.dropWhile blank).reverse.dropWhile blank).reverse
  let (negative, digits) := match inner with
    | '-' :: ds => (true, ds)
    | '+' :: ds => (false, ds)
    | ds => (false, ds)
  if digits ≠ [] ∧ digits.all Char.isDigit then
    .ok (if negative then -(Text.Decimal.value digits : Int) else Text.Decimal.value digits)
  else .error ("Illegal number: " ++ String.ofList w)

def unary (s : Scene) (op : String) (w : List Char) : Bool :=
  let file (f : Node → Bool) : Bool := (s.node? w).any f
  match op with
  | "-n" => w ≠ []
  | "-z" => w = []
  | "-e" | "-r" | "-w" | "-O" | "-G" => s.isDevice w || file fun _ => true
  | "-c" => s.isDevice w
  | "-f" => file fun
    | .file _ _ => true
    | .directory _ => false
  | "-d" => file fun
    | .file _ _ => false
    | .directory _ => true
  | "-x" => file fun
    | .file _ runs => runs
    | .directory _ => true
  | "-s" => file fun
    | .file data _ => !data.isEmpty
    | .directory _ => true
  | _ => false

def binary (a : List Char) (op : String) (b : List Char) : Except String Bool := do
  match op with
  | "=" => return a = b
  | "!=" => return a ≠ b
  | "<" => return a < b
  | ">" => return b < a
  | "-eq" => return (← number a) = (← number b)
  | "-ne" => return (← number a) ≠ (← number b)
  | "-lt" => return (← number a) < (← number b)
  | "-le" => return (← number a) ≤ (← number b)
  | "-gt" => return (← number b) < (← number a)
  | "-ge" => return (← number b) ≤ (← number a)
  | _ => return false

def missing (op : List Char) : String := String.ofList op ++ ": argument expected"

mutual

def either (s : Scene) : Nat → List (List Char) → Except String (Bool × List (List Char))
  | 0, _ => .error "too deep"
  | fuel + 1, ws => do
    let (a, rest) ← both s fuel ws
    if kind rest = .or then
      let (b, rest) ← either s fuel rest.tail
      return (a || b, rest)
    return (a, rest)

def both (s : Scene) : Nat → List (List Char) → Except String (Bool × List (List Char))
  | 0, _ => .error "too deep"
  | fuel + 1, ws => do
    let (a, rest) ← negated s fuel ws
    if kind rest = .and then
      let (b, rest) ← both s fuel rest.tail
      return (a && b, rest)
    return (a, rest)

def negated (s : Scene) : Nat → List (List Char) → Except String (Bool × List (List Char))
  | 0, _ => .error "too deep"
  | fuel + 1, ws => do
    if kind ws = .not then
      let (a, rest) ← negated s fuel ws.tail
      return (!a, rest)
    single s fuel ws

def single (s : Scene) : Nat → List (List Char) → Except String (Bool × List (List Char))
  | 0, _ => .error "too deep"
  | fuel + 1, ws => do
    match kind ws, ws with
    | _, [] => return (false, [])
    | .opening, _ :: inner =>
      if inner.head? = some [')'] then return (false, inner.tail)
      let (a, rest) ← either s fuel inner
      if rest.head? = some [')'] then return (a, rest.tail)
      throw "closing paren expected"
    | .unary, op :: rest =>
      match rest with
      | [] => throw (missing op)
      | w :: rest => return (unary s (String.ofList op) w, rest)
    | _, w :: rest =>
      match kind rest, rest with
      | .binary, op :: rest =>
        match rest with
        | [] => throw (missing op)
        | b :: rest => return (← binary w (String.ofList op) b, rest)
      | _, _ => return (w ≠ [], rest)

end

def whole (s : Scene) (ws : List (List Char)) : Except String Bool := do
  let (a, rest) ← either s (4 * ws.length + 4) ws
  if rest.isEmpty then return a
  let last := (ws[ws.length - rest.length - 1]?).getD []
  throw (if last = [] then "unexpected operator" else String.ofList last ++ ": unexpected operator")

-- Whether a condition holds. Three and four words are first looked at as a comparison, in brackets, and after a
-- "not".
def holds (s : Scene) : List (List Char) → Except String Bool
  | [] => .ok false
  | [a, op, b] =>
    if isBinary op then binary a (String.ofList op) b
    else if a = ['('] ∧ b = [')'] then whole s [op]
    else if a = ['!'] then (whole s [op, b]).map not
    else whole s [a, op, b]
  | [a, b, c, d] =>
    if a = ['('] ∧ d = [')'] then whole s [b, c]
    else if a = ['!'] then
      if isBinary c then (binary b (String.ofList c) d).map not
      else if b = ['('] ∧ d = [')'] then (whole s [c]).map not
      else (whole s [b, c, d]).map not
    else whole s [a, b, c, d]
  | ws => whole s ws

end ProcessControl.Sim.Shell.Condition
