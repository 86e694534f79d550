import ProcessControl.Sim.Shell.Arithmetic
import ProcessControl.Text.Numeral

namespace ProcessControl.Sim.Shell.Format

structure Escaped where
  text : List Char
  ended : Bool

def isOctal (c : Char) : Bool := '0' ≤ c && c ≤ '7'

def letterEscapes : List (Char × Char) :=
  [('a', '\x07'), ('b', '\x08'), ('f', '\x0c'), ('n', '\n'), ('r', '\r'), ('t', '\t'), ('v', '\x0b'), ('\\', '\\')]

-- A text in which a backslash begins an escape, which may put an end to all. A number has up to three octal
-- digits, after a zero or without.
def unescape (cs : List Char) (ends : Bool) : Escaped := go (cs.length + 1) [] cs
where
  go : Nat → List Char → List Char → Escaped
    | 0, done, _ => ⟨done.reverse, false⟩
    | _, done, [] => ⟨done.reverse, false⟩
    | fuel + 1, done, '\\' :: c :: rest =>
      if c = 'c' && ends then ⟨done.reverse, true⟩
      else
        match letterEscapes.lookup c with
        | some d => go fuel (d :: done) rest
        | none =>
          if isOctal c then
            let cs := if c = '0' && rest.head?.any isOctal then rest else c :: rest
            let ds := (cs.take 3).takeWhile isOctal
            let n := ds.foldl (fun n d => n * 8 + (d.toNat - 48)) 0
            go fuel (Char.ofNat (n % 256) :: done) (cs.drop ds.length)
          else go fuel (c :: '\\' :: done) rest
    | fuel + 1, done, c :: rest => go fuel (c :: done) rest

structure Layout where
  left : Bool := false
  zeros : Bool := false
  plus : Bool := false
  blank : Bool := false
  alternate : Bool := false
  width : Nat := 0
  precision? : Option Nat := none

def Layout.pad (l : Layout) (cs : List Char) : List Char :=
  let fill := l.width - cs.length
  if l.left then cs ++ List.replicate fill ' ' else List.replicate fill ' ' ++ cs

def Layout.number (l : Layout) (sign digits : List Char) : List Char :=
  let digits := match l.precision? with
    | some p => List.replicate (p - digits.length) '0' ++ digits
    | none =>
      if l.zeros && !l.left then List.replicate (l.width - sign.length - digits.length) '0' ++ digits else digits
  l.pad (sign ++ digits)

def digitsIn (base : Nat) (upper : Bool) (n : Nat) : List Char :=
  let ds := Nat.toDigits base n
  if upper then ds.map Char.toUpper else ds

-- The number at the front of an argument, and how many characters it takes. After a quote it is that of a
-- character.
def integer (all : List Char) : Int × Nat :=
  match all with
  | [] => (0, 0)
  | '"' :: c :: _ | '\'' :: c :: _ => (c.toNat, all.length)
  | all =>
    let cs := all.dropWhile Char.isWhitespace
    let (negative, body) := match cs with
      | '-' :: rest => (true, rest)
      | '+' :: rest => (false, rest)
      | _ => (false, cs)
    let sizes := (List.range (body.length + 1)).reverse
    match sizes.findSome? fun k => (Arithmetic.numeral? (body.take k)).map (k, ·) with
    | some (k, n) => (if negative then -(n : Int) else n, all.length - body.length + k)
    | none => (0, 0)

-- A number with so many places after the point, a half going to the even neighbour.
def fixed (l : Layout) (x : Text.Binary64) : List Char :=
  let places := l.precision?.getD 6
  let l := { l with precision? := none }
  let sign (negative : Bool) := if negative then ['-'] else if l.plus then ['+'] else if l.blank then [' '] else []
  match x with
  | .nan => l.pad "nan".toList
  | .infinite s => l.pad (sign s ++ "inf".toList)
  | .finite s m e =>
    let (n, d) := Text.Binary64.scale m e
    let scaled := Text.Binary64.divideToEven (n * Nat.pow 10 places) d
    let ds := Nat.toDigits 10 scaled
    let ds := List.replicate (places + 1 - ds.length) '0' ++ ds
    let whole := ds.take (ds.length - places)
    l.number (sign s) (if places = 0 then whole else whole ++ '.' :: ds.drop (ds.length - places))

-- What a format has written so far, backwards, the arguments that are left, and what was wrong with others.
structure State where
  done : List Char := []
  arguments : List (List Char)
  errors : List String := []
  status : Nat := 0
  ended : Bool := false

def State.write (s : State) (cs : List Char) : State := { s with done := cs.reverse ++ s.done }

def State.complain (s : State) (why : String) : State := { s with errors := s.errors ++ [why], status := 1 }

-- A format that cannot be read on puts an end to all output.
def State.halt (s : State) (why : String) : State := { s.complain why with status := 2, ended := true }

def State.doubt (s : State) (argument : List Char) (begun : Bool) : State :=
  s.complain (String.ofList argument ++ if begun then ": not completely converted" else ": expected numeric value")

-- Puts the next argument in as the conversion says; `spec` is what stands before its letter.
def convert (l : Layout) (spec : String) (conversion : Char) (s : State) : State :=
  let argument := s.arguments.headD []
  let s := { s with arguments := s.arguments.tail }
  let integral (write : Int → List Char) : State :=
    let (n, used) := integer argument
    let s := if used = argument.length then s else s.doubt argument (0 < used)
    let greatest : Int := if conversion = 'd' || conversion = 'i' then 0x7FFFFFFFFFFFFFFF else 0xFFFFFFFFFFFFFFFF
    let bounded := max (-0x8000000000000000) (min n greatest)
    let s := if bounded = n then s else s.complain (String.ofList argument ++ ": Numerical result out of range")
    s.write (write bounded)
  let unsigned (n : Int) : Nat := (n % 0x10000000000000000).toNat
  let cut (cs : List Char) := match l.precision? with
    | some p => cs.take p
    | none => cs
  match conversion with
  | 's' => s.write (l.pad (cut argument))
  | 'b' =>
    let e := unescape argument true
    { s.write (l.pad (cut e.text)) with ended := e.ended }
  | 'c' => s.write (l.pad (argument.take 1))
  | 'd' | 'i' => integral fun n =>
    let sign := if n < 0 then ['-'] else if l.plus then ['+'] else if l.blank then [' '] else []
    l.number sign (Nat.toDigits 10 n.natAbs)
  | 'u' => integral fun n => l.number [] (Nat.toDigits 10 (unsigned n))
  | 'o' => integral fun n => l.number [] ((if l.alternate then ['0'] else []) ++ Nat.toDigits 8 (unsigned n))
  | 'x' => integral fun n =>
    l.number (if l.alternate && n != 0 then ['0', 'x'] else []) (digitsIn 16 false (unsigned n))
  | 'X' => integral fun n =>
    l.number (if l.alternate && n != 0 then ['0', 'X'] else []) (digitsIn 16 true (unsigned n))
  | 'f' | 'F' =>
    match Text.Numeral.read? argument with
    | some x => s.write (fixed l x.toBinary64)
    | none => (if argument = [] then s else s.doubt argument false).write (fixed l .zero)
  | _ => s.halt ("%" ++ spec ++ conversion.toString ++ ": invalid directive")

def flag? (l : Layout) (c : Char) : Option Layout :=
  match c with
  | '-' => some { l with left := true }
  | '0' => some { l with zeros := true }
  | '+' => some { l with plus := true }
  | ' ' => some { l with blank := true }
  | '#' => some { l with alternate := true }
  | _ => none

def size (cs : List Char) (s : State) : Nat × List Char × State :=
  match cs with
  | '*' :: rest => ((integer (s.arguments.headD [])).1.toNat, rest, { s with arguments := s.arguments.tail })
  | _ =>
    let ds := cs.takeWhile Char.isDigit
    (Text.Decimal.value ds, cs.drop ds.length, s)

def once : Nat → Layout → List Char → State → State
  | 0, _, _, s => s
  | _, _, [], s => s
  | fuel + 1, _, '%' :: '%' :: rest, s => once fuel {} rest (s.write ['%'])
  | fuel + 1, _, '%' :: all, s =>
    let flags := all.takeWhile fun c => (flag? {} c).isSome
    let l := flags.foldl (fun l c => (flag? l c).getD l) {}
    let (width, cs, s) := size (all.drop flags.length) s
    let (precision?, cs, s) := match cs with
      | '.' :: rest => let (p, rest, s) := size rest s; (some p, rest, s)
      | _ => (none, cs, s)
    match cs with
    | c :: rest =>
      let spec := String.ofList (all.take (all.length - cs.length))
      let s := convert { l with width, precision? } spec c s
      if s.ended then s else once fuel {} rest s
    | [] => s.halt "missing format character"
  | fuel + 1, l, c :: rest, s => once fuel l rest (s.write [c])

def repeated : Nat → List Char → State → State
  | 0, _, s => s
  | fuel + 1, format, s =>
    let next := once (format.length + 1) {} format s
    if next.ended || next.arguments.isEmpty || next.arguments.length == s.arguments.length then next
    else repeated fuel format next

-- Writes by a format with its arguments. In the format no escape puts an end to all output.
def printf (format : List Char) (arguments : List (List Char)) : State :=
  repeated (arguments.length + 1) (unescape format false).text { arguments }

def echo (arguments : List (List Char)) : List Char :=
  let (bare, arguments) := match arguments with
    | ['-', 'n'] :: rest => (true, rest)
    | _ => (false, arguments)
  let e := unescape ([' '].intercalate arguments) true
  if bare || e.ended then e.text else e.text ++ ['\n']

end ProcessControl.Sim.Shell.Format
