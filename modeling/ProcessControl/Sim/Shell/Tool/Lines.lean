import ProcessControl.Sim.Shell.Pattern
import ProcessControl.Sim.Shell.Tool

namespace ProcessControl.Sim.Shell

def linesOf (cs : List Char) : List (List Char) :=
  let (open_, done) := cs.foldl (fun (line, done) c =>
    if c = '\n' then ([], line.reverse :: done) else (c :: line, done)) (([] : List Char), ([] : List (List Char)))
  (if open_ = [] then done else open_.reverse :: done).reverse

def unlines (ls : List (List Char)) : List Char := ls.flatMap (· ++ ['\n'])

def splitAt_ (separator : Char) (cs : List Char) : List (List Char) :=
  cs.foldr (fun c parts =>
    match parts with
    | first :: rest => if c = separator then [] :: first :: rest else (c :: first) :: rest
    | [] => [[c]]) [[]]

def wordsOf (cs : List Char) : List (List Char) :=
  (splitAt_ ' ' (cs.map fun c => if c = '\t' || c = '\n' then ' ' else c)).filter (· != [])

def natOf (cs : List Char) : Nat := Text.Decimal.value (cs.filter Char.isDigit)

def numberOf (cs : List Char) : Int :=
  let cs := cs.dropWhile Char.isWhitespace
  match cs with
  | '-' :: ds => -(Text.Decimal.value (ds.takeWhile Char.isDigit) : Int)
  | ds => Text.Decimal.value (ds.takeWhile Char.isDigit)

namespace Tool

def has (os : List (Char × List Char)) (o : Char) : Bool := os.any (·.1 == o)

def valueOf? (os : List (Char × List Char)) (o : Char) : Option (List Char) := os.lookup o

def ranges (cs : List Char) : List (Nat × Option Nat) :=
  (splitAt_ ',' cs).map fun part =>
    match splitAt_ '-' part with
    | [a] => (natOf a, some (natOf a))
    | a :: b :: _ => (if a = [] then 1 else natOf a, if b = [] then none else some (natOf b))
    | [] => (1, none)

def selects (rs : List (Nat × Option Nat)) (i : Nat) : Bool :=
  rs.any fun (low, high?) => low ≤ i && high?.all (i ≤ ·)

def sort (c : Call) : Outcome :=
  let (os, names) := c.options ['k', 't']
  let key (line : List Char) : List Char :=
    match valueOf? os 'k' with
    | none => line
    | some k =>
      let parts := match valueOf? os 't' with
        | some (t :: _) => splitAt_ t line
        | _ => wordsOf line
      [' '].intercalate (parts.drop (natOf (k.takeWhile Char.isDigit) - 1))
  let numeric := has os 'n' || (valueOf? os 'k').any (·.contains 'n')
  let before (a b : List Char) : Bool :=
    if numeric then
      if numberOf (key a) == numberOf (key b) then has os 'u' || atMost a b else numberOf (key a) ≤ numberOf (key b)
    else if key a == key b then has os 'u' || atMost a b
    else atMost (key a) (key b)
  let same (a b : List Char) : Bool := if numeric then numberOf (key a) == numberOf (key b) else key a == key b
  let (data, errors) := c.inputs "sort" names
  let sorted := (data.flatMap linesOf).mergeSort fun a b => if has os 'r' then before b a else before a b
  let kept := if has os 'u' then (sorted.splitBy same).filterMap List.head? else sorted
  let text := unlines kept
  { output := if errors = [] then text else [], errors, status := if errors = [] then 0 else 2, files := c.files }

def uniq (c : Call) : Outcome :=
  let (os, names) := c.options []
  c.filter "uniq" names fun data =>
    let groups := (linesOf data).splitBy (· == ·)
    let groups := if has os 'd' then groups.filter (1 < ·.length) else groups
    let groups := if has os 'u' then groups.filter (·.length == 1) else groups
    unlines (groups.filterMap fun g => g.head?.map fun line =>
      if has os 'c' then ({ width := 7 : Format.Layout }).pad (Text.Decimal.digits g.length) ++ ' ' :: line else line)

-- The old spelling of a number of lines, which comes first.
def modern (c : Call) : Call :=
  match c.arguments with
  | ('-' :: d :: ds) :: rest =>
    if (d :: ds).all Char.isDigit then { c with arguments := "-n".toList :: (d :: ds) :: rest } else c
  | _ => c

def firstLines : Nat → List Char → List Char
  | 0, _ => []
  | _, [] => []
  | n + 1, c :: cs => c :: firstLines (if c = '\n' then n else n + 1) cs

def headNeeds (c : Call) : List Char → Bool :=
  let (os, names) := (modern c).options ['n', 'c']
  fun seen =>
    if names != [] then true
    else
      match valueOf? os 'c' with
      | some k => natOf k ≤ seen.length
      | none =>
        let n := ((valueOf? os 'n').map natOf).getD 10
        n ≤ seen.count '\n'

def zeroDevice : List Char := "/dev/zero".toList

def head (c : Call) : Outcome :=
  let (os, names) := (modern c).options ['n', 'c']
  if names = [zeroDevice] then c.writes (List.replicate (((valueOf? os 'c').map natOf).getD 0) '\x00') else
  c.filter "head" names fun data =>
    match valueOf? os 'c', valueOf? os 'n' with
    | some k, _ => data.take (natOf k)
    | _, some ('-' :: n) => firstLines ((linesOf data).length - natOf n) data
    | _, n? => firstLines ((n?.map natOf).getD 10) data

def tail (c : Call) : Outcome :=
  let (os, names) := (modern c).options ['n', 'c']
  c.filter "tail" names fun data =>
    let count := (linesOf data).length
    match valueOf? os 'c', valueOf? os 'n' with
    | some ('+' :: k), _ => data.drop (natOf k - 1)
    | some k, _ => data.drop (data.length - natOf k)
    | _, some ('+' :: n) => data.drop (firstLines (natOf n - 1) data).length
    | _, n? => data.drop (firstLines (count - (n?.map natOf).getD 10) data).length

def wc (c : Call) : Outcome :=
  let (os, names) := c.options []
  let (data, errors) := c.inputs "wc" names
  let counts (cs : List Char) : List Nat :=
    let all := [('l', cs.count '\n'), ('w', (wordsOf cs).length), ('c', cs.length), ('m', cs.length)]
    let chosen := all.filter fun (o, _) => has os o
    (if chosen.isEmpty then all.take 3 else chosen).map (·.2)
  let width := if names.isEmpty && 1 < (counts []).length then 7 else if names.isEmpty then 0 else
    (Text.Decimal.digits data.flatten.length).length
  let row (cs name : List Char) : List Char :=
    let cells := (counts cs).map fun n => ({ width : Format.Layout }).pad (Text.Decimal.digits n)
    [' '].intercalate cells ++ (if name = [] then [] else ' ' :: name) ++ ['\n']
  let rows := (data.zip (if names.isEmpty then [[]] else names)).flatMap fun (cs, n) => row cs n
  let total := if 1 < data.length then row data.flatten "total".toList else []
  { output := rows ++ total, errors, status := if errors = [] then 0 else 1, files := c.files }

-- The characters of a set, in which two with a dash between them stand for all from one to the other.
def charSet : Nat → List Char → List Char
  | 0, _ => []
  | _, [] => []
  | fuel + 1, '[' :: ':' :: cs =>
    let name := cs.takeWhile (· != ':')
    let all := (Pattern.classRanges (String.ofList name)).flatMap fun (a, b) =>
      (List.range (b.toNat + 1 - a.toNat)).map fun i => Char.ofNat (a.toNat + i)
    all.mergeSort (· ≤ ·) ++ charSet fuel (cs.drop (name.length + 2))
  | fuel + 1, a :: '-' :: b :: cs =>
    (List.range (b.toNat + 1 - a.toNat)).map (fun i => Char.ofNat (a.toNat + i)) ++ charSet fuel cs
  | fuel + 1, c :: cs => c :: charSet fuel cs

def squeeze (set : List Char) (cs : List Char) : List Char :=
  ((cs.foldl (fun done c => if done.head? == some c && set.contains c then done else c :: done)) []).reverse

def tr (c : Call) : Outcome :=
  let (os, sets) := c.options []
  let set (cs : List Char) := let e := (Format.unescape cs false).text; charSet (e.length + 1) e
  let first := set (sets.headD [])
  let inFirst (x : Char) := first.contains x != (has os 'c' || has os 'C')
  let second := set (sets.tail.headD [])
  let translate (x : Char) : Char :=
    if !inFirst x then x
    else if has os 'c' || has os 'C' then second.getLast?.getD x
    else ((first.idxOf? x).bind fun i => second[i]?.or second.getLast?).getD x
  let data := c.input
  let data :=
    if has os 'd' then data.filter (!inFirst ·)
    else if second.isEmpty then data
    else data.map translate
  let data :=
    if has os 's' then
      let set := if second.isEmpty then (List.range 256).map Char.ofNat |>.filter inFirst else second
      squeeze set data
    else data
  c.writes data

def cut (c : Call) : Outcome :=
  let (os, names) := c.options ['d', 'f', 'c', 'b']
  c.filter "cut" names fun data => unlines ((linesOf data).map fun line =>
    match valueOf? os 'f', (valueOf? os 'c').or (valueOf? os 'b') with
    | some f, _ =>
      let d := (((valueOf? os 'd').getD []).head?).getD '\t'
      if line.contains d then
        let parts := (splitAt_ d line).zipIdx.filter fun (_, i) => selects (ranges f) (i + 1)
        [d].intercalate (parts.map (·.1))
      else line
    | _, some r => (line.zipIdx.filter fun (_, i) => selects (ranges r) (i + 1)).map (·.1)
    | _, _ => line)

def seq (c : Call) : Outcome :=
  let numbers := (c.arguments.filter fun a => a.getLast?.any Char.isDigit).map numberOf
  let (first, step, last) := match numbers with
    | [l] => ((1 : Int), (1 : Int), l)
    | [f, l] => (f, 1, l)
    | f :: s :: l :: _ => (f, s, l)
    | [] => (1, 1, 0)
  let count := if step = 0 then 0 else ((last - first) / step + 1).toNat
  c.writes (unlines ((List.range count).map fun (i : Nat) => (Text.Decimal.signedText (first + step * i)).toList))

end Tool

end ProcessControl.Sim.Shell
