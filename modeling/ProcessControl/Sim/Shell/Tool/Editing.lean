import ProcessControl.Sim.Shell.Search
import ProcessControl.Sim.Shell.Tool.Lines

namespace ProcessControl.Sim.Shell.Tool

def grep (c : Call) (kind : Option Char) : Outcome :=
  let (os, rest) := c.options ['e', 'm']
  let (pattern, names) := match valueOf? os 'e' with
    | some p => (p, rest)
    | none => (rest.headD [], rest.tail)
  let ignoreCase := has os 'i'
  let one (p : List Char) : Option Search :=
    if has os 'F' || kind == some 'F' then some (Search.literal ignoreCase p)
    else Search.read? ⟨has os 'E' || kind == some 'E', ignoreCase⟩ p
  match (splitAt_ '\n' pattern).mapM one with
  | none => c.fails "grep" "invalid regular expression" 2
  | some searches =>
    let found? (line : List Char) : Option (List Char × Search.Match) :=
      searches.findSome? fun r =>
        (Search.find? r true [] line).filter fun (front, m) => !has os 'x' || (front.isEmpty && m.rest.isEmpty)
    let (data, errors) := c.inputs "grep" names
    let named := data.zip (if names.isEmpty then [[]] else names)
    let label (n : List Char) : List Char :=
      if (1 < names.length || has os 'H') && !has os 'h' then n ++ [':'] else []
    let hits : List (List Char × List (List Char × Nat)) := named.map fun (cs, n) =>
      (n, (linesOf cs).zipIdx.filter fun (line, _) => (found? line).isSome != has os 'v')
    let pieces (line : List Char) : List (List Char) :=
      match found? line with
      | some (front, m) => [(line.drop front.length).take (line.length - front.length - m.rest.length)]
      | none => []
    let output := hits.flatMap fun (n, ls) =>
      if has os 'c' then label n ++ Text.Decimal.digits ls.length ++ ['\n']
      else if has os 'l' then if ls.isEmpty then [] else n ++ ['\n']
      else ls.flatMap fun (line, i) =>
        let front := label n ++ if has os 'n' then Text.Decimal.digits (i + 1) ++ [':'] else []
        if has os 'o' then (pieces line).flatMap fun p => front ++ p ++ ['\n'] else front ++ line ++ ['\n']
    { output := if has os 'q' then [] else output
      errors := if has os 's' then [] else errors
      status := if hits.any (!·.2.isEmpty) then 0 else if errors = [] then 1 else 2
      files := c.files }

def substitute (r : Search) (replacement : List Char) (all : Bool) : Nat → Bool → List Char → List Char × Bool
  | 0, _, cs => (cs, false)
  | fuel + 1, atStart, cs =>
    match r.find? atStart [] cs with
    | none => (cs, false)
    | some (front, m) =>
      let matched := (cs.drop front.length).take (cs.length - front.length - m.rest.length)
      let put := insert matched m.groups replacement
      if !all then (front ++ put ++ m.rest, true)
      else
        match matched, m.rest with
        | [], [] => (front ++ put, true)
        | [], c :: rest =>
          let (tail, _) := substitute r replacement all fuel false rest
          (front ++ put ++ c :: tail, true)
        | _, rest =>
          if rest = [] then (front ++ put, true)
          else
            let (tail, _) := substitute r replacement all fuel false rest
            (front ++ put ++ tail, true)
where
  insert (matched : List Char) (groups : List (Nat × List Char)) : List Char → List Char
    | '\\' :: c :: rest =>
      (if c.isDigit then (groups.lookup (c.toNat - 48)).getD []
        else if c = 'n' then ['\n'] else [c]) ++ insert matched groups rest
    | '&' :: rest => matched ++ insert matched groups rest
    | c :: rest => c :: insert matched groups rest
    | [] => []

inductive Address
  | all
  | line (n : Nat)
  | last
  | found (r : Search)

structure Edit where
  address : Address
  command : Char
  search : Search := .empty
  replacement : List Char := []
  flags : List Char := []

-- The text up to a mark that no backslash quotes.
def upTo (mark : Char) : List Char → List Char → List Char × List Char
  | done, [] => (done.reverse, [])
  | done, '\\' :: c :: rest =>
    if c = mark then upTo mark (c :: done) rest else upTo mark (c :: '\\' :: done) rest
  | done, c :: rest => if c = mark then (done.reverse, rest) else upTo mark (c :: done) rest

def edits? (extended : Bool) : Nat → List Char → Option (List Edit)
  | 0, _ => none
  | fuel + 1, cs => do
    let cs := cs.dropWhile fun c => c == ' ' || c == ';' || c == '\n'
    if cs.isEmpty then return []
    let ds := cs.takeWhile Char.isDigit
    let (address, cs) ← (match cs with
      | '$' :: rest => some (Address.last, rest)
      | '/' :: rest =>
        let (p, rest) := upTo '/' [] rest
        (Search.read? ⟨extended, false⟩ p).map fun r => (Address.found r, rest)
      | _ => if ds = [] then some (.all, cs) else some (.line (natOf ds), cs.drop ds.length) :
        Option (Address × List Char))
    match cs with
    | 's' :: mark :: rest =>
      let (p, rest) := upTo mark [] rest
      let (replacement, rest) := upTo mark [] rest
      let flags := rest.takeWhile fun c => c.isAlphanum
      let search ← Search.read? ⟨extended, flags.contains 'I'⟩ p
      return ⟨address, 's', search, replacement, flags⟩ :: (← edits? extended fuel (rest.drop flags.length))
    | c :: rest => return { address, command := c } :: (← edits? extended fuel rest)
    | [] => none

structure EditState where
  output : List Char := []
  quit : Bool := false

-- Applies the commands to a line: what is written before it, the line unless it is deleted, and whether the text
-- ends here.
def editLine (es : List Edit) (number : Nat) (isLast : Bool) (line : List Char) :
    List Char × Option (List Char) × Bool :=
  es.foldl (fun (out, line?, quit) e =>
    match line? with
    | none => (out, line?, quit)
    | some line =>
      let applies := match e.address with
        | .all => true
        | .line n => n == number
        | .last => isLast
        | .found r => (r.find? true [] line).isSome
      if !applies || quit then (out, line?, quit)
      else
        match e.command with
        | 's' =>
          let (new, changed) :=
            substitute e.search e.replacement (e.flags.contains 'g') (line.length + 2) true line
          (if changed && e.flags.contains 'p' then out ++ new ++ ['\n'] else out, some new, quit)
        | 'p' => (out ++ line ++ ['\n'], some line, quit)
        | 'd' => (out, none, quit)
        | 'q' => (out, some line, true)
        | _ => (out, line?, quit)) ([], some line, false)

def sed (c : Call) : Outcome :=
  let (os, rest) := c.options ['e']
  let (script, names) := match valueOf? os 'e' with
    | some s => (s, rest)
    | none => (rest.headD [], rest.tail)
  match edits? (has os 'E' || has os 'r') (script.length + 1) script with
  | none => c.fails "sed" "unknown command"
  | some es => c.filter "sed" names fun data =>
    let ls := linesOf data
    let final := ls.zipIdx.foldl (fun (st : EditState) (line, i) =>
      if st.quit then st
      else
        let (out, line?, quit) := editLine es (i + 1) (i + 1 == ls.length) line
        let shown := if has os 'n' then [] else (line?.map (· ++ ['\n'])).getD []
        ⟨st.output ++ out ++ shown, quit⟩) {}
    final.output

end ProcessControl.Sim.Shell.Tool
