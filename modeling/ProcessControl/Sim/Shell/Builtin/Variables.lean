import ProcessControl.Sim.Shell.Focus
import ProcessControl.Sim.Shell.Tool.Lines

namespace ProcessControl.Sim.Shell.Builtin

def number? (cs : List Char) : Option Nat := Text.Decimal.read? cs

def pair (cs : List Char) : String × Option (List Char) :=
  let name := cs.takeWhile (· != '=')
  (String.ofList name, if name.length < cs.length then some (cs.drop (name.length + 1)) else none)

def quote (cs : List Char) : List Char :=
  '\'' :: (cs.flatMap fun c => if c = '\'' then "'\"'\"'".toList else [c]) ++ ['\'']

-- Marks variables and gives values to those that come with one. Without any it shows those that are marked.
def marking (f : Focus) (command : String) (marked : Variable → Bool) (mark : Variable → Variable)
    (args : List (List Char)) : Machine :=
  let pairs := (args.filter fun a => a.head? != some '-').map pair
  if pairs.isEmpty then
    let found := (f.scope.vars.filter fun (_, v) => marked v).mergeSort fun a b => a.1 ≤ b.1
    f.writing 1 (unlines (found.map fun (name, v) =>
      command.toList ++ ' ' :: name.toList ++ ((v.value?.map fun v => '=' :: quote v).getD []))) (·.done 0)
  else
  f.assigning (pairs.filterMap fun (n, v?) => v?.map (n, ·)) fun f =>
    let scope := pairs.foldl (fun s (n, _) =>
      s.put n (mark ((s.vars.lookup n).getD ⟨none, false, false⟩))) f.scope
    ({ f with scope } : Focus).done 0

def unset (f : Focus) (args : List (List Char)) : Machine :=
  match args with
  | ['-', 'f'] :: names =>
    let gone := names.map String.ofList
    ({ f with scope := { f.scope with functions := f.scope.functions.filter (!gone.contains ·.1) } } : Focus).done 0
  | _ =>
    let names := (args.filter (· != ['-', 'v'])).map String.ofList
    match names.find? f.scope.isConstant with
    | some name => (f.complain ("unset: " ++ name ++ ": is read only")).exit 2
    | none => ({ f with scope := names.foldl Scope.remove f.scope } : Focus).done 0

def optionNames : List (String × Char) := [
  ("allexport", 'a'), ("errexit", 'e'), ("noclobber", 'C'), ("noexec", 'n'), ("noglob", 'f'), ("notify", 'b'),
  ("nounset", 'u'), ("verbose", 'v'), ("xtrace", 'x')]

-- Switches options, and takes the arguments after them for those of the shell.
def set (f : Focus) : List (List Char) → Bool → Machine
  | [], false => f.done 0
  | [], true => ({ f with scope := { f.scope with arguments := [] } } : Focus).done 0
  | args, true => ({ f with scope := { f.scope with arguments := args } } : Focus).done 0
  | a :: rest, false =>
    let switch (on : Bool) (letters : List Char) : Focus :=
      let options := if on then (f.scope.options ++ letters).eraseDups
        else f.scope.options.filter (!letters.contains ·)
      { f with scope := { f.scope with options } }
    let named (on : Bool) : Machine :=
      let letter := rest.head?.bind fun name => optionNames.lookup (String.ofList name)
      set (switch on letter.toList) rest.tail false
    match a with
    | ['-', '-'] => set f rest true
    | ['-', 'o'] => named true
    | ['+', 'o'] => named false
    | '-' :: c :: cs => set (switch true (c :: cs)) rest false
    | '+' :: c :: cs => set (switch false (c :: cs)) rest false
    | _ => set f (a :: rest) true
termination_by args whole => (args.length, if whole then 0 else 1)

-- Goes on with the number that is given, or another one; what is not a number ends the shell.
def withNumber (f : Focus) (name : String) (args : List (List Char)) (otherwise : Nat) (next : Nat → Machine) :
    Machine :=
  match args with
  | [] => next otherwise
  | a :: _ =>
    match number? a with
    | some n => next n
    | none => (f.complain (name ++ ": Illegal number: " ++ String.ofList a)).exit 2

def shift (f : Focus) (args : List (List Char)) : Machine :=
  withNumber f "shift" args 1 fun n =>
    if f.scope.arguments.length < n then (f.complain "shift: can't shift that many").exit 2
    else ({ f with scope := { f.scope with arguments := f.scope.arguments.drop n } } : Focus).done 0

def leaveLoops (f : Focus) (name : String) (goOn : Bool) (args : List (List Char)) : Machine :=
  withNumber f name args 1 fun n =>
    if n = 0 then (f.complain (name ++ ": Illegal number: 0")).exit 2
    else
      let depth := Focus.loopDepth f.frames
      if depth = 0 then f.done 0 else ((Focus.unwind goOn (min n depth) f.frames f).setStatus 0).store

def keepLocals (saved : Saved) : List Frame → List Frame
  | [] => []
  | .leave arguments locals :: rest => .leave arguments (saved ++ locals) :: rest
  | frame :: rest => frame :: keepLocals saved rest

def isLeave : Frame → Bool
  | .leave _ _ => true
  | _ => false

def localVariables (f : Focus) (args : List (List Char)) : Machine :=
  let pairs : List (String × Option (List Char)) := args.map pair
  if !f.frames.any isLeave then (f.complain "local: not in a function").exit 2 else
  let f : Focus := { f with frames := keepLocals (f.saved (pairs.map Prod.fst)) f.frames }
  f.assigning (pairs.filterMap fun (n, v?) => v?.map fun v => (n, v)) (fun f => f.done 0)

def pathText (p : Path) : List Char := '/' :: ['/'].intercalate (p.map charsOf)

def cd (f : Focus) (args : List (List Char)) : Machine :=
  let name := match (args.filter fun a => a != ['-', 'P'] && a != ['-', 'L']).head? with
    | none => f.scope.value "HOME"
    | some ['-'] => f.scope.value "OLDPWD"
    | some n => n
  match Node.locate (f.scope.path name) f.machine.files with
  | .ok path =>
    if (Node.list path f.machine.files).toOption.isSome then
      let old := pathText f.scope.directory
      let scope := ({ f.scope with directory := path }.assign "OLDPWD" old).assign "PWD" (pathText path)
      ({ f with scope } : Focus).done 0
    else (f.complain ("cd: can't cd to " ++ String.ofList name)).done 2
  | .error _ => (f.complain ("cd: can't cd to " ++ String.ofList name)).done 2

def getopts (f : Focus) (args : List (List Char)) : Machine :=
  match args with
  | letters :: name :: rest =>
    let silent := letters.head? = some ':'
    let words := if rest.isEmpty then f.scope.arguments else rest
    let index := max 1 ((number? (f.scope.value "OPTIND")).getD 1)
    let place := if f.scope.option.1 = index then f.scope.option.2 else 0
    let open_ := ((words[index - 2]?).getD []).drop place
    let finish (f : Focus) (letter : Char) (value? : Option (List Char)) (index place status : Nat) : Machine :=
      let f : Focus := { f with scope := { f.scope with option := (index, place) } }
      let f := if value?.isNone then { f with scope := f.scope.remove "OPTARG" } else f
      let assigned := (value?.map fun v => ("OPTARG", v)).toList ++
        [("OPTIND", Text.Decimal.digits index), (String.ofList name, [letter])]
      f.assigning assigned (·.done status)
    let say (text : String) : Focus := { f with machine := (f.machine.write f.process 2 text.toList).1 }
    let take (letter : Char) (more : List Char) (index place : Nat) : Machine :=
      let known := (if silent then letters.tail else letters).dropWhile (· != letter)
      match known with
      | [] =>
        if silent then finish f '?' (some [letter]) index place 0
        else finish (say ("Illegal option -" ++ letter.toString ++ "\n")) '?' none index place 0
      | _ :: ':' :: _ =>
        if more != [] then finish f letter (some more) index 0 0
        else
          match words[index - 1]? with
          | some value => finish f letter (some value) (index + 1) 0 0
          | none =>
            if silent then finish f ':' (some [letter]) index 0 0
            else finish (say ("No arg for -" ++ letter.toString ++ " option\n")) '?' none index 0 0
      | _ => finish f letter (some []) index place 0
    match (if 1 < index && 0 < place then open_ else []), words[index - 1]? with
    | c :: more, _ => take c more index (place + 1)
    | [], some ['-', '-'] => finish f '?' none (index + 1) 0 1
    | [], some ('-' :: c :: more) => take c more (index + 1) 2
    | _, _ => finish f '?' none index 0 1
  | _ => (f.complain "getopts: Usage: getopts optstring var [arg...]").done 2

def umask (f : Focus) (args : List (List Char)) : Machine :=
  let set (n : Nat) : Machine := ({ f with scope := { f.scope with mask := n % 512 } } : Focus).done 0
  let digits (n : Nat) : List Nat := [n / 64 % 8, n / 8 % 8, n % 8]
  match args with
  | [] => f.writing 1 ('0' :: (digits f.scope.mask).flatMap Text.Decimal.digits ++ ['\n']) (·.done 0)
  | ['-', 'S'] :: _ =>
    let rights (n : Nat) : List Char :=
      [(4, 'r'), (2, 'w'), (1, 'x')].filterMap fun (bit, c) => if n / bit % 2 = 0 then some c else none
    let parts := (['u', 'g', 'o'].zip (digits f.scope.mask)).map fun (who, n) => who :: '=' :: rights n
    f.writing 1 ([','].intercalate parts ++ ['\n']) (·.done 0)
  | a :: _ =>
    if a.all Format.isOctal then set (a.foldl (fun n c => n * 8 + (c.toNat - 48)) 0)
    else (f.complain ("umask: Illegal mode: " ++ String.ofList a)).done 2

end ProcessControl.Sim.Shell.Builtin
