import ProcessControl.Sim.Shell.Builtin.Variables

namespace ProcessControl.Sim.Shell

def signalNumbers : List (String × Nat) := [
  ("EXIT", 0), ("HUP", 1), ("INT", 2), ("QUIT", 3), ("ILL", 4), ("TRAP", 5), ("ABRT", 6), ("BUS", 7), ("FPE", 8),
  ("KILL", 9), ("USR1", 10), ("SEGV", 11), ("USR2", 12), ("PIPE", 13), ("ALRM", 14), ("TERM", 15), ("CHLD", 17),
  ("CONT", 18), ("STOP", 19), ("TSTP", 20), ("TTIN", 21), ("TTOU", 22), ("URG", 23), ("WINCH", 28)]

def signalNumber? (cs : List Char) : Option Nat :=
  match Text.Decimal.read? cs with
  | some n => if n < 65 then some n else none
  | none =>
    let name := String.ofList (cs.map Char.toUpper)
    signalNumbers.lookup (if name.startsWith "SIG" then (name.drop 3).toString else name)

namespace Builtin

def trapText (f : Focus) : List Char :=
  signalNumbers.flatMap fun (name, number) =>
    match f.scope.traps.lookup number with
    | some action => "trap -- ".toList ++ quote action ++ ' ' :: name.toList ++ ['\n']
    | none =>
      if f.process.ignored.contains number then "trap -- '' ".toList ++ name.toList ++ ['\n'] else []

def trap (f : Focus) (args : List (List Char)) : Machine :=
  let args := if args.head? = some ['-', '-'] then args.tail else args
  let apply (action : List Char) (signals : List (List Char)) : Machine :=
    match signals.find? fun s => (signalNumber? s).isNone with
    | some s =>
      let text := "trap: ".toList ++ s ++ ": bad trap\n".toList
      ({ f with machine := (f.machine.write f.process 2 text).1 } : Focus).done 1
    | none =>
      let numbers := signals.filterMap signalNumber?
      let kept := f.scope.traps.filter fun t => !numbers.contains t.1
      let heard := f.process.ignored.filter (!numbers.contains ·)
      let (traps, ignored) :=
        if action = ['-'] then (kept, heard)
        else if action = [] then (kept, numbers ++ heard)
        else (kept ++ numbers.map (·, action), heard)
      ({ f with scope := { f.scope with traps }, process := { f.process with ignored } } : Focus).done 0
  match args with
  | [] => f.writing 1 (trapText f) (·.done 0)
  | [signal] => apply ['-'] [signal]
  | action :: signals => if (number? action).isSome then apply ['-'] args else apply action signals

-- The process that an argument names: a number, or the place among those started in the background.
def target? (f : Focus) (cs : List Char) : Option Nat :=
  match cs with
  | ['%', '-'] => f.scope.jobs[1]?
  | '%' :: name =>
    match number? name with
    | some n => f.scope.jobs.reverse[n - 1]?
    | none => f.scope.jobs.head?
  | cs => number? cs

def signalNames (f : Focus) (args : List (List Char)) : Machine :=
  let numbers := args.map fun a => (number? a).map fun n => if 128 < n then n - 128 else n
  let names := numbers.map fun n? => n?.bind fun n => (signalNumbers.find? (·.2 == n)).map (·.1.toList)
  if args.isEmpty then f.writing 1 (unlines ((signalNumbers.drop 1).map (·.1.toList))) (·.done 0)
  else if names.all (·.isSome) then f.writing 1 (unlines (names.filterMap id)) (·.done 0)
  else (f.complain ("kill: invalid signal number or exit status: " ++ String.ofList (args.headD []))).done 2

def kill (f : Focus) (args : List (List Char)) : Machine :=
  if args.head? = some ['-', 'l'] then signalNames f args.tail else
  let (signal?, targets) := match args with
    | ['-', 's'] :: s :: rest => (signalNumber? s, rest)
    | ['-', '-'] :: rest => (some 15, rest)
    | ('-' :: s) :: rest => (signalNumber? s, rest)
    | _ => (some 15, args)
  let targets := if targets.head? = some ['-', '-'] then targets.tail else targets
  let isJob (t : List Char) : Bool := t.head? = some '%'
  if targets.isEmpty then
    let usage := "kill: Usage: kill [-s sigspec | -signum | -sigspec] [pid | job]... or\nkill -l [exitstatus]"
    (f.complain usage).done 2 else
  match signal?, targets.find? fun t => !isJob t && (number? (t.dropWhile (· == '-'))).isNone with
  | none, _ => (f.complain ("kill: Illegal option -" ++ String.ofList (((args.headD []).drop 1).take 1))).done 2
  | _, some t => (f.complain ("kill: Illegal number: " ++ String.ofList t)).done 2
  | some number, none =>
    let pids := targets.map (target? f)
    let isThere (pid? : Option Nat) : Bool :=
      pid?.any fun pid => (f.machine.find? pid).isSome || f.process.ended.any (·.1 == pid)
    let missing := pids.any (!isThere ·)
    let f := if missing then f.complain "kill: No such process\n" else f
    let machine := f.done (if missing then 1 else 0)
    pids.foldl (fun m pid? =>
      match pid? with
      | some pid => (m.signal pid number).2
      | none => m) machine

def wait (f : Focus) (args : List (List Char)) : Machine :=
  let mine := (f.machine.processes.filter (·.parent == f.process.pid)).map (·.pid)
  match args with
  | [] => (f.push [.waitFor mine, .status 0]).store
  | args =>
    let pids := args.filterMap (target? f)
    let known := pids.filter fun k => mine.contains k || f.process.ended.any (·.1 == k)
    match pids.getLast? with
    | some last =>
      if known.contains last then (f.push [.waitFor known]).store else (f.push [.waitFor known, .status 127]).store
    | none => f.done 127

end Builtin

end ProcessControl.Sim.Shell
