import ProcessControl.Sim.Shell.Expansion
import ProcessControl.Sim.Shell.Machine

namespace ProcessControl.Sim.Shell

structure Focus where
  machine : Machine
  process : Process
  scope : Scope
  frames : List Frame

namespace Focus

-- How long a step of a shell takes, in nanoseconds.
def stepTime : Nat := 20000

def forkTime : Nat := 400000

def store (f : Focus) : Machine :=
  f.machine.update { f.process with task := .shell f.scope f.frames, due := f.machine.clock + stepTime }

def push (f : Focus) (frames : List Frame) : Focus := { f with frames := frames ++ f.frames }

def setStatus (f : Focus) (status : Nat) : Focus := { f with scope := { f.scope with status } }

-- Whether somebody looks at the status of what is running.
def isTested (f : Focus) : Bool :=
  f.frames.any fun
    | .both _ | .either _ | .negate | .tested _ _ _ | .branch _ _ => true
    | _ => false

-- The end of the shell, before which it does what it has been told to do at the end.
def exit (f : Focus) (status : Nat) : Machine :=
  match f.scope.traps.lookup 0 with
  | some action =>
    let scope := { f.scope with status, traps := f.scope.traps.filter (·.1 != 0) }
    ({ f with scope, frames := (Command.read action).map .run ++ [.finish status] } : Focus).store
  | none => f.machine.finish f.process.pid status

-- A command is done. A failure that nobody looks at may end the shell.
def done (f : Focus) (status : Nat) : Machine :=
  let f := f.setStatus status
  if status != 0 && f.scope.has 'e' && !f.isTested then f.exit status else f.store

def brokenPipe : Nat := 13

def writing (f : Focus) (descriptor : Nat) (text : List Char) (next : Focus → Machine) : Machine :=
  let (machine, read) := f.machine.write f.process descriptor text
  if read || f.process.ignored.contains brokenPipe then next { f with machine }
  else machine.finish f.process.pid (Machine.statusOf brokenPipe)

def trace (f : Focus) (assigned : List (String × List Char)) (words : List (List Char)) : Focus :=
  if f.scope.has 'x' && !(assigned.isEmpty && words.isEmpty) then
    let texts := assigned.map (fun (name, value) => name.toList ++ '=' :: value) ++ words
    let text := f.scope.value "PS4" ++ [' '].intercalate texts ++ ['\n']
    { f with machine := (f.machine.write f.process 2 text).1 }
  else f

def complain (f : Focus) (why : String) : Focus :=
  let text := f.scope.title ++ ": 1: ".toList ++ why.toList ++ ['\n']
  { f with machine := (f.machine.write f.process 2 text).1 }

def expanding {α : Type} (f : Focus) (outputs : List (List Char)) (e : Expander α) (next : α → Focus → Machine) :
    Machine :=
  match e.run ⟨f.scope, outputs⟩ with
  | .ok (a, progress) => next a { f with scope := progress.scope }
  | .error why => (f.complain why).exit 2

-- A process that begins as a copy of the shell; in the background it does not take interrupts.
def fork (f : Focus) (frames : List Frame) (descriptors : Descriptors) (background : Bool) : Nat × Focus :=
  let pid := f.machine.next
  let options := if f.isTested then f.scope.options.filter (· != 'e') else f.scope.options
  let child : Process := {
    pid
    parent := f.process.pid
    name := f.process.name
    due := f.machine.clock + forkTime
    descriptors
    ignored := if background then [2, 3] ++ f.process.ignored else f.process.ignored
    task := .shell { f.scope with traps := [], options } frames }
  (pid, { f with machine := { f.machine with processes := f.machine.processes ++ [child], next := pid + 1 } })

structure Redirection where
  descriptor : Nat
  op : String
  target : List Char

def lead (f : Focus) (ds : Descriptors) (descriptor : Nat) (t : Target) : Focus × Descriptors :=
  let (n, machine) := f.machine.target t
  ({ f with machine }, (descriptor, n) :: ds.filter (·.1 != descriptor))

-- Opens a file to write to it, made or emptied before if need be; `spare` keeps a file that is there.
def openOutput (f : Focus) (ds : Descriptors) (r : Redirection) (empty append spare : Bool) :
    Except String (Focus × Descriptors) := do
  if r.target = Call.nullDevice then return f.lead ds r.descriptor .nowhere
  let name := String.ofList r.target
  match Node.locateNew (f.scope.path r.target) f.machine.files with
  | .error e =>
    throw ("cannot create " ++ name ++ ": " ++
      if e = .noSuchEntry then "Directory nonexistent" else Call.reason e)
  | .ok path =>
    match Node.find path f.machine.files with
    | .ok (.directory _) => throw ("cannot create " ++ name ++ ": Is a directory")
    | found =>
      if spare && found.toOption.isSome then throw ("cannot create " ++ name ++ ": File exists")
      let files := if empty || found.toOption.isNone then Node.write [] path f.machine.files
        else f.machine.files
      return ({ f with machine := { f.machine with files } } : Focus).lead ds r.descriptor (.file path 0 append)

def openInput (f : Focus) (ds : Descriptors) (r : Redirection) : Except String (Focus × Descriptors) := do
  if r.target = Call.nullDevice then return f.lead ds r.descriptor .nowhere
  let path := f.scope.path r.target
  match Node.locate path f.machine.files with
  | .ok path => return f.lead ds r.descriptor (.file path 0 false)
  | .error e =>
    throw ("cannot open " ++ String.ofList r.target ++ ": " ++
      if e = .noSuchEntry then "No such file" else Call.reason e)

def redirect (f : Focus) (ds : Descriptors) (r : Redirection) : Except String (Focus × Descriptors) :=
  match r.op with
  | ">" => f.openOutput ds r true false (f.scope.has 'C')
  | ">|" => f.openOutput ds r true false false
  | ">>" => f.openOutput ds r false true false
  | "<>" => f.openOutput ds r false false false
  | "<" => f.openInput ds r
  | "<<" =>
    let (k, machine) := f.machine.pipe r.target
    .ok (({ f with machine } : Focus).lead ds r.descriptor (.reader k))
  | _ =>
    if r.target = ['-'] then .ok (f, ds.filter (·.1 != r.descriptor))
    else
      match Text.Decimal.read? r.target with
      | none => .error "Bad fd number"
      | some d =>
        match ds.lookup d with
        | some n => .ok (f, (r.descriptor, n) :: ds.filter (·.1 != r.descriptor))
        | none =>
          if d < 3 then .ok (f.lead ds r.descriptor .nowhere)
          else .error (String.ofList r.target ++ ": Bad file descriptor")

def redirectAll (f : Focus) (ds : Descriptors) : List Redirection → Except String (Focus × Descriptors)
  | [] => .ok (f, ds)
  | r :: rs => do
    let (f, ds) ← f.redirect ds r
    f.redirectAll ds rs

def saved (f : Focus) (names : List String) : Saved := names.map fun n => (n, f.scope.vars.lookup n)

def unsave (s : Scope) (saved : Saved) : Scope :=
  saved.foldl (fun s (n, v?) =>
    match v? with
    | some v => s.put n v
    | none => s.remove n) s

def assigning (f : Focus) : List (String × List Char) → (Focus → Machine) → Machine
  | [], next => next f
  | (name, value) :: rest, next =>
    if f.scope.isConstant name then (f.complain (name ++ ": is read only")).exit 2
    else ({ f with scope := f.scope.assign name value } : Focus).assigning rest next

-- Takes back what a frame stands for when it is dropped.
def drop (f : Focus) : Frame → Focus
  | .restore descriptors vars =>
    { f with process := { f.process with descriptors }, scope := unsave f.scope vars }
  | .leave arguments locals => { f with scope := { unsave f.scope locals with arguments } }
  | _ => f

def unwind (goOn : Bool) : Nat → List Frame → Focus → Focus
  | _, [], f => f
  | levels, frame :: rest, f =>
    let f := { f with frames := rest }
    match frame with
    | .repeated _ _ _ | .tested _ _ _ | .each _ _ _ =>
      if 1 < levels then unwind goOn (levels - 1) rest f
      else if !goOn then f
      else
        match frame with
        | .tested w c b => f.push [.repeated w c b]
        | frame => f.push [frame]
    | .leave _ _ => f.push [frame]
    | frame => unwind goOn levels rest (f.drop frame)

def loopDepth : List Frame → Nat
  | [] => 0
  | .repeated _ _ _ :: rest | .tested _ _ _ :: rest | .each _ _ _ :: rest => loopDepth rest + 1
  | .leave _ _ :: _ => 0
  | _ :: rest => loopDepth rest

def unwindFunction : List Frame → Focus → Option Focus
  | [], _ => none
  | frame :: rest, f =>
    let f := ({ f with frames := rest } : Focus).drop frame
    match frame with
    | .leave _ _ => some f
    | _ => unwindFunction rest f

end Focus

end ProcessControl.Sim.Shell
