import ProcessControl.Sim.Shell.Tool

namespace ProcessControl.Sim.Shell

inductive Target
  | nowhere
  | file (path : Path) (offset : Nat) (append : Bool)
  | reader (pipe : Nat)
  | writer (pipe : Nat)

-- For each descriptor the number of its target, which several processes may share.
abbrev Descriptors := List (Nat × Nat)

abbrev Saved := List (String × Option Variable)

-- What a shell still has to do, once what stands before it is done.
inductive Frame
  | run (c : Command)
  | both (next : Command)
  | either (next : Command)
  | negate
  | tested (while_ : Bool) (condition body : Command)
  | repeated (while_ : Bool) (condition body : Command)
  | each (name : String) (left : List (List Char)) (body : Command)
  | branch (yes no : Command)
  | restore (descriptors : Descriptors) (vars : Saved)
  | leave (arguments : List (List Char)) (locals : Saved)
  | await (pids : List Nat)
  -- Waits on demand, which a signal interrupts.
  | waitFor (pids : List Nat)
  -- The commands whose output a command needs, and the outputs so far, last one first.
  | expand (c : Command) (left : List (List Char)) (outputs : List (List Char))
  -- Takes the output of a child from a pipe.
  | gather (pipe child : Nat) (c : Command) (left : List (List Char)) (outputs : List (List Char))
  -- Waits for a child whose output has been taken, and keeps its status apart.
  | keep (child : Nat)
  | read (names : List String) (raw : Bool)
  | status (n : Nat)
  | finish (n : Nat)

-- What an input is read for that is needed whole.
inductive Purpose
  -- A program is run with its words after the given ones, with so many at a time, or once for each line, which takes
  -- the place of a mark.
  | words (command : List (List Char)) (limit? : Option Nat) (mark? : Option (List Char))
  | script (options : List Char) (arguments : List (List Char))

inductive Task
  | resident
  | shell (s : Scope) (frames : List Frame)
  | program (u : Tool) (c : Call)
  | gathering (purpose : Purpose) (s : Scope) (input : List Char)
  | sleep
  | endless (line : List Char)
  | guard (child deadline : Nat)

inductive Phase
  | running
  | stopped
  | zombie
deriving DecidableEq, Repr

structure Process where
  pid : Nat
  parent : Nat
  name : List Char
  phase : Phase := .running
  collected : Bool := true
  -- When it is due next, in nanoseconds.
  due : Nat
  descriptors : Descriptors := []
  ignored : List Nat := []
  pending : List Nat := []
  -- Children that have ended, with their statuses.
  ended : List (Nat × Nat) := []
  task : Task

def Process.traps (p : Process) (number : Nat) : Bool :=
  match p.task with
  | .shell s _ => s.traps.any (·.1 == number)
  | _ => false

structure Machine where
  clock : Nat
  processes : List Process
  next : Nat
  targets : List (Nat × Target)
  pipes : List (Nat × List Char)
  files : Node

namespace Machine

def find? (m : Machine) (pid : Nat) : Option Process := m.processes.find? (·.pid == pid)

def update (m : Machine) (p : Process) : Machine :=
  { m with processes := m.processes.map fun q => if q.pid == p.pid then p else q }

def fresh (m : Machine) : Nat := m.targets.length + 1

def target (m : Machine) (t : Target) : Nat × Machine :=
  let n := m.fresh
  (n, { m with targets := (n, t) :: m.targets })

def pipe (m : Machine) (text : List Char) : Nat × Machine :=
  let n := m.pipes.length + 1
  (n, { m with pipes := (n, text) :: m.pipes })

def setTarget (m : Machine) (n : Nat) (t : Target) : Machine :=
  { m with targets := m.targets.map fun entry => if entry.1 == n then (n, t) else entry }

def setPipe (m : Machine) (n : Nat) (text : List Char) : Machine :=
  { m with pipes := m.pipes.map fun entry => if entry.1 == n then (n, text) else entry }

def pipeText (m : Machine) (n : Nat) : List Char := (m.pipes.lookup n).getD []

def targetOf? (m : Machine) (p : Process) (descriptor : Nat) : Option (Nat × Target) := do
  let n ← p.descriptors.lookup descriptor
  return (n, ← m.targets.lookup n)

-- The targets that a process holds, set aside ones included.
def held (p : Process) : List Nat :=
  p.descriptors.map (·.2) ++
    match p.task with
    | .shell _ frames => frames.flatMap fun
      | .restore ds _ => ds.map (·.2)
      | _ => []
    | _ => []

def holds (m : Machine) (wanted : Target → Bool) : Bool :=
  m.processes.any fun p => p.phase != .zombie && (held p).any fun n => (m.targets.lookup n).any wanted

def hasWriter (m : Machine) (pipe : Nat) : Bool :=
  m.holds fun
    | .writer k => k == pipe
    | _ => false

def hasReader (m : Machine) (pipe : Nat) : Bool :=
  (m.holds fun
    | .reader k => k == pipe
    | _ => false) ||
  m.processes.any fun p =>
    match p.task with
    | .shell _ (.gather k _ _ _ _ :: _) => k == pipe
    | _ => false

def available (m : Machine) (p : Process) (descriptor : Nat) : List Char × Bool :=
  match m.targetOf? p descriptor with
  | some (_, .file path offset _) =>
    (((Node.read path m.files).toOption.getD []).drop offset |> charsOf, true)
  | some (_, .reader k) => (m.pipeText k, !m.hasWriter k)
  | _ => ([], true)

def consume (m : Machine) (p : Process) (descriptor count : Nat) : Machine :=
  match m.targetOf? p descriptor with
  | some (n, .file path offset append) => m.setTarget n (.file path (offset + count) append)
  | some (_, .reader k) => m.setPipe k ((m.pipeText k).drop count)
  | _ => m

-- Writes to a descriptor, and tells whether anybody may still read it.
def write (m : Machine) (p : Process) (descriptor : Nat) (text : List Char) : Machine × Bool :=
  if text = [] then (m, true) else
  match m.targetOf? p descriptor with
  | some (n, .file path offset append) =>
    match Node.read path m.files with
    | .ok old =>
      let start := if append then old.length else offset
      let data := bytesOf text
      let before := old.take start ++ List.replicate (start - old.length) 0
      let new := before ++ data ++ old.drop (start + data.length)
      let m := { m with files := Node.write new path m.files }
      (m.setTarget n (.file path (start + data.length) append), true)
    | .error _ => (m, true)
  | some (_, .writer k) =>
    if m.hasReader k then (m.setPipe k (m.pipeText k ++ text), true) else (m, false)
  | _ => (m, true)

def statusOf (signal : Nat) : Nat := 128 + signal

def childNumber : Nat := 17

-- A process has ended. Its parent learns the status; without one that cares it is gone.
def finish (m : Machine) (pid status : Nat) : Machine :=
  match m.find? pid with
  | none => m
  | some p =>
    let m := if p.collected then { m with processes := m.processes.filter (·.pid != pid) }
      else m.update { p with phase := .zombie, descriptors := [], pending := [], task := .resident }
    match m.find? p.parent with
    | some parent =>
      let pending := if parent.traps childNumber then parent.pending ++ [childNumber] else parent.pending
      m.update { parent with ended := (pid, status) :: parent.ended, pending }
    | none => m

def killNumber : Nat := 9

def stopNumber : Nat := 19

def stopNumbers : List Nat := [19, 20, 21, 22]

def continueNumber : Nat := 18

-- Signals that do nothing unless somebody waits for them.
def harmless : List Nat := [17, 18, 23, 28]

-- Sends a signal, and tells whether there was somebody to take it. A zombie takes every signal and stays what it
-- is.
def signal (m : Machine) (pid number : Nat) : Bool × Machine :=
  match m.find? pid with
  | none => (false, m)
  | some p =>
    if number = 0 || p.phase = .zombie then (true, m)
    else if number = killNumber then (true, m.finish pid (statusOf number))
    else if number = stopNumber then (true, m.update { p with phase := .stopped })
    else if number = continueNumber && p.phase = .stopped then
      (true, m.update { p with phase := .running, due := max p.due m.clock })
    else if p.ignored.contains number then (true, m)
    else
      if p.traps number then (true, m.update { p with pending := p.pending ++ [number] })
      else if stopNumbers.contains number then (true, m.update { p with phase := .stopped })
      else if harmless.contains number then (true, m)
      else (true, m.finish pid (statusOf number))

-- The length of the first line with its end, if it is there; a backslash before a line end joins lines.
def lineLength? (raw : Bool) : Nat → List Char → Option Nat
  | _, [] => none
  | n, [c] => if c = '\n' then some (n + 1) else none
  | n, c :: d :: rest =>
    if c = '\n' then some (n + 1)
    else if c = '\\' && !raw then lineLength? raw (n + 2) rest
    else lineLength? raw (n + 1) (d :: rest)

def isBlocked (m : Machine) (p : Process) : Bool :=
  let starved : Bool :=
    let (text, atEnd) := m.available p 0
    text.isEmpty && !atEnd
  match p.task with
  | .resident => true
  | .shell _ (.await pids :: _) => pids.any fun k => !p.ended.any (·.1 == k)
  | .shell _ (.keep child :: _) => !p.ended.any (·.1 == child)
  | .shell _ (.waitFor pids :: _) => p.pending.isEmpty && pids.any fun k => !p.ended.any (·.1 == k)
  | .shell _ (.gather k _ _ _ _ :: _) => (m.pipeText k).isEmpty && m.hasWriter k
  | .shell _ (.read _ raw :: _) =>
    let (text, atEnd) := m.available p 0
    !atEnd && (lineLength? raw 0 text).isNone
  | .program u c => u.reads c && !u.enough c c.input && starved
  | .gathering _ _ _ => starved
  | _ => false

-- When a process can go on, if it can.
def dueAt? (m : Machine) (p : Process) : Option Nat :=
  if p.phase != .running || m.isBlocked p then none
  else
    match p.task with
    | .guard child deadline => some (if p.ended.any (·.1 == child) then p.due else deadline)
    | _ => some p.due

end Machine

end ProcessControl.Sim.Shell
