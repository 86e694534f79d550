import ProcessControl.Sim.Shell.Launch

namespace ProcessControl.Sim.Shell

namespace Focus

def wordsOf : Command → List Word
  | .simple assigned words redirects => words ++ redirects.map (·.target) ++ assigned.map (·.2)
  | .each _ words? _ => words?.getD []
  | .choose word cases => word :: cases.flatMap (·.1)
  | .redirected _ redirects => redirects.map (·.target)
  | _ => []

def redirection (r : Redirect) : Expander Redirection := do
  let target ← Expander.whole r.target
  if (r.op = ">&" ∨ r.op = "<&") ∧ target ≠ ['-'] ∧ ¬(target.length = 1 ∧ target.all Char.isDigit) then
    throw "Bad fd number"
  return ⟨r.descriptor, r.op, target⟩

-- Whether the shell has nothing to do after what it does now, so that it can become what it runs.
def isLast (f : Focus) : Bool := f.frames.isEmpty && f.scope.traps.isEmpty

def program (f : Focus) (ds : Descriptors) (assigned : List (String × List Char)) (words : List (List Char)) :
    Machine :=
  let s := assigned.foldl (fun s (n, v) => s.put n ⟨some v, true, false⟩) f.scope
  if f.isLast then f.store.launch Machine.launchDepth { f.process with descriptors := ds } s words
  else
    let (pid, g) := f.fork [] ds false
    let m := (g.push [.await [pid]]).store
    match m.find? pid with
    | some child => m.launch Machine.launchDepth child s words
    | none => m

def simple (f : Focus) (hadOutput : Bool) (words : List (List Char)) (redirects : List Redirection)
    (assigned : List (String × List Char)) : Machine :=
  let f := f.trace assigned words
  let before := f.process.descriptors
  let name := String.ofList (words.headD [])
  let args := words.tail
  let special := Builtin.specialNames.contains name
  match f.redirectAll before redirects with
  | .error why => let f := f.complain why; if special && words != [] then f.exit 2 else f.done 2
  | .ok (f, ds) =>
    let under (saved : Saved) : Focus :=
      let g := { f with process := { f.process with descriptors := ds } }
      if redirects.isEmpty && saved.isEmpty then g else g.push [.restore before saved]
    if words.isEmpty then
      f.assigning assigned fun f => f.done (if hadOutput then f.scope.outputStatus else 0)
    else if name = "exec" then
      f.assigning assigned fun f =>
        let g := { f with process := { f.process with descriptors := ds } }
        if args.isEmpty then g.done 0 else g.store.launch Machine.launchDepth g.process g.scope args
    else if special then (under []).assigning assigned fun f => Builtin.run f name args
    else
      match f.scope.functions.lookup name with
      | some body =>
        (under (f.saved (assigned.map (·.1)))).assigning assigned fun f =>
          let frames := [.run body, .leave f.scope.arguments []]
          (({ f with scope := { f.scope with arguments := args } } : Focus).push frames).store
      | none =>
        if name = "command" then
          match if args.head? = some ['-', 'p'] then args.tail else args with
          | ['-', 'v'] :: names => Builtin.describe (under []) names false
          | ['-', 'V'] :: names => Builtin.describe (under []) names true
          | [] => f.done 0
          | inner :: args =>
            let known := String.ofList inner
            if Builtin.specialNames.contains known || Builtin.ordinaryNames.contains known then
              (under (f.saved (assigned.map (·.1)))).assigning assigned fun f => Builtin.run f known args
            else f.program ds assigned (inner :: args)
        else if Builtin.ordinaryNames.contains name then
          (under (f.saved (assigned.map (·.1)))).assigning assigned fun f => Builtin.run f name args
        else f.program ds assigned words

def begin (f : Focus) (outputs : List (List Char)) : Command → Machine
  | .simple assigned words redirects =>
    let parts : Expander _ := do
      let texts ← words.mapM (Expander.fields f.machine.files)
      let rs ← redirects.mapM redirection
      let values ← assigned.mapM fun (n, w) => do
        let v ← Expander.assigned w
        if texts.flatten.isEmpty then
          modify fun p => if p.scope.isConstant n then p else { p with scope := p.scope.assign n v }
        return (n, v)
      return (texts.flatten, rs, values)
    f.expanding outputs parts fun (words, redirects, assigned) f => f.simple (!outputs.isEmpty) words redirects assigned
  | .each name words? body =>
    match words? with
    | none => (f.setStatus 0 |>.push [.each name f.scope.arguments body]).store
    | some words =>
      f.expanding outputs (words.mapM (Expander.fields f.machine.files)) fun texts f =>
        (f.setStatus 0 |>.push [.each name texts.flatten body]).store
  | .choose word cases =>
    let parts : Expander _ := do
      let text ← Expander.whole word
      let patterns ← cases.mapM fun (ps, body) => return (← ps.mapM Expander.pattern, body)
      return (text, patterns)
    f.expanding outputs parts fun (text, patterns) f =>
      match patterns.find? fun (ps, _) => ps.any (·.accepts text) with
      | some (_, body) => (f.setStatus 0 |>.push [.run body]).store
      | none => f.done 0
  | .redirected body redirects =>
    f.expanding outputs (redirects.mapM redirection) fun rs f =>
      let before := f.process.descriptors
      match f.redirectAll before rs with
      | .error why => (f.complain why).done 2
      | .ok (f, ds) =>
        (({ f with process := { f.process with descriptors := ds } } : Focus).push
          [.run body, .restore before []]).store
  | c => (f.push [.run c]).store

def stages : List Command → Option Nat → List Nat → Focus → List Nat × Focus
  | [], _, pids, f => (pids, f)
  | c :: rest, input?, pids, f =>
    let base := f.process.descriptors
    let ds := match input? with
      | some n => (0, n) :: base.filter (·.1 != 0)
      | none => base
    if rest.isEmpty then
      let (pid, f) := f.fork [.run c] ds false
      (pid :: pids, f)
    else
      let (k, machine) := f.machine.pipe []
      let (out, machine) := machine.target (.writer k)
      let (next, machine) := machine.target (.reader k)
      let (pid, f) := ({ f with machine } : Focus).fork [.run c] ((1, out) :: ds.filter (·.1 != 1)) false
      stages rest (some next) (pid :: pids) f

def start (f : Focus) (c : Command) : Machine :=
  if f.scope.has 'n' then f.store else
  match c with
  | .sequence a b => (f.push [.run a, .run b]).store
  | .both a b => (f.push [.run a, .both b]).store
  | .either a b => (f.push [.run a, .either b]).store
  | .negated a => (f.push [.run a, .negate]).store
  | .pipe cs =>
    let (pids, f) := stages cs none [] f
    (f.push [.await pids]).store
  | .background a =>
    let (n, machine) := f.machine.target .nowhere
    let ds := (0, n) :: f.process.descriptors.filter (·.1 != 0)
    let (pid, f) := ({ f with machine } : Focus).fork [.run a] ds true
    ({ f with scope := { f.scope with jobs := pid :: f.scope.jobs } } : Focus).done 0
  | .subshell a =>
    if f.isLast then (f.push [.run a]).store
    else
      let (pid, f) := f.fork [.run a] f.process.descriptors false
      (f.push [.await [pid]]).store
  | .loop w condition body => (f.setStatus 0 |>.push [.run condition, .tested w condition body]).store
  | .branch condition yes no => (f.push [.run condition, .branch yes no]).store
  | .define name body =>
    let functions := (name, body) :: f.scope.functions.filter (·.1 != name)
    ({ f with scope := { f.scope with functions } } : Focus).done 0
  | .malformed => (f.complain "Syntax error").exit 2
  | c =>
    match (wordsOf c).flatMap Word.commands with
    | [] => f.begin [] c
    | texts => (f.push [.expand c texts []]).store

def trapped? (f : Focus) : Option Machine :=
  match f.process.pending with
  | [] => none
  | n :: more =>
    let f := { f with process := { f.process with pending := more } }
    let interrupted (frames : List Frame) (status : Nat) : Machine :=
      let actions := (Command.read ((f.scope.traps.lookup n).getD [])).map Frame.run
      ({ f with frames := actions ++ .status status :: frames } : Focus).store
    match f.frames with
    | .await _ :: _ | .gather _ _ _ _ _ :: _ | .keep _ :: _ | .read _ _ :: _ => none
    | .waitFor _ :: rest => some (interrupted rest (Machine.statusOf n))
    | frames => some (interrupted frames f.scope.status)

-- The status of the first of some children, and the shell without what it knew of them.
def collect (f : Focus) (pids : List Nat) : Nat × Focus :=
  let status := (pids.head?.bind fun k => f.process.ended.lookup k).getD 0
  (status, { f with process := { f.process with ended := f.process.ended.filter fun e => !pids.contains e.1 } })

-- One step of a shell; `f.frames` is what comes after the frame at hand.
def step (f : Focus) : Frame → Machine
  | .run c => f.start c
  | .both next => if f.scope.status = 0 then (f.push [.run next]).store else f.store
  | .either next => if f.scope.status = 0 then f.store else (f.push [.run next]).store
  | .negate => (f.setStatus (if f.scope.status = 0 then 1 else 0)).store
  | .tested w condition body =>
    if (f.scope.status = 0) = (w = true) then (f.push [.run body, .repeated w condition body]).store
    else (f.setStatus 0).store
  | .repeated w condition body => (f.push [.run condition, .tested w condition body]).store
  | .each name left body =>
    match left with
    | [] => f.store
    | v :: rest => f.assigning [(name, v)] fun f => (f.push [.run body, .each name rest body]).store
  | .branch yes no =>
    if f.scope.status = 0 then (f.push [.run yes]).store else (f.setStatus 0 |>.push [.run no]).store
  | .restore descriptors vars => (f.drop (.restore descriptors vars)).store
  | .leave arguments locals => (f.drop (.leave arguments locals)).store
  | .await pids => let (status, f) := f.collect pids; f.done status
  | .waitFor pids =>
    let (status, f) := f.collect pids.reverse
    f.done (if pids.isEmpty then 0 else status)
  | .expand c left outputs =>
    match left with
    | [] => f.begin outputs.reverse c
    | text :: more =>
      let (k, machine) := f.machine.pipe []
      let (out, machine) := machine.target (.writer k)
      let f := { f with machine }
      let ds := (1, out) :: f.process.descriptors.filter (·.1 != 1)
      let (pid, f) := f.fork ((Command.read text).map .run) ds false
      (f.push [.gather k pid c more ([] :: outputs)]).store
  | .gather k child c left outputs =>
    let text := outputs.headD [] ++ f.machine.pipeText k
    let f := { f with machine := f.machine.setPipe k [] }
    let outputs := text :: outputs.tail
    if f.machine.hasWriter k then (f.push [.gather k child c left outputs]).store
    else (f.push [.keep child, .expand c left outputs]).store
  | .keep child =>
    let (outputStatus, f) := f.collect [child]
    ({ f with scope := { f.scope with outputStatus } } : Focus).store
  | .read names raw => Builtin.readLine f names raw
  | .status n => (f.setStatus n).store
  | .finish n => f.machine.finish f.process.pid n

end Focus

namespace Machine

def complete (m : Machine) (p : Process) (u : Tool) (c : Call) : Machine :=
  let o := u.run { c with files := m.files }
  let m := { m with files := o.files }
  let (m, _) := m.write p 2 o.errors
  let (m, read) := m.write p 1 o.output
  m.finish p.pid (if read then o.status else statusOf Focus.brokenPipe)

-- How long a program that writes for ever takes for a block.
def blockTime : Nat := 10 * 1000000

def step (m : Machine) (p : Process) : Machine :=
  match p.task with
  | .resident => m
  | .shell s frames =>
    let f : Focus := ⟨m, p, s, frames⟩
    match f.trapped? with
    | some m => m
    | none =>
      match frames with
      | [] => f.exit s.status
      | frame :: rest => ({ f with frames := rest } : Focus).step frame
  | .program u c =>
    if u.reads c && !u.enough c c.input then
      let (text, atEnd) := m.available p 0
      let m := m.consume p 0 text.length
      let c := { c with input := c.input ++ text }
      if atEnd || u.enough c c.input then m.complete p u c
      else m.update { p with task := .program u c, due := m.clock + Focus.stepTime }
    else m.complete p u c
  | .gathering purpose s input =>
    let (text, atEnd) := m.available p 0
    let m := m.consume p 0 text.length
    if atEnd then m.gathered p s (input ++ text) purpose
    else m.update { p with task := .gathering purpose s (input ++ text), due := m.clock + Focus.stepTime }
  | .sleep => m.finish p.pid 0
  | .endless line =>
    let (m, read) := m.write p 1 (List.replicate 512 line).flatten
    if read then m.update { p with due := m.clock + blockTime } else m.finish p.pid (statusOf Focus.brokenPipe)
  | .guard child _ =>
    match p.ended.lookup child with
    | some status => m.finish p.pid status
    | none => ((m.signal child 15).2).finish p.pid 124

def first? (m : Machine) : Option (Process × Nat) :=
  m.processes.foldl (fun best p =>
    match m.dueAt? p with
    | none => best
    | some t => if best.all fun b => t < b.2 then some (p, t) else best) none

-- All steps that are due up to a time, in so many steps at most.
def advance : Nat → Nat → Machine → Machine
  | 0, limit, m => { m with clock := max m.clock limit }
  | fuel + 1, limit, m =>
    match m.first? with
    | none => { m with clock := max m.clock limit }
    | some (p, t) =>
      if limit < t then { m with clock := max m.clock limit }
      else advance fuel limit (step { m with clock := max m.clock t } p)

end Machine

end ProcessControl.Sim.Shell
