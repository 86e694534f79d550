import ProcessControl.PathFailure

namespace ProcessControl.Sim

abbrev FileName := List UInt8

-- The steps from the root, which may be a dot to stay and two dots to go back.
abbrev Path := List FileName

inductive Node
  | file (data : List UInt8) (runs : Bool := false)
  | directory (children : List (FileName × Node))

namespace Path

def here : FileName := [0x2E]

def up : FileName := [0x2E, 0x2E]

-- The names between the slashes, of which several count as one. A slash at the end asks for a directory.
def ofBytes (bytes : List UInt8) : Path :=
  let parts := bytes.splitBy (fun a b => (a == 0x2F) == (b == 0x2F))
  let names := parts.filter fun part => part.head? != some 0x2F
  if names != [] && bytes.getLast? == some 0x2F then names ++ [here] else names

-- The path without dots, where every step back undoes the one before it.
def collapse (path : Path) : Path :=
  (path.foldl (fun done name =>
    if name = here then done else if name = up then done.tail else name :: done) []).reverse

def nameLimit : Nat := 255

def lengthLimit : Nat := 4096

def read (bytes : List UInt8) : Except PathFailure Path :=
  if bytes.contains 0 then .error .nulInPath
  else if lengthLimit ≤ bytes.length then .error (.system .nameTooLong)
  else .ok (ofBytes bytes)

def join (base name : List UInt8) : List UInt8 :=
  if name.head? = some 0x2F then name else base ++ 0x2F :: name

end Path

namespace Node

def empty : Node := .directory []

def child? (children : List (FileName × Node)) (name : FileName) : Option Node :=
  (children.find? (·.1 == name)).map (·.2)

-- The children with one of them changed, added at the end if it is new.
def setChild (children : List (FileName × Node)) (name : FileName) (node : Node) : List (FileName × Node) :=
  if (child? children name).isSome then
    children.map fun entry => if entry.1 == name then (name, node) else entry
  else children ++ [(name, node)]

-- What lies at the end of a way from the root, whose last step comes first.
def endOf (root : Node) (way : List (FileName × Node)) : Node :=
  (way.head?.map (·.2)).getD root

def step (root : Node) (way : List (FileName × Node)) (name : FileName) : Except Errno (List (FileName × Node)) :=
  match endOf root way with
  | .file _ _ => .error .notADirectory
  | .directory children =>
    if name = Path.here then .ok way
    else if name = Path.up then .ok way.tail
    else if Path.nameLimit < name.length then .error .nameTooLong
    else
      match child? children name with
      | none => .error .noSuchEntry
      | some node => .ok ((name, node) :: way)

def walk (path : Path) (root : Node) : Except Errno (List (FileName × Node)) :=
  path.foldlM (step root) []

def find (path : Path) (root : Node) : Except Errno Node :=
  (walk path root).map (endOf root)

def locate (path : Path) (root : Node) : Except Errno Path :=
  (walk path root).map fun way => (way.map (·.1)).reverse

-- The path without dots to what lies at a path, or will lie there once it is made.
def locateNew (path : Path) (root : Node) : Except Errno Path :=
  match locate path root, path.getLast? with
  | .error .noSuchEntry, some name => do
    if name = Path.here then throw .isADirectory
    return (← locate path.dropLast root) ++ [name]
  | outcome, _ => outcome

def read (path : Path) (root : Node) : Except Errno (List UInt8) := do
  match ← find path root with
  | .file data _ => .ok data
  | .directory _ => .error .isADirectory

-- The names in a directory, in the order in which they were made.
def list (path : Path) (root : Node) : Except Errno (List FileName) := do
  match ← find path root with
  | .file _ _ => .error .notADirectory
  | .directory children => .ok (children.map (·.1))

-- Puts a node at a path without dots, with all directories on the way. What is in the way is replaced, but a
-- directory stays when an empty one is put there.
def put (node : Node) : Path → Node → Node
  | [], old =>
    match node, old with
    | .directory [], .directory _ => old
    | _, _ => node
  | name :: rest, old =>
    let children := match old with
      | .directory children => children
      | .file _ _ => []
    .directory (setChild children name (put node rest ((child? children name).getD empty)))

def write (data : List UInt8) (path : Path) (root : Node) : Node :=
  let runs := match find path root with
    | .ok (.file _ runs) => runs
    | _ => false
  put (.file data runs) path root

def setRuns (runs : Bool) (path : Path) (root : Node) : Node :=
  match find path root with
  | .ok (.file data _) => put (.file data runs) path root
  | _ => root

def remove : Path → Node → Node
  | [], _ => empty
  | _ :: _, .file data runs => .file data runs
  | [name], .directory children => .directory (children.filter (·.1 != name))
  | name :: rest, .directory children =>
    match child? children name with
    | none => .directory children
    | some node => .directory (setChild children name (remove rest node))

end Node

end ProcessControl.Sim
