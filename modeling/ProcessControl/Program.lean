import ProcessControl.Log

namespace ProcessControl

-- What a system can be asked, and what kind of answer each question has.
structure Interface where
  Call : Type
  Answer : Call → Type

namespace Interface

def none : Interface := ⟨Empty, fun _ => Empty⟩

def sum (I J : Interface) : Interface where
  Call := I.Call ⊕ J.Call
  Answer
    | .inl call => I.Answer call
    | .inr call => J.Answer call

structure Exchange (I : Interface) where
  call : I.Call
  answer : I.Answer call

end Interface

-- Why a program stopped without a result.
inductive Halt
  -- A step that has no result was taken, such as working out a time that the clock cannot tell.
  | crashed
  -- A loop was left because its budget of rounds had run out.
  | unfinished
deriving DecidableEq, Repr

-- A program is the tree of what it does: it asks a system and goes on with any answer that it may get.
inductive Program (I : Interface) (α : Type)
  | done (a : α)
  | halt (why : Halt)
  | note (entry : LogEntry) (rest : Program I α)
  | ask (call : I.Call) (next : I.Answer call → Program I α)

namespace Program

variable {I J : Interface} {α β : Type}

def bind : Program I α → (α → Program I β) → Program I β
  | done a, k => k a
  | halt why, _ => halt why
  | note entry rest, k => note entry (rest.bind k)
  | ask call next, k => ask call fun answer => (next answer).bind k

instance : Monad (Program I) where
  pure := done
  bind := bind

def call (c : I.Call) : Program I (I.Answer c) := ask c done

def log (entry : LogEntry) : Program I Unit := note entry (done ())

def logAll (entries : List LogEntry) : Program I Unit := entries.forM log

def notice (n : Notice) : Program I Unit := log (.noticed n)

def record (f : Field) : Program I Unit := log (.recorded f)

def inl : Program I α → Program (I.sum J) α
  | done a => done a
  | halt why => halt why
  | note entry rest => note entry rest.inl
  | ask c next => ask (.inl c) fun answer => (next answer).inl

def inr : Program J α → Program (I.sum J) α
  | done a => done a
  | halt why => halt why
  | note entry rest => note entry rest.inr
  | ask c next => ask (.inr c) fun answer => (next answer).inr

end Program

-- A system that answers every question and changes while it does.
abbrev Handler (I : Interface) (σ : Type) := (call : I.Call) → σ → I.Answer call × σ

structure Run (I : Interface) (σ α : Type) where
  outcome : Except Halt α
  history : List I.Exchange
  log : List LogEntry
  state : σ

namespace Program

variable {I J : Interface} {σ α : Type}

def run (handler : Handler I σ) : Program I α → σ → Run I σ α
  | done a, s => ⟨.ok a, [], [], s⟩
  | halt why, s => ⟨.error why, [], [], s⟩
  | note entry rest, s =>
    let r := rest.run handler s
    { r with log := entry :: r.log }
  | ask c next, s =>
    let (answer, s) := handler c s
    let r := (next answer).run handler s
    { r with history := ⟨c, answer⟩ :: r.history }

end Program

namespace Run

variable {I : Interface} {σ α : Type}

def calls (r : Run I σ α) : List I.Call := r.history.map (·.call)

end Run

def Handler.none {σ : Type} : Handler Interface.none σ := fun call => Empty.elim call

def Handler.sum {I J : Interface} {σ : Type} (f : Handler I σ) (g : Handler J σ) : Handler (I.sum J) σ
  | .inl call, s => f call s
  | .inr call, s => g call s

end ProcessControl
