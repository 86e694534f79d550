import ProcessControl.Sim.Shell.Token

namespace ProcessControl.Sim.Shell

-- What becomes of a descriptor: an operator with its target, or `<<` with the text of the input.
structure Redirect where
  descriptor : Nat
  op : String
  target : Word

inductive Command
  | simple (assigned : List (String × Word)) (words : List Word) (redirects : List Redirect)
  | sequence (first second : Command)
  | both (first second : Command)
  | either (first second : Command)
  | negated (body : Command)
  | pipe (stages : List Command)
  | background (body : Command)
  | subshell (body : Command)
  | loop (while_ : Bool) (condition body : Command)
  | branch (condition yes no : Command)
  -- Once for each word, or for each argument where there are no words.
  | each (name : String) (words? : Option (List Word)) (body : Command)
  | choose (word : Word) (cases : List (List Word × Command))
  | define (name : String) (body : Command)
  | redirected (body : Command) (redirects : List Redirect)
  -- A text that is no command.
  | malformed

namespace Command

def nothing : Command := .simple [] [] []

def ofTexts (texts : List (List Char)) : Command := .simple [] (texts.map .ofText) []

def bare (w : Word) : String := ((Word.bare? w).map String.ofList).getD ""

-- Words that end a list of commands where a command may begin.
def closers : List String := ["then", "else", "elif", "fi", "do", "done", "\x7d", "esac"]

def isEnd : List Token → Bool
  | [] | .operator ")" :: _ | .operator ";;" :: _ => true
  | .word w :: _ => closers.contains (bare w)
  | _ => false

def skipLines : List Token → List Token
  | .operator "\n" :: rest => skipLines rest
  | ts => ts

def keyword (s : String) : List Token → Option (List Token)
  | .word w :: rest => if bare w = s then some rest else none
  | _ => none

def redirects? (done : List Redirect) : List Token → Option (List Redirect × List Token)
  | .redirect d op :: .word w :: rest => redirects? (⟨d, op, w⟩ :: done) rest
  | .redirect _ _ :: _ => none
  | .document d body :: rest => redirects? (⟨d, "<<", body⟩ :: done) rest
  | ts => some (done.reverse, ts)

def withRedirects (body : Command) (ts : List Token) : Option (Command × List Token) := do
  let (rs, rest) ← redirects? [] ts
  return (if rs.isEmpty then body else .redirected body rs, rest)

def assignment? (w : Word) : Option (String × Word) :=
  let front := w.takeWhile fun
    | .char c false => isNameChar c
    | _ => false
  let name := Word.plain front
  match w.drop front.length with
  | .char '=' false :: value => if isName name then some (String.ofList name, value) else none
  | _ => none

-- The parts of a simple command, each with the last one first.
structure Draft where
  assigned : List (String × Word) := []
  words : List Word := []
  redirects : List Redirect := []

def Draft.add (d : Draft) (w : Word) : Draft :=
  match d.words, assignment? w with
  | [], some a => { d with assigned := a :: d.assigned }
  | ws, _ => { d with words := w :: ws }

def simple? (d : Draft) : List Token → Option (Command × List Token)
  | .word w :: rest => simple? (d.add w) rest
  | .redirect n op :: .word w :: rest => simple? { d with redirects := ⟨n, op, w⟩ :: d.redirects } rest
  | .redirect _ _ :: _ => none
  | .document n body :: rest => simple? { d with redirects := ⟨n, "<<", body⟩ :: d.redirects } rest
  | ts => some (.simple d.assigned.reverse d.words.reverse d.redirects.reverse, ts)

def wordsHere (done : List Word) : List Token → List Word × List Token
  | .word w :: rest => wordsHere (w :: done) rest
  | ts => (done.reverse, ts)

def patterns? (done : List Word) : List Token → Option (List Word × List Token)
  | .word w :: .operator "|" :: rest => patterns? (w :: done) rest
  | .word w :: .operator ")" :: rest => some ((w :: done).reverse, rest)
  | _ => none

def skipSeparator : List Token → List Token
  | .operator ";" :: rest => skipLines rest
  | ts => skipLines ts

mutual

def list? : Nat → List Token → Option (Command × List Token)
  | 0, _ => none
  | fuel + 1, ts => do
    let (first, rest) ← logical? fuel (skipLines ts)
    let next (first : Command) (rest : List Token) := do
      let rest := skipLines rest
      if isEnd rest then return (first, rest)
      let (second, rest) ← list? fuel rest
      return (.sequence first second, rest)
    match rest with
    | .operator ";" :: rest | .operator "\n" :: rest => next first rest
    | .operator "&" :: rest => next (.background first) rest
    | _ => return (first, rest)

def line? : Nat → List Token → Option (Command × List Token)
  | 0, _ => none
  | fuel + 1, ts => do
    let (first, rest) ← logical? fuel ts
    let next (first : Command) (rest : List Token) := do
      match rest with
      | [] | .operator "\n" :: _ => return (first, rest)
      | _ =>
        let (second, rest) ← line? fuel rest
        return (.sequence first second, rest)
    match rest with
    | [] | .operator "\n" :: _ => return (first, rest)
    | .operator ";" :: rest => next first rest
    | .operator "&" :: rest => next (.background first) rest
    | _ => none

def logical? : Nat → List Token → Option (Command × List Token)
  | 0, _ => none
  | fuel + 1, ts => do
    let (first, rest) ← pipeline? fuel ts
    joined? fuel first rest

def joined? : Nat → Command → List Token → Option (Command × List Token)
  | 0, _, _ => none
  | fuel + 1, first, ts => do
    match ts with
    | .operator "&&" :: rest =>
      let (second, rest) ← pipeline? fuel (skipLines rest)
      joined? fuel (.both first second) rest
    | .operator "||" :: rest =>
      let (second, rest) ← pipeline? fuel (skipLines rest)
      joined? fuel (.either first second) rest
    | _ => return (first, ts)

def pipeline? : Nat → List Token → Option (Command × List Token)
  | 0, _ => none
  | fuel + 1, ts => do
    match keyword "!" ts with
    | some rest =>
      let (body, rest) ← pipeline? fuel rest
      return (.negated body, rest)
    | none =>
      let (stages, rest) ← stages? fuel ts
      match stages with
      | [only] => return (only, rest)
      | stages => return (.pipe stages, rest)

def stages? : Nat → List Token → Option (List Command × List Token)
  | 0, _ => none
  | fuel + 1, ts => do
    let (first, rest) ← compound? fuel ts
    match rest with
    | .operator "|" :: rest =>
      let (more, rest) ← stages? fuel (skipLines rest)
      return (first :: more, rest)
    | _ => return ([first], rest)

def compound? : Nat → List Token → Option (Command × List Token)
  | 0, _ => none
  | fuel + 1, ts => do
    match ts with
    | .operator "(" :: rest =>
      match ← list? fuel rest with
      | (body, .operator ")" :: rest) => withRedirects (.subshell body) rest
      | _ => none
    | .word name :: .operator "(" :: .operator ")" :: rest =>
      if !isName (bare name).toList then none
      let (body, rest) ← compound? fuel (skipLines rest)
      return (.define (bare name) body, rest)
    | .word w :: rest =>
      match bare w with
      | "\x7b" =>
        let (body, rest) ← list? fuel rest
        withRedirects body (← keyword "\x7d" rest)
      | "while" => loop? fuel true rest
      | "until" => loop? fuel false rest
      | "if" =>
        let (c, rest) ← branch? fuel rest
        withRedirects c rest
      | "case" =>
        match rest with
        | .word subject :: rest =>
          let (cases, rest) ← cases? fuel (← keyword "in" (skipLines rest))
          withRedirects (.choose subject cases) rest
        | _ => none
      | "for" =>
        match rest with
        | .word name :: rest =>
          let (words?, rest) := match keyword "in" (skipLines rest) with
            | some rest =>
              let (words, rest) := wordsHere [] rest
              (some words, rest)
            | none => (none, rest)
          let (body, rest) ← list? fuel (← keyword "do" (skipSeparator rest))
          withRedirects (.each (bare name) words? body) (← keyword "done" rest)
        | _ => none
      | s => if closers.contains s then none else simple? {} ts
    | .redirect _ _ :: _ | .document _ _ :: _ => simple? {} ts
    | _ => none

def loop? : Nat → Bool → List Token → Option (Command × List Token)
  | 0, _, _ => none
  | fuel + 1, while_, ts => do
    let (condition, rest) ← list? fuel ts
    let (body, rest) ← list? fuel (← keyword "do" rest)
    withRedirects (.loop while_ condition body) (← keyword "done" rest)

def branch? : Nat → List Token → Option (Command × List Token)
  | 0, _ => none
  | fuel + 1, ts => do
    let (condition, rest) ← list? fuel ts
    let (yes, rest) ← list? fuel (← keyword "then" rest)
    match rest with
    | .word w :: more =>
      match bare w with
      | "fi" => return (.branch condition yes nothing, more)
      | "elif" =>
        let (no, more) ← branch? fuel more
        return (.branch condition yes no, more)
      | "else" =>
        let (no, more) ← list? fuel more
        return (.branch condition yes no, ← keyword "fi" more)
      | _ => none
    | _ => none

def cases? : Nat → List Token → Option (List (List Word × Command) × List Token)
  | 0, _ => none
  | fuel + 1, ts => do
    let ts := skipLines ts
    match keyword "esac" ts with
    | some rest => return ([], rest)
    | none =>
      let ts := match ts with
        | .operator "(" :: rest => rest
        | _ => ts
      let (patterns, rest) ← patterns? [] ts
      let (body, rest) ← if isEnd (skipLines rest) then some (nothing, skipLines rest) else list? fuel rest
      let (more, rest) ← match rest with
        | .operator ";;" :: rest => cases? fuel rest
        | _ => (keyword "esac" rest).map ([], ·)
      return ((patterns, body) :: more, rest)

end

-- The lines of a text, each read when those before it have run; where one cannot be read the text ends.
def lines : Nat → List Token → List Command
  | 0, _ => [.malformed]
  | fuel + 1, ts =>
    match skipLines ts with
    | [] => []
    | ts =>
      match line? (8 * ts.length + 8) ts with
      | some (c, rest) => c :: lines fuel rest
      | none => [.malformed]

def read (text : List Char) : List Command :=
  let ts := tokens text
  lines (ts.length + 1) ts

end Command

end ProcessControl.Sim.Shell
