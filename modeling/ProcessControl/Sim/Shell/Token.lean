import ProcessControl.Sim.Shell.Word
import ProcessControl.Text.Decimal

namespace ProcessControl.Sim.Shell

inductive Token
  | word (w : Word)
  | operator (op : String)
  -- A redirection of the descriptor with the given number; its target is the word that follows.
  | redirect (descriptor : Nat) (op : String)
  | document (descriptor : Nat) (body : Word)
  | fault

inductive Place
  | plain
  | double
  -- In the braces of a parameter, which may stand in quotes.
  | brace (quoted : Bool)
  -- In an expression, so many brackets deep.
  | arithmetic (depth : Nat)
  | document

namespace Place

def isQuoted : Place → Bool
  | .plain => false
  | .brace quoted => quoted
  | _ => true

def isPlain : Place → Bool
  | .plain => true
  | _ => false

def takesQuotes : Place → Bool
  | .plain | .brace _ => true
  | _ => false

def mayEnd : Place → Bool
  | .plain | .document => true
  | _ => false

end Place

namespace Lexer

def isBlank (c : Char) : Bool := c == ' ' || c == '\t'

def isBreak (c : Char) : Bool := " \t\n;&|()<>".toList.contains c

-- The characters that a backslash quotes here; before all others it stands for itself.
def isEscaped (place : Place) (c : Char) : Bool :=
  match place with
  | .plain | .brace false => true
  | .document => "$\\\x60\n".toList.contains c
  | .brace true => "$\\\"\x60\x7d\n".toList.contains c
  | _ => "$\\\"\x60\n".toList.contains c

def backquoted (inDouble : Bool) : List Char → List Char → Option (List Char × List Char)
  | _, [] => none
  | done, '\x60' :: rest => some (done.reverse, rest)
  | done, '\\' :: c :: rest =>
    if "$\\\x60".toList.contains c || (inDouble && c == '"') then backquoted inDouble (c :: done) rest
    else backquoted inDouble (c :: '\\' :: done) rest
  | done, c :: rest => backquoted inDouble (c :: done) rest

mutual

-- The text of a command up to its closing bracket, and what follows it; `fresh` tells whether a word may begin.
def commandText : Nat → Nat → Bool → List Char → List Char → Option (List Char × List Char)
  | 0, _, _, _, _ => none
  | fuel + 1, depth, fresh, done, cs =>
    match cs with
    | [] => none
    | ')' :: rest =>
      match depth with
      | 0 => some (done.reverse, rest)
      | outer + 1 => commandText fuel outer true (')' :: done) rest
    | '(' :: rest => commandText fuel (depth + 1) true ('(' :: done) rest
    | '\\' :: c :: rest => commandText fuel depth false (c :: '\\' :: done) rest
    | '\'' :: rest =>
      let inner := rest.takeWhile (· != '\'')
      match rest.drop inner.length with
      | _ :: rest => commandText fuel depth false ('\'' :: inner.reverse ++ '\'' :: done) rest
      | [] => none
    | '"' :: rest =>
      match doubleText fuel ('"' :: done) rest with
      | some (done, rest) => commandText fuel depth false done rest
      | none => none
    | c :: rest =>
      if c = '#' && fresh then
        let inner := cs.takeWhile (· != '\n')
        commandText fuel depth true (inner.reverse ++ done) (cs.drop inner.length)
      else commandText fuel depth (isBreak c) (c :: done) rest

def doubleText : Nat → List Char → List Char → Option (List Char × List Char)
  | 0, _, _ => none
  | fuel + 1, done, cs =>
    match cs with
    | [] => none
    | '"' :: rest => some ('"' :: done, rest)
    | '\\' :: c :: rest => doubleText fuel (c :: '\\' :: done) rest
    | '$' :: '(' :: rest =>
      match commandText fuel 0 true [] rest with
      | some (inner, rest) => doubleText fuel (')' :: inner.reverse ++ '(' :: '$' :: done) rest
      | none => none
    | c :: rest => doubleText fuel (c :: done) rest

end

def nameAt (cs : List Char) : List Char :=
  match cs with
  | [] => []
  | c :: _ =>
    if isNameStart c then cs.takeWhile isNameChar
    else if c.isDigit then cs.takeWhile Char.isDigit
    else if isSpecial c then [c]
    else []

mutual

-- The pieces of a word up to its end; `done` holds those already read, last one first.
def parts : Nat → Place → List Part → List Char → Option (Word × List Char)
  | 0, _, _, _ => none
  | fuel + 1, place, done, cs =>
    match cs with
    | [] => if place.mayEnd then some (done.reverse, []) else none
    | c :: rest =>
      match place, c with
      | .double, '"' => some (done.reverse, rest)
      | .brace _, '\x7d' => some (done.reverse, rest)
      | .arithmetic 0, ')' => if rest.head? = some ')' then some (done.reverse, rest.tail) else none
      | .arithmetic (depth + 1), ')' => parts fuel (.arithmetic depth) (.char c true :: done) rest
      | .arithmetic depth, '(' => parts fuel (.arithmetic (depth + 1)) (.char c true :: done) rest
      | place, c =>
        if place.isPlain && isBreak c then some (done.reverse, cs)
        else if c = '\\' then
          match rest with
          | [] => parts fuel place (.char c place.isQuoted :: done) []
          | d :: more =>
            if !isEscaped place d then parts fuel place (.char c true :: done) rest
            else if d = '\n' then parts fuel place done more
            else parts fuel place (.char d true :: done) more
        else if c = '$' then
          match dollar fuel place.isQuoted rest with
          | some (part, rest) => parts fuel place (part :: done) rest
          | none => none
        else if c = '\x60' then
          match backquoted place.isQuoted [] rest with
          | some (text, rest) => parts fuel place (.command text place.isQuoted :: done) rest
          | none => none
        else if c = '\'' && !place.isQuoted then
          let inner := rest.takeWhile (· != '\'')
          match rest.drop inner.length with
          | _ :: rest => parts fuel place ((inner.map (.char · true)).reverse ++ .quotes :: done) rest
          | [] => none
        else if c = '"' && place.takesQuotes then
          match parts fuel .double [] rest with
          | some (inner, rest) => parts fuel place (inner.reverse ++ .quotes :: done) rest
          | none => none
        else parts fuel place (.char c place.isQuoted :: done) rest

def dollar : Nat → Bool → List Char → Option (Part × List Char)
  | 0, _, _ => none
  | fuel + 1, quoted, cs =>
    let command (cs : List Char) := do
      let (text, rest) ← commandText (cs.length + 1) 0 true [] cs
      return (Part.command text quoted, rest)
    match cs with
    | '(' :: '(' :: rest =>
      match parts fuel (.arithmetic 0) [] rest with
      | some (e, rest) => some (.arithmetic e quoted, rest)
      | none => command ('(' :: rest)
    | '(' :: rest => command rest
    | '{' :: '#' :: rest =>
      let name := nameAt rest
      match rest.drop name.length with
      | '}' :: after =>
        if name = [] then some (.parameter "#" .value quoted, after)
        else some (.parameter (String.ofList name) .length quoted, after)
      | _ => braced fuel quoted ('#' :: rest)
    | '{' :: rest => braced fuel quoted rest
    | _ =>
      let name := match cs with
        | c :: _ => if c.isDigit then [c] else nameAt cs
        | [] => []
      if name = [] then some (.char '$' quoted, cs)
      else some (.parameter (String.ofList name) .value quoted, cs.drop name.length)

def braced : Nat → Bool → List Char → Option (Part × List Char)
  | 0, _, _ => none
  | fuel + 1, quoted, cs => do
    let name := nameAt cs
    if name = [] then none
    let make (use : Use) := Part.parameter (String.ofList name) use quoted
    let pattern (atStart longest : Bool) (cs : List Char) := do
      let (w, rest) ← parts fuel (.brace false) [] cs
      return (make (.without atStart longest w), rest)
    let word (colon : Bool) (mark : Char) (cs : List Char) := do
      let (w, rest) ← parts fuel (.brace quoted) [] cs
      return (make (if mark = '+' then .instead colon w else .otherwise mark colon w), rest)
    match cs.drop name.length with
    | '}' :: rest => return (make .value, rest)
    | '%' :: '%' :: rest => pattern false true rest
    | '%' :: rest => pattern false false rest
    | '#' :: '#' :: rest => pattern true true rest
    | '#' :: rest => pattern true false rest
    | ':' :: mark :: rest => if "-=?+".toList.contains mark then word true mark rest else none
    | mark :: rest => if "-=?+".toList.contains mark then word false mark rest else none
    | [] => none

end

def operators : List String :=
  ["<<-", "&&", "||", ";;", "<<", ">>", "<&", ">&", "<>", ">|", "&", ";", "|", "<", ">", "(", ")"]

-- A here-document that is still to come, and the place of its token.
structure Awaited where
  index : Nat
  descriptor : Nat
  delimiter : List Char
  quoted : Bool
  stripped : Bool

def documentText (a : Awaited) : Nat → List Char → List Char → List Char × List Char
  | 0, done, cs => (done.reverse, cs)
  | _, done, [] => (done.reverse, [])
  | fuel + 1, done, cs =>
    let line := cs.takeWhile (· != '\n')
    let rest := cs.drop (line.length + 1)
    let line := if a.stripped then line.dropWhile (· == '\t') else line
    if line = a.delimiter then (done.reverse, rest) else documentText a fuel ('\n' :: line.reverse ++ done) rest

def documents : List Awaited → List Char → Array Token → Array Token × List Char
  | [], cs, done => (done, cs)
  | a :: more, cs, done =>
    let (text, rest) := documentText a (cs.length + 1) [] cs
    let body := if a.quoted then some (text.map (Part.char · true)) else
      (parts (text.length + 1) .document [] text).map (·.1)
    documents more rest (done.setIfInBounds a.index ((body.map (Token.document a.descriptor)).getD .fault))

-- All tokens; after a fault nothing more is read.
def tokens : Nat → List Awaited → Array Token → List Char → Array Token
  | 0, _, done, _ => done
  | fuel + 1, awaited, done, cs =>
    match cs with
    | [] => (documents awaited [] done).1
    | '\\' :: '\n' :: rest => tokens fuel awaited done rest
    | c :: rest =>
      if isBlank c then tokens fuel awaited done rest
      else if c = '#' then tokens fuel awaited done (rest.dropWhile (· != '\n'))
      else if c = '\n' then
        let (done, rest) := documents awaited rest (done.push (.operator "\n"))
        tokens fuel [] done rest
      else
        let number := cs.takeWhile Char.isDigit
        let after := cs.drop number.length
        let redirects := after.head?.any fun c => c == '<' || c == '>'
        let digits := if redirects then number else []
        let cs := if redirects then after else cs
        match operators.find? fun op => op.toList.isPrefixOf cs with
        | some op =>
          let rest := cs.drop op.length
          let standard := if op.startsWith "<" then 0 else 1
          let descriptor := if digits = [] then standard else Text.Decimal.value digits
          if op = "<<" || op = "<<-" then
            match parts fuel .plain [] (rest.dropWhile isBlank) with
            | some ([], _) => done.push .fault
            | some (w, rest) =>
              let a : Awaited := ⟨done.size, descriptor, w.plain, w.hasQuotes, op == "<<-"⟩
              tokens fuel (awaited ++ [a]) (done.push .fault) rest
            | none => done.push .fault
          else if redirects then tokens fuel awaited (done.push (.redirect descriptor op)) rest
          else tokens fuel awaited (done.push (.operator op)) rest
        | none =>
          match parts fuel .plain [] cs with
          | some (w, rest) => tokens fuel awaited (done.push (.word w)) rest
          | none => done.push .fault

end Lexer

def tokens (cs : List Char) : List Token := (Lexer.tokens (cs.length + 2) [] #[] cs).toList

end ProcessControl.Sim.Shell
