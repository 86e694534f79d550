import ProcessControl.Log
import ProcessControl.Text.Alphanumeric
import ProcessControl.Text.Blank
import ProcessControl.Text.Numeral
import ProcessControl.Text.Pattern
import ProcessControl.Text.Utf8

namespace ProcessControl.Log

inductive Threshold
  | off
  | atLeast (level : Level)
deriving DecidableEq, Repr

namespace Threshold

def allows : Threshold → Level → Bool
  | .off, _ => false
  | .atLeast least, level => least.rank ≤ level.rank

def open_ : Threshold := .atLeast .trace

def all : List (String × Threshold) := [
  ("off", .off), ("error", .atLeast .error), ("warn", .atLeast .warn), ("info", .atLeast .info),
  ("debug", .atLeast .debug), ("trace", .atLeast .trace)]

def read? (text : List Char) : Option Threshold :=
  match Text.Decimal.readBelow? UInt64.size text with
  | some n => (all[n]?).map (·.2)
  | none => all.lookup (String.ofList (text.map Char.toLower))

end Threshold

abbrev Piece := List UInt8

structure FieldTest where
  name : Piece
  valued : Bool
deriving DecidableEq, Repr

namespace FieldTest

-- Whether a text can be the value of a field: a number or a regular expression.
def isValue (text : List Char) : Bool :=
  (Text.Numeral.read? text).isSome || Text.Pattern.isWellFormed text

def read? (piece : Piece) : Option FieldTest := do
  let name := piece.takeWhile (· != 0x3D)
  if piece = [] then none
  match piece.drop name.length with
  | [] => return ⟨name, false⟩
  | _ :: rest =>
    if isValue (Text.Utf8.decodeLossy (rest.takeWhile (· != 0x3D))) then return ⟨name, true⟩ else none

end FieldTest

-- Everything of the targets whose names begin so and that has the fields is held to the threshold.
structure Directive where
  target? : Option Piece
  span? : Option Piece
  fields : List FieldTest
  threshold : Threshold
deriving DecidableEq, Repr

namespace Directive

def mayBegin (c : Char) : Bool := c == '-' || c == ':' || c == '_' || Text.isAlphanumeric c

-- Places in a directive are counted in the text without the blanks around it, but pieces are cut at these places
-- from the text as it is written.
structure Source where
  written : Piece
  trimmed : Piece

namespace Source

def ofText (text : List Char) : Source := ⟨Text.Utf8.encode text, Text.Utf8.encode (Text.trim text)⟩

def cut (s : Source) (start stop : Nat) : Piece := (s.written.drop start).take (stop - start)

def tail (s : Source) (start : Nat) : List Char := Text.Utf8.decodeLossy (s.written.drop start)

def next? (s : Source) (marks : List UInt8) (start : Nat) : Option (Nat × UInt8) := do
  let offset ← (s.trimmed.drop start).findIdx? marks.contains
  return (start + offset, ← s.trimmed[start + offset]?)

end Source

-- The level after an equals sign; nothing there stands for every level.
def level? (text : List Char) : Option Threshold :=
  if text = [] then some .open_ else Threshold.read? text

def afterBracket? (s : Source) (start : Nat) : Option Threshold :=
  match s.trimmed[start]? with
  | none => some .open_
  | some 0x3D => level? (s.tail (start + 1))
  | some _ => none

def fieldsFrom? (s : Source) (target? span? : Option Piece) (start : Nat) : Option Directive := do
  let (stop, _) ← s.next? [0x7D] start
  let test ← FieldTest.read? (s.cut start stop)
  if s.trimmed[stop + 1]? = some 0x5D then
    return ⟨target?, span?, [test], ← afterBracket? s (stop + 2)⟩
  else none

def spanFrom? (s : Source) (target? : Option Piece) (start : Nat) : Option Directive := do
  let (stop, mark) ← s.next? [0x5D, 0x7B] start
  let name := s.cut start stop
  if mark = 0x5D then return ⟨target?, some name, [], ← afterBracket? s (stop + 1)⟩
  else fieldsFrom? s target? (if name = [] then none else some name) (stop + 1)

-- A level for everything, or the name of a target that is written whole.
def whole (s : Source) : Directive :=
  match Threshold.read? (s.tail 0) with
  | some t => ⟨none, none, [], t⟩
  | none => ⟨some s.written, none, [], .open_⟩

-- A target with its level, a span or field with its level, a target alone or a level alone.
def read? (text : List Char) : Option Directive := do
  let s := Source.ofText text
  match ← (Text.trim text).head? with
  | '[' => spanFrom? s none 1
  | c =>
    if mayBegin c then
      match s.next? [0x3D, 0x5B] 1 with
      | none => return whole s
      | some (stop, mark) =>
        let target := s.cut 0 stop
        if mark = 0x3D then return ⟨some target, none, [], ← level? (s.tail (stop + 1))⟩
        else spanFrom? s (some target) (stop + 1)
    else none

-- A directive that names a span or the value of a field applies inside spans, and no notice is made there.
def isForNotices (d : Directive) : Bool := d.span?.isNone && d.fields.all (!·.valued)

def covers (d : Directive) (target : Piece) (fields : List Piece) : Bool :=
  d.isForNotices && d.target?.all (·.isPrefixOf target) && d.fields.all fun f => fields.contains f.name

-- Whether another directive is at least as specific: it has a longer name, or more fields, or names that come
-- later in alphabetical order.
def isAtMost (d e : Directive) : Bool :=
  let size (d : Directive) := (d.target?.map (·.length + 1)).getD 0
  let order := (compare (size d) (size e)).then ((compare d.fields.length e.fields.length).then
    (compare (d.fields.map (·.name)) (e.fields.map (·.name))))
  order != .gt

end Directive

structure Filter where
  directives : List Directive
deriving DecidableEq, Repr

namespace Filter

def uniform (t : Threshold) : Filter := ⟨[⟨none, none, [], t⟩]⟩

def standard : Filter := uniform (.atLeast .info)

-- Directives with commas between them. Without any only errors are written.
def read? (text : List Char) : Option Filter := do
  let parts := ((String.ofList text).splitOn ",").filter (· != "")
  match ← parts.mapM fun part => Directive.read? part.toList with
  | [] => return uniform (.atLeast .error)
  | directives => return ⟨directives⟩

-- The filter in a variable; one that is not set or cannot be read stands for the standard filter.
def ofVariable (value? : Option String) : Filter :=
  (value?.bind fun value => read? value.toList).getD standard

-- The most specific directive for a notice, of two such the later one.
def find? (f : Filter) (target : Piece) (fields : List Piece) : Option Directive :=
  (f.directives.filter (·.covers target fields)).foldl
    (fun best d => if best.all (·.isAtMost d) then some d else best) none

-- Whether a notice is written. Its message counts as one of its fields.
def allows (f : Filter) (notice : Notice) : Bool :=
  let bytes (name : String) := Text.Utf8.encode name.toList
  let fields := "message" :: notice.fields.map (·.1)
  (f.find? (bytes notice.target) (fields.map bytes)).any (·.threshold.allows notice.level)

end Filter

end ProcessControl.Log
