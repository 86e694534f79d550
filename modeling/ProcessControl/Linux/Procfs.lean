import ProcessControl.Pid
import ProcessControl.Program
import ProcessControl.Text.Blank
import ProcessControl.Text.Numeral
import ProcessControl.Text.Place

namespace ProcessControl.Linux

def pid? (name : List Char) : Option Pid :=
  ((Text.Decimal.readPlain? UInt32.size name).filter (0 < ·)).map UInt32.ofNat

-- The number of pages in the first field, unless it is zero.
def pages? (text : List Char) : Option Nat := do
  let field ← Text.firstField? text
  (Text.Decimal.readBelow? UInt64.size field).filter (0 < ·)

def afterName? (text : List Char) : Option (List Char) :=
  if text.contains ')' then some (text.reverse.takeWhile (· != ')')).reverse else none

-- The letter of the state of a process. The name before it stands in parentheses and may hold any character.
def state? (text : List Char) : Option Char := do
  let field ← Text.firstField? (← afterName? text)
  field.head?

-- The same letter, as it is looked for: the text is cut at a place in bytes, one behind the last closing parenthesis,
-- and it is a crash to cut it where no character begins.
def readState (text : List Char) : Except Halt (Option Char) :=
  match Text.lastPlace? ')' text with
  | none => .ok none
  | some place =>
    match Text.fromPlace? text (place + 1) with
    | none => .error .crashed
    | some rest => .ok ((Text.firstField? rest).bind List.head?)

def seconds? (text : List Char) : Option UInt64 := do
  let field ← Text.firstField? text
  let numeral ← Text.Numeral.read? field
  let n ← numeral.toBinary64.floor?
  return UInt64.ofNat (min n (UInt64.size - 1))

end ProcessControl.Linux
