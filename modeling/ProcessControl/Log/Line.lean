import ProcessControl.Json.Printer
import ProcessControl.Log
import ProcessControl.Timestamp

namespace ProcessControl.Notice

def jsonLine (notice : Notice) (time : Timestamp) (thread : String) (threadNumber : Nat) : String :=
  (Json.Value.obj [
    ("timestamp", .str time.text),
    ("level", .str notice.level.word),
    ("fields", .obj (("message", .str notice.message) :: notice.fields)),
    ("target", .str notice.target),
    ("threadName", .str thread),
    ("threadId", .str ("ThreadId(" ++ toString threadNumber ++ ")"))]).render

-- A text shown in one of the ways that terminals have numbers for.
def styled (style : Nat) (text : String) : String :=
  let escape (n : Nat) := "\x1b[" ++ toString n ++ "m"
  escape style ++ text ++ escape 0

def faint : Nat := 2
def slanted : Nat := 3

def colour : Level → Nat
  | .error => 31
  | .warn => 33
  | .info => 32
  | .debug => 34
  | .trace => 35

-- The value of a field; the text of a failure is shown without quotes.
def shown : String × Json.Value → String
  | ("error", .str text) => text
  | (_, value) => value.render

def plainLine (notice : Notice) (time : Timestamp) (thread : String) : String :=
  let word := notice.level.word
  let level := styled (colour notice.level) (if word.length < 5 then " " ++ word else word)
  let fields := notice.fields.map fun field => styled slanted field.1 ++ styled faint "=" ++ shown field
  " ".intercalate ([styled faint time.text, level, thread, styled faint notice.target ++ styled faint ":",
    notice.message] ++ fields)

end ProcessControl.Notice
