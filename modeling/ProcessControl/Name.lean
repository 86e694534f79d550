import ProcessControl.Json.Shape
import ProcessControl.Text.Blank

namespace ProcessControl

structure Name where
  text : String
deriving DecidableEq, Repr

namespace Name

def size (name : Name) : Nat := Text.Utf8.size name.text.toList

def isEmpty (name : Name) : Bool := name.text.isEmpty

-- A name of at most this many bytes needs no storage of its own.
def inlineSize : Nat := 23

def isInline (name : Name) : Bool := name.size ≤ inlineSize

def isLineEnd (c : Char) : Bool := c == '\n' || c == '\r'

-- The name in the bytes that the system gave, which ends before the first NUL. What is not UTF-8 is replaced.
def ofBytes (bytes : List UInt8) : Name :=
  ⟨String.ofList (Text.dropEndWhile isLineEnd (Text.Utf8.decodeLossy (bytes.takeWhile (· != 0))))⟩

def toJson (name : Name) : Json.Value := .str name.text

def read : Json.Reader Name := do return ⟨← Json.Reader.text⟩

end Name

end ProcessControl
