import ProcessControl.Json.Value
import ProcessControl.Text.Decimal

namespace ProcessControl.Json

def hexDigit (n : Nat) : Char := Nat.digitChar n

-- Quotes, backslashes and control characters are escaped, all else stands as it is.
def escape (c : Char) : List Char :=
  if c = '"' then ['\\', '"']
  else if c = '\\' then ['\\', '\\']
  else if c = '\x08' then ['\\', 'b']
  else if c = '\x0c' then ['\\', 'f']
  else if c = '\n' then ['\\', 'n']
  else if c = '\r' then ['\\', 'r']
  else if c = '\t' then ['\\', 't']
  else if c.toNat < 0x20 then ['\\', 'u', '0', '0', hexDigit (c.toNat / 16), hexDigit (c.toNat % 16)]
  else [c]

def quote (cs : List Char) : List Char :=
  '"' :: cs.flatMap escape ++ ['"']

def Number.text : Number → List Char
  | .natural n => Text.Decimal.digits n
  | .negative n => '-' :: Text.Decimal.digits n
  | .floating x => x.text

namespace Value

def chars : Value → List Char
  | .null => "null".toList
  | .bool b => if b then "true".toList else "false".toList
  | .num n => n.text
  | .str s => quote s.toList
  | .arr items => '[' :: elements items ++ [']']
  | .obj ms => '{' :: members ms ++ ['}']
where
  elements : List Value → List Char
    | [] => []
    | [v] => chars v
    | v :: rest => chars v ++ ',' :: elements rest
  members : List (String × Value) → List Char
    | [] => []
    | [(k, v)] => quote k.toList ++ ':' :: chars v
    | (k, v) :: rest => quote k.toList ++ ':' :: chars v ++ ',' :: members rest

def render (v : Value) : String := String.ofList v.chars

-- JSON on several lines, each level two blanks deeper; empty arrays and objects stay on one line.
def indentedChars (depth : Nat) : Value → List Char
  | .arr [] => ['[', ']']
  | .arr items => '[' :: elements (depth + 1) items ++ newline depth ++ [']']
  | .obj [] => ['{', '}']
  | .obj ms => '{' :: members (depth + 1) ms ++ newline depth ++ ['}']
  | .null => "null".toList
  | .bool b => if b then "true".toList else "false".toList
  | .num n => n.text
  | .str s => quote s.toList
where
  newline (depth : Nat) : List Char := '\n' :: List.replicate (2 * depth) ' '
  elements (depth : Nat) : List Value → List Char
    | [] => []
    | [v] => newline depth ++ indentedChars depth v
    | v :: rest => newline depth ++ indentedChars depth v ++ ',' :: elements depth rest
  members (depth : Nat) : List (String × Value) → List Char
    | [] => []
    | [(k, v)] => newline depth ++ quote k.toList ++ ':' :: ' ' :: indentedChars depth v
    | (k, v) :: rest =>
      newline depth ++ quote k.toList ++ ':' :: ' ' :: indentedChars depth v ++ ',' :: members depth rest

def indented (v : Value) : String := String.ofList (v.indentedChars 0)

end Value

end ProcessControl.Json
