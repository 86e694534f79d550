namespace ProcessControl.Text

def lastPlace? (c : Char) : List Char → Option Nat
  | [] => none
  | d :: cs =>
    match lastPlace? c cs with
    | some place => some (d.utf8Size + place)
    | none => if d = c then some 0 else none

-- What begins at a place. Nothing begins inside a character, nor beyond the end.
def fromPlace? : List Char → Nat → Option (List Char)
  | cs, 0 => some cs
  | [], _ + 1 => none
  | c :: cs, place + 1 => if c.utf8Size ≤ place + 1 then fromPlace? cs (place + 1 - c.utf8Size) else none

end ProcessControl.Text
