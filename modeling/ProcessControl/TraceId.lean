namespace ProcessControl.TraceId

def hex : Nat → Nat → List Char
  | 0, _ => []
  | width + 1, n => hex width (n / 16) ++ [Nat.digitChar (n % 16)]

def group (lengths : List Nat) (n : Nat) : List (List Char) :=
  (lengths.foldr (fun width (n, groups) => (n / Nat.pow 16 width, hex width n :: groups)) (n, [])).2

-- The identifier with the given random bits. Six of its 128 bits tell the version and the variant.
def ofBits (n : Nat) : String :=
  let high := n >>> 74 % 1 <<< 48
  let middle := n >>> 62 % 1 <<< 12
  let low := n % 1 <<< 62
  let number := ((high <<< 4 + 4) <<< 12 + middle) <<< 64 + 1 <<< 63 + low
  String.ofList (['-'].intercalate (group [8, 4, 4, 4, 12] number))

def isHex (c : Char) : Bool := ('0' ≤ c && c ≤ '9') || ('a' ≤ c && c ≤ 'f')

def isWellFormed (id : String) : Bool :=
  match id.splitOn "-" with
  | [a, b, c, d, e] =>
    [a, b, c, d, e].map String.length == [8, 4, 4, 4, 12] &&
    [a, b, c, d, e].all (fun g => g.toList.all isHex) &&
    c.toList.head? == some '4' && (d.toList.head?.any fun v => v == '8' || v == '9' || v == 'a' || v == 'b')
  | _ => false

end ProcessControl.TraceId
