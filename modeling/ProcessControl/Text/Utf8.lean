namespace ProcessControl.Text.Utf8

-- A sequence that has begun: how many bytes it still needs, the range its next byte must be in, and the
-- bits read so far.
structure Pending where
  need : Nat
  low : UInt8
  high : UInt8
  bits : Nat

inductive Opening
  | char (c : Char)
  | lead (pending : Pending)
  | fault

-- The ranges of second bytes keep out overlong forms, surrogates and numbers above U+10FFFF.
def openWith (b : UInt8) : Opening :=
  let n := b.toNat
  if n < 0x80 then .char (Char.ofNat n)
  else if n < 0xC2 then .fault
  else if n < 0xE0 then .lead ⟨1, 0x80, 0xBF, n - 0xC0⟩
  else if n = 0xE0 then .lead ⟨2, 0xA0, 0xBF, 0⟩
  else if n = 0xED then .lead ⟨2, 0x80, 0x9F, 0xD⟩
  else if n < 0xF0 then .lead ⟨2, 0x80, 0xBF, n - 0xE0⟩
  else if n = 0xF0 then .lead ⟨3, 0x90, 0xBF, 0⟩
  else if n < 0xF4 then .lead ⟨3, 0x80, 0xBF, n - 0xF0⟩
  else if n = 0xF4 then .lead ⟨3, 0x80, 0x8F, 4⟩
  else .fault

-- The chunks of a byte string: characters, and `none` for each fault. A byte that breaks an open sequence
-- is read again as the start of the next one.
def chunks : List UInt8 → List (Option Char) :=
  go none
where
  go : Option Pending → List UInt8 → List (Option Char)
    | none, [] => []
    | some _, [] => [none]
    | none, b :: rest =>
      match openWith b with
      | .char c => some c :: go none rest
      | .lead p => go (some p) rest
      | .fault => none :: go none rest
    | some p, b :: rest =>
      if p.low ≤ b ∧ b ≤ p.high then
        let bits := p.bits * 64 + (b.toNat - 0x80)
        if p.need ≤ 1 then some (Char.ofNat bits) :: go none rest
        else go (some ⟨p.need - 1, 0x80, 0xBF, bits⟩) rest
      else
        none :: match openWith b with
          | .char c => some c :: go none rest
          | .lead p => go (some p) rest
          | .fault => none :: go none rest

def decode? (bytes : List UInt8) : Option (List Char) :=
  (chunks bytes).mapM id

-- Every fault becomes one U+FFFD.
def decodeLossy (bytes : List UInt8) : List Char :=
  (chunks bytes).map (·.getD '\uFFFD')

def encode (cs : List Char) : List UInt8 :=
  cs.flatMap String.utf8EncodeChar

def size (cs : List Char) : Nat :=
  cs.foldl (fun n c => n + c.utf8Size) 0

end ProcessControl.Text.Utf8
