namespace ProcessControl.Text

-- The numbers at which membership changes, in ascending order.
structure RangeSet where
  changes : List Nat
deriving DecidableEq, Repr

namespace RangeSet

def empty : RangeSet := ⟨[]⟩

def range (low stop : Nat) : RangeSet := ⟨if low < stop then [low, stop] else []⟩

def isEmpty (s : RangeSet) : Bool := s.changes.isEmpty

def contains (s : RangeSet) (n : Nat) : Bool := (s.changes.takeWhile (· ≤ n)).length % 2 == 1

-- The changes of a combination, where the two sets and the combination have the given values so far.
def merge (f : Bool → Bool → Bool) : Bool → Bool → Bool → List Nat → List Nat → List Nat
  | _, _, _, [], [] => []
  | p, q, r, a :: as, [] => step (!p) q r a as []
  | p, q, r, [], b :: bs => step p (!q) r b [] bs
  | p, q, r, a :: as, b :: bs =>
    if a < b then step (!p) q r a as (b :: bs)
    else if b < a then step p (!q) r b (a :: as) bs
    else step (!p) (!q) r a as bs
termination_by _ _ _ as bs => (as.length + bs.length, 0)
where
  step (p q r : Bool) (n : Nat) (as bs : List Nat) : List Nat :=
    if f p q = r then merge f p q r as bs else n :: merge f p q (f p q) as bs
  termination_by (as.length + bs.length, 1)

-- The numbers of which `f` says yes, told whether they are in the one and in the other set. No number may be in a
-- combination of two empty sets.
def combine (f : Bool → Bool → Bool) (s t : RangeSet) : RangeSet :=
  ⟨merge f false false false s.changes t.changes⟩

def union : RangeSet → RangeSet → RangeSet := combine (· || ·)

def inter : RangeSet → RangeSet → RangeSet := combine (· && ·)

def diff : RangeSet → RangeSet → RangeSet := combine fun a b => a && !b

end RangeSet

end ProcessControl.Text
