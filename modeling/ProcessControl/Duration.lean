import ProcessControl.Text.Decimal

namespace ProcessControl

-- A span of time in whole nanoseconds. Its seconds fit in 64 bits.
structure Duration where
  nanos : Nat
  nanos_lt : nanos < UInt64.size * 1000000000
deriving DecidableEq

namespace Duration

instance : Repr Duration := ⟨fun d n => reprPrec d.nanos n⟩

def longest : Duration := ⟨UInt64.size * 1000000000 - 1, by decide⟩

-- The span of so many nanoseconds, or the longest one.
def ofNanos (n : Nat) : Duration :=
  if h : n < UInt64.size * 1000000000 then ⟨n, h⟩ else longest

def ofMillis (n : UInt64) : Duration :=
  ⟨n.toNat * 1000000, by have := n.toNat_lt_size; omega⟩

def ofSeconds (n : UInt64) : Duration :=
  ⟨n.toNat * 1000000000, by have := n.toNat_lt_size; omega⟩

instance : Inhabited Duration := ⟨ofSeconds 0⟩

def isZero (d : Duration) : Bool := d.nanos == 0

def seconds (d : Duration) : Nat := d.nanos / 1000000000

def fraction (d : Duration) : Nat := d.nanos % 1000000000

-- Whole milliseconds, of which 64 bits are kept.
def millis (d : Duration) : UInt64 := UInt64.ofNat (d.nanos / 1000000)

end Duration

structure Moment where
  nanos : Nat
deriving DecidableEq, Repr

namespace Moment

-- The clock counts seconds in 63 bits.
def limit : Nat := 0x8000000000000000 * 1000000000

def after? (t : Moment) (d : Duration) : Option Moment :=
  if t.nanos + d.nanos < limit then some ⟨t.nanos + d.nanos⟩ else none

end Moment

end ProcessControl
