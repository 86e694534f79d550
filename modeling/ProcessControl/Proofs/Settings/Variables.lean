import ProcessControl.Log
import ProcessControl.Proofs.Text.Decimal
import ProcessControl.Proofs.Text.Padding

namespace ProcessControl

open Text

theorem Text.Decimal.Numeral.isBlank_eq_false {cs : List Char} {n : Nat} (h : Decimal.Numeral cs n) :
    ∀ c ∈ cs, isBlank c = false := by
  have hb {c : Char} (hc : Decimal.isDigit c = true) : isBlank c = false := by
    have ⟨_, _⟩ := Decimal.isDigit_iff.mp hc
    simp only [isBlank, Bool.or_eq_false_iff, Bool.and_eq_false_iff, decide_eq_false_iff_not, beq_eq_false_iff_ne]
    omega
  cases h
  case plain hd => exact fun c hc => hb <| hd c hc
  case plus hd  => exact List.forall_mem_cons.mpr ⟨rfl, fun c hc => hb <| hd c hc⟩

namespace Settings

variable {lookup lookup' : String → Option String} {key : Key} {value : String} {n : Nat}

-- That a variable holds a number of 64 bits.
def Means (value : String) (n : Nat) : Prop :=
  n < UInt64.size ∧ ∃ inner, Padded inner value.toList ∧ Decimal.Numeral inner n

theorem number?_eq_some_iff {w : UInt64} : number? value = some w ↔ Means value w.toNat := by
  rw [number?, Option.map_eq_some_iff]
  constructor
  case mp =>
    rintro ⟨n, hn, rfl⟩
    have ⟨hs, hl⟩ := Decimal.readBelow?_eq_some_iff.mp hn
    rw [Means, UInt64.toNat_ofNat_of_lt' hl]
    exact ⟨hl, _, padded_trim _, hs⟩
  case mpr =>
    intro ⟨hl, inner, hp, hs⟩
    rw [(trim_eq_iff hs.isBlank_eq_false).mpr hp]
    exact ⟨w.toNat, Decimal.readBelow?_eq_some_iff.mpr ⟨hs, hl⟩, UInt64.ofNat_toNat⟩

-- The number that a setting is, in nanoseconds if it is a time.
def amount (s : Settings) : Key → Nat
  | .listCapacity  => s.listCapacity.toNat
  | .eventCapacity => s.eventCapacity.toNat
  | .traceJson     => s.traceJson.toNat
  | .timeout       => s.operationTimeout.nanos

-- What a variable counts in.
def Key.unit : Key → Nat
  | .timeout => 1000000
  | _        => 1

def told (lookup : String → Option String) : List Notice :=
  (ofLookup lookup).snd.map .settingIgnored

def Key.isTold (key : Key) : Notice → Bool
  | .settingIgnored what => what.key == key
  | _                    => false

def toldAbout (key : Key) (lookup : String → Option String) : List Notice :=
  (told lookup).filter key.isTold

section Numbers

-- The number that stands for a variable that cannot be read.
def Key.preset : Key → UInt64
  | .listCapacity  => standard.listCapacity
  | .eventCapacity => standard.eventCapacity
  | .traceJson     => 0
  | .timeout       => standard.operationTimeout.millis

theorem preset_mul_unit (key : Key) : key.preset.toNat * key.unit = standard.amount key := by
  cases key <;> decide

theorem amount_ofLookup (hk : key ≠ .traceJson) : (ofLookup lookup).fst.amount key =
    (numberOr key (lookup key.variable) key.preset).fst.toNat * key.unit := by
  cases key
  case traceJson     => contradiction
  case listCapacity  => exact (Nat.mul_one _).symm
  case eventCapacity => exact (Nat.mul_one _).symm
  case timeout       => rfl

-- What is told while a number is read is about its own variable.
theorem filter_numberOr (key key' : Key) (value? : Option String) (preset : UInt64) :
    (numberOr key' value? preset).snd.filter (·.key == key) =
      if key' = key then (numberOr key' value? preset).snd else [] := by
  have hs : ∀ what ∈ (numberOr key' value? preset).snd, what.key = key' := by
    unfold numberOr
    split
    case h_1 => exact nofun
    case h_2 =>
      split
      case h_1 => exact nofun
      case h_2 => exact List.forall_mem_singleton.mpr rfl
  split
  case isTrue h  => exact List.filter_eq_self.mpr fun what hw => beq_iff_eq.mpr <| (hs what hw).trans h
  case isFalse h => exact List.filter_eq_nil_iff.mpr fun what hw he => h <| (hs what hw).symm.trans <| beq_iff_eq.mp he

theorem toldAbout_eq_map (key : Key) (lookup : String → Option String) :
    let ignored (key' : Key) : List Ignored :=
      if key' = key then (numberOr key' (lookup key'.variable) key'.preset).snd else []
    toldAbout key lookup =
      (ignored .listCapacity ++ ignored .eventCapacity ++ ignored .timeout).map .settingIgnored := by
  intro ignored
  have hf : toldAbout key lookup = ((ofLookup lookup).snd.filter (·.key == key)).map .settingIgnored := List.filter_map
  have hs : (ofLookup lookup).snd =
      (numberOr .listCapacity (lookup Key.listCapacity.variable) Key.listCapacity.preset).snd ++
      (numberOr .eventCapacity (lookup Key.eventCapacity.variable) Key.eventCapacity.preset).snd ++
      (numberOr .timeout (lookup Key.timeout.variable) Key.timeout.preset).snd := rfl
  rw [hf, hs, List.filter_append, List.filter_append, filter_numberOr, filter_numberOr, filter_numberOr]

theorem toldAbout_eq (hk : key ≠ .traceJson) : toldAbout key lookup =
    (numberOr key (lookup key.variable) key.preset).snd.map .settingIgnored := by
  rw [toldAbout_eq_map]
  cases key
  case traceJson     => contradiction
  case listCapacity  => exact congrArg _ <| (List.append_nil _).trans <| List.append_nil _
  case eventCapacity => exact congrArg _ <| List.append_nil _
  case timeout       => rfl

-- The variable that is no number is never told about.
theorem toldAbout_traceJson (lookup : String → Option String) : toldAbout .traceJson lookup = [] :=
  toldAbout_eq_map .traceJson lookup

-- What comes of a variable depends on what the variable holds and on nothing else.
theorem reading_congr (hk : key ≠ .traceJson) (h : lookup' key.variable = lookup key.variable) :
    (ofLookup lookup').fst.amount key = (ofLookup lookup).fst.amount key ∧
      toldAbout key lookup' = toldAbout key lookup := by
  rw [amount_ofLookup hk, amount_ofLookup hk, toldAbout_eq hk, toldAbout_eq hk, h]
  exact ⟨rfl, rfl⟩

theorem reading_of_unset (hk : key ≠ .traceJson) (h : lookup key.variable = none) :
    (ofLookup lookup).fst.amount key = standard.amount key ∧ toldAbout key lookup = [] := by
  rw [amount_ofLookup hk, toldAbout_eq hk, h, ← preset_mul_unit]
  exact ⟨rfl, rfl⟩

theorem reading_of_means (hk : key ≠ .traceJson) (h : lookup key.variable = some value) (hm : Means value n) :
    (ofLookup lookup).fst.amount key = n * key.unit ∧ toldAbout key lookup = [] := by
  have hn : (UInt64.ofNat n).toNat = n := UInt64.toNat_ofNat_of_lt' hm.left
  have hv : number? value = some (UInt64.ofNat n) := number?_eq_some_iff.mpr <| hn.symm ▸ hm
  have hr : numberOr key (lookup key.variable) key.preset = (UInt64.ofNat n, []) := by rw [h, numberOr, hv]
  rw [amount_ofLookup hk, toldAbout_eq hk, hr, hn]
  exact ⟨rfl, rfl⟩

theorem reading_of_not_means (hk : key ≠ .traceJson) (h : lookup key.variable = some value)
    (hm : ∀ n, ¬Means value n) : (ofLookup lookup).fst.amount key = standard.amount key ∧
      toldAbout key lookup = [.settingIgnored ⟨key, value⟩] := by
  have hv : number? value = none := Option.eq_none_iff_forall_ne_some.mpr fun w hw => hm _ <| number?_eq_some_iff.mp hw
  have hr : numberOr key (lookup key.variable) key.preset = (key.preset, [⟨key, value⟩]) := by rw [h, numberOr, hv]
  rw [amount_ofLookup hk, toldAbout_eq hk, hr, preset_mul_unit]
  exact ⟨rfl, rfl⟩

end Numbers

-- A warning that names a variable and its value as it stands there.
def Warns (notice : Notice) (key : Key) (value : String) : Prop :=
  notice.level = .warn ∧ notice.fields = [("key", .str key.variable), ("value", .str value)]

theorem numbers_are_read_exactly (lookup : String → Option String) (key : Key) (hk : key ≠ .traceJson) :
    let s := (ofLookup lookup).fst
    (lookup key.variable = none → s.amount key = standard.amount key ∧ toldAbout key lookup = []) ∧
    (∀ value, lookup key.variable = some value →
      (∀ n, Means value n → s.amount key = n * key.unit ∧ toldAbout key lookup = []) ∧
      ((∀ n, ¬Means value n) →
        s.amount key = standard.amount key ∧ ∃ notice, toldAbout key lookup = [notice] ∧ Warns notice key value)) ∧
    ∀ lookup', lookup' key.variable = lookup key.variable →
      (ofLookup lookup').fst.amount key = s.amount key ∧ toldAbout key lookup' = toldAbout key lookup := by
  intro s
  refine ⟨reading_of_unset hk, fun value h => ⟨fun n => reading_of_means hk h, fun hm => ?_⟩, fun _ => reading_congr hk⟩
  have ⟨ha, ht⟩ := reading_of_not_means hk h hm
  exact ⟨ha, _, ht, rfl, rfl⟩

-- A number that is too great by one, and one that is written with a plus sign and zeros among white space.
def mixed : String → Option String
  | "HOSTPROC_LIST_CAPACITY"  => some "18446744073709551616"
  | "HOSTPROC_EVENT_CAPACITY" => some "\u00a0+0008\n"
  | _                         => none

theorem numbers_are_read_exactly_mixed :
    Key.eventCapacity ≠ .traceJson ∧ Means "\u00a0+0008\n" 8 ∧ Key.timeout ≠ .traceJson ∧
    (ofLookup mixed).fst.amount .eventCapacity = 8 ∧ toldAbout .eventCapacity mixed = [] ∧
    (ofLookup mixed).fst.amount .timeout = 5000000000 := by
  have hd : ['0', '0', '0', '8'].all Decimal.isDigit = true := rfl
  have hp : Padded ['+', '0', '0', '0', '8'] "\u00a0+0008\n".toList :=
    ⟨['\u00a0'], ['\n'], List.forall_mem_singleton.mpr rfl, List.forall_mem_singleton.mpr rfl, rfl⟩
  have hm : Means "\u00a0+0008\n" 8 := ⟨by decide, _, hp, .plus nofun <| List.all_eq_true.mp hd⟩
  have he := ((numbers_are_read_exactly mixed .eventCapacity nofun).right.left _ rfl).left 8 hm
  have ht := (numbers_are_read_exactly mixed .timeout nofun).left rfl
  exact ⟨nofun, hm, nofun, he.left, he.right, ht.left⟩

end Settings

end ProcessControl
