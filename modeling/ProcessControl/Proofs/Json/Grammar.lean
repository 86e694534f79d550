import Mathlib.Tactic.SplitIfs
import ProcessControl.Proofs.Json.Number
import ProcessControl.Proofs.Json.Text

namespace ProcessControl.Json

namespace Grammar

open Reader

def Blank (w : List UInt8) : Prop :=
  ∀ b ∈ w, isBlank b = true

theorem blank_nil : Blank [] :=
  nofun

structure Digits (w : List UInt8) : Prop where
  ne_nil : w ≠ []
  digits : ∀ b ∈ w, isDigit b = true

-- No zero stands before other digits.
structure Whole (w : List UInt8) : Prop extends Digits w where
  zero : ∀ b rest, w ≠ byte '0' :: b :: rest

inductive Fraction : List UInt8 → Prop
  | none : Fraction []
  | some {ds : List UInt8} : Digits ds → Fraction (byte '.' :: ds)

inductive Exponent : List UInt8 → Prop
  | none : Exponent []
  | some {mark : Char} {sign ds : List UInt8} :
    mark ∈ ['e', 'E'] → sign ∈ [[], [byte '+'], [byte '-']] → Digits ds → Exponent (byte mark :: (sign ++ ds))

-- A number after its sign.
inductive Unsigned : List UInt8 → Prop
  | mk {ds fraction exponent : List UInt8} :
    Whole ds → Fraction fraction → Exponent exponent → Unsigned (ds ++ (fraction ++ exponent))

-- What stands between the quotes of a text.
inductive Characters : List UInt8 → Prop
  | nil : Characters []
  | plain {b : UInt8} {w : List UInt8} : Plain b → Characters w → Characters (b :: w)
  | letter {b : UInt8} {w : List UInt8} :
    (unescape? b).isSome → Characters w → Characters (byte '\\' :: b :: w)
  | code {a b c d : UInt8} {w : List UInt8} :
    (hex4? a b c d).isSome → Characters w → Characters (byte '\\' :: byte 'u' :: a :: b :: c :: d :: w)

theorem Characters.append {v w : List UInt8} (hv : ∀ b ∈ v, Plain b) (hw : Characters w) : Characters (v ++ w) := by
  induction v
  case nil => exact hw
  case cons b v hi =>
    have ⟨hb, hv⟩ := List.forall_mem_cons.mp hv
    exact .plain hb <| hi hv

theorem Characters.of_plain {w : List UInt8} (h : ∀ b ∈ w, Plain b) : Characters w :=
  List.append_nil w ▸ .append h .nil

theorem Characters.of_spells {w : List UInt8} {cs : List Char} (h : Spells w cs) : Characters w := by
  induction h
  case nil => exact .nil
  case plain c w cs hl hq hs _ hi =>
    have hq : c.toNat ≠ 0x22 := fun h => hq <| Char.toNat_inj.mp h
    have hs : c.toNat ≠ 0x5C := fun h => hs <| Char.toNat_inj.mp h
    exact .append (plain_of_mem_utf8EncodeChar hl hq hs) hi
  case letter hl _ hi         => exact .letter (Option.isSome_of_eq_some hl) hi
  case code hn _ _ hi         => exact .code (Option.isSome_of_eq_some hn) hi
  case pair hn _ _ hm _ _ _ hi =>
    exact .code (Option.isSome_of_eq_some hn) <| .code (Option.isSome_of_eq_some hm) hi

def quoted (w : List UInt8) : List UInt8 :=
  byte '"' :: (w ++ [byte '"'])

-- A text and the blanks around it.
inductive Label : List UInt8 → Prop
  | mk {before w after : List UInt8} : Blank before → Characters w → Blank after → Label (before ++ (quoted w ++ after))

-- A value whose arrays and objects are nested at most so deep.
inductive Value : Nat → List UInt8 → Prop
  | null {depth : Nat} : Value depth (Text.Utf8.encode "null".toList)
  | bool {depth : Nat} (b : Bool) : Value depth (Text.Utf8.encode <| if b then "true".toList else "false".toList)
  | natural {depth : Nat} {w : List UInt8} : Unsigned w → Value depth w
  | negative {depth : Nat} {w : List UInt8} : Unsigned w → Value depth (byte '-' :: w)
  | text {depth : Nat} {w : List UInt8} : Characters w → Value depth (quoted w)
  | noItems {depth : Nat} {w : List UInt8} : Blank w → Value (depth + 1) (byte '[' :: (w ++ [byte ']']))
  | items {depth : Nat} {ws : List (List UInt8)} :
    (∀ w ∈ ws, Value depth w) → Value (depth + 1) (byte '[' :: ([byte ','].intercalate ws ++ [byte ']']))
  | noMembers {depth : Nat} {w : List UInt8} : Blank w → Value (depth + 1) (byte '\x7b' :: (w ++ [byte '\x7d']))
  | members {depth : Nat} {ms : List (List UInt8 × List UInt8)} :
    (∀ m ∈ ms, Label m.fst) → (∀ m ∈ ms, Value depth m.snd) →
    Value (depth + 1)
      (byte '\x7b' :: ([byte ','].intercalate (ms.map fun m => m.fst ++ byte ':' :: m.snd) ++ [byte '\x7d']))
  | padded {depth : Nat} {before w after : List UInt8} :
    Blank before → Blank after → Value depth w → Value depth (before ++ (w ++ after))

-- What is written of a natural number and of a text is a value.
theorem value_nat (n : Nat) : Value 0 (Text.Utf8.encode (Json.Value.nat n).chars) := by
  have hd : ∀ c ∈ Text.Decimal.digits n, Text.Decimal.isDigit c = true := fun _ => Text.Decimal.isDigit_of_mem_digits
  have hb : ∀ b ∈ (Text.Decimal.digits n).map byte, isDigit b = true :=
    List.forall_mem_map.mpr fun c hc => isDigit_byte <| hd c hc
  have hn : (Text.Decimal.digits n).map byte ≠ [] := mt List.map_eq_nil_iff.mp Nat.toDigits_ne_nil
  have hw : Whole ((Text.Decimal.digits n).map byte) := ⟨⟨hn, hb⟩, fun _ _ => digits_ne_zero_cons⟩
  have hc : (Json.Value.nat n).chars = Text.Decimal.digits n := rfl
  rw [hc, encode_digits hd, ← List.append_nil ((Text.Decimal.digits n).map byte)]
  exact .natural <| .mk hw .none .none

theorem value_str (s : String) : Value 0 (Text.Utf8.encode (Json.Value.str s).chars) := by
  have hc : (Json.Value.str s).chars = '"' :: (s.toList.flatMap escape ++ ['"']) := rfl
  rw [hc, encode_cons (by decide), Text.Utf8.encode_append]
  exact .text <| .of_spells <| spells_escaped s.toList

end Grammar

namespace Reader

variable {α β : Type}

-- What the reader makes of these bytes does not hang on what follows them, and what follows is left.
def Settled (r : Reader α) (w : List UInt8) : Prop :=
  ∃ outcome : Except Fault α, ∀ rest, Closes rest → r.run (w ++ rest) = outcome.map (·, rest)

section Blanks

open Grammar

variable {r : Reader α}

-- Blanks in front change nothing.
def SkipsBlanks (r : Reader α) : Prop :=
  ∀ before bytes, Blank before → r.run (before ++ bytes) = r.run bytes

theorem skipsBlanks_peek? (k : Option Char → Reader α) : (peek? >>= k).SkipsBlanks := by
  intro before bytes hb
  have hd : (before ++ bytes).dropWhile isBlank = bytes.dropWhile isBlank := List.dropWhile_append_of_pos hb
  have hp (bytes : List UInt8) : peek?.run bytes = front?.run (bytes.dropWhile isBlank) := rfl
  rw [StateT.run_bind, StateT.run_bind, hp, hp, hd]

theorem SkipsBlanks.bind (h : r.SkipsBlanks) (k : α → Reader β) : (r >>= k).SkipsBlanks := by
  intro before bytes hb
  rw [StateT.run_bind, StateT.run_bind, h before bytes hb]

theorem closes_blank {after rest : List UInt8} (ha : Blank after) (hr : Closes rest) : Closes (after ++ rest) := by
  intro b hb
  cases after
  case nil => exact hr b hb
  case cons c after =>
    cases hb
    have hc := ha b List.mem_cons_self
    simp only [isBlank, Bool.or_eq_true, beq_iff_eq] at hc
    rcases hc with ((hc | hc) | hc) | hc <;> exact hc ▸ by decide

end Blanks

section Texts

open Grammar

variable {a b c d : UInt8} {w : List UInt8}

-- The same of the bytes before a closing quote.
def Resolved (w : List UInt8) : Prop :=
  ∃ outcome : Except Fault (List UInt8), ∀ done rest,
    stringBytes done (w ++ byte '"' :: rest) = outcome.map fun bytes => (done.reverse ++ bytes, rest)

theorem Resolved.nil : Resolved [] := by
  refine ⟨.ok [], fun done rest => ?_⟩
  rw [Except.map, List.append_nil]
  rfl

-- Bytes that are put in front, when they come to some bytes of their own.
theorem Resolved.append (front read : List UInt8) (h : Resolved w)
    (hf : ∀ done rest, stringBytes done (front ++ rest) = stringBytes (read.reverse ++ done) rest) :
    Resolved (front ++ w) := by
  have ⟨outcome, ho⟩ := h
  refine ⟨outcome.map (read ++ ·), fun done rest => ?_⟩
  rw [List.append_assoc, hf, ho]
  cases outcome <;> simp [Except.map]

theorem Resolved.malformed (h : ∀ done rest, stringBytes done (w ++ byte '"' :: rest) = .error .malformed) :
    Resolved w :=
  ⟨.error .malformed, h⟩

theorem Resolved.plain (hp : Plain b) (h : Resolved w) : Resolved (b :: w) :=
  h.append [b] [b] fun done rest => stringBytes_plain done rest hp

theorem Resolved.letter (hl : (unescape? b).isSome) (h : Resolved w) : Resolved (byte '\\' :: b :: w) := by
  have ⟨u, hu⟩ := Option.isSome_iff_exists.mp hl
  have hb := ne_u_of_unescape? hl
  refine h.append [byte '\\', b] [u] fun done rest => ?_
  have hc : [byte '\\', b] ++ rest = 0x5C :: b :: rest := rfl
  rw [hc, stringBytes]
  · rw [hu]; rfl
  all_goals intros; contradiction

section Surrogates

variable {n : Nat} (hn : hex4? a b c d = some n) (hl : 0xD800 ≤ n) (hh : n < 0xDC00)

include hn

-- A number that stands for a character by itself, or for none.
theorem Resolved.code (h : Resolved w) (hp : 0xD800 ≤ n → n < 0xDC00 →
      Resolved (byte '\\' :: byte 'u' :: a :: b :: c :: d :: w)) :
    Resolved (byte '\\' :: byte 'u' :: a :: b :: c :: d :: w) := by
  by_cases hs : n < 0xD800 ∨ 0xDFFF < n
  case pos =>
    refine h.append [byte '\\', byte 'u', a, b, c, d] (String.utf8EncodeChar <| Char.ofNat n) fun done rest => ?_
    have hc : [byte '\\', byte 'u', a, b, c, d] ++ rest = 0x5C :: 0x75 :: a :: b :: c :: d :: rest := rfl
    rw [hc, stringBytes]
    simp only [hn, if_pos hs]
  case neg =>
    by_cases hd : 0xDC00 ≤ n
    case neg => exact hp (by omega) (by omega)
    case pos =>
      refine .malformed fun done rest => ?_
      have hc : byte '\\' :: byte 'u' :: a :: b :: c :: d :: w ++ byte '"' :: rest =
        0x5C :: 0x75 :: a :: b :: c :: d :: (w ++ byte '"' :: rest) := rfl
      rw [hc, stringBytes]
      simp only [hn, if_neg hs, if_pos hd]

include hl hh

-- Its partner must follow at once.
theorem stringBytes_high (done rest : List UInt8) (h₁ : rest ≠ []) (h₂ : rest ≠ [0x5C])
    (h₃ : ∀ more, rest ≠ 0x5C :: 0x75 :: more) :
    stringBytes done (0x5C :: 0x75 :: a :: b :: c :: d :: rest) = .error .malformed := by
  have hs : ¬(n < 0xD800 ∨ 0xDFFF < n) := by omega
  have hd : ¬0xDC00 ≤ n := by omega
  rw [stringBytes]
  simp only [hn, if_neg hs, if_neg hd]
  split
  case h_1 => contradiction
  case h_2 => exact absurd rfl (h₃ _)
  case h_3 => contradiction
  case h_4 => exact absurd rfl (h₃ _)
  case h_5 => rfl

theorem Resolved.pair {e f g h : UInt8} {m : Nat} (hm : hex4? e f g h = some m) (hw : Resolved w) :
    Resolved (byte '\\' :: byte 'u' :: a :: b :: c :: d :: byte '\\' :: byte 'u' :: e :: f :: g :: h :: w) := by
  have hs : ¬(n < 0xD800 ∨ 0xDFFF < n) := by omega
  have hd : ¬0xDC00 ≤ n := by omega
  have hc (done rest : List UInt8) :
      stringBytes done (0x5C :: 0x75 :: a :: b :: c :: d :: 0x5C :: 0x75 :: e :: f :: g :: h :: rest) =
        if m < 0xDC00 ∨ 0xDFFF < m then .error .malformed
        else stringBytes ((String.utf8EncodeChar <| Char.ofNat <|
          0x10000 + (n - 0xD800) * 0x400 + (m - 0xDC00)).reverse ++ done) rest := by
    rw [stringBytes]
    simp only [hn, hm, if_neg hs, if_neg hd]
  by_cases hr : m < 0xDC00 ∨ 0xDFFF < m
  case pos => exact .malformed fun done rest => (hc done _).trans <| if_pos hr
  case neg =>
    exact hw.append [byte '\\', byte 'u', a, b, c, d, byte '\\', byte 'u', e, f, g, h] _
      fun done rest => (hc done rest).trans <| if_neg hr

end Surrogates

-- The second part says it of a text before which a number has been read: the number may be the first half of a pair.
theorem resolved_code (h : Characters w) : Resolved w ∧
    ∀ a b c d, (hex4? a b c d).isSome → Resolved (byte '\\' :: byte 'u' :: a :: b :: c :: d :: w) := by
  induction h
  case nil =>
    refine ⟨.nil, fun a b c d hs => ?_⟩
    have ⟨n, hn⟩ := Option.isSome_iff_exists.mp hs
    exact Resolved.nil.code hn fun hl hh => .malformed fun done rest =>
      stringBytes_high hn hl hh done _ nofun nofun nofun
  case plain b w hp _ hi =>
    have hw := hi.left.plain hp
    have hb : b ≠ 0x5C := fun he => hp.right.right <| congrArg UInt8.toNat he
    refine ⟨hw, fun a b c d hs => ?_⟩
    have ⟨n, hn⟩ := Option.isSome_iff_exists.mp hs
    refine hw.code hn fun hl hh => .malformed fun done rest => stringBytes_high hn hl hh done _ nofun ?_ ?_
    case refine_1 => exact fun he => hb (List.cons.inj he).left
    case refine_2 => exact fun _ he => hb (List.cons.inj he).left
  case letter e w hl _ hi =>
    have hw := hi.left.letter hl
    refine ⟨hw, fun a b c d hs => ?_⟩
    have ⟨n, hn⟩ := Option.isSome_iff_exists.mp hs
    refine hw.code hn fun hl' hh => .malformed fun done rest => stringBytes_high hn hl' hh done _ nofun nofun ?_
    exact fun _ he => ne_u_of_unescape? hl (List.cons.inj (List.cons.inj he).right).left
  case code e f g h w hm _ hi =>
    have hw := hi.right e f g h hm
    refine ⟨hw, fun a b c d hs => ?_⟩
    have ⟨n, hn⟩ := Option.isSome_iff_exists.mp hs
    have ⟨m, hm⟩ := Option.isSome_iff_exists.mp hm
    exact hw.code hn fun hl hh => hi.left.pair hn hl hh hm

-- The characters of a text from its bytes.
def characters (bytes : List UInt8) : Except Fault String :=
  match Text.Utf8.decode? bytes with
  | some cs => .ok <| String.ofList cs
  | none    => .error .malformed

theorem run_string (bytes : List UInt8) :
    string.run bytes = (stringBytes [] bytes).bind fun read => (characters read.fst).map (·, read.snd) := by
  have hl (x : Except Fault (List UInt8 × List UInt8)) : (liftM x : Reader _).run bytes = x.map (·, bytes) := by
    cases x <;> rfl
  rw [string, StateT.run_bind, StateT.run_get]
  simp only [pure_bind, StateT.run_bind, hl]
  cases stringBytes [] bytes
  case error => rfl
  case ok read =>
    have hc : (characters read.fst).map (·, read.snd) =
      (match Text.Utf8.decode? read.fst with
        | some cs => Pure.pure (String.ofList cs)
        | none    => malformed : Reader String).run read.snd := by
      unfold characters
      cases Text.Utf8.decode? read.fst <;> rfl
    exact hc.symm

-- A text after its opening quote, whatever follows it.
theorem exists_outcome_string (h : Characters w) :
    ∃ outcome : Except Fault String, ∀ rest, string.run (w ++ byte '"' :: rest) = outcome.map (·, rest) := by
  have ⟨outcome, ho⟩ := (resolved_code h).left
  refine ⟨outcome.bind characters, fun rest => ?_⟩
  rw [run_string, ho]
  cases outcome <;> rfl

theorem settled_string (h : Characters w) : string.Settled (w ++ [byte '"']) := by
  have ⟨outcome, ho⟩ := exists_outcome_string h
  refine ⟨outcome, fun rest _ => ?_⟩
  rw [List.append_assoc]
  exact ho rest

end Texts

section Parts

variable {r : Reader α} {k : α → Reader β} {w : List UInt8}

theorem Settled.pure (a : α) : (Pure.pure a : Reader α).Settled [] :=
  ⟨.ok a, fun _ _ => rfl⟩

theorem settled_malformed : (malformed : Reader α).Settled [] :=
  ⟨.error .malformed, fun _ _ => rfl⟩

-- The first part reads a value and leaves the bytes that the second part is settled on.
theorem Settled.after (a : α) (left : List UInt8) (hk : (k a).Settled left)
    (h : ∀ rest, Closes rest → r.Gives (w ++ rest) a (left ++ rest)) : (r >>= k).Settled w := by
  have ⟨outcome, ho⟩ := hk
  exact ⟨outcome, fun rest hr => ((h rest hr).run_bind k).trans <| ho rest hr⟩

end Parts

section Numbers

open Grammar

variable {negative : Bool} {significand : Nat} {exponent : Int} {b : UInt8} {w ds sign : List UInt8}

theorem toNat_byteChar (h : b.toNat < 0x80) : (byteChar b).toNat = b.toNat :=
  (Text.Utf8.Sequence.one h rfl).toNat_ofNat

theorem byte_byteChar (h : b.toNat < 0x80) : byte (byteChar b) = b :=
  UInt8.toNat_inj.mp <| (toNat_byte <| toNat_byteChar h ▸ h).trans <| toNat_byteChar h

theorem exists_digit (h : isDigit b = true) : ∃ c, b = byte c ∧ Text.Decimal.isDigit c = true := by
  simp only [isDigit, Bool.and_eq_true, decide_eq_true_eq, UInt8.le_iff_toNat_le] at h
  obtain ⟨hl, hh⟩ := h
  have hb : b.toNat < 0x80 := Nat.lt_of_le_of_lt hh (by decide)
  exact ⟨byteChar b, (byte_byteChar hb).symm, Text.Decimal.isDigit_iff.mpr <| toNat_byteChar hb ▸ ⟨hl, hh⟩⟩

theorem exists_first_digit (h : Digits w) : ∃ c more, w = byte c :: more ∧ Text.Decimal.isDigit c = true := by
  have ⟨b, more, hw⟩ := List.exists_cons_of_ne_nil h.ne_nil
  have ⟨c, hb, hc⟩ := exists_digit <| h.digits b <| hw ▸ List.mem_cons_self
  exact ⟨c, more, hb ▸ hw, hc⟩

theorem exists_first_unsigned (h : Unsigned w) : ∃ c more, w = byte c :: more ∧ Text.Decimal.isDigit c = true := by
  cases h
  case mk ds fraction exponent hd _ _ =>
    have ⟨c, more, hw, hc⟩ := exists_first_digit hd.toDigits
    exact ⟨c, more ++ (fraction ++ exponent), hw ▸ rfl, hc⟩

-- A sign, or none where the digits begin.
theorem gives_exponentSign (hs : sign ∈ [[], [byte '+'], [byte '-']]) (hd : Digits ds) :
    ∃ down, ∀ rest, exponentSign.Gives (sign ++ (ds ++ rest)) down (ds ++ rest) := by
  simp only [List.mem_cons, List.not_mem_nil, or_false] at hs
  rcases hs with hs | hs | hs
  case inl =>
    have ⟨c, more, hb, hc⟩ := exists_first_digit hd
    refine ⟨false, fun rest => ?_⟩
    rw [hs, hb]
    refine (gives_front? (toNat_lt_of_isDigit hc) _).bind ?_
    split
    case h_1 h => cases h; cases hc
    case h_2 h => cases h; cases hc
    case h_3   => exact .pure _ _
  case inr.inl =>
    refine ⟨false, fun rest => ?_⟩
    rw [hs]
    exact (gives_front? (c := '+') (by decide) _).bind <| (gives_advance _ _).bind <| .pure _ _
  case inr.inr =>
    refine ⟨true, fun rest => ?_⟩
    rw [hs]
    exact (gives_front? (c := '-') (by decide) _).bind <| (gives_advance _ _).bind <| .pure _ _

theorem settled_assemble : (assemble negative significand exponent).Settled [] := by
  unfold assemble
  dsimp only
  split_ifs
  case pos => exact settled_malformed
  case pos => exact .pure _
  case neg => exact .pure _
  case pos => exact .pure _
  case neg => exact .pure _
  case neg => exact settled_malformed
  case pos => exact .pure _
  case neg => exact .pure _

theorem settled_integer (n dropped : Nat) : (integer negative n dropped).Settled [] := by
  unfold integer
  split_ifs
  case pos => exact settled_assemble
  case pos => exact .pure _
  case pos => exact .pure _
  case neg => exact .pure _

theorem settled_front {k : Option Char → Reader α} {next : Reader α} (hn : next.Settled [])
    (hk : ∀ c, c ≠ some '.' → c ≠ some 'e' → c ≠ some 'E' → k c = next) : (front? >>= k).Settled [] := by
  have ⟨outcome, ho⟩ := hn
  exact ⟨outcome, fun rest hr => (hr.run_front? hk).trans <| ho rest hr⟩

theorem settled_exponentPart (h : Exponent w) (hw : w ≠ []) (start : Int) :
    (exponentPart negative significand start).Settled w := by
  cases h
  case none => contradiction
  case some mark sign ds hm hs hd =>
    have ⟨down, hg⟩ := gives_exponentSign hs hd
    refine .after () (sign ++ ds) ?_ fun rest _ => gives_advance _ _
    refine .after down ds ?_ fun rest _ => List.append_assoc .. ▸ hg rest
    refine .after ds [] ?_ fun rest hr => gives_row hd.digits fun b hb => isDigit_closer <| hr b hb
    rw [if_neg <| mt List.isEmpty_iff.mp hd.ne_nil]
    dsimp only
    split_ifs
    case pos => exact settled_malformed
    case neg => exact .pure _
    case pos => exact settled_assemble
    case neg => exact settled_assemble

theorem of_mem_marks {mark : Char} (h : mark ∈ ['e', 'E']) : mark.toNat < 0x80 ∧ isDigit (byte mark) = false := by
  simp only [List.mem_cons, List.not_mem_nil, or_false] at h
  rcases h with rfl | rfl
  case inl => exact ⟨by decide, rfl⟩
  case inr => exact ⟨by decide, rfl⟩

-- What may follow the digits of a number: an exponent, or its end.
theorem settled_ending {k : Option Char → Reader Number} {next : Reader Number} (hn : next.Settled [])
    (hk : ∀ c, c ≠ some '.' → c ≠ some 'e' → c ≠ some 'E' → k c = next)
    (he : ∀ c ∈ ['e', 'E'], k (some c) = exponentPart negative significand exponent) (h : Exponent w) :
    (front? >>= k).Settled w := by
  have hp (hw : w ≠ []) : (exponentPart negative significand exponent).Settled w := settled_exponentPart h hw exponent
  cases h
  case none => exact settled_front hn hk
  case some mark sign ds hm _ _ =>
    refine .after (some mark) (byte mark :: (sign ++ ds)) (he mark hm ▸ hp nofun) fun rest _ => ?_
    exact gives_front? (of_mem_marks hm).left _

theorem settled_afterDigits (h : Exponent w) : (afterDigits negative significand exponent).Settled w := by
  have hn : (assemble negative significand exponent).Settled [] := settled_assemble
  refine settled_ending hn (fun c _ he hE => ?_) (List.forall_mem_cons.mpr ⟨rfl, ?_⟩) h
  case refine_1 =>
    split
    case h_1 => contradiction
    case h_2 => contradiction
    case h_3 => rfl
  case refine_2 => exact List.forall_mem_singleton.mpr rfl

-- What follows a row of digits in a number is not a digit.
theorem not_digit_of_fraction {fraction exponent rest : List UInt8} (hf : Fraction fraction) (he : Exponent exponent)
    (hr : Closes rest) : ∀ b, (fraction ++ (exponent ++ rest)).head? = some b → isDigit b = false := by
  intro b hb
  cases hf
  case some => cases hb; rfl
  case none =>
    cases he
    case none => exact isDigit_closer (hr b hb)
    case some mark sign ds hm _ _ =>
      cases hb
      exact (of_mem_marks hm).right

theorem settled_fractionPart (hd : Digits ds) (he : Exponent w) :
    (fractionPart negative significand exponent).Settled (byte '.' :: (ds ++ w)) := by
  refine .after () (ds ++ w) ?_ fun rest _ => gives_advance _ _
  refine .after ds w ?_ fun rest hr => ?_
  case refine_2 =>
    rw [List.append_assoc]
    exact gives_row hd.digits <| not_digit_of_fraction .none he hr
  rw [if_neg <| mt List.isEmpty_iff.mp hd.ne_nil]
  exact settled_afterDigits he

-- A number after its sign.
theorem settled_number (h : Unsigned w) : (number negative).Settled w := by
  cases h
  case mk ds fraction exponent hd hf he =>
    refine .after ds (fraction ++ exponent) ?_ fun rest hr => ?_
    case refine_2 =>
      rw [List.append_assoc, List.append_assoc]
      exact gives_row hd.digits <| not_digit_of_fraction hf he hr
    split
    case h_1 => exact absurd rfl hd.ne_nil
    case h_2 => exact absurd rfl <| hd.zero _ _
    case h_3 =>
      generalize absorb 0 ds = read
      cases hf
      case some more hm =>
        exact .after (some '.') _ (settled_fractionPart hm he) fun rest _ => gives_front? (by decide) _
      case none =>
        have hn : (integer negative read.fst (ds.length - read.snd)).Settled [] := settled_integer _ _
        refine settled_ending hn (fun c hp he hE => ?_) (List.forall_mem_cons.mpr ⟨rfl, ?_⟩) he
        case refine_1 =>
          split
          case h_1 => contradiction
          case h_2 => contradiction
          case h_3 => contradiction
          case h_4 => rfl
        case refine_2 => exact List.forall_mem_singleton.mpr rfl

end Numbers

end Reader

end ProcessControl.Json
