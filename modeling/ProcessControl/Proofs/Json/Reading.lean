import ProcessControl.Json.Printer
import ProcessControl.Json.Reader
import ProcessControl.Proofs.Text.Utf8

namespace ProcessControl.Json.Reader

variable {α β : Type}

-- The reader takes the front of the bytes for the value and leaves the rest.
def Gives (r : Reader α) (bytes : List UInt8) (a : α) (rest : List UInt8) : Prop :=
  r.run bytes = .ok (a, rest)

-- The byte of an ASCII character.
def byte (c : Char) : UInt8 :=
  UInt8.ofNat c.toNat

section Bytes

variable {c : Char}

theorem toNat_byte (h : c.toNat < 0x80) : (byte c).toNat = c.toNat :=
  UInt8.toNat_ofNat_of_lt' <| by unfold UInt8.size; omega

theorem byteChar_byte (h : c.toNat < 0x80) : byteChar (byte c) = c := by
  rw [byteChar, toNat_byte h, Char.ofNat_toNat]

theorem utf8EncodeChar_eq (h : c.toNat < 0x80) : String.utf8EncodeChar c = [byte c] :=
  Text.Utf8.Sequence.unique (.encodeChar c) (.one h <| toNat_byte h)

theorem encode_cons (h : c.toNat < 0x80) (cs : List Char) :
    Text.Utf8.encode (c :: cs) = byte c :: Text.Utf8.encode cs :=
  congrArg (· ++ Text.Utf8.encode cs) <| utf8EncodeChar_eq h

end Bytes

section Parts

variable {r : Reader α} {k : α → Reader β} {bytes middle rest : List UInt8} {a : α} {b : β} {c : Char} {cs : List Char}

theorem Gives.pure (a : α) (bytes : List UInt8) : (Pure.pure a : Reader α).Gives bytes a bytes :=
  rfl

theorem Gives.bind (h : r.Gives bytes a middle) (hk : (k a).Gives middle b rest) : (r >>= k).Gives bytes b rest := by
  rw [Gives, StateT.run_bind, h]
  exact hk

theorem Gives.run_bind (h : r.Gives bytes a middle) (k : α → Reader β) : (r >>= k).run bytes = (k a).run middle := by
  rw [StateT.run_bind, h]
  rfl

theorem gives_bind_iff :
    (r >>= k).Gives bytes b rest ↔ ∃ a middle, r.Gives bytes a middle ∧ (k a).Gives middle b rest := by
  rw [Gives, StateT.run_bind]
  constructor
  case mp =>
    intro h
    cases hr : r.run bytes
    case error => rw [hr] at h; cases h
    case ok p  => exact ⟨p.fst, p.snd, hr, by rwa [hr] at h⟩
  case mpr =>
    intro ⟨a, middle, h, hk⟩
    exact h.bind hk

theorem Gives.bind_iff (h : r.Gives bytes a middle) : (r >>= k).Gives bytes b rest ↔ (k a).Gives middle b rest := by
  rw [Gives, h.run_bind]
  rfl

theorem Gives.iff {a' : α} {rest' : List UInt8} (h : r.Gives bytes a rest) :
    r.Gives bytes a' rest' ↔ a = a' ∧ rest = rest' := by
  rw [Gives, h, Except.ok.injEq, Prod.mk.injEq]

-- A whole text is read when nothing but blanks is left of it.
theorem readAll_eq_ok_iff :
    r.readAll bytes = .ok a ↔ ∃ rest left, r.Gives bytes a rest ∧ finish.Gives rest () left := by
  have hr : r.readAll bytes = (r.run bytes).bind fun p => (finish.run p.snd).bind fun _ => .ok p.fst := rfl
  rw [hr]
  constructor
  case mp =>
    intro h
    cases hg : r.run bytes
    case error => rw [hg] at h; cases h
    case ok p =>
      rw [hg] at h
      cases hf : finish.run p.snd
      case error => rw [Except.bind, hf] at h; cases h
      case ok q =>
        rw [Except.bind, hf] at h
        have ha : p.fst = a := Except.ok.inj h
        exact ⟨p.snd, q.snd, ha ▸ hg, hf⟩
  case mpr =>
    intro ⟨rest, left, hg, hf⟩
    rw [hg, Except.bind, hf]
    rfl

-- Whatever the text is, the reader gives nothing but such values.
def GivesOnly (r : Reader α) (p : α → Prop) : Prop :=
  ∀ bytes a rest, r.Gives bytes a rest → p a

theorem givesOnly_malformed {p : α → Prop} : malformed.GivesOnly p :=
  nofun

theorem givesOnly_truncated {p : α → Prop} : truncated.GivesOnly p :=
  nofun

theorem givesOnly_refuse {p : α → Prop} (why : Mismatch) : (refuse why).GivesOnly p :=
  nofun

theorem givesOnly_pure {p : α → Prop} (h : p a) : (Pure.pure a : Reader α).GivesOnly p :=
  fun bytes _ _ hg => ((Gives.pure a bytes).iff.mp hg).left ▸ h

theorem GivesOnly.bind {p : α → Prop} {q : β → Prop} (h : r.GivesOnly p) (hk : ∀ a, p a → (k a).GivesOnly q) :
    (r >>= k).GivesOnly q := by
  intro bytes b rest hg
  have ⟨a, middle, ha, hb⟩ := gives_bind_iff.mp hg
  exact hk a (h bytes a middle ha) middle b rest hb

theorem GivesOnly.of_readAll {p : α → Prop} (h : r.GivesOnly p) (ha : r.readAll bytes = .ok a) : p a := by
  have ⟨rest, _, hg, _⟩ := readAll_eq_ok_iff.mp ha
  exact h bytes a rest hg

theorem GivesOnly.after {p : β → Prop} (h : ∀ a, (k a).GivesOnly p) : (r >>= k).GivesOnly p :=
  bind (p := fun _ => True) (fun _ _ _ _ => trivial) fun a _ => h a

theorem gives_head? (bytes : List UInt8) : front?.Gives bytes (bytes.head?.map byteChar) bytes :=
  rfl

theorem gives_front? (hc : c.toNat < 0x80) (rest : List UInt8) :
    front?.Gives (byte c :: rest) (some c) (byte c :: rest) := by
  have hh := gives_head? (byte c :: rest)
  rwa [List.head?_cons, Option.map_some, byteChar_byte hc] at hh

theorem gives_advance (u : UInt8) (rest : List UInt8) : advance.Gives (u :: rest) () rest :=
  rfl

-- A character that is told from others by its first byte, and that no reader passes over as a blank.
def visible (c : Char) : Bool :=
  c.toNat < 0x80 && !isBlank (byte c)

theorem gives_peek? (hc : visible c = true) (rest : List UInt8) :
    peek?.Gives (byte c :: rest) (some c) (byte c :: rest) := by
  simp only [visible, Bool.and_eq_true, decide_eq_true_eq, Bool.not_eq_true'] at hc
  have hd : (byte c :: rest).dropWhile isBlank = byte c :: rest :=
    List.dropWhile_cons_of_neg <| Bool.eq_false_iff.mp hc.right
  have hm : (modify (·.dropWhile isBlank) : Reader Unit).Gives (byte c :: rest) () (byte c :: rest) :=
    congrArg (fun bytes => Except.ok ((), bytes)) hd
  exact hm.bind <| gives_front? hc.left rest

-- A character that tells what comes, and is then passed over.
theorem run_token {k : Option Char → Reader β} {next : Reader β} (hc : visible c = true)
    (hk : k (some c) = do advance; next) (bytes : List UInt8) :
    (peek? >>= k).run (byte c :: bytes) = next.run bytes := by
  rw [(gives_peek? hc bytes).run_bind, hk]
  exact (gives_advance _ bytes).run_bind _

theorem gives_token {k : Option Char → Reader β} {next : Reader β} (hc : visible c = true)
    (hk : k (some c) = do advance; next) (h : next.Gives bytes b rest) : (peek? >>= k).Gives (byte c :: bytes) b rest :=
  (run_token hc hk bytes).trans h

theorem gives_word (h : cs.all (·.toNat < 0x80) = true) (rest : List UInt8) :
    (word cs).Gives (Text.Utf8.encode cs ++ rest) () rest := by
  induction cs
  case nil => exact .pure () rest
  case cons c cs hi =>
    rw [List.all_cons, Bool.and_eq_true, decide_eq_true_eq] at h
    have ⟨hc, hcs⟩ := h
    rw [encode_cons hc]
    refine (gives_front? hc _).bind ?_
    simp only [if_pos]
    exact (gives_advance _ _).bind <| hi hcs

theorem gives_colon (rest : List UInt8) : colon.Gives (byte ':' :: rest) () rest :=
  (gives_peek? (by decide) rest).bind <| gives_advance _ _

end Parts

end ProcessControl.Json.Reader
