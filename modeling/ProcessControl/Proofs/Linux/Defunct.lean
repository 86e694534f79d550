import ProcessControl.Linux.Platform
import ProcessControl.Proofs.Linux.State
import ProcessControl.Proofs.Unix.Kill

namespace ProcessControl.Linux

open Text

-- What the kernel writes about a process: the name is up to the process, the rest is not.
def statLine (pid : Pid) (comm : List UInt8) (letter : Char) (rest : List UInt8) : List UInt8 :=
  Utf8.encode (Decimal.digits pid.toNat ++ [' ', '(']) ++ comm ++ Utf8.encode [')', ' ', letter, ' '] ++ rest

section Parsing

variable {pid : Pid} {name rest : List Char} {letter : Char}

theorem isFieldBlank_of_isAlpha (h : letter.isAlpha) : isFieldBlank letter = false := by
  simp only [isFieldBlank, Bool.or_eq_false_iff, beq_eq_false_iff_ne, ne_eq]
  refine ⟨⟨⟨⟨?_, ?_⟩, ?_⟩, ?_⟩, ?_⟩ <;> exact fun he => absurd (he ▸ h) (by decide)

theorem firstField?_letter (h : letter.isAlpha) : firstField? (' ' :: letter :: ' ' :: rest) = some [letter] := by
  have hb : ∀ c ∈ [letter], isFieldBlank c = false := List.forall_mem_singleton.mpr <| isFieldBlank_of_isAlpha h
  have hs : ∀ c, (' ' :: rest).head? = some c → isFieldBlank c = true := by
    rintro _ ⟨⟩
    rfl
  exact firstField?_eq_some_iff.mpr <| .intro [' '] _ (List.forall_mem_singleton.mpr rfl) nofun hb hs

-- The last parenthesis closes the name, whatever the name is.
theorem state?_eq_letter (front : List Char) (hl : letter.isAlpha) (hr : ')' ∉ rest) :
    state? (front ++ [')', ' ', letter, ' '] ++ rest) = some letter := by
  have hp : ')' ∉ ' ' :: letter :: ' ' :: rest := by
    simp only [List.mem_cons, not_or]
    exact ⟨by decide, fun he => absurd (he ▸ hl) (by decide), by decide, hr⟩
  have ha := afterName?_append front hp
  rw [List.append_assoc, List.cons_append, List.cons_append, List.cons_append, List.cons_append, List.nil_append]
  simp [state?, ha, firstField?_letter hl]

end Parsing

section Reading

variable {pid : Pid} {comm rest : List UInt8} {letter : Char}

theorem not_mem_of_not_mem_encode {cs : List Char} (h : 0x29 ∉ Utf8.encode cs) : ')' ∉ cs :=
  fun hm => h <| List.mem_flatMap.mpr ⟨')', hm, .head _⟩

theorem decode?_statLine (letter : Char) (front name rest : List Char) :
    Utf8.decode? (Utf8.encode front ++ Utf8.encode name ++ Utf8.encode [')', ' ', letter, ' '] ++ Utf8.encode rest) =
      some (front ++ name ++ [')', ' ', letter, ' '] ++ rest) := by
  simp only [← Utf8.encode_append, Utf8.decode?_encode]

-- The parentheses and the blanks are single bytes, so the name is text or not on its own.
theorem valid_statLine (h : Utf8.Valid (statLine pid comm letter rest)) : Utf8.Valid comm ∧ Utf8.Valid rest := by
  have hf : statLine pid comm letter rest =
      Utf8.encode (Decimal.digits pid.toNat ++ [' ']) ++
        0x28 :: (comm ++ 0x29 :: (Utf8.encode [' ', letter] ++ 0x20 :: rest)) := by
    have hp : String.utf8EncodeChar '(' = [0x28] := rfl
    have hc : String.utf8EncodeChar ')' = [0x29] := rfl
    have hs : String.utf8EncodeChar ' ' = [0x20] := rfl
    simp [statLine, Utf8.encode, hp, hc, hs]
  rw [hf, Utf8.valid_append_cons_iff (by decide), Utf8.valid_append_cons_iff (by decide),
    Utf8.valid_append_cons_iff (by decide)] at h
  exact ⟨h.right.left, h.right.right.right⟩

-- The letter of a process that has ended, where the whole line is text.
def TellsEnd (comm : List UInt8) (letter : Char) (rest : List UInt8) : Prop :=
  (letter = 'Z' ∨ letter = 'X') ∧ Utf8.Valid comm ∧ Utf8.Valid rest

theorem read_statLine (pid : Pid) (hl : letter.isAlpha) (hr : 0x29 ∉ rest) :
    (((Utf8.decode? <| statLine pid comm letter rest).bind state?).any fun c => c == 'Z' || c == 'X') = true ↔
      TellsEnd comm letter rest := by
  by_cases hv : Utf8.Valid comm ∧ Utf8.Valid rest
  case pos =>
    have ⟨⟨name, hn⟩, ⟨tail, ht⟩⟩ := hv
    have hp : ')' ∉ tail := not_mem_of_not_mem_encode <| ht ▸ hr
    have hd := decode?_statLine letter (Decimal.digits pid.toNat ++ [' ', '(']) name tail
    rw [hn, ht] at hd
    rw [statLine, hd, Option.bind_some, state?_eq_letter _ hl hp]
    simp [TellsEnd, hv]
  case neg =>
    have hd : Utf8.decode? (statLine pid comm letter rest) = none :=
      Utf8.decode?_eq_none_iff.mpr fun h => hv <| valid_statLine h
    rw [hd]
    simp [TellsEnd, hv]

end Reading

section Ending

variable {σ : Type} {handler : Handler interface σ} {s : σ} {pid : Pid} {comm rest : List UInt8} {letter : Char}

def statPath (pid : Pid) : List FileName :=
  [directory pid, fileName "stat".toList]

-- The state is read without a crash, so it is the letter among the characters that decides.
theorem isDefunct_eq (pid : Pid) :
    isDefunct pid = do return ((← readText <| statPath pid).bind state?).any fun c => c == 'Z' || c == 'X' := by
  rw [isDefunct]
  refine congrArg (readText (statPath pid) >>= ·) <| funext fun text? => ?_
  cases text?
  case none => rfl
  case some text =>
    simp only [readState_eq]
    rfl

-- Looking at a process is one question, and no other answer than the state comes out of it.
theorem run_isDefunct {bytes : List UInt8} (h : (handler (.inr <| .readFile <| statPath pid) s).fst = .ok bytes) :
    (isDefunct pid).inr.run handler s =
      ⟨.ok (((Utf8.decode? bytes).bind state?).any fun c => c == 'Z' || c == 'X'),
        [⟨.inr <| .readFile <| statPath pid, .ok bytes⟩], [], (handler (.inr <| .readFile <| statPath pid) s).snd⟩ := by
  rw [isDefunct_eq]
  exact Program.run_ask (I := Unix.interface.sum files) h

theorem zombie_is_gone_iff_text (pageSize : Memory) (polls : Nat) (handler : Handler interface σ) (s : σ)
    (h₀ : 1 ≤ pid.toNat) (h₁ : pid.toNat ≤ 0x7FFFFFFF) (hl : letter.isAlpha) (hr : 0x29 ∉ rest)
    (h : (handler (.inr <| .readFile <| statPath pid) s).fst = .ok (statLine pid comm letter rest)) :
    (TellsEnd comm letter rest →
      ((isDefunct pid).inr.run handler s).outcome = .ok true ∧
      (((platform pageSize polls).terminate pid).run handler s).outcome = .ok (.error <| .notFound pid) ∧
      ∀ target signal,
        .inl (.signal target signal) ∉ (((platform pageSize polls).terminate pid).run handler s).calls) ∧
    (¬TellsEnd comm letter rest →
      ((isDefunct pid).inr.run handler s).outcome = .ok false ∧
      .inl (.signal (Int32.ofNat pid.toNat) .kill) ∈
        (((platform pageSize polls).terminate pid).run handler s).calls) := by
  have hd := run_isDefunct h
  constructor
  case left =>
    intro ht
    rw [read_statLine pid hl hr |>.mpr ht] at hd
    have hk := Unix.run_kill_of_defunct polls h₀ h₁ hd
    refine ⟨by rw [hd], congrArg Run.outcome hk, fun target signal hm => ?_⟩
    replace hm := congrArg Run.calls hk ▸ hm
    cases hm
    case tail hm => cases hm
  case right =>
    intro ht
    have hf := Bool.eq_false_iff.mpr fun he => ht <| (read_statLine pid hl hr).mp he
    rw [hf] at hd
    exact ⟨by rw [hd], Unix.kill_mem_calls_of_not_defunct polls h₀ h₁ hd⟩

-- A process file system with one process, which tells its state by the given line.
def stating (pid : Pid) (line : List UInt8) : Handler files σ
  | .listRoot, s      => (.ok [some <| directory pid], s)
  | .readFile path, s => (if path = statPath pid then .ok line else .error <| .system .noSuchEntry, s)
  | .bootClock, s     => (.ok 0, s)
  | .pageSize, s      => (.ok none, s)

def telling (pid : Pid) (line : List UInt8) : Handler interface σ :=
  Unix.unmoved <| stating pid line

theorem telling_stat {line : List UInt8} {s : σ} :
    (telling pid line (.inr <| .readFile <| statPath pid) s).fst = .ok line :=
  if_pos rfl

theorem zombie_named_by_parentheses :
    let line := statLine 300 (Utf8.encode "a) R (b".toList) 'Z' (Utf8.encode "1 300".toList)
    ((isDefunct 300).inr.run (telling 300 line) ()).outcome = .ok true ∧
    (((platform 4096).terminate 300).run (telling 300 line) ()).outcome = .ok (.error <| .notFound 300) ∧
    ∀ target signal,
      .inl (.signal target signal) ∉ (((platform 4096).terminate 300).run (telling 300 line) ()).calls := by
  intro line
  have hp : 0x29 ∉ Utf8.encode "1 300".toList := by decide
  have hs : (telling 300 line (.inr <| .readFile <| statPath 300) ()).fst = .ok line := telling_stat
  have h := zombie_is_gone_iff_text 4096 Unix.settlePolls (telling 300 line) () (by decide) (by decide) (by decide)
    hp hs
  exact h.left ⟨.inl rfl, Utf8.valid_encode _, Utf8.valid_encode _⟩

-- No text has the byte FF in it.
theorem zombie_with_broken_name_is_signalled :
    let line := statLine 300 [0xFF] 'Z' (Utf8.encode "1 300".toList)
    ((isDefunct 300).inr.run (telling 300 line) ()).outcome = .ok false ∧
    .inl (.signal 300 .kill) ∈ (((platform 4096 1).terminate 300).run (telling 300 line) ()).calls := by
  intro line
  exact ⟨rfl, .tail _ <| .head _⟩

end Ending

end ProcessControl.Linux
