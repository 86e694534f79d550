import ProcessControl.Proofs.Windows.Operations

namespace ProcessControl.Windows

-- The handle, unless it is the value that stands for a failure.
def Handle.unless (h failure : Handle) : Option Handle :=
  if h = failure then none else some h

-- The handle that is opened, if one is.
def opened? : interface.Exchange → Option Handle
  | ⟨.openProcess _ _, process⟩ => Handle.unless process .null
  | ⟨.createSnapshot, snapshot⟩ => Handle.unless snapshot .invalid
  | _ => none

-- The value that is passed to be closed, if one is.
def closed? : Call → Option Handle
  | .closeHandle h => some h
  | _ => none

def Call.starts : Call → Bool
  | .start _ _ => true
  | _ => false

-- What is held after one more exchange.
def hold (held : List Handle) (e : interface.Exchange) : List Handle :=
  match opened? e, closed? e.call with
  | some h, _ => h :: held
  | none, some h => held.erase h
  | none, none => held

-- The handles that are held after some exchanges, the last one first.
def held (history : List interface.Exchange) : List Handle :=
  history.foldl hold []

-- Only a handle that is held is closed. No program is started, and no snapshot fails.
structure Allowed (held : List Handle) (e : interface.Exchange) : Prop where
  owned  : ∀ h, closed? e.call = some h → h ∈ held
  starts : e.call.starts = false
  made   : e ≠ ⟨.createSnapshot, Handle.invalid⟩

-- Nothing is opened and nothing is closed.
structure Idle (e : interface.Exchange) : Prop where
  opened : opened? e = none
  closed : closed? e.call = none
  starts : e.call.starts = false
  made   : e ≠ ⟨.createSnapshot, Handle.invalid⟩

-- Every exchange is allowed after those before it, and never are more than so many handles held.
def Orderly (limit : Nat) : List Handle → List interface.Exchange → Prop
  | held, []         => held.length ≤ limit
  | held, e :: later => held.length ≤ limit ∧ Allowed held e ∧ Orderly limit (hold held e) later

variable {limit limit' : Nat} {held : List Handle} {front later history : List interface.Exchange}
  {e : interface.Exchange} {h k : Handle}

theorem Handle.unless_eq_some_iff {failure : Handle} : h.unless failure = some k ↔ h ≠ failure ∧ h = k := by
  rw [Handle.unless]
  split
  case isTrue hf  => simp [hf]
  case isFalse hf => simp [hf]

section Exchanges

theorem opened?_openProcess {access : Access} {pid : Pid} (hn : h ≠ .null) :
    opened? ⟨.openProcess access pid, h⟩ = some h :=
  Handle.unless_eq_some_iff.mpr ⟨hn, rfl⟩

theorem opened?_createSnapshot (hn : h ≠ .invalid) : opened? ⟨.createSnapshot, h⟩ = some h :=
  Handle.unless_eq_some_iff.mpr ⟨hn, rfl⟩

theorem closed?_of_opened? (ho : opened? e = some h) : closed? e.call = none := by
  obtain ⟨c, answer⟩ := e
  cases c <;> first | rfl | cases ho

theorem hold_of_opened? (ho : opened? e = some h) : hold held e = h :: held := by
  rw [hold, ho]

theorem hold_of_closed? (ho : opened? e = none) (hc : closed? e.call = some h) : hold held e = held.erase h := by
  rw [hold, ho, hc]

theorem hold_of_neither (ho : opened? e = none) (hc : closed? e.call = none) : hold held e = held := by
  rw [hold, ho, hc]

theorem mem_hold (hk : k ∈ hold held e) : k ∈ held ∨ opened? e = some k := by
  cases ho : opened? e
  case some h =>
    rw [hold_of_opened? ho] at hk
    cases hk
    case head    => exact .inr rfl
    case tail hk => exact .inl hk
  case none =>
    cases hc : closed? e.call
    case some h =>
      rw [hold_of_closed? ho hc] at hk
      exact .inl <| List.mem_of_mem_erase hk
    case none =>
      rw [hold_of_neither ho hc] at hk
      exact .inl hk

-- What is held was held before or opened on the way.
theorem mem_foldl_hold (hk : k ∈ history.foldl hold held) : k ∈ held ∨ ∃ e ∈ history, opened? e = some k := by
  induction history generalizing held
  case nil => exact .inl hk
  case cons e later hi =>
    cases hi hk
    case inl hk => exact mem_hold hk |>.imp_right fun ho => ⟨e, .head _, ho⟩
    case inr hk =>
      have ⟨e', he, ho⟩ := hk
      exact .inr ⟨e', .tail _ he, ho⟩

theorem Idle.allowed (hi : Idle e) : Allowed held e :=
  ⟨fun _ h => (nomatch hi.closed.symm.trans h), hi.starts, hi.made⟩

theorem Allowed.of_opened? (ho : opened? e = some h) : Allowed held e := by
  obtain ⟨c, answer⟩ := e
  cases c <;> try cases ho
  case openProcess    => exact ⟨nofun, rfl, nofun⟩
  case createSnapshot =>
    refine ⟨nofun, rfl, fun he => ?_⟩
    cases he
    exact (Handle.unless_eq_some_iff.mp ho).left rfl

-- A handle that is opened is held once more, one that is closed is held once less.
theorem Allowed.count_hold (ha : Allowed held e) (h : Handle) :
    held.count h + (if opened? e = some h then 1 else 0) =
      (if closed? e.call = some h then 1 else 0) + (hold held e).count h := by
  cases ho : opened? e
  case some k =>
    rw [hold_of_opened? ho, closed?_of_opened? ho, List.count_cons]
    simp
  case none =>
    cases hc : closed? e.call
    case none => simp [hold_of_neither ho hc]
    case some k =>
      have hk : 0 < held.count k := List.count_pos_iff.mpr <| ha.owned k hc
      rw [hold_of_closed? ho hc]
      by_cases hkh : k = h
      case pos =>
        subst hkh
        rw [List.count_erase_self]
        simp only [reduceCtorEq, if_false, if_true]
        omega
      case neg =>
        rw [List.count_erase_of_ne (Ne.symm hkh)]
        simp [hkh]

end Exchanges

namespace Orderly

theorem length_le (h : Orderly limit held history) : held.length ≤ limit := by
  cases history
  case nil  => exact h
  case cons => exact h.left

theorem mono (h : Orderly limit held history) (hl : limit ≤ limit') : Orderly limit' held history := by
  induction history generalizing held
  case nil       => exact Nat.le_trans h hl
  case cons _ hi => exact ⟨Nat.le_trans h.left hl, h.right.left, hi h.right.right⟩

theorem append (h : Orderly limit held front) (h' : Orderly limit (front.foldl hold held) later) :
    Orderly limit held (front ++ later) := by
  induction front generalizing held
  case nil       => exact h'
  case cons _ hi => exact ⟨h.left, h.right.left, hi h.right.right h'⟩

theorem allowed_of_mem (ho : Orderly limit held history) (he : e ∈ history) : ∃ held, Allowed held e := by
  induction history generalizing held
  case nil => cases he
  case cons hi =>
    cases he
    case head    => exact ⟨held, ho.right.left⟩
    case tail he => exact hi ho.right.right he

theorem mem_of_close (ho : Orderly limit held (front ++ ⟨.closeHandle h, ()⟩ :: later)) :
    h ∈ front.foldl hold held := by
  induction front generalizing held
  case nil       => exact ho.right.left.owned h rfl
  case cons _ hi => exact hi ho.right.right

-- What was opened is held until it is closed.
theorem count_eq (ho : Orderly limit held history) (h : Handle) :
    held.count h + history.countP (opened? · = some h) =
      history.countP (closed? ·.call = some h) + (history.foldl hold held).count h := by
  induction history generalizing held
  case nil => exact (Nat.zero_add _).symm
  case cons e later hi =>
    have hs := ho.right.left.count_hold h
    have hl := hi ho.right.right
    simp only [List.countP_cons, List.foldl_cons, decide_eq_true_eq]
    omega

end Orderly

-- A part of a history that holds no more than so many handles at once beside those that were held before, and that
-- leaves only these behind.
structure Balanced (limit : Nat) (history : List interface.Exchange) : Prop where
  orderly : ∀ held, Orderly (held.length + limit) held history
  settled : ∀ held, history.foldl hold held = held

namespace Balanced

theorem nil : Balanced limit [] :=
  ⟨fun _ => Nat.le_add_right _ _, fun _ => rfl⟩

theorem mono (h : Balanced limit history) (hl : limit ≤ limit') : Balanced limit' history :=
  ⟨fun held => (h.orderly held).mono <| Nat.add_le_add_left hl _, h.settled⟩

theorem append (h : Balanced limit front) (h' : Balanced limit later) : Balanced limit (front ++ later) where
  orderly held := (h.orderly held).append <| (h.settled held).symm ▸ h'.orderly held
  settled held := by rw [List.foldl_append, h.settled, h'.settled]

theorem idle (hi : Idle e) (h : Balanced limit later) : Balanced limit (e :: later) where
  orderly held := by
    refine ⟨Nat.le_add_right _ _, hi.allowed, ?_⟩
    rw [hold_of_neither hi.opened hi.closed]
    exact h.orderly held
  settled held := by rw [List.foldl_cons, hold_of_neither hi.opened hi.closed, h.settled]

theorem not_mem_failed (h : Balanced limit history) : ⟨.createSnapshot, Handle.invalid⟩ ∉ history := fun he =>
  have ⟨_, ha⟩ := (h.orderly []).allowed_of_mem he
  ha.made rfl

-- A handle is opened, and it is closed when all that comes between is done.
theorem bracket (ho : opened? e = some h) (hb : Balanced limit history) :
    Balanced (limit + 1) (e :: history ++ [⟨.closeHandle h, ()⟩]) where
  orderly held := by
    have hl : (h :: held).length + limit = held.length + (limit + 1) := by
      rw [List.length_cons]
      omega
    refine ⟨Nat.le_add_right _ _, .of_opened? ho, ?_⟩
    rw [hold_of_opened? ho, ← hl]
    refine (hb.orderly (h :: held)).append ?_
    rw [hb.settled]
    refine ⟨Nat.le_add_right _ _, ⟨fun k hk => Option.some.inj hk ▸ .head _, rfl, nofun⟩, ?_⟩
    rw [hold_of_closed? rfl rfl, List.erase_cons_head, hl]
    exact Nat.le_add_right _ _
  settled held := by
    rw [List.cons_append, List.foldl_cons, hold_of_opened? ho, List.foldl_append, hb.settled]
    exact List.erase_cons_head ..

end Balanced

section Operations

variable {pid : Pid} {max : UInt64}

theorem idle_lastError (code : UInt32) : Idle ⟨.lastError, code⟩ :=
  ⟨rfl, rfl, rfl, nofun⟩

theorem Probed.balanced {memory : Memory} (h : Probed pid history memory) : Balanced 1 history := by
  cases h
  case refused code => exact .idle ⟨rfl, rfl, rfl, nofun⟩ <| .idle (idle_lastError code) .nil
  case told process memory? hp =>
    have hb : Balanced 0 [⟨.memoryInfo process, memory?⟩] := .idle ⟨rfl, rfl, rfl, nofun⟩ .nil
    exact .bracket (opened?_openProcess hp) hb

theorem Ended.balanced {result : Except Failure Unit} (h : Ended pid history result) : Balanced 1 history := by
  cases h
  case refused code => exact .idle ⟨rfl, rfl, rfl, nofun⟩ <| .idle (idle_lastError code) .nil
  case spared process code hp =>
    have hb : Balanced 0 [⟨.terminateProcess process forcedExitCode, false⟩, ⟨.lastError, code⟩] :=
      .idle ⟨rfl, rfl, rfl, nofun⟩ <| .idle (idle_lastError code) .nil
    exact .bracket (opened?_openProcess hp) hb
  case ended process waited hp =>
    have hb : Balanced 0 [⟨.terminateProcess process forcedExitCode, true⟩, ⟨.waitFor process settleMillis, waited⟩] :=
      .idle ⟨rfl, rfl, rfl, nofun⟩ <| .idle ⟨rfl, rfl, rfl, nofun⟩ .nil
    exact .bracket (opened?_openProcess hp) hb

theorem Visited.balanced {entry : Entry} {records : List Record} (h : Visited entry history records) :
    Balanced 1 history := by
  cases h
  case idle       => exact .nil
  case taken _ hp => exact hp.balanced

-- The processes of a snapshot are opened and closed one by one, so no two of them are held at once.
theorem Walked.balanced {snapshot : Handle} {left room : Nat} {next? : Option Entry} {records : List Record}
    (h : Walked snapshot left room next? history records) : Balanced 1 history := by
  induction h
  case exhausted    => exact .nil
  case full         => exact .nil
  case last hv      => exact hv.balanced.append <| .idle ⟨rfl, rfl, rfl, nofun⟩ .nil
  case next hv _ hi => exact hv.balanced.append <| .idle ⟨rfl, rfl, rfl, nofun⟩ hi

-- A snapshot is held while its processes are looked at.
theorem Enumerated.balanced {records : List Record} (h : Enumerated max history records) :
    Balanced 2 history ∨ ∃ code, history = refusedSnapshot code := by
  cases h
  case nothing        => exact .inl .nil
  case refused code _ => exact .inr ⟨code, rfl⟩
  case walked snapshot first? left walk hm hs hw =>
    have hb : Balanced 1 (⟨.firstEntry snapshot, (first?, left)⟩ :: walk) := .idle ⟨rfl, rfl, rfl, nofun⟩ hw.balanced
    exact .inl <| .bracket (opened?_createSnapshot hs) hb

end Operations

-- What a system hands out that has these entries in every snapshot and keeps no count of its own.
def firstOf (entries : List Entry) : Option Entry × Nat :=
  (entries.head?, entries.length - 1)

def nextOf (entries : List Entry) (snapshot : Handle) : (left : Nat) → interface.Answer (.nextEntry snapshot left)
  | 0        => ()
  | left + 1 => entries[entries.length - (left + 1)]?

-- A system that has three handles to give and remembers which of them are taken.
def scarce : Handler interface (List Handle)
  | .openProcess _ _, taken      => ((spare? taken).getD .null, (spare? taken).toList ++ taken)
  | .createSnapshot, taken       => ((spare? taken).getD .invalid, (spare? taken).toList ++ taken)
  | .firstEntry _, taken         => (firstOf [⟨0, []⟩, ⟨4, [83]⟩, ⟨8, [84]⟩], taken)
  | .nextEntry h left, taken     => (nextOf [⟨0, []⟩, ⟨4, [83]⟩, ⟨8, [84]⟩] h left, taken)
  | .memoryInfo _, taken         => (some 4096, taken)
  | .terminateProcess _ _, taken => (true, taken)
  | .waitFor _ _, taken          => ((0 : UInt32), taken)
  | .closeHandle h, taken        => ((), taken.filter (· != h))
  | .lastError, taken            => ((5 : UInt32), taken)
  | .tickCount, taken            => ((0 : UInt64), taken)
  | .start _ _, taken            => (.error "no shell", taken)
where
  spare? (taken : List Handle) : Option Handle := [⟨4⟩, ⟨8⟩, ⟨12⟩].find? (!taken.contains ·)

theorem mem_spare? {taken : List Handle} {h : Handle} (hs : scarce.spare? taken = some h) :
    h ∉ taken ∧ h ≠ .null ∧ h ≠ .invalid := by
  have hr : ∀ h ∈ ([⟨4⟩, ⟨8⟩, ⟨12⟩] : List Handle), h ≠ .null ∧ h ≠ .invalid := by decide
  exact ⟨by simpa using List.find?_some hs, hr h <| List.mem_of_find?_eq_some hs⟩

end ProcessControl.Windows
