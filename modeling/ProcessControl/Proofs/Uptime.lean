import ProcessControl.Linux.Platform
import ProcessControl.Macos.Platform
import ProcessControl.Proofs.Program.History
import ProcessControl.Proofs.Text.Numeral
import ProcessControl.Proofs.Text.Utf8
import ProcessControl.Proofs.Unix.Kill
import ProcessControl.Windows.Platform

namespace ProcessControl

-- A run before which something was asked.
def Run.after {I : Interface} {σ α : Type} (e : I.Exchange) (r : Run I σ α) : Run I σ α :=
  { r with history := e :: r.history }

namespace Linux

open Text

-- What was read is a text that begins with a numeral, and so many seconds are the whole part of its value, as far as
-- they can be told.
inductive TellsSeconds (seconds : UInt64) : Except PathFailure (List UInt8) → Prop
  | intro {text field : List Char} {numeral : Numeral} {whole : Nat} : FirstField field text →
    Numeral.read? field = some numeral → numeral.toBinary64.floor? = some whole →
    seconds.toNat = min whole (UInt64.size - 1) → TellsSeconds seconds (.ok <| Utf8.encode text)

-- What was read is a text as the kernel writes it, which begins with so many whole seconds and their hundredths.
inductive Counts (seconds : UInt64) : Except PathFailure (List UInt8) → Prop
  | intro {text whole hundredths : List Char} : FirstField (whole ++ '.' :: hundredths) text → whole ≠ [] →
    (∀ c ∈ whole ++ hundredths, Decimal.isDigit c = true) → hundredths.length = 2 →
    Decimal.value (whole ++ hundredths) < 2 ^ 51 → seconds.toNat = Decimal.value whole →
    Counts seconds (.ok <| Utf8.encode text)

-- The seconds that the file tells.
def secondsFrom : Except PathFailure (List UInt8) → Option UInt64
  | .ok bytes => (Utf8.decode? bytes).bind seconds?
  | .error _  => none

def uptimePath : List FileName := [fileName "uptime".toList]

section Seconds

variable {text : List Char} {seconds : UInt64} {answer : Except PathFailure (List UInt8)}

theorem seconds?_eq_some_iff : seconds? text = some seconds ↔ ∃ field numeral whole,
    FirstField field text ∧ Numeral.read? field = some numeral ∧ numeral.toBinary64.floor? = some whole ∧
    seconds.toNat = min whole (UInt64.size - 1) := by
  have hw (whole : Nat) : (UInt64.ofNat (min whole (UInt64.size - 1))).toNat = min whole (UInt64.size - 1) :=
    UInt64.toNat_ofNat_of_lt' <| Nat.lt_of_le_of_lt (Nat.min_le_right ..) (by decide)
  simp only [seconds?, Option.bind_eq_bind, Option.bind_eq_some_iff, firstField?_eq_some_iff, Option.pure_def,
    Option.some.injEq, ← UInt64.toNat_inj, hw]
  constructor
  case mp  => exact fun ⟨field, hf, numeral, hn, whole, hv, hs⟩ => ⟨field, numeral, whole, hf, hn, hv, hs.symm⟩
  case mpr => exact fun ⟨field, numeral, whole, hf, hn, hv, hs⟩ => ⟨field, hf, numeral, hn, whole, hv, hs.symm⟩

theorem secondsFrom_eq_some_iff : secondsFrom answer = some seconds ↔ TellsSeconds seconds answer := by
  constructor
  case mp =>
    intro h
    cases answer
    case error => cases h
    case ok =>
      have ⟨text, ht, hs⟩ := Option.bind_eq_some_iff.mp h
      have ⟨_, _, _, hf, hn, hv, hs⟩ := seconds?_eq_some_iff.mp hs
      exact Utf8.decode?_eq_some_iff.mp ht ▸ .intro hf hn hv hs
  case mpr =>
    rintro ⟨hf, hn, hv, hs⟩
    rw [secondsFrom, Utf8.decode?_encode]
    exact seconds?_eq_some_iff.mpr ⟨_, _, _, hf, hn, hv, hs⟩

example : seconds? "35.24 120.77\n".toList = some 35 := by decide +kernel

-- The numeral is read as a double, but hundredths are not so near to the next second that it is rounded there.
theorem Counts.tellsSeconds (h : Counts seconds answer) : TellsSeconds seconds answer := by
  obtain ⟨hf, hw, hd, hl, hv, hs⟩ := h
  have ⟨hd, hh⟩ := List.forall_mem_append.mp hd
  have ⟨_, hr, hn⟩ := Numeral.floor?_digits hw hd hh (by omega) hv
  refine .intro hf hr hn ?_
  have hb := seconds.toNat_lt_size
  omega

end Seconds

-- What the boot clock, the file and the wall clock tell.
def bootTold (told : Except Errno Int64) : interface.Exchange :=
  ⟨.inr .bootClock, told⟩

def fileTold (answer : Except PathFailure (List UInt8)) : interface.Exchange :=
  ⟨.inr <| .readFile uptimePath, answer⟩

def wallTold (now : UInt64) : interface.Exchange :=
  ⟨.inl .wallClock, now⟩

-- What was asked for the uptime and noted, and what it is. The file is asked only when there is no boot clock, and the
-- wall clock only when the file does not tell anything either.
inductive Reading : List interface.Exchange → List LogEntry → Uptime → Prop
  | bootClock {told : Int64} {u : Uptime} : u.source = .bootClock → (u.seconds.toNat : Int) = max told.toInt 0 →
    Reading [bootTold <| .ok told] [] u
  | file {why : Errno} {answer : Except PathFailure (List UInt8)} {u : Uptime} : u.source = .bootClock →
    TellsSeconds u.seconds answer → Reading [bootTold <| .error why, fileTold answer] [] u
  | wallClock {why : Errno} {answer : Except PathFailure (List UInt8)} {u : Uptime} : u.source = .wallClock →
    (∀ seconds, ¬TellsSeconds seconds answer) →
    Reading [bootTold <| .error why, fileTold answer, wallTold u.seconds] [.noticed .noBootClock] u

theorem Reading.eq_of_counts {history : List interface.Exchange} {log : List LogEntry} {u : Uptime}
    {answer : Except PathFailure (List UInt8)} {seconds : UInt64} (h : Reading history log u)
    (hm : fileTold answer ∈ history) (hc : Counts seconds answer) : u = .sinceBoot seconds := by
  cases h
  case bootClock => cases List.mem_singleton.mp hm
  case file hu ht =>
    simp only [List.mem_cons, List.not_mem_nil, or_false] at hm
    cases hm
    case inl hm => cases hm
    case inr hm =>
      cases hm
      cases (secondsFrom_eq_some_iff.mpr ht).symm.trans <| secondsFrom_eq_some_iff.mpr hc.tellsSeconds
      exact congrArg (Uptime.mk u.seconds) hu
  case wallClock hn _ =>
    simp only [List.mem_cons, List.not_mem_nil, or_false] at hm
    obtain hm | hm | hm := hm
    case inl => cases hm
    case inr.inl =>
      cases hm
      exact absurd hc.tellsSeconds <| hn seconds
    case inr.inr => cases hm

section Runs

variable {σ : Type} (handler : Handler interface σ) (s : σ)

theorem run_uptime_of_told {told : Int64} (h : (handler (.inr .bootClock) s).fst = .ok told) :
    uptime.run handler s = ⟨.ok <| .sinceBoot <| .ofNat told.toInt.toNat, [bootTold <| .ok told], [],
      (handler (.inr .bootClock) s).snd⟩ :=
  Program.run_ask (I := interface) h

-- Without a boot clock it is the file that is asked.
theorem run_uptime_of_error {why : Errno} (h : (handler (.inr .bootClock) s).fst = .error why) : ∃ answer s₁,
    let rest : Program interface Uptime := match secondsFrom answer with
      | some seconds => return .sinceBoot seconds
      | none         => do
        Program.notice .noBootClock
        return .wallClock (← Unix.readWallClock.inl)
    uptime.run handler s = ((rest.run handler s₁).after <| fileTold answer).after (bootTold <| .error why) := by
  let s₁ := (handler (.inr .bootClock) s).snd
  let s₂ := (handler (.inr <| .readFile uptimePath) s₁).snd
  obtain ⟨answer, ha⟩ : ∃ answer : Except PathFailure (List UInt8),
    (handler (.inr <| .readFile uptimePath) s₁).fst = answer := ⟨_, rfl⟩
  refine ⟨answer, s₂, (Program.run_ask (I := interface) h).trans ?_⟩
  refine congrArg (Run.after <| bootTold <| .error why) <| (Program.run_ask (I := interface) ha).trans ?_
  cases answer <;> rfl

theorem toNat_sinceBoot (told : Int64) : ((UInt64.ofNat told.toInt.toNat).toNat : Int) = max told.toInt 0 := by
  have hl := told.toInt_lt
  rw [UInt64.toNat_ofNat_of_lt' (by unfold UInt64.size; omega)]
  omega

theorem uptime_reading : ∃ u, (uptime.run handler s).outcome = .ok u ∧
    Reading (uptime.run handler s).history (uptime.run handler s).log u := by
  obtain ⟨told, ht⟩ : ∃ told : Except Errno Int64, (handler (.inr .bootClock) s).fst = told := ⟨_, rfl⟩
  cases told
  case ok told =>
    rw [run_uptime_of_told _ _ ht]
    exact ⟨_, rfl, .bootClock rfl <| toNat_sinceBoot told⟩
  case error why =>
    obtain ⟨answer, s₁, hr⟩ := run_uptime_of_error handler s ht
    rw [hr]
    cases hs : secondsFrom answer
    case none =>
      let now : UInt64 := (handler (.inl .wallClock) s₁).fst
      refine ⟨.wallClock now, rfl, .wallClock (u := .wallClock now) rfl fun seconds h => ?_⟩
      cases hs.symm.trans <| secondsFrom_eq_some_iff.mpr h
    case some => exact ⟨_, rfl, .file rfl <| secondsFrom_eq_some_iff.mp hs⟩

end Runs

end Linux

namespace Macos

def bootTold (told : Int64) (failure? : Option Errno) : interface.Exchange :=
  ⟨.inr .bootTime, (told, failure?)⟩

def wallTold (now : UInt64) : interface.Exchange :=
  ⟨.inl .wallClock, now⟩

-- That the kernel told a time of boot that has been.
structure Booted (told : Int64) (failure? : Option Errno) (now : UInt64) : Prop where
  succeeded : failure? = none
  positive  : 0 < told.toInt
  past      : told.toInt ≤ now.toNat

-- What was asked for the uptime and noted, and what it is. Of two readings of the wall clock the second one is told.
inductive Reading : List interface.Exchange → List LogEntry → Uptime → Prop
  | bootClock {told : Int64} {failure? : Option Errno} {now : UInt64} {u : Uptime} : Booted told failure? now →
    u.source = .bootClock → (u.seconds.toNat : Int) = now.toNat - told.toInt → u.seconds < now →
    Reading [bootTold told failure?, wallTold now] [] u
  | wallClock {told : Int64} {failure? : Option Errno} {now : UInt64} {u : Uptime} : ¬Booted told failure? now →
    u.source = .wallClock →
    Reading [bootTold told failure?, wallTold now, wallTold u.seconds] [.noticed .noBootTime] u

theorem booted_iff {told : Int64} {failure? : Option Errno} {now : UInt64} : Booted told failure? now ↔
    (failure?.isNone && 0 < told.toInt && told.toInt ≤ now.toNat) = true := by
  simp only [Bool.and_eq_true, decide_eq_true_eq, Option.isNone_iff_eq_none]
  constructor
  case mp  => exact fun ⟨hs, hp, hl⟩ => ⟨⟨hs, hp⟩, hl⟩
  case mpr => exact fun ⟨⟨hs, hp⟩, hl⟩ => ⟨hs, hp, hl⟩

-- The time of boot is taken from a time that is not before it, so nothing wraps around.
theorem Booted.toNat_sub {told : Int64} {failure? : Option Errno} {now : UInt64} (h : Booted told failure? now) :
    ((now - UInt64.ofNat told.toInt.toNat).toNat : Int) = now.toNat - told.toInt := by
  have hp := h.positive
  have hl := h.past
  have hn := now.toNat_lt_size
  have ht : (UInt64.ofNat told.toInt.toNat).toNat = told.toInt.toNat := UInt64.toNat_ofNat_of_lt' (by omega)
  rw [UInt64.toNat_sub_of_le _ _ (UInt64.le_iff_toNat_le.mpr (by omega)), ht]
  omega

section Runs

variable {σ : Type} (handler : Handler interface σ) (s : σ)

theorem run_uptime : ∃ told failure? now s₁,
    let rest : Program interface Uptime :=
      if failure?.isNone && 0 < told.toInt && told.toInt ≤ now.toNat then
        return .sinceBoot (now - UInt64.ofNat told.toInt.toNat)
      else do
        Program.notice .noBootTime
        return .wallClock (← Unix.readWallClock.inl)
    uptime.run handler s = ((rest.run handler s₁).after <| wallTold now).after (bootTold told failure?) := by
  let s₁ := (handler (.inr .bootTime) s).snd
  obtain ⟨told, failure?, ht⟩ : ∃ (told : Int64) (failure? : Option Errno),
    (handler (.inr .bootTime) s).fst = (told, failure?) := ⟨_, _, rfl⟩
  obtain ⟨now, hn⟩ : ∃ now : UInt64, (handler (.inl .wallClock) s₁).fst = now := ⟨_, rfl⟩
  refine ⟨told, failure?, now, (handler (.inl .wallClock) s₁).snd, (Program.run_ask (I := interface) ht).trans ?_⟩
  exact congrArg (Run.after <| bootTold told failure?) <| Program.run_ask (I := interface) hn

theorem uptime_reading : ∃ u, (uptime.run handler s).outcome = .ok u ∧
    Reading (uptime.run handler s).history (uptime.run handler s).log u := by
  obtain ⟨told, failure?, now, s₁, hr⟩ := run_uptime handler s
  rw [hr]
  by_cases hb : Booted told failure? now
  case pos =>
    rw [if_pos <| booted_iff.mp hb]
    have hs := hb.toNat_sub
    have hp := hb.positive
    exact ⟨_, rfl, .bootClock hb rfl hs <| UInt64.lt_iff_toNat_lt.mpr <| by simp only [Uptime.sinceBoot]; omega⟩
  case neg =>
    rw [if_neg <| mt booted_iff.mpr hb]
    let later : UInt64 := (handler (.inl .wallClock) s₁).fst
    exact ⟨.wallClock later, rfl, .wallClock (u := .wallClock later) hb rfl⟩

end Runs

end Macos

namespace Windows

def ticksTold (ticks : UInt64) : interface.Exchange :=
  ⟨.tickCount, ticks⟩

-- What was asked for the uptime and noted, and what it is. There is a boot clock always, and it counts milliseconds.
inductive Reading : List interface.Exchange → List LogEntry → Uptime → Prop
  | bootClock {ticks : UInt64} {u : Uptime} : u.source = .bootClock → u.seconds.toNat = ticks.toNat / 1000 →
    Reading [ticksTold ticks] [] u

theorem uptime_reading {σ : Type} (handler : Handler interface σ) (s : σ) : ∃ u,
    (uptime.run handler s).outcome = .ok u ∧ Reading (uptime.run handler s).history (uptime.run handler s).log u := by
  let ticks : UInt64 := (handler .tickCount s).fst
  exact ⟨.sinceBoot (ticks / 1000), rfl, .bootClock rfl <| UInt64.toNat_div ticks 1000⟩

end Windows

-- On every system there is an uptime, and it is told from which clock it is. Where Linux is asked for the file and the
-- kernel has written it, the seconds are those that it has written.
theorem uptime_tells_its_source {σ : Type} (s : σ) (pageSize : Memory) (polls : Nat) :
    (∀ handler : Handler Linux.interface σ,
      let r := (Linux.platform pageSize polls).uptime.run handler s
      ∃ u, r.outcome = .ok u ∧ Linux.Reading r.history r.log u ∧
        ∀ answer seconds, Linux.fileTold answer ∈ r.history → Linux.Counts seconds answer → u = .sinceBoot seconds) ∧
    (∀ handler : Handler Macos.interface σ,
      let r := (Macos.platform polls).uptime.run handler s
      ∃ u, r.outcome = .ok u ∧ Macos.Reading r.history r.log u) ∧
    (∀ handler : Handler Windows.interface σ,
      let r := Windows.platform.uptime.run handler s
      ∃ u, r.outcome = .ok u ∧ Windows.Reading r.history r.log u) := by
  refine ⟨fun handler => ?_, fun handler => Macos.uptime_reading handler s,
    fun handler => Windows.uptime_reading handler s⟩
  have ⟨u, ho, hr⟩ := Linux.uptime_reading handler s
  exact ⟨u, ho, hr, fun _ _ hm hc => hr.eq_of_counts hm hc⟩

-- A system without a boot clock, on which the kernel has written the file.
def Linux.countedFile : Except PathFailure (List UInt8) :=
  .ok <| Text.Utf8.encode "35.24 120.77\n".toList

def Linux.counting : Handler Linux.interface Unit := Unix.unmoved fun
  | .listRoot, s   => (.ok [], s)
  | .readFile _, s => (Linux.countedFile, s)
  | .bootClock, s  => (.error ⟨22⟩, s)
  | .pageSize, s   => (.ok <| some 4096, s)

theorem uptime_tells_its_source_counting :
    let r := (Linux.platform 4096).uptime.run Linux.counting ()
    Linux.fileTold Linux.countedFile ∈ r.history ∧ Linux.Counts 35 Linux.countedFile ∧
      r.outcome = .ok (.sinceBoot 35) := by
  intro r
  have hm : Linux.fileTold Linux.countedFile ∈ r.history := .tail _ <| .head _
  have hf : Text.FirstField ("35".toList ++ '.' :: "24".toList) "35.24 120.77\n".toList :=
    Text.firstField?_eq_some_iff.mp (by decide)
  have hd : ∀ c ∈ "35".toList ++ "24".toList, Text.Decimal.isDigit c = true := List.all_eq_true.mp (by decide)
  have hv : Text.Decimal.value ("35".toList ++ "24".toList) = 3524 := by decide
  have hc : Linux.Counts 35 Linux.countedFile := .intro hf (by decide) hd rfl (by omega) rfl
  have ⟨u, ho, _, hu⟩ := (uptime_tells_its_source () 4096 Unix.settlePolls).left Linux.counting
  exact ⟨hm, hc, hu _ _ hm hc ▸ ho⟩

end ProcessControl
