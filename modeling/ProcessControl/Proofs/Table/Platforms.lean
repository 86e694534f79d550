import ProcessControl.Proofs.Linux.Listing
import ProcessControl.Proofs.Macos.Listing
import ProcessControl.Proofs.Windows.Listing

namespace ProcessControl.Table

theorem listings_are_prefixes (own : Pid) :
    (∀ {σ : Type} pageSize polls (handler : Handler Linux.interface σ) entries contents,
      Linux.Still handler entries contents →
        Prefixed ⟨Linux.platform pageSize polls, own⟩ handler True ((Linux.processes entries).map (·.snd))) ∧
    (∀ {σ : Type} polls (handler : Handler Macos.interface σ) size copy fact,
      Macos.Still handler size copy fact →
        Prefixed ⟨Macos.platform polls, own⟩ handler (Macos.Fits size) ((Macos.processes size copy).map (·.fst))) ∧
    (∀ {σ : Type} (handler : Handler Windows.interface σ) entries? memory?,
      Windows.Still handler entries? memory? →
        Prefixed ⟨Windows.platform, own⟩ handler True ((Windows.processes entries?).map (·.pid))) :=
  ⟨fun pageSize polls _ _ _ h => h.prefixed pageSize polls own, fun polls _ _ _ _ h => h.prefixed polls own,
    fun _ _ _ h => h.prefixed own⟩

-- Systems that stay as they are, with two processes between entries that stand for none. What they tell of memory is
-- left open.
def crowdedRoot (statm : Except PathFailure (List UInt8)) : Handler Linux.files Unit
  | .listRoot, s           => (.ok [none, some [49], some [255], some [48], some [55, 55]], s)
  | .readFile [_, file], s => (if file == Linux.fileName "statm".toList then statm else .ok [97], s)
  | .readFile _, s         => (.ok [], s)
  | .bootClock, s          => (.ok 0, s)
  | .pageSize, s           => (.ok none, s)

def crowdedKernel (fact : Int32 → Macos.Fact) : Handler Macos.kernel Unit
  | .tableSize, s       => (.ok 3240, s)
  | .tableCopy _, s     => (.ok ⟨3240, [⟨0, []⟩, ⟨1, [97]⟩, ⟨-5, []⟩, ⟨0, []⟩, ⟨77, [97]⟩]⟩, s)
  | .taskInfo target, s => (fact target, s)
  | .bsdInfo _, s       => (⟨0, 0⟩, s)
  | .bootTime, s        => ((0, none), s)

def crowd : List Windows.Entry :=
  [⟨0, []⟩, ⟨1, [97]⟩, ⟨0, []⟩, ⟨77, [97]⟩]

def crowdedSystem (process : Windows.Handle) : Handler Windows.interface Unit
  | .openProcess _ _, s      => (process, s)
  | .createSnapshot, s       => (⟨12⟩, s)
  | .firstEntry _, s         => (Windows.firstOf crowd, s)
  | .nextEntry h left, s     => (Windows.nextOf crowd h left, s)
  | .memoryInfo _, s         => (some 12288, s)
  | .terminateProcess _ _, s => (true, s)
  | .waitFor _ _, s          => ((258 : UInt32), s)
  | .closeHandle _, s        => ((), s)
  | .lastError, s            => ((5 : UInt32), s)
  | .tickCount, s            => ((0 : UInt64), s)
  | .start _ _, s            => (.ok 42, s)

theorem crowdedRoot_still (statm : Except PathFailure (List UInt8)) :
    Linux.Still (Unix.unmoved <| crowdedRoot statm) (.ok [none, some [49], some [255], some [48], some [55, 55]])
      fun path => (crowdedRoot statm (.readFile path) ()).fst :=
  ⟨fun _ => rfl, fun _ _ => rfl⟩

theorem crowdedKernel_still (fact : Int32 → Macos.Fact) :
    Macos.Still (Unix.unmoved <| crowdedKernel fact) (.ok 3240)
      (fun _ => .ok ⟨3240, [⟨0, []⟩, ⟨1, [97]⟩, ⟨-5, []⟩, ⟨0, []⟩, ⟨77, [97]⟩]⟩) fact :=
  ⟨fun _ => rfl, fun _ _ => rfl, fun _ _ => rfl⟩

theorem crowdedSystem_snapped (process : Windows.Handle) : Windows.Snapped (crowdedSystem process) () (some crowd) :=
  ⟨nofun, rfl, fun _ _ _ => ⟨rfl, fun _ _ _ => ⟨rfl, fun _ _ _ => ⟨rfl, fun _ _ _ => rfl⟩⟩⟩⟩

theorem crowdedSystem_still : Windows.Still (crowdedSystem ⟨8⟩) (some crowd) fun _ => some 12288 :=
  ⟨fun _ => crowdedSystem_snapped ⟨8⟩, fun _ _ => rfl⟩

-- The two processes with what is told of their memory.
def both (memory : Memory) : List Record :=
  [.running 1 ⟨"a"⟩ memory, .running 77 ⟨"a"⟩ memory]

theorem listings_are_prefixes_crowded :
    let linux := list ⟨Linux.platform 4096, 7⟩
    let macos := list ⟨Macos.platform, 7⟩
    let windows := list ⟨Windows.platform, 7⟩
    let onLinux : Handler Linux.interface Unit := Unix.unmoved <| crowdedRoot <| .ok [51, 32, 49]
    let onMacos : Handler Macos.interface Unit := Unix.unmoved <| crowdedKernel fun _ => ⟨96, 12288⟩
    (((linux 2).run onLinux ()).outcome = .ok (both 12288) ∧
      ((linux 1).run onLinux ()).outcome = .ok ((both 12288).take 1)) ∧
    (((macos 2).run onMacos ()).outcome = .ok (both 12288) ∧
      ((macos 1).run onMacos ()).outcome = .ok ((both 12288).take 1)) ∧
    (((windows 2).run (crowdedSystem ⟨8⟩) ()).outcome = .ok (both 12288) ∧
      ((windows 1).run (crowdedSystem ⟨8⟩) ()).outcome = .ok ((both 12288).take 1)) := by
  intro linux macos windows onLinux onMacos
  have ⟨hl, hm, hw⟩ := listings_are_prefixes 7
  have ol : ((linux 2).run onLinux ()).outcome = .ok (both 12288) := rfl
  have om : ((macos 2).run onMacos ()).outcome = .ok (both 12288) := rfl
  have ow : ((windows 2).run (crowdedSystem ⟨8⟩) ()).outcome = .ok (both 12288) := rfl
  exact ⟨⟨ol, (hl 4096 _ _ _ _ <| crowdedRoot_still _).front 1 2 () () _ (by decide) ol⟩,
    ⟨om, (hm _ _ _ _ _ <| crowdedKernel_still _).front 1 2 () () _ (by decide) om⟩,
    ⟨ow, (hw _ _ _ crowdedSystem_still).front 1 2 () () _ (by decide) ow⟩⟩

theorem memory_disturbs_no_listing (own : Pid) (max : UInt64) :
    (∀ {σ τ : Type} pageSize polls (f : Handler Linux.interface σ) (g : Handler Linux.interface τ) s t,
      SameBut Linux.probes f s g t →
        let program := list ⟨Linux.platform pageSize polls, own⟩ max
        let left := program.run f s
        let right := program.run g t
        Undisturbed left right ∧
        ProbesEach Linux.probes Linux.probe left ∧ ProbesEach Linux.probes Linux.probe right) ∧
    (∀ {σ τ : Type} polls (f : Handler Macos.interface σ) (g : Handler Macos.interface τ) s t,
      SameBut Macos.probes f s g t →
        let program := list ⟨Macos.platform polls, own⟩ max
        let left := program.run f s
        let right := program.run g t
        (max = 0 ∨ Macos.Fits (f (.inr .tableSize) s).fst → Undisturbed left right) ∧
        (¬(max = 0 ∨ Macos.Fits (f (.inr .tableSize) s).fst) →
          left.outcome = .error .crashed ∧ right.outcome = .error .crashed) ∧
        ProbesEach Macos.probes Macos.probe left ∧ ProbesEach Macos.probes Macos.probe right) ∧
    (∀ {σ τ : Type} (f : Handler Windows.interface σ) (g : Handler Windows.interface τ) s t,
      let program := list ⟨Windows.platform, own⟩ max
      let left := program.run f s
      let right := program.run g t
      (∀ entries?, Windows.Snapped f s entries? → Windows.Snapped g t entries? → Undisturbed left right) ∧
        (ProbesEach Windows.probes Windows.probe left ∧
          left.calls.filterMap Windows.read? = left.history.filterMap Windows.process?) ∧
        (ProbesEach Windows.probes Windows.probe right ∧
          right.calls.filterMap Windows.read? = right.history.filterMap Windows.process?)) := by
  refine ⟨?linux, ?macos, ?windows⟩
  case linux =>
    intro σ τ pageSize polls f g s t h
    have hs := list_steady (t := ⟨Linux.platform pageSize polls, own⟩) (fun _ _ hr => hr.pid)
      (Linux.enumerate_steady pageSize max).inr
    have ⟨_, _, _, _, _, _, hl⟩ := Linux.list_leads f pageSize polls own max s
    exact ⟨.of_alike (hs.paired h).outcome hl.outcome, Linux.list_probesEach f pageSize polls own max s,
      Linux.list_probesEach g pageSize polls own max t⟩
  case macos =>
    intro σ τ polls f g s t h
    have hs := list_steady (t := ⟨Macos.platform polls, own⟩) (fun _ _ hr => hr.pid) (Macos.enumerate_steady max).inr
    refine ⟨fun hf => ?_, fun hf => ?_, Macos.list_probesEach polls own max s, Macos.list_probesEach polls own max t⟩
    case refine_1 =>
      have ⟨_, _, _, _, _, _, hl⟩ := Macos.list_leads polls own hf
      exact .of_alike (hs.paired h).outcome hl.outcome
    case refine_2 =>
      have ⟨hm, hf⟩ := not_or.mp hf
      have he : (f (.inr .tableSize) s).fst = (g (.inr .tableSize) t).fst := h.answer rfl
      exact ⟨(Macos.list_crashes polls own hm hf).left, (Macos.list_crashes polls own hm <| he ▸ hf).left⟩
  case windows =>
    intro σ τ f g s t
    exact ⟨fun _ => Windows.list_undisturbed own max, Windows.list_probesEach f own max s,
      Windows.list_probesEach g own max t⟩

theorem crowdedRoot_sameBut (statm statm' : Except PathFailure (List UInt8)) :
    SameBut Linux.probes (Unix.unmoved <| crowdedRoot statm) () (Unix.unmoved <| crowdedRoot statm') () := by
  intro asked c hc
  rcases c with c | c <;> cases c <;> try rfl
  case inr.readFile path =>
    rcases path with _ | ⟨_, _ | ⟨file, _ | _⟩⟩ <;> try rfl
    have hf : ¬(file == Linux.fileName "statm".toList) = true := Bool.eq_false_iff.mp hc
    exact (if_neg hf).trans (if_neg hf).symm

theorem crowdedKernel_sameBut (fact fact' : Int32 → Macos.Fact) :
    SameBut Macos.probes (Unix.unmoved <| crowdedKernel fact) () (Unix.unmoved <| crowdedKernel fact') () := by
  intro asked c hc
  rcases c with c | c <;> cases c <;> first | rfl | cases hc

-- On each platform the memory of both processes is told by the first system, and by the second one it is not.
theorem memory_disturbs_no_listing_crowded :
    let linux := list ⟨Linux.platform 4096, 7⟩ 2
    let macos := list ⟨Macos.platform, 7⟩ 2
    let windows := list ⟨Windows.platform, 7⟩ 2
    let files : Handler Linux.interface Unit := Unix.unmoved <| crowdedRoot <| .ok [51, 32, 49]
    let noFiles : Handler Linux.interface Unit := Unix.unmoved <| crowdedRoot <| .error <| .system .noSuchEntry
    let facts : Handler Macos.interface Unit := Unix.unmoved <| crowdedKernel fun _ => ⟨96, 12288⟩
    let noFacts : Handler Macos.interface Unit := Unix.unmoved <| crowdedKernel fun _ => ⟨92, 12288⟩
    (SameBut Linux.probes files () noFiles () ∧
      (linux.run files ()).outcome = .ok (both 12288) ∧ (linux.run noFiles ()).outcome = .ok (both 0) ∧
      Undisturbed (linux.run files ()) (linux.run noFiles ())) ∧
    (SameBut Macos.probes facts () noFacts () ∧
      (macos.run facts ()).outcome = .ok (both 12288) ∧ (macos.run noFacts ()).outcome = .ok (both 0) ∧
      Undisturbed (macos.run facts ()) (macos.run noFacts ())) ∧
    (Windows.Snapped (crowdedSystem ⟨8⟩) () (some crowd) ∧ Windows.Snapped (crowdedSystem .null) () (some crowd) ∧
      (windows.run (crowdedSystem ⟨8⟩) ()).outcome = .ok (both 12288) ∧
      (windows.run (crowdedSystem .null) ()).outcome = .ok (both 0) ∧
      Undisturbed (windows.run (crowdedSystem ⟨8⟩) ()) (windows.run (crowdedSystem .null) ())) := by
  intro linux macos windows files noFiles facts noFacts
  have ⟨hl, hm, hw⟩ := memory_disturbs_no_listing 7 2
  have sl : SameBut Linux.probes files () noFiles () := crowdedRoot_sameBut _ _
  have sm : SameBut Macos.probes facts () noFacts () := crowdedKernel_sameBut _ _
  have sw : Windows.Snapped (crowdedSystem ⟨8⟩) () (some crowd) := crowdedSystem_snapped ⟨8⟩
  have sw' : Windows.Snapped (crowdedSystem .null) () (some crowd) := crowdedSystem_snapped .null
  have hf : Macos.Fits (facts (.inr .tableSize) ()).fst := fun bytes hb => by
    cases hb
    decide
  exact ⟨⟨sl, rfl, rfl, (hl 4096 _ files noFiles () () sl).left⟩,
    ⟨sm, rfl, rfl, (hm _ facts noFacts () () sm).left <| .inr hf⟩,
    ⟨sw, sw', rfl, rfl, (hw (crowdedSystem ⟨8⟩) (crowdedSystem .null) () ()).left _ sw sw'⟩⟩

end ProcessControl.Table
