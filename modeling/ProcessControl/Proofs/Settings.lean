import ProcessControl.Proofs.Json.Shape
import ProcessControl.Settings

namespace ProcessControl

theorem Duration.nanos_inj {d d' : Duration} : d.nanos = d'.nanos ↔ d = d' := by
  cases d
  cases d'
  rw [Duration.mk.injEq]

namespace Settings

open Json.Reader Text

-- What settings are built from.
inductive Origin
  | standard
  | variables (lookup : String → Option String)

def Origin.settings : Origin → Settings
  | .standard         => Settings.standard
  | .variables lookup => (ofLookup lookup).fst

-- The settings after any changes, the last one of which is made last.
def built (origin : Origin) (changes : List Change) : Settings :=
  changes.foldl set origin.settings

-- What is read back of settings that were written.
def readBack (s : Settings) : Settings :=
  { s with operationTimeout := .ofMillis s.operationTimeout.millis }

theorem reads_word (expected : String) (n : UInt64) : (natural UInt64.size expected).Reads (.nat n.toNat) n.toNat :=
  reads_natural expected n.toNat_lt_size n.toNat_lt_size

theorem reads_toJson (s : Settings) : read.Reads s.toJson s.readBack := by
  have hf : Fills members .empty
      [("list_capacity", .nat s.listCapacity.toNat), ("event_capacity", .nat s.eventCapacity.toNat),
        ("trace_json", .bool s.traceJson), ("operation_timeout", .nat s.operationTimeout.millis.toNat)]
      ⟨some s.listCapacity, some s.eventCapacity, some s.traceJson, some <| .ofMillis s.operationTimeout.millis⟩ := by
    refine .cons rfl rfl ((reads_word "usize" _).map _) <| .cons rfl rfl ((reads_word "usize" _).map _) <|
      .cons rfl rfl ((reads_boolean _).map _) <| .cons rfl rfl ((reads_word "u64" _).map _) ?_
    simp only [UInt64.ofNat_toNat]
    exact .nil _
  exact reads_aggregate "struct HostprocConfig" hf rfl

theorem nanos_readBack {s : Settings} (h : s.operationTimeout.nanos / 1000000 < UInt64.size) :
    s.readBack.operationTimeout.nanos = s.operationTimeout.nanos / 1000000 * 1000000 := by
  have hm : s.operationTimeout.millis.toNat = s.operationTimeout.nanos / 1000000 := UInt64.toNat_ofNat_of_lt' h
  rw [← hm]
  rfl

theorem readBack_eq_iff {s : Settings} (h : s.operationTimeout.nanos / 1000000 < UInt64.size) :
    s.readBack = s ↔ 1000000 ∣ s.operationTimeout.nanos := by
  have hn := nanos_readBack h
  constructor
  case mp =>
    intro he
    rw [he] at hn
    exact ⟨_, hn.trans <| Nat.mul_comm ..⟩
  case mpr =>
    intro hd
    rw [Nat.div_mul_cancel hd] at hn
    have ht : s.readBack.operationTimeout = s.operationTimeout := Duration.nanos_inj.mp hn
    exact congrArg (fun timeout => { s with operationTimeout := timeout }) ht

theorem settings_come_back_in_whole_millis (origin : Origin) (changes : List Change) :
    let s := built origin changes
    ∃ s', read.readAll (Utf8.encode s.toJson.render.toList) = .ok s' ∧
      s'.listCapacity = s.listCapacity ∧ s'.eventCapacity = s.eventCapacity ∧ s'.traceJson = s.traceJson ∧
      (s.operationTimeout.nanos / 1000000 < UInt64.size →
        s'.operationTimeout.nanos = s.operationTimeout.nanos / 1000000 * 1000000 ∧
          (s' = s ↔ 1000000 ∣ s.operationTimeout.nanos)) := by
  intro s
  exact ⟨s.readBack, (reads_toJson s).readAll, rfl, rfl, rfl, fun h => ⟨nanos_readBack h, readBack_eq_iff h⟩⟩

-- A timeout of a second and a half has no part of a millisecond.
def patient : List Change :=
  [.traceJson true, .operationTimeout <| .ofMillis 1500]

theorem settings_come_back_in_whole_millis_patient :
    let s := built .standard patient
    s.operationTimeout.nanos / 1000000 < UInt64.size ∧ 1000000 ∣ s.operationTimeout.nanos ∧
      read.readAll (Utf8.encode s.toJson.render.toList) = .ok s := by
  have ⟨s', hr, _, _, _, hm⟩ := settings_come_back_in_whole_millis .standard patient
  have hf : (built .standard patient).operationTimeout.nanos / 1000000 < UInt64.size := by decide
  have hd : 1000000 ∣ (built .standard patient).operationTimeout.nanos := by decide
  have he : s' = built .standard patient := (hm hf).right.mpr hd
  rw [he] at hr
  exact ⟨hf, hd, hr⟩

-- A timeout of one nanosecond comes back as none at all.
theorem one_nanosecond_is_lost :
    ¬∀ (origin : Origin) (changes : List Change),
      read.readAll (Utf8.encode (built origin changes).toJson.render.toList) = .ok (built origin changes) := by
  intro h
  have hs := h .standard [.operationTimeout <| .ofNanos 1]
  rw [(reads_toJson _).readAll] at hs
  exact absurd (Except.ok.inj hs) (by decide)

end Settings

end ProcessControl
