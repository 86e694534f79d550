import ProcessControl.Proofs.Settings
import ProcessControl.Proofs.Settings.Variables

namespace ProcessControl.Settings

open Text

variable {s s' : Settings} {lookup lookup' : String → Option String} {key : Key} {value value' : String}

-- Two variables that are both unset, or hold texts that differ in the white space around them at most.
inductive Alike : Option String → Option String → Prop
  | unset : Alike none none
  | set {value value' : String} {inner : List Char} :
    Padded inner value.toList → Padded inner value'.toList → Alike (some value) (some value')

-- That a variable holds a value of its kind, white space aside: a number, or a word for yes or no in letters of either
-- case.
def Key.Accepts (key : Key) (value : String) : Prop :=
  match key with
  | .traceJson => ∃ inner, Padded inner value.toList ∧
    inner.map Char.toLower ∈ ["1".toList, "0".toList, "true".toList, "false".toList]
  | _ => ∃ n, Means value n

-- A warning that names a variable.
def Names (notice : Notice) (key : Key) : Prop :=
  notice.level = .warn ∧ ("key", .str key.variable) ∈ notice.fields

-- That JSON is switched on by what its variable holds, white space and all.
def SwitchedOn (lookup : String → Option String) : Prop :=
  ∃ value, lookup Key.traceJson.variable = some value ∧
    (value = "1" ∨ value.toList.map Char.toLower = "true".toList)

section Numbers

theorem number?_congr {inner : List Char} (h : Padded inner value.toList) (h' : Padded inner value'.toList) :
    number? value = number? value' := by
  rw [number?, number?, h.trim_eq, h'.trim_eq]

theorem amount_congr (hk : key ≠ .traceJson) (h : Alike (lookup key.variable) (lookup' key.variable)) :
    (ofLookup lookup).fst.amount key = (ofLookup lookup').fst.amount key := by
  rw [amount_ofLookup hk, amount_ofLookup hk]
  generalize lookup key.variable = held at h
  generalize lookup' key.variable = held' at h
  cases h
  case unset => rfl
  case set hp hp' =>
    rw [numberOr, numberOr, number?_congr hp hp']
    cases number? _ <;> rfl

end Numbers

-- Settings are told apart by their numbers.
theorem amount_inj (h : ∀ key, s.amount key = s'.amount key) : s = s' := by
  have hl : s.listCapacity = s'.listCapacity := UInt64.toNat_inj.mp <| h .listCapacity
  have he : s.eventCapacity = s'.eventCapacity := UInt64.toNat_inj.mp <| h .eventCapacity
  have hn : s.traceJson.toNat = s'.traceJson.toNat := h .traceJson
  have hj : s.traceJson = s'.traceJson := by
    rw [Bool.eq_iff_iff, ← Bool.toNat_eq_one, ← Bool.toNat_eq_one, hn]
  have ht : s.operationTimeout = s'.operationTimeout := Duration.nanos_inj.mp <| h .timeout
  cases s
  cases s'
  rw [Settings.mk.injEq]
  exact ⟨hl, he, hj, ht⟩

section Json

theorem isOn_iff : isOn value = true ↔ value = "1" ∨ value.toList.map Char.toLower = "true".toList := by
  rw [isOn, Bool.or_eq_true, beq_iff_eq, beq_iff_eq]

theorem traceJson_iff : (ofLookup lookup).fst.traceJson = true ↔ SwitchedOn lookup := by
  have hj : (ofLookup lookup).fst.traceJson = ((lookup Key.traceJson.variable).map isOn).getD false := rfl
  rw [hj, SwitchedOn]
  cases lookup Key.traceJson.variable
  case none       => exact iff_of_false nofun fun ⟨_, h, _⟩ => nomatch h
  case some value => simp only [Option.map_some, Option.getD_some, isOn_iff, Option.some.injEq, exists_eq_left']

theorem ofLookup_eq_iff (h : ∀ key : Key, Alike (lookup key.variable) (lookup' key.variable)) :
    (ofLookup lookup).fst = (ofLookup lookup').fst ↔ (SwitchedOn lookup ↔ SwitchedOn lookup') := by
  rw [← traceJson_iff, ← traceJson_iff, ← Bool.eq_iff_iff]
  constructor
  case mp  => exact congrArg traceJson
  case mpr =>
    intro hj
    refine amount_inj fun key => ?_
    by_cases hk : key = .traceJson
    case pos => exact hk ▸ congrArg Bool.toNat hj
    case neg => exact amount_congr hk <| h key

theorem not_means (hk : key ≠ .traceJson) (hv : ¬key.Accepts value) (n : Nat) : ¬Means value n := by
  cases key
  case traceJson => contradiction
  all_goals exact fun hm => hv ⟨n, hm⟩

-- What is no word for yes or no leaves JSON off, as it is by default.
theorem not_switchedOn (h : lookup Key.traceJson.variable = some value) (hv : ¬Key.traceJson.Accepts value) :
    ¬SwitchedOn lookup := by
  rintro ⟨value', h', hs⟩
  cases h.symm.trans h'
  have hp : Padded value.toList value.toList := ⟨[], [], nofun, nofun, (List.append_nil _).symm⟩
  refine hv ⟨value.toList, hp, ?_⟩
  cases hs
  case inl hs =>
    rw [hs]
    exact .head _
  case inr hs =>
    rw [hs]
    exact .tail _ <| .tail _ <| .head _

end Json

section Notices

theorem variable_inj {key key' : Key} (h : key.variable = key'.variable) : key = key' := by
  revert h
  cases key <;> cases key' <;> decide

-- A notice names the variable that it is about.
theorem names_iff {notice : Notice} (h : notice ∈ told lookup) : Names notice key ↔ notice ∈ toldAbout key lookup := by
  have ⟨what, _, hn⟩ := List.mem_map.mp h
  subst hn
  have hf : ("key", Json.Value.str key.variable) ∈ (Notice.settingIgnored what).fields ↔ what.key = key := by
    constructor
    case mp =>
      intro hm
      cases List.mem_cons.mp hm
      case inl he =>
        have hv : Json.Value.str key.variable = .str what.key.variable := congrArg Prod.snd he
        exact (variable_inj <| Json.Value.str.inj hv).symm
      case inr hm =>
        have hw : "key" = "value" := congrArg Prod.fst <| List.mem_singleton.mp hm
        exact absurd hw (by decide)
    case mpr =>
      intro he
      rw [← he]
      exact .head _
  rw [Names, hf, toldAbout, List.mem_filter, Key.isTold, beq_iff_eq]
  exact ⟨fun ⟨_, hk⟩ => ⟨h, hk⟩, fun ⟨_, hk⟩ => ⟨rfl, hk⟩⟩

theorem exists_names_iff : (∃ notice ∈ told lookup, Names notice key) ↔ toldAbout key lookup ≠ [] := by
  constructor
  case mp  => exact fun ⟨_, hm, hn⟩ => List.ne_nil_of_mem <| (names_iff hm).mp hn
  case mpr =>
    intro h
    have ⟨notice, hn⟩ := List.exists_mem_of_ne_nil _ h
    have hm : notice ∈ told lookup := (List.mem_filter.mp hn).left
    exact ⟨notice, hm, (names_iff hm).mpr hn⟩

-- Of a value of another kind there is a warning, unless it is to switch JSON on.
theorem warned_iff (h : lookup key.variable = some value) (hv : ¬key.Accepts value) :
    (∃ notice ∈ told lookup, Names notice key) ↔ key ≠ .traceJson := by
  rw [exists_names_iff]
  constructor
  case mp  =>
    rintro ht rfl
    exact ht <| toldAbout_traceJson lookup
  case mpr =>
    intro hk
    rw [(reading_of_not_means hk h <| not_means hk hv).right]
    exact List.cons_ne_nil _ _

theorem amount_of_not_accepts (h : lookup key.variable = some value) (hv : ¬key.Accepts value) :
    (ofLookup lookup).fst.amount key = standard.amount key := by
  by_cases hk : key = .traceJson
  case pos =>
    subst hk
    have hj : (ofLookup lookup).fst.traceJson = false :=
      Bool.eq_false_iff.mpr <| mt traceJson_iff.mp <| not_switchedOn h hv
    exact congrArg Bool.toNat hj
  case neg => exact (reading_of_not_means hk h <| not_means hk hv).left

end Notices

theorem one_rule_but_for_json (lookup lookup' : String → Option String) :
    ((∀ key : Key, Alike (lookup key.variable) (lookup' key.variable)) →
      (∀ key ≠ .traceJson, (ofLookup lookup).fst.amount key = (ofLookup lookup').fst.amount key) ∧
      ((ofLookup lookup).fst = (ofLookup lookup').fst ↔ (SwitchedOn lookup ↔ SwitchedOn lookup'))) ∧
    ∀ key value, lookup key.variable = some value → ¬key.Accepts value →
      (ofLookup lookup).fst.amount key = standard.amount key ∧
      ((∃ notice ∈ told lookup, Names notice key) ↔ key ≠ .traceJson) := by
  refine ⟨fun h => ⟨fun key hk => amount_congr hk <| h key, ofLookup_eq_iff h⟩, ?_⟩
  exact fun key value h hv => ⟨amount_of_not_accepts h hv, warned_iff h hv⟩

-- A set of variables of which one is set.
def only (key : Key) (value : String) : String → Option String :=
  fun name => if name = key.variable then some value else none

theorem alike_only {inner : List Char} (h : Padded inner value.toList) (h' : Padded inner value'.toList)
    (other : Key) : Alike (only key value other.variable) (only key value' other.variable) := by
  rw [only, only]
  split
  case isTrue  => exact .set h h'
  case isFalse => exact .unset

theorem not_accepts_lots : ¬Key.listCapacity.Accepts "lots" := by
  intro ⟨n, hn⟩
  have hk : Key.listCapacity ≠ .traceJson := nofun
  have hl : only .listCapacity "lots" Key.listCapacity.variable = some "lots" := rfl
  exact absurd (reading_of_means hk hl hn).right (by decide)

theorem not_accepts_yes : ¬Key.traceJson.Accepts "yes" := by
  intro ⟨inner, ⟨before, after, _, _, he⟩, hm⟩
  -- No word for yes or no is made of the letters of the value.
  have hw : ["1", "0", "true", "false"].all
      (fun word => word.toList.any fun c => !(['y', 'e', 's'].contains c)) = true := rfl
  have hl : ['y', 'e', 's'].all (fun c => ['y', 'e', 's'].contains c.toLower) = true := rfl
  have hi : ∀ c ∈ inner.map Char.toLower, ['y', 'e', 's'].contains c = true := by
    intro c hc
    have ⟨d, hd, hdc⟩ := List.mem_map.mp hc
    have hs : d ∈ "yes".toList := he ▸ List.mem_append_right _ (List.mem_append_left _ hd)
    exact hdc ▸ List.all_eq_true.mp hl d hs
  have ⟨word, hword, hinner⟩ : ∃ word ∈ ["1", "0", "true", "false"], word.toList = inner.map Char.toLower :=
    List.mem_map.mp hm
  have ⟨c, hc, hn⟩ := List.any_eq_true.mp <| List.all_eq_true.mp hw word hword
  rw [hi c <| hinner ▸ hc] at hn
  exact Bool.noConfusion hn

theorem one_rule_but_for_json_only :
    (∀ key : Key, Alike (only .listCapacity " 64" key.variable) (only .listCapacity "64\t" key.variable)) ∧
    (ofLookup <| only .listCapacity " 64").fst = (ofLookup <| only .listCapacity "64\t").fst ∧
    (∃ notice ∈ told <| only .listCapacity "lots", Names notice .listCapacity) ∧
    ¬∃ notice ∈ told <| only .traceJson "yes", Names notice .traceJson := by
  have hb : Padded ['6', '4'] " 64".toList := ⟨[' '], [], List.forall_mem_singleton.mpr rfl, nofun, rfl⟩
  have ha : Padded ['6', '4'] "64\t".toList := ⟨[], ['\t'], nofun, List.forall_mem_singleton.mpr rfl, rfl⟩
  have hs {value : String} : ¬SwitchedOn (only .listCapacity value) := fun ⟨_, h, _⟩ => nomatch h
  have hsame := ((one_rule_but_for_json _ _).left <| alike_only hb ha).right.mpr <| iff_of_false hs hs
  have hlots := (one_rule_but_for_json (only .listCapacity "lots") mixed).right .listCapacity _ rfl not_accepts_lots
  have hyes := (one_rule_but_for_json (only .traceJson "yes") mixed).right .traceJson _ rfl not_accepts_yes
  exact ⟨alike_only hb ha, hsame, hlots.right.mpr nofun, fun h => hyes.right.mp h rfl⟩

-- White space keeps JSON from being switched on, and nothing is said of a word that means neither yes nor no.
theorem json_keeps_no_rule :
    ¬(∀ lookup lookup', (∀ key : Key, Alike (lookup key.variable) (lookup' key.variable)) →
      (ofLookup lookup).fst = (ofLookup lookup').fst) ∧
    ¬∀ lookup key value, lookup key.variable = some value → ¬key.Accepts value →
      (ofLookup lookup).fst.amount key = standard.amount key ∧ ∃ notice ∈ told lookup, Names notice key := by
  constructor
  case left =>
    intro h
    have hp : Padded ['1'] "1".toList := ⟨[], [], nofun, nofun, rfl⟩
    have hb : Padded ['1'] " 1".toList := ⟨[' '], [], List.forall_mem_singleton.mpr rfl, nofun, rfl⟩
    have hn : true = false := congrArg traceJson <| h (only .traceJson "1") (only .traceJson " 1") <| alike_only hp hb
    exact Bool.noConfusion hn
  case right =>
    intro h
    have ⟨_, _, hm, _⟩ := h (only .traceJson "yes") .traceJson _ rfl not_accepts_yes
    have ht : told (only .traceJson "yes") = [] := rfl
    exact absurd hm <| ht ▸ List.not_mem_nil

end ProcessControl.Settings
