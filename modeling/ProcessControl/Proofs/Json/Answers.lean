import ProcessControl.Proofs.Json.Skip
import ProcessControl.Proofs.Json.Tagged

namespace ProcessControl.Json.Reader

open Grammar

variable {α β : Type} {r : Reader α}

-- However a value is spelled, the reader takes all of it for something or does not take it.
def AnswersValues (r : Reader α) : Prop :=
  ∀ depth w, Grammar.Value depth w → ∃ left, Blank left ∧ ∃ answer?, r.Answers w left answer?

theorem AnswersValues.map (h : r.AnswersValues) (f : α → β) : (do return f (← r) : Reader β).AnswersValues := by
  intro depth w hw
  have ⟨left, hl, answer?, ha⟩ := h depth w hw
  have hp (a : α) : (pure (f a) : Reader β).Answers left left (some (f a)) := answers_some fun rest => .pure _ _
  exact ⟨left, hl, _, ha.bind hp⟩

theorem answersValues_details (d : Details α) : d.read.AnswersValues := by
  intro depth w hw
  have ⟨left, hl, hd⟩ := interchangeable_of_value (α := α) hw
  have ⟨answer?, ha, _⟩ := hd d
  exact ⟨left, hl, answer?, ha⟩

theorem answersValues_natural (limit : Nat) (expected : String) : (natural limit expected).AnswersValues := by
  have he : (Details.number limit expected id).read = natural limit expected := bind_pure _
  exact he ▸ answersValues_details _

theorem skipsBlanks_natural (limit : Nat) (expected : String) : (natural limit expected).SkipsBlanks :=
  skipsBlanks_peek? _

theorem answersValues_text : text.AnswersValues := by
  have he : (Details.text id).read = text := bind_pure _
  exact he ▸ answersValues_details _

-- Bytes that go on with an array or object, or end it, may stand between a value and what follows.
theorem Answers.frame {w left tail : List UInt8} {answer? : Option α} (h : r.Answers w left answer?)
    (ht : ∀ rest, Closes (tail ++ rest)) : r.Answers (w ++ tail) (left ++ tail) answer? := by
  intro rest _ a bytes
  rw [List.append_assoc, List.append_assoc]
  exact h _ (ht rest) a bytes

theorem AnswersValues.congr {r' : Reader α} {depth : Nat} {w : List UInt8} (h : r'.AnswersValues)
    (hw : Grammar.Value depth w) (he : ∀ rest, r.run (w ++ rest) = r'.run (w ++ rest)) :
    ∃ left, Blank left ∧ ∃ answer?, r.Answers w left answer? := by
  have ⟨left, hl, answer?, ha⟩ := h depth w hw
  exact ⟨left, hl, answer?, ha.congr he⟩

theorem skipsBlanks_optional (item : Reader α) : (optional item).SkipsBlanks :=
  skipsBlanks_peek? _

-- The first character of a value tells whether it is `null`.
theorem answersValues_optional {item : Reader α} (hs : item.SkipsBlanks) (h : item.AnswersValues) :
    (optional item).AnswersValues := by
  intro depth w hw
  obtain ⟨before, c, more, hb, rfl, hv, _⟩ := exists_first hw
  have hp {r : Reader (Option α)} (hr : r.SkipsBlanks) (rest : List UInt8) :
      r.run (before ++ byte c :: more ++ rest) = r.run (byte c :: (more ++ rest)) := by
    rw [List.append_assoc]
    exact hr _ _ hb
  by_cases hc : c = 'n'
  case pos =>
    have hn := answersValues_details (.nothing "" (none : Option α))
    refine hn.congr hw fun rest => ?_
    rw [hp (skipsBlanks_optional item), hp (skipsBlanks_details _), hc]
    exact (run_token (by decide) rfl _).trans (run_token (by decide) rfl _).symm
  case neg =>
    refine (h.map some).congr hw fun rest => ?_
    rw [hp (skipsBlanks_optional item), hp (hs.bind _)]
    refine ((gives_peek? hv _).run_bind _).trans ?_
    split
    case h_1 he => exact absurd (Option.some.inj he) hc
    case h_2    => rfl

section Words

variable {words : List (String × α)} {a : α} {c : Char} {w before left : List UInt8}

theorem skipsBlanks_oneOf (words : List (String × α)) : (oneOf words).SkipsBlanks :=
  skipsBlanks_peek? _

-- The end of an object that has no other member.
def closeObject (a : α) : Reader α := do
  match ← peek? with
  | none => truncated
  | some '\x7d' => advance; return a
  | some _ => malformed

-- What follows the brace and the quote before a word that is the name of a member.
def memberWord (words : List (String × α)) : Reader α := do
  let a ← ofWord words (← string)
  colon
  (Details.nothing "unit" ()).read
  closeObject a

theorem run_oneOf_object (hb : Blank before) (bytes : List UInt8) :
    (oneOf words).run (byte '\x7b' :: (before ++ byte '"' :: bytes)) = (memberWord words).run bytes := by
  refine (run_token (by decide) rfl _).trans ?_
  refine (skipsBlanks_peek? _ _ _ hb).trans ?_
  refine ((gives_peek? (by decide) _).run_bind _).trans ?_
  refine ((gives_advance _ _).run_bind _).trans ?_
  refine congrArg (StateT.run · bytes) ?_
  simp only [memberWord, Details.read, bind_assoc]
  refine bind_congr fun s => bind_congr fun a => bind_congr fun _ => bind_congr fun c => ?_
  by_cases hc : c = some 'n'
  case pos =>
    subst hc
    simp only [bind_assoc, pure_bind]
    rfl
  case neg =>
    simp only
    rfl

theorem answers_string (h : Characters w) :
    ∃ answer?, ∀ more, string.Answers (w ++ byte '"' :: more) more answer? := by
  obtain ⟨outcome, ho⟩ := exists_outcome_string h
  have hs (more rest : List UInt8) : string.run (w ++ byte '"' :: more ++ rest) = outcome.map (·, more ++ rest) := by
    rw [List.append_assoc]
    exact ho _
  cases outcome
  case error why =>
    refine ⟨none, fun more => answers_none fun rest s bytes hg => ?_⟩
    rw [Gives, hs] at hg
    contradiction
  case ok s => exact ⟨some s, fun more => answers_some <| hs more⟩

theorem answers_closeObject (es : List (List UInt8 × List UInt8)) (hl : Blank left) (a : α) : ∃ answer?,
    (closeObject a).Answers (left ++ (row true es ++ [byte '\x7d'])) [] answer? := by
  have hs : (closeObject a).SkipsBlanks := skipsBlanks_peek? _
  cases es
  case nil =>
    refine ⟨some a, answers_some fun rest => ?_⟩
    rw [List.append_assoc]
    exact (hs _ _ hl).trans <| gives_token (by decide) rfl <| .pure a rest
  case cons e es =>
    refine ⟨none, answers_none fun rest b bytes h => ?_⟩
    rw [List.append_assoc, Gives, hs _ _ hl] at h
    have hr : (closeObject a).run (row true (e :: es) ++ [byte '\x7d'] ++ rest) = .error .malformed :=
      (gives_peek? (c := ',') (by decide) _).run_bind _
    rw [hr] at h
    contradiction

-- A word that is the name of a member is taken if the member is `null` and there is no other one.
theorem answers_memberWord {depth : Nat} {v after : List UInt8} (words : List (String × α))
    (es : List (List UInt8 × List UInt8)) (hw : Characters w) (ha : Blank after) (hv : Grammar.Value depth v) :
    ∃ answer?, (memberWord words).Answers
      (w ++ byte '"' :: (after ++ byte ':' :: (v ++ (row true es ++ [byte '\x7d'])))) [] answer? := by
  have ⟨s?, hs⟩ := answers_string hw
  have ⟨left, hl, u?, hu⟩ := answersValues_details (.nothing "unit" ()) _ _ hv
  have hc (bytes : List UInt8) : colon.Answers (after ++ byte ':' :: bytes) bytes (some ()) := by
    refine answers_some fun rest => ?_
    rw [List.append_assoc]
    exact ((skipsBlanks_peek? _ : colon.SkipsBlanks) _ _ ha).trans <| gives_colon _
  have ht (rest : List UInt8) : Closes (row true es ++ [byte '\x7d'] ++ rest) := by
    rw [List.append_assoc]
    exact closes_row .object es rest
  have ho (a : α) := answers_closeObject es hl a
  choose answer? ho using ho
  have hm (a : α) := (hc _).bind fun _ => (hu.frame ht).bind fun _ => ho a
  exact ⟨_, (hs _).bind fun s => (answers_ofWord words s _).bind hm⟩

theorem answers_oneOf_other (hv : visible c = true) (hq : c ≠ '"') (ho : c ≠ '\x7b') :
    (oneOf words).Answers (byte c :: w) [] none := by
  refine answers_none fun rest a bytes h => ?_
  rw [oneOf, List.cons_append, (gives_peek? hv _).bind_iff] at h
  split at h
  case h_1    => contradiction
  case h_2 he => exact hq (Option.some.inj he)
  case h_3 he => exact ho (Option.some.inj he)
  case h_4    => contradiction

theorem answers_oneOf_empty (hb : Blank before) :
    (oneOf words).Answers (byte '\x7b' :: (before ++ [byte '\x7d'])) [] none := by
  have hr (rest : List UInt8) :
      (oneOf words).run (byte '\x7b' :: (before ++ byte '\x7d' :: rest)) = .error .malformed := by
    refine (run_token (by decide) rfl _).trans <| (skipsBlanks_peek? _ _ _ hb).trans ?_
    exact (gives_peek? (c := '\x7d') (by decide) _).run_bind _
  refine answers_none fun rest a bytes h => ?_
  rw [Gives, List.cons_append, List.append_assoc, List.singleton_append, hr] at h
  contradiction

theorem answers_oneOf_members {depth : Nat} {ms : List (List UInt8 × List UInt8)} (hl : ∀ m ∈ ms, Label m.fst)
    (hv : ∀ m ∈ ms, Grammar.Value depth m.snd) : ∃ answer?, (oneOf words).Answers
      (byte '\x7b' :: (row false (ms.map fun m => (m.fst ++ [byte ':'], m.snd)) ++ [byte '\x7d'])) [] answer? := by
  cases ms
  case nil => exact ⟨none, answers_oneOf_empty blank_nil⟩
  case cons m ms =>
    have hv := hv m List.mem_cons_self
    have hl := hl m List.mem_cons_self
    rw [List.map_cons, row]
    generalize ms.map _ = es
    generalize m.fst = l at hl ⊢
    cases hl
    case mk before w after hb hw ha =>
      obtain ⟨answer?, hm⟩ := answers_memberWord words es hw ha hv
      refine ⟨answer?, hm.congr fun rest => ?_⟩
      rw [← run_oneOf_object hb]
      simp only [quoted, comma, List.append_assoc, List.cons_append, List.nil_append]
      rfl

theorem answersValues_oneOf (words : List (String × α)) : (oneOf words).AnswersValues := by
  intro depth w h
  induction h
  case null          => exact ⟨[], nofun, _, answers_oneOf_other (c := 'n') (by decide) (by decide) (by decide)⟩
  case bool b        => cases b <;> exact ⟨[], nofun, _, answers_oneOf_other (by decide) (by decide) (by decide)⟩
  case natural w hu  =>
    obtain ⟨c, more, rfl, hc⟩ := exists_first_unsigned hu
    have hn {o : Char} (ho : Text.Decimal.isDigit o = false) : c ≠ o := fun he => Bool.eq_false_iff.mp ho (he ▸ hc)
    exact ⟨[], nofun, _, answers_oneOf_other (visible_of_isDigit hc) (hn rfl) (hn rfl)⟩
  case negative w hu => exact ⟨[], nofun, _, answers_oneOf_other (by decide) (by decide) (by decide)⟩
  case text w hw     =>
    have ht := answers_oneOf words <| .mk blank_nil hw blank_nil
    rwa [List.nil_append, List.append_nil] at ht
  case noItems       => exact ⟨[], nofun, _, answers_oneOf_other (by decide) (by decide) (by decide)⟩
  case items         => exact ⟨[], nofun, _, answers_oneOf_other (by decide) (by decide) (by decide)⟩
  case noMembers w hw => exact ⟨[], nofun, _, answers_oneOf_empty hw⟩
  case members ms hl hv _ => exact ⟨[], nofun, intercalate_members ms ▸ answers_oneOf_members hl hv⟩
  case padded before w after hb ha _ hi =>
    have ⟨left, hl, answer?, hr⟩ := hi
    exact ⟨left ++ after, List.forall_mem_append.mpr ⟨hl, ha⟩, answer?, hr.padded (skipsBlanks_oneOf words) hb ha⟩

end Words

end ProcessControl.Json.Reader
