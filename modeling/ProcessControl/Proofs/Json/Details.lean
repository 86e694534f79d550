import ProcessControl.Json.Tagged
import ProcessControl.Proofs.Json.Grammar

namespace ProcessControl.Json

open Reader Grammar

variable {α β : Type}

namespace Reader

-- What the reader takes these bytes for, if it takes them for anything, and what it leaves of them.
def Answers (r : Reader α) (w left : List UInt8) (answer? : Option α) : Prop :=
  ∀ rest, Closes rest → ∀ a bytes, r.Gives (w ++ rest) a bytes ↔ answer? = some a ∧ bytes = left ++ rest

section Answers

variable {r r' : Reader α} {k : α → Reader β} {w middle left rest : List UInt8} {answer? : Option α} {a : α} {b : β}
  {bytes : List UInt8}

theorem Answers.bind_iff (h : r.Answers w left answer?) (hr : Closes rest) :
    (r >>= k).Gives (w ++ rest) b bytes ↔ ∃ a, answer? = some a ∧ (k a).Gives (left ++ rest) b bytes := by
  rw [gives_bind_iff]
  constructor
  case mp =>
    intro ⟨a, middle, hg, hk⟩
    have ⟨ha, hm⟩ := (h rest hr a middle).mp hg
    exact ⟨a, ha, hm ▸ hk⟩
  case mpr =>
    intro ⟨a, ha, hk⟩
    exact ⟨a, left ++ rest, (h rest hr a _).mpr ⟨ha, rfl⟩, hk⟩

theorem Answers.bind {next? : α → Option β} (h : r.Answers w middle answer?)
    (hk : ∀ a, (k a).Answers middle left (next? a)) : (r >>= k).Answers w left (answer?.bind next?) := by
  intro rest hr b bytes
  rw [h.bind_iff hr]
  simp only [hk _ rest hr b bytes, Option.bind_eq_some_iff]
  constructor
  case mp  => exact fun ⟨a, ha, hb, hl⟩ => ⟨⟨a, ha, hb⟩, hl⟩
  case mpr => exact fun ⟨⟨a, ha, hb⟩, hl⟩ => ⟨a, ha, hb, hl⟩

theorem Answers.congr {w' : List UInt8} (h : r'.Answers w' left answer?)
    (he : ∀ rest, r.run (w ++ rest) = r'.run (w' ++ rest)) : r.Answers w left answer? := by
  intro rest hr a bytes
  rw [Gives, he]
  exact h rest hr a bytes

theorem answers_none (h : ∀ rest a bytes, ¬r.Gives (w ++ rest) a bytes) : r.Answers w left none :=
  fun rest _ a bytes => iff_of_false (h rest a bytes) nofun

theorem answers_some (h : ∀ rest, r.Gives (w ++ rest) a (left ++ rest)) : r.Answers w left (some a) := by
  intro rest _ b bytes
  rw [(h rest).iff, Option.some.injEq, eq_comm (a := bytes)]

theorem answers_pure (a : α) : (pure a : Reader α).Answers [] [] (some a) :=
  answers_some fun rest => .pure a rest

theorem answers_accept (x : Except Mismatch α) : (accept x).Answers [] [] x.toOption := by
  cases x
  case error why => exact answers_none nofun
  case ok a      => exact answers_pure a

theorem answers_ofWord (words : List (String × α)) (s : String) (bytes : List UInt8) :
    (ofWord words s).Answers bytes bytes (words.lookup s) := by
  unfold ofWord
  cases words.lookup s
  case none   => exact answers_none nofun
  case some a => exact answers_some fun rest => .pure a _

theorem Settled.answers (h : r.Settled w) : ∃ answer?, r.Answers w [] answer? := by
  obtain ⟨outcome, ho⟩ := h
  cases outcome
  case error why =>
    refine ⟨none, fun rest hr a bytes => iff_of_false (fun hg => ?_) nofun⟩
    rw [Gives, ho rest hr] at hg
    contradiction
  case ok b =>
    refine ⟨some b, fun rest hr a bytes => ?_⟩
    have hg : r.Gives (w ++ rest) b rest := ho rest hr
    rw [hg.iff, Option.some.injEq, List.nil_append, eq_comm (a := bytes)]

theorem Answers.padded {after : List UInt8} (hs : r.SkipsBlanks) (h : r.Answers w left answer?) (hb : Blank before)
    (ha : Blank after) : r.Answers (before ++ (w ++ after)) (left ++ after) answer? := by
  intro rest hr a bytes
  rw [Gives, List.append_assoc, hs _ _ hb, List.append_assoc, List.append_assoc]
  exact h (after ++ rest) (closes_blank ha hr) a bytes

end Answers

theorem skipsBlanks_value (most depth : Nat) : (value most depth).SkipsBlanks := by
  unfold value
  exact skipsBlanks_peek? _

theorem skipsBlanks_details (d : Details α) : d.read.SkipsBlanks := by
  cases d
  case number limit expected make => exact (skipsBlanks_peek? _ : (natural limit expected).SkipsBlanks).bind _
  case text make => exact (skipsBlanks_peek? _ : text.SkipsBlanks).bind _
  case nothing title a => exact skipsBlanks_peek? _

-- A value of any kind is refused.
theorem givesOnly_unexpected {p : α → Prop} (expected : String) : (unexpected expected).GivesOnly p := by
  refine .after fun c? => ?_
  split
  case h_1 => exact givesOnly_truncated
  case h_2 => exact .after fun _ => .after fun _ => givesOnly_refuse _
  case h_3 => exact .after fun _ => .after fun _ => givesOnly_refuse _
  case h_4 => exact .after fun _ => .after fun _ => givesOnly_refuse _
  case h_5 => exact .after fun _ => .after fun _ => givesOnly_refuse _
  case h_6 => exact .after fun _ => .after fun _ => givesOnly_refuse _
  case h_7 => exact givesOnly_refuse _
  case h_8 => exact givesOnly_refuse _
  case h_9 =>
    split_ifs
    case pos => exact .after fun _ => givesOnly_refuse _
    case neg => exact givesOnly_malformed

theorem not_gives_unexpected {expected : String} {bytes left : List UInt8} {a : α} :
    ¬(unexpected expected).Gives bytes a left :=
  givesOnly_unexpected (p := fun _ => False) expected bytes a left

end Reader

-- The characters that such a value begins with.
def Value.opens : Value → Char → Bool
  | .null, c   => c == 'n'
  | .bool _, c => c == 't' || c == 'f'
  | .num _, c  => c == '-' || c.isDigit
  | .str _, c  => c == '"'
  | .arr _, c  => c == '['
  | .obj _, c  => c == '\x7b'

theorem opens_of_value {c : Char} {bytes left : List UInt8} {v : Value} {most depth : Nat}
    (hp : peek?.Gives bytes (some c) bytes) (h : (value most depth).Gives bytes v left) : v.opens c = true := by
  unfold value at h
  rw [hp.bind_iff] at h
  refine (?_ : GivesOnly _ (·.opens c = true)) _ _ _ h
  split
  case h_1    => contradiction
  case h_2 he => cases he; exact .after fun _ => .after fun _ => givesOnly_pure rfl
  case h_3 he => cases he; exact .after fun _ => .after fun _ => givesOnly_pure rfl
  case h_4 he => cases he; exact .after fun _ => .after fun _ => givesOnly_pure rfl
  case h_5 he => cases he; exact .after fun _ => .after fun _ => givesOnly_pure rfl
  case h_6 he => cases he; exact .after fun _ => .after fun _ => givesOnly_pure rfl
  case h_7 he =>
    cases he
    split
    case h_1 => exact givesOnly_malformed
    case h_2 => exact .after fun _ => .after fun _ => givesOnly_pure rfl
  case h_8 he =>
    cases he
    split
    case h_1 => exact givesOnly_malformed
    case h_2 => exact .after fun _ => .after fun _ => givesOnly_pure rfl
  case h_9 he =>
    cases he
    split_ifs with hc
    case pos => exact .after fun _ => givesOnly_pure <| Bool.or_eq_true_iff.mpr <| .inr hc
    case neg => exact givesOnly_malformed

namespace Details

-- The characters that such details begin with.
def opens : Details α → Char → Bool
  | .number .., c  => c == '-' || c.isDigit
  | .text _, c     => c == '"'
  | .nothing .., c => c == 'n'

-- The details as they come out of a value that was kept.
def readKept (d : Details α) (most depth : Nat) : Reader α := do
  accept (d.ofValue (← value most depth))

-- The same comes out whether the details are read at once or kept as a value first.
def Interchangeable (d : Details α) (w left : List UInt8) : Prop :=
  ∃ answer?, d.read.Answers w left answer? ∧ ∀ most depth, (d.readKept most depth).Answers w left answer?

end Details

section Interchangeable

variable {d : Details α} {c : Char} {w bytes left : List UInt8} {a : α} {v : Value}

theorem opens_of_read (hp : peek?.Gives bytes (some c) bytes) (h : d.read.Gives bytes a left) : d.opens c = true := by
  cases d
  case number limit expected make =>
    have ⟨n, _, hn, _⟩ := gives_bind_iff.mp h
    rw [natural, hp.bind_iff] at hn
    split at hn
    case h_1    => contradiction
    case h_2 he => cases he; rfl
    case h_3 he =>
      cases he
      split_ifs at hn with hc
      case pos => exact Bool.or_eq_true_iff.mpr <| .inr hc
      case neg => exact absurd hn not_gives_unexpected
  case text make =>
    have ⟨s, _, hs, _⟩ := gives_bind_iff.mp h
    rw [text, hp.bind_iff] at hs
    split at hs
    case h_1 he => cases he; rfl
    case h_2    => exact absurd hs not_gives_unexpected
  case nothing title a =>
    rw [Details.read, hp.bind_iff] at h
    split at h
    case h_1 he => cases he; rfl
    case h_2    => exact absurd h not_gives_unexpected

theorem opens_of_ofValue (hv : v.opens c = true) (h : d.ofValue v = .ok a) : d.opens c = true := by
  cases d
  case number =>
    cases v
    case num => exact hv
    all_goals cases h
  case text =>
    cases v
    case str => exact hv
    all_goals cases h
  case nothing =>
    cases v
    case null => exact hv
    all_goals cases h

theorem gives_accept_iff {x : Except Mismatch α} {rest : List UInt8} :
    (accept x).Gives rest a bytes ↔ x = .ok a ∧ rest = bytes := by
  cases x
  case error why => exact iff_of_false nofun nofun
  case ok b      => rw [Except.ok.injEq]; exact (Gives.pure b rest).iff

-- Details of another kind are refused both ways, and the first character tells the kind.
theorem interchangeable_other (hv : visible c = true) (hc : d.opens c = false) :
    d.Interchangeable (byte c :: w) [] := by
  have hp (rest : List UInt8) := gives_peek? hv (w ++ rest)
  have hn : ¬d.opens c = true := Bool.eq_false_iff.mp hc
  refine ⟨none, answers_none fun rest a bytes h => hn <| opens_of_read (hp rest) h, fun most depth => ?_⟩
  refine answers_none fun rest a bytes h => hn ?_
  have ⟨v, middle, hg, ha⟩ := gives_bind_iff.mp h
  exact opens_of_ofValue (opens_of_value (hp rest) hg) (gives_accept_iff.mp ha).left

theorem Details.Interchangeable.padded {before after : List UInt8} (h : d.Interchangeable w left) (hb : Blank before)
    (ha : Blank after) : d.Interchangeable (before ++ (w ++ after)) (left ++ after) := by
  have ⟨answer?, hr, hk⟩ := h
  refine ⟨answer?, hr.padded (skipsBlanks_details d) hb ha, fun most depth => ?_⟩
  exact (hk most depth).padded ((skipsBlanks_value most depth).bind _) hb ha

theorem interchangeable_nothing (title : String) (a : α) :
    (Details.nothing title a).Interchangeable (Text.Utf8.encode "null".toList) [] := by
  have hw (rest : List UInt8) : (word "ull".toList).Gives (Text.Utf8.encode "ull".toList ++ rest) () rest :=
    gives_word (by decide) rest
  have hv (most depth : Nat) (rest : List UInt8) :
      (value most depth).Gives (Text.Utf8.encode "null".toList ++ rest) .null rest := by
    unfold value
    exact gives_token (by decide) rfl <| (hw rest).bind <| .pure _ rest
  have hk (rest : List UInt8) : (accept <| (Details.nothing title a).ofValue .null).Gives rest a rest := .pure a rest
  refine ⟨some a, answers_some fun rest => ?_, fun most depth => answers_some fun rest => ?_⟩
  case refine_1 => exact gives_token (by decide) rfl <| (hw rest).bind <| .pure a rest
  case refine_2 => exact (hv most depth rest).bind <| hk rest

theorem interchangeable_number {negative : Bool} {w' : List UInt8} (hs : (number negative).Settled w')
    (hn : ∀ limit expected rest, (natural limit expected).run (w ++ rest) =
      (do accept ((← number negative).below limit expected) : Reader Nat).run (w' ++ rest))
    (hv : ∀ most depth rest, (value most depth).run (w ++ rest) =
      (do return .num (← number negative) : Reader Value).run (w' ++ rest))
    (limit : Nat) (expected : String) (make : Nat → α) : (Details.number limit expected make).Interchangeable w [] := by
  have ⟨answer?, ha⟩ := hs.answers
  have hr := ((ha.bind fun n => answers_accept (n.below limit expected)).congr <| hn limit expected).bind
    fun n => answers_pure (make n)
  refine ⟨_, hr, fun most depth => ?_⟩
  have hk := ((ha.bind fun n => answers_pure (Value.num n)).congr <| hv most depth).bind
    fun v => answers_accept ((Details.number limit expected make).ofValue v)
  cases answer?
  case none => exact hk
  case some n =>
    have he : ((n.below limit expected).map make).toOption =
        (n.below limit expected).toOption.bind fun n => some (make n) := by
      cases n.below limit expected <;> rfl
    rw [Option.bind_some, ← he]
    exact hk

theorem interchangeable_quoted (h : Characters w) (make : String → α) :
    (Details.text make).Interchangeable (quoted w) [] := by
  have ⟨answer?, ha⟩ := (settled_string h).answers
  have hr (rest : List UInt8) : text.run (quoted w ++ rest) = string.run (w ++ [byte '"'] ++ rest) :=
    run_token (by decide) rfl _
  have hv (most depth : Nat) (rest : List UInt8) : (value most depth).run (quoted w ++ rest) =
      (do return .str (← string) : Reader Value).run (w ++ [byte '"'] ++ rest) := by
    unfold value
    exact run_token (by decide) rfl _
  refine ⟨_, (ha.congr hr).bind fun s => answers_pure (make s), fun most depth => ?_⟩
  have hk := ((ha.bind fun s => answers_pure (Value.str s)).congr <| hv most depth).bind
    fun v => answers_accept ((Details.text make).ofValue v)
  cases answer?
  case none   => exact hk
  case some s => exact hk

theorem run_natural_minus (limit : Nat) (expected : String) (bytes : List UInt8) :
    (natural limit expected).run (byte '-' :: bytes) =
      (do accept ((← number true).below limit expected) : Reader Nat).run bytes :=
  run_token (by decide) rfl bytes

theorem run_value_minus (most depth : Nat) (bytes : List UInt8) :
    (value most depth).run (byte '-' :: bytes) = (do return .num (← number true) : Reader Value).run bytes := by
  unfold value
  exact run_token (by decide) rfl bytes

theorem run_value_digit (hc : Text.Decimal.isDigit c = true) (most depth : Nat) (bytes : List UInt8) :
    (value most depth).run (byte c :: bytes) =
      (do return .num (← number false) : Reader Value).run (byte c :: bytes) := by
  unfold value
  refine ((gives_peek?_digit hc bytes).run_bind _).trans ?_
  split
  case h_1 he => cases he
  case h_9 he =>
    cases he
    rw [if_pos <| isDigit_of_decimal hc]
  all_goals
    rename_i he
    cases he
    cases hc

theorem interchangeable_natural (h : Unsigned w) (d : Details α) : d.Interchangeable w [] := by
  have ⟨c, more, hw, hc⟩ := exists_first_unsigned h
  have hs : (number false).Settled (byte c :: more) := hw ▸ settled_number h
  have hn {o : Char} (ho : Text.Decimal.isDigit o = false) : (c == o) = false :=
    beq_eq_false_iff_ne.mpr fun he => Bool.eq_false_iff.mp ho (he ▸ hc)
  rw [hw]
  cases d
  case number =>
    exact interchangeable_number hs (fun _ _ _ => run_natural hc _ _ _) (fun _ _ _ => run_value_digit hc _ _ _) _ _ _
  case text    => exact interchangeable_other (visible_of_isDigit hc) <| hn rfl
  case nothing => exact interchangeable_other (visible_of_isDigit hc) <| hn rfl

theorem interchangeable_negative (h : Unsigned w) (d : Details α) : d.Interchangeable (byte '-' :: w) [] := by
  cases d
  case number =>
    exact interchangeable_number (settled_number h) (fun _ _ _ => run_natural_minus _ _ _)
      (fun _ _ _ => run_value_minus _ _ _) _ _ _
  case text    => exact interchangeable_other (by decide) rfl
  case nothing => exact interchangeable_other (by decide) rfl

theorem interchangeable_text (h : Characters w) (d : Details α) : d.Interchangeable (quoted w) [] := by
  cases d
  case number  => exact interchangeable_other (by decide) rfl
  case text    => exact interchangeable_quoted h _
  case nothing => exact interchangeable_other (by decide) rfl

theorem interchangeable_null (d : Details α) : d.Interchangeable (Text.Utf8.encode "null".toList) [] := by
  cases d
  case number  => exact interchangeable_other (c := 'n') (by decide) rfl
  case text    => exact interchangeable_other (c := 'n') (by decide) rfl
  case nothing => exact interchangeable_nothing _ _

-- However a value is spelled, it does as details whether they are kept or not.
theorem interchangeable_of_value {depth : Nat} (h : Grammar.Value depth w) :
    ∃ left, Blank left ∧ ∀ d : Details α, d.Interchangeable w left := by
  -- No details are an array, an object or a truth value, so it does not matter what stands in them.
  have ho (c : Char) (w : List UInt8) (hc : c ∈ ['t', 'f', '[', '\x7b']) (d : Details α) :
      d.Interchangeable (byte c :: w) [] := by
    have hn : visible c = true ∧ d.opens c = false := by
      simp only [List.mem_cons, List.not_mem_nil, or_false] at hc
      rcases hc with rfl | rfl | rfl | rfl
      all_goals exact ⟨by decide, by cases d <;> rfl⟩
    exact interchangeable_other hn.left hn.right
  induction h
  case null => exact ⟨[], nofun, interchangeable_null⟩
  case bool b =>
    cases b
    case false => exact ⟨[], nofun, ho 'f' _ (by decide)⟩
    case true  => exact ⟨[], nofun, ho 't' _ (by decide)⟩
  case natural w hu  => exact ⟨[], nofun, interchangeable_natural hu⟩
  case negative w hu => exact ⟨[], nofun, interchangeable_negative hu⟩
  case text w hw     => exact ⟨[], nofun, interchangeable_text hw⟩
  case noItems       => exact ⟨[], nofun, ho '[' _ (by decide)⟩
  case items         => exact ⟨[], nofun, ho '[' _ (by decide)⟩
  case noMembers     => exact ⟨[], nofun, ho '\x7b' _ (by decide)⟩
  case members       => exact ⟨[], nofun, ho '\x7b' _ (by decide)⟩
  case padded before w after hb ha _ hi =>
    have ⟨left, hl, hd⟩ := hi
    exact ⟨left ++ after, List.forall_mem_append.mpr ⟨hl, ha⟩, fun d => (hd d).padded hb ha⟩

end Interchangeable

end ProcessControl.Json
