import ProcessControl.Proofs.Json.Grammar

namespace ProcessControl.Json.Reader

open Grammar

-- The reader passes over these bytes, and leaves what follows them.
def Passes (r : Reader Unit) (w : List UInt8) : Prop :=
  ∀ rest, Closes rest → r.Gives (w ++ rest) () rest

section Scalars

variable {b : UInt8} {w ds sign : List UInt8}

theorem skipStringBytes_characters (h : Characters w) (rest : List UInt8) :
    skipStringBytes (w ++ byte '"' :: rest) = .ok rest := by
  induction h
  case nil => rfl
  case plain b w hp _ hi =>
    have ⟨hl, hq, hs⟩ := hp
    have hq : b ≠ 0x22 := fun he => hq <| congrArg UInt8.toNat he
    have hs : b ≠ 0x5C := fun he => hs <| congrArg UInt8.toNat he
    have hl : ¬b < 0x20 := fun h => absurd (UInt8.lt_iff_toNat_lt.mp h) <| Nat.not_lt.mpr hl
    rw [List.cons_append, skipStringBytes]
    · rw [if_neg hl, hi]
    all_goals intros; contradiction
  case letter b w hl _ hi =>
    have hb := ne_u_of_unescape? hl
    have hc : byte '\\' :: b :: w ++ byte '"' :: rest = 0x5C :: b :: (w ++ byte '"' :: rest) := rfl
    rw [hc, skipStringBytes]
    · rw [if_pos hl, hi]
    all_goals intros; contradiction
  case code a b c d w hn _ hi =>
    have hc : byte '\\' :: byte 'u' :: a :: b :: c :: d :: w ++ byte '"' :: rest =
      0x5C :: 0x75 :: a :: b :: c :: d :: (w ++ byte '"' :: rest) := rfl
    rw [hc, skipStringBytes, if_pos hn, hi]

theorem gives_skipString (h : Characters w) (rest : List UInt8) :
    skipString.Gives (w ++ byte '"' :: rest) () rest := by
  have hl (bytes : List UInt8) : (liftM (Except.ok rest : Except Fault _) : Reader _).Gives bytes rest bytes := rfl
  have hs (bytes : List UInt8) : (set rest : Reader PUnit).Gives bytes () rest := rfl
  refine Gives.bind (a := w ++ byte '"' :: rest) rfl ?_
  rw [skipStringBytes_characters h]
  exact (hl _).bind <| hs _

theorem passes_skipExponent (h : Exponent w) (hw : w ≠ []) : skipExponent.Passes w := by
  intro rest hr
  cases h
  case none => contradiction
  case some mark sign ds hm hs hd =>
    have hj : (do if (← digits).isEmpty then malformed : Reader Unit).Gives (ds ++ rest) () rest := by
      refine (gives_row hd.digits fun b hb => isDigit_closer <| hr b hb).bind ?_
      rw [if_neg <| mt List.isEmpty_iff.mp hd.ne_nil]
      exact .pure () rest
    rw [List.cons_append, List.append_assoc]
    refine (gives_advance _ _).bind ?_
    simp only [List.mem_cons, List.not_mem_nil, or_false] at hs
    rcases hs with rfl | rfl | rfl
    case inl =>
      have ⟨c, more, hb, hc⟩ := exists_first_digit hd
      rw [List.nil_append]
      have hf : front?.Gives (ds ++ rest) (some c) (ds ++ rest) := hb ▸ gives_front? (toNat_lt_of_isDigit hc) _
      refine hf.bind ?_
      split
      case h_1 h => cases h; cases hc
      case h_2 h => cases h; cases hc
      case h_3   => exact hj
    case inr.inl => exact (gives_front? (c := '+') (by decide) _).bind <| (gives_advance _ _).bind hj
    case inr.inr => exact (gives_front? (c := '-') (by decide) _).bind <| (gives_advance _ _).bind hj

-- What may follow the digits of a number: an exponent, or its end.
theorem passes_ending {k : Option Char → Reader Unit}
    (hk : ∀ c, c ≠ some '.' → c ≠ some 'e' → c ≠ some 'E' → k c = pure ())
    (he : ∀ c ∈ ['e', 'E'], k (some c) = skipExponent) (h : Exponent w) : (front? >>= k).Passes w := by
  intro rest hr
  have hp (hw : w ≠ []) : skipExponent.Gives (w ++ rest) () rest := passes_skipExponent h hw rest hr
  cases h
  case none => exact (hr.run_front? hk).trans <| Gives.pure () rest
  case some mark sign ds hm _ _ =>
    refine (gives_front? (of_mem_marks hm).left _).bind ?_
    rw [he mark hm]
    exact hp nofun

-- A number after its sign.
theorem passes_skipNumber (h : Unsigned w) : skipNumber.Passes w := by
  intro rest hr
  cases h
  case mk ds fraction exponent hd hf he =>
    rw [List.append_assoc, List.append_assoc]
    refine (gives_row hd.digits <| not_digit_of_fraction hf he hr).bind ?_
    split
    case h_1 => exact absurd rfl hd.ne_nil
    case h_2 => exact absurd rfl <| hd.zero _ _
    case h_3 =>
      cases hf
      case some more hm =>
        rw [List.cons_append]
        refine (gives_front? (by decide) _).bind <| (gives_advance _ _).bind ?_
        refine (gives_row hm.digits <| not_digit_of_fraction .none he hr).bind ?_
        rw [if_neg <| mt List.isEmpty_iff.mp hm.ne_nil]
        refine passes_ending (fun c hp he hE => ?_) (List.forall_mem_cons.mpr ⟨rfl, ?_⟩) he rest hr
        case refine_1 =>
          split
          case h_1 => contradiction
          case h_2 => contradiction
          case h_3 => rfl
        case refine_2 => exact List.forall_mem_singleton.mpr rfl
      case none =>
        refine passes_ending (fun c hp he hE => ?_) (List.forall_mem_cons.mpr ⟨rfl, ?_⟩) he rest hr
        case refine_1 =>
          split
          case h_1 => contradiction
          case h_2 => contradiction
          case h_3 => contradiction
          case h_4 => rfl
        case refine_2 => exact List.forall_mem_singleton.mpr rfl

end Scalars

section Entries

variable {most : Nat} {c : Char} {frame : Frame} {frames frames' : List Frame} {afterItem : Bool}
  {w bytes rest : List UInt8}

-- What is left to do when an array or object has been entered, or an item in it has been passed over.
def goOn (most : Nat) (frames : List Frame) (afterItem : Bool) : Reader Unit := do
  match ← skipClosings frames afterItem with
  | [] => return
  | still => skipInside most still

theorem run_skipInside {entered : Option Frame} (h : enter.Gives bytes entered rest) (most : Nat)
    (frames : List Frame) : (skipInside (most + 1) frames).run bytes =
      (goOn most (entered.toList ++ frames) entered.isNone).run rest := by
  rw [skipInside, h.run_bind]
  rfl

theorem skipsBlanks_skipInside (most : Nat) (frames : List Frame) : (skipInside most frames).SkipsBlanks := by
  cases most
  case zero => exact fun _ _ _ => rfl
  case succ => exact (skipsBlanks_peek? _ : enter.SkipsBlanks).bind _

theorem skipsBlanks_goOn (most : Nat) (frame : Frame) (frames : List Frame) (afterItem : Bool) :
    (goOn most (frame :: frames) afterItem).SkipsBlanks :=
  (skipsBlanks_peek? _ : (skipClosings (frame :: frames) afterItem).SkipsBlanks).bind _

theorem gives_enter_natural (h : Unsigned w) (hr : Closes rest) : enter.Gives (w ++ rest) none rest := by
  have ⟨c, more, hw, hc⟩ := exists_first_unsigned h
  have hn : skipNumber.Gives (w ++ rest) () rest := passes_skipNumber h rest hr
  rw [hw] at hn ⊢
  refine (gives_peek?_digit hc _).bind ?_
  split
  case h_1 he => cases he
  case h_9 he =>
    cases he
    rw [if_pos <| isDigit_of_decimal hc]
    exact hn.bind <| .pure none rest
  all_goals
    rename_i he
    cases he
    cases hc

theorem gives_enter_array (rest : List UInt8) : enter.Gives (byte '[' :: rest) (some .array) rest :=
  gives_token (by decide) rfl <| .pure _ rest

theorem gives_enter_object (rest : List UInt8) : enter.Gives (byte '\x7b' :: rest) (some .object) rest :=
  gives_token (by decide) rfl <| .pure _ rest

theorem visible_close (frame : Frame) : visible frame.close = true := by
  cases frame <;> decide

theorem run_goOn_close (frame : Frame) (afterItem : Bool) : (goOn most (frame :: frames) afterItem).run
    (byte frame.close :: rest) = (goOn most frames true).run rest := by
  have hc : (skipClosings (frame :: frames) afterItem).run (byte frame.close :: rest) =
      (skipClosings frames true).run rest := run_token (visible_close frame) (if_pos rfl) rest
  rw [goOn, StateT.run_bind, hc, goOn, StateT.run_bind]

-- What stands before the value of an item.
inductive Front : Frame → List UInt8 → Prop
  | item : Front .array []
  | member {w : List UInt8} : Label w → Front .object (w ++ [byte ':'])

-- A value begins with a character that does not end an array.
theorem exists_first {depth : Nat} (h : Grammar.Value depth w) :
    ∃ before c more, Blank before ∧ w = before ++ byte c :: more ∧ visible c = true ∧ c ≠ ']' := by
  induction h
  case null          => exact ⟨[], 'n', _, nofun, rfl, rfl, by decide⟩
  case bool b        => cases b <;> exact ⟨[], _, _, nofun, rfl, rfl, by decide⟩
  case natural w hu  =>
    have ⟨c, more, hw, hc⟩ := exists_first_unsigned hu
    refine ⟨[], c, more, nofun, hw, visible_of_isDigit hc, ?_⟩
    rintro rfl
    cases hc
  case negative w hu => exact ⟨[], '-', _, nofun, rfl, rfl, by decide⟩
  case text w hw     => exact ⟨[], '"', _, nofun, rfl, rfl, by decide⟩
  case noItems       => exact ⟨[], '[', _, nofun, rfl, rfl, by decide⟩
  case items         => exact ⟨[], '[', _, nofun, rfl, rfl, by decide⟩
  case noMembers     => exact ⟨[], '\x7b', _, nofun, rfl, rfl, by decide⟩
  case members       => exact ⟨[], '\x7b', _, nofun, rfl, rfl, by decide⟩
  case padded before w after hb _ _ hi =>
    obtain ⟨before', c, more, hb', rfl, hc⟩ := hi
    refine ⟨before ++ before', c, more ++ after, List.forall_mem_append.mpr ⟨hb, hb'⟩, ?_, hc⟩
    simp only [List.append_assoc, List.cons_append]

theorem gives_skipName (h : Label w) (rest : List UInt8) : skipName.Gives (w ++ byte ':' :: rest) () rest := by
  cases h
  case mk before w after hb hw ha =>
    have hc : colon.Gives (after ++ byte ':' :: rest) () rest :=
      ((skipsBlanks_peek? _ : colon.SkipsBlanks) _ _ ha).trans <| gives_colon rest
    have hn : skipName.Gives (quoted w ++ after ++ byte ':' :: rest) () rest := by
      rw [quoted, List.append_assoc, List.cons_append, List.append_assoc]
      exact gives_token (by decide) rfl <| (gives_skipString hw _).bind hc
    rw [List.append_assoc]
    exact ((skipsBlanks_peek? _ : skipName.SkipsBlanks) _ _ hb).trans hn

-- What is passed over before the value of an item.
def skipFront (frame : Frame) : Reader Unit :=
  if frame = .object then skipName else pure ()

theorem gives_skipFront {front : List UInt8} (h : Front frame front) (rest : List UInt8) :
    (skipFront frame).Gives (front ++ rest) () rest := by
  cases h
  case item => exact .pure () rest
  case member w hw =>
    rw [List.append_assoc]
    exact gives_skipName hw rest

theorem gives_skipClosings_first (hv : visible c = true) (hc : c ≠ frame.close)
    (h : (skipFront frame).Gives (byte c :: bytes) () rest) :
    (skipClosings (frame :: frames) false).Gives (byte c :: bytes) (frame :: frames) rest := by
  have hf := h.bind (k := fun _ => pure (frame :: frames)) <| .pure _ rest
  refine (gives_peek? hv bytes).bind ?_
  dsimp only
  rw [if_neg hc]
  cases frame
  case array  => exact hf
  case object => exact hf

theorem gives_skipClosings_next (h : (skipFront frame).Gives bytes () rest) :
    (skipClosings (frame :: frames) true).Gives (byte ',' :: bytes) (frame :: frames) rest := by
  have hf := h.bind (k := fun _ => pure (frame :: frames)) <| .pure _ rest
  refine (gives_peek? (by decide) bytes).bind ?_
  cases frame
  case array  => exact (gives_advance _ _).bind hf
  case object => exact (gives_advance _ _).bind hf

theorem run_goOn (h : (skipClosings frames afterItem).Gives bytes (frame :: frames') rest) :
    (goOn most frames afterItem).run bytes = (skipInside most (frame :: frames')).run rest :=
  h.run_bind _

-- What stands before an item.
def comma (afterItem : Bool) : List UInt8 :=
  if afterItem then [byte ','] else []

theorem run_goOn_item {depth : Nat} {front : List UInt8} (hf : Front frame front) (hw : Grammar.Value depth w)
    (afterItem : Bool) : (goOn most (frame :: frames) afterItem).run (comma afterItem ++ (front ++ (w ++ rest))) =
      (skipInside most (frame :: frames)).run (w ++ rest) := by
  cases afterItem
  case true  => exact run_goOn <| gives_skipClosings_next <| gives_skipFront hf _
  case false =>
    rw [comma, if_neg Bool.false_ne_true, List.nil_append]
    cases hf
    case item =>
      obtain ⟨before, c, more, hb, rfl, hv, hc⟩ := exists_first hw
      rw [List.nil_append, List.append_assoc, skipsBlanks_goOn _ _ _ _ _ _ hb, skipsBlanks_skipInside _ _ _ _ hb]
      exact run_goOn <| gives_skipClosings_first hv hc <| .pure () _
    case member l hl =>
      have hn := gives_skipName hl (w ++ rest)
      cases hl
      case mk before l after hb _ _ =>
        have hs : skipName.SkipsBlanks := skipsBlanks_peek? _
        rw [List.append_assoc] at hn
        rw [Gives, hs _ _ hb] at hn
        rw [List.append_assoc, List.append_assoc, skipsBlanks_goOn _ _ _ _ _ _ hb]
        exact run_goOn <| gives_skipClosings_first (c := '"') (by decide) (by decide) hn

end Entries

section Values

variable {depth : Nat} {frame : Frame} {w : List UInt8} {es : List (List UInt8 × List UInt8)}

-- The items of an array or object, or those that come after another one, each with what stands before its value.
def row (afterItem : Bool) : List (List UInt8 × List UInt8) → List UInt8
  | []      => []
  | e :: es => comma afterItem ++ (e.fst ++ (e.snd ++ row true es))

theorem intercalate_eq_row (es : List (List UInt8 × List UInt8)) :
    [byte ','].intercalate (es.map fun e => e.fst ++ e.snd) = row false es := by
  induction es
  case nil => rfl
  case cons e es hi =>
    cases es
    case nil => simp [row, comma]
    case cons e' es =>
      have hc : [byte ','].intercalate ((e :: e' :: es).map fun e => e.fst ++ e.snd) = e.fst ++ e.snd ++
        ([byte ','] ++ [byte ','].intercalate ((e' :: es).map fun e => e.fst ++ e.snd)) := rfl
      rw [hc, hi]
      simp [row, comma]

theorem intercalate_members (ms : List (List UInt8 × List UInt8)) :
    [byte ','].intercalate (ms.map fun m => m.fst ++ byte ':' :: m.snd) =
      row false (ms.map fun m => (m.fst ++ [byte ':'], m.snd)) := by
  rw [← intercalate_eq_row]
  simp only [List.map_map, Function.comp_def, List.append_assoc, List.cons_append, List.nil_append]

theorem closes_row (frame : Frame) (es : List (List UInt8 × List UInt8)) (rest : List UInt8) :
    Closes (row true es ++ byte frame.close :: rest) := by
  intro b hb
  cases es
  case nil =>
    cases hb
    cases frame <;> decide
  case cons =>
    cases hb
    decide

-- However many values are still allowed, the value is passed over, and no more of them are used up than it has bytes.
def Skips (w : List UInt8) : Prop :=
  ∃ left, Blank left ∧ ∃ n ≤ w.length, ∀ most frames rest, Closes rest →
    (skipInside (most + n) frames).run (w ++ rest) = (goOn most frames true).run (left ++ rest)

-- An item that is known to be passed over.
structure Item (frame : Frame) (e : List UInt8 × List UInt8) : Prop where
  front : Front frame e.fst
  value : ∃ depth, Grammar.Value depth e.snd
  skips : Skips e.snd

-- The items of an array or object are passed over one after the other.
theorem run_goOn_row (h : ∀ e ∈ es, Item frame e) (afterItem : Bool) :
    ∃ n ≤ (row afterItem es).length, ∀ most frames before rest, Blank before →
      (goOn (most + n) (frame :: frames) afterItem).run (before ++ (row afterItem es ++ byte frame.close :: rest)) =
        (goOn most frames true).run rest := by
  induction es generalizing afterItem
  case nil =>
    refine ⟨0, Nat.zero_le _, fun most frames before rest hb => ?_⟩
    rw [skipsBlanks_goOn _ _ _ _ _ _ hb]
    exact run_goOn_close frame afterItem
  case cons e es hi =>
    have ⟨⟨hf, ⟨_, hv⟩, left, hl, n, hn, he⟩, hs⟩ := List.forall_mem_cons.mp h
    have ⟨n', hn', hr⟩ := hi hs true
    refine ⟨n' + n, ?_, fun most frames before rest hb => ?_⟩
    case refine_1 =>
      simp only [row, List.length_append]
      omega
    case refine_2 =>
      rw [skipsBlanks_goOn _ _ _ _ _ _ hb]
      simp only [row, List.append_assoc]
      rw [run_goOn_item hf hv, ← Nat.add_assoc, he _ _ _ <| closes_row frame es rest, hr _ _ _ _ hl]

theorem skips_scalar (hw : w ≠ []) (h : ∀ rest, Closes rest → enter.Gives (w ++ rest) none rest) : Skips w := by
  refine ⟨[], nofun, 1, List.length_pos_iff.mpr hw, fun most frames rest hr => ?_⟩
  exact run_skipInside (h rest hr) most frames

-- An array or object that is entered by a character.
theorem skips_entered {c : Char} (hc : ∀ bytes, enter.Gives (byte c :: bytes) (some frame) bytes)
    (h : ∀ e ∈ es, Item frame e) {before : List UInt8} (hb : Blank before) :
    Skips (byte c :: (before ++ (row false es ++ [byte frame.close]))) := by
  have ⟨n, hn, hr⟩ := run_goOn_row h false
  refine ⟨[], nofun, n + 1, ?_, fun most frames rest _ => ?_⟩
  case refine_1 =>
    simp only [List.length_cons, List.length_append]
    omega
  case refine_2 =>
    have he := run_skipInside (hc (before ++ (row false es ++ byte frame.close :: rest))) (most + n) frames
    rw [← Nat.add_assoc]
    simp only [List.cons_append, List.append_assoc, List.nil_append]
    exact he.trans <| hr most frames before rest hb

theorem skips_of_value (h : Grammar.Value depth w) : Skips w := by
  induction h
  case null =>
    refine skips_scalar nofun fun rest _ => ?_
    exact gives_token (by decide) rfl <| (gives_word (by decide) rest).bind <| .pure none rest
  case bool b =>
    cases b
    case false =>
      refine skips_scalar nofun fun rest _ => ?_
      exact gives_token (by decide) rfl <| (gives_word (by decide) rest).bind <| .pure none rest
    case true =>
      refine skips_scalar nofun fun rest _ => ?_
      exact gives_token (by decide) rfl <| (gives_word (by decide) rest).bind <| .pure none rest
  case natural w hu =>
    have ⟨_, _, hw, _⟩ := exists_first_unsigned hu
    exact skips_scalar (hw ▸ List.cons_ne_nil _ _) fun rest hr => gives_enter_natural hu hr
  case negative w hu =>
    refine skips_scalar nofun fun rest hr => ?_
    exact gives_token (by decide) rfl <| (passes_skipNumber hu rest hr).bind <| .pure none rest
  case text w hw =>
    refine skips_scalar nofun fun rest _ => ?_
    rw [quoted, List.cons_append, List.append_assoc]
    exact gives_token (by decide) rfl <| (gives_skipString hw rest).bind <| .pure none rest
  case noItems w hw => exact skips_entered gives_enter_array (List.forall_mem_nil _) hw
  case items ws hv hi =>
    have hm : (ws.map fun w => (([] : List UInt8), w)).map (fun e => e.fst ++ e.snd) = ws := by
      rw [List.map_map]
      exact List.map_id ws
    have he : ∀ e ∈ ws.map fun w => (([] : List UInt8), w), Item .array e :=
      List.forall_mem_map.mpr fun w h => ⟨.item, ⟨_, hv w h⟩, hi w h⟩
    have hs := skips_entered gives_enter_array he blank_nil
    rwa [← intercalate_eq_row, hm] at hs
  case noMembers w hw => exact skips_entered gives_enter_object (List.forall_mem_nil _) hw
  case members ms hl hv hi =>
    have he : ∀ e ∈ ms.map fun m => (m.fst ++ [byte ':'], m.snd), Item .object e :=
      List.forall_mem_map.mpr fun m h => ⟨.member <| hl m h, ⟨_, hv m h⟩, hi m h⟩
    have hs := skips_entered gives_enter_object he blank_nil
    rwa [← intercalate_members] at hs
  case padded before w after hb ha _ hi =>
    have ⟨left, hl, n, hn, hs⟩ := hi
    refine ⟨left ++ after, List.forall_mem_append.mpr ⟨hl, ha⟩, n, ?_, fun most frames rest hr => ?_⟩
    case refine_1 =>
      simp only [List.length_append]
      omega
    case refine_2 =>
      rw [List.append_assoc, skipsBlanks_skipInside _ _ _ _ hb, List.append_assoc, List.append_assoc]
      exact hs most frames _ <| closes_blank ha hr

-- A value that nobody asked for is passed over if its bytes are counted.
theorem gives_skip (h : Grammar.Value depth w) : ∃ left, Blank left ∧ ∀ most rest, w.length ≤ most → Closes rest →
    (skip most).Gives (w ++ rest) () (left ++ rest) := by
  have ⟨left, hl, n, hn, hs⟩ := skips_of_value h
  refine ⟨left, hl, fun most rest hm hr => ?_⟩
  obtain ⟨more, rfl⟩ := Nat.exists_eq_add_of_le' (Nat.le_trans hn hm)
  exact hs more [] rest hr

end Values

end ProcessControl.Json.Reader
