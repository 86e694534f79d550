import Mathlib.Data.List.Forall2
import ProcessControl.Proofs.Json.Answers

namespace ProcessControl.Json.Reader

open Grammar Text

variable {α σ : Type}

-- The reader understands the value, as it is written at this depth, to be `a`.
def ReadsAt (depth : Nat) (r : Reader α) (v : Value) (a : α) : Prop :=
  ∀ rest, Closes rest → r.Gives (Utf8.encode (v.indentedChars depth) ++ rest) a rest

-- A value of texts and natural numbers of 64 bits, with arrays and objects nested at most so deep.
inductive Fits : Nat → Value → Prop
  | null {nesting : Nat} : Fits nesting .null
  | bool {nesting : Nat} (b : Bool) : Fits nesting (.bool b)
  | nat {nesting n : Nat} : n < UInt64.size → Fits nesting (.nat n)
  | str {nesting : Nat} (s : String) : Fits nesting (.str s)
  | arr {nesting : Nat} {items : List Value} : (∀ v ∈ items, Fits nesting v) → Fits (nesting + 1) (.arr items)
  | obj {nesting : Nat} {ms : List (String × Value)} :
    (∀ m ∈ ms, Fits nesting m.snd) → Fits (nesting + 1) (.obj ms)

theorem Fits.of_obj {nesting : Nat} {ms : List (String × Value)} (h : Fits (nesting + 1) (.obj ms)) :
    ∀ m ∈ ms, Fits nesting m.snd := by
  cases h
  assumption

-- A value without parts is written alike in both forms.
theorem Fits.indentedChars {v : Value} (h : Fits 0 v) (depth : Nat) : v.indentedChars depth = v.chars := by
  cases h <;> simp [Value.indentedChars, Value.chars, Value.nat]

theorem Reads.readsAt {r : Reader α} {v : Value} {a : α} (h : r.Reads v a) (hv : Fits 0 v) (depth : Nat) :
    r.ReadsAt depth v a := by
  rw [ReadsAt, hv.indentedChars]
  exact h

-- A value that was written is a whole text.
theorem ReadsAt.readAll {depth : Nat} {r : Reader α} {v : Value} {a : α} (h : r.ReadsAt depth v a) :
    r.readAll (Utf8.encode (v.indentedChars depth)) = .ok a := by
  have hg := h [] nofun
  rw [List.append_nil] at hg
  exact readAll_eq_ok_iff.mpr ⟨[], [], hg, gives_finish⟩

section Lines

open Value.indentedChars (newline)

variable {depth : Nat} {first : Bool} {t : List Char} {ts : List (List Char)} {before after rest : List UInt8}

-- Texts on lines of their own, with commas between them.
def lines (depth : Nat) (first : Bool) : List (List Char) → List Char
  | []      => []
  | t :: ts => separator first ++ newline depth ++ t ++ lines depth false ts

-- What stands before the bracket at the end: the beginning of a line, unless there are no parts.
def lastLine {β : Type} (depth : Nat) (parts : List β) : List Char :=
  if parts.isEmpty then [] else newline depth

-- A member of an object on its line.
def line (depth : Nat) (m : String × Value) : List Char :=
  quote m.fst.toList ++ ':' :: ' ' :: m.snd.indentedChars depth

theorem lines_false (depth : Nat) (t : List Char) (ts : List (List Char)) :
    lines depth false (t :: ts) = ',' :: lines depth true (t :: ts) :=
  rfl

theorem encode_comma (cs : List Char) : Utf8.encode (separator false ++ cs) = byte ',' :: Utf8.encode cs :=
  encode_cons (by decide) cs

theorem elements_eq (depth : Nat) (items : List Value) :
    Value.indentedChars.elements depth items = lines depth true (items.map (·.indentedChars depth)) := by
  induction items
  case nil => rw [Value.indentedChars.elements, List.map_nil, lines]
  case cons v items hi =>
    cases items
    case nil => simp [Value.indentedChars.elements, lines, separator]
    case cons w items =>
      rw [Value.indentedChars.elements, hi]
      · simp [lines, separator]
      · simp

theorem members_eq (depth : Nat) (ms : List (String × Value)) :
    Value.indentedChars.members depth ms = lines depth true (ms.map <| line depth) := by
  induction ms
  case nil => rw [Value.indentedChars.members, List.map_nil, lines]
  case cons m ms hi =>
    cases ms
    case nil => simp [Value.indentedChars.members, lines, separator, line]
    case cons m' ms =>
      rw [Value.indentedChars.members, hi]
      · simp [lines, separator, line]
      · simp

theorem indentedChars_arr (depth : Nat) (items : List Value) : (Value.arr items).indentedChars depth =
    '[' :: (lines (depth + 1) true (items.map (·.indentedChars (depth + 1))) ++ (lastLine depth items ++ [']'])) := by
  cases items
  case nil       => simp [Value.indentedChars, lines, lastLine]
  case cons v vs => simp [Value.indentedChars, elements_eq, lastLine]

theorem indentedChars_obj (depth : Nat) (ms : List (String × Value)) : (Value.obj ms).indentedChars depth =
    '\x7b' :: (lines (depth + 1) true (ms.map <| line <| depth + 1) ++ (lastLine depth ms ++ ['\x7d'])) := by
  cases ms
  case nil       => simp [Value.indentedChars, lines, lastLine]
  case cons m ms => simp [Value.indentedChars, members_eq, lastLine]

theorem encode_arr (depth : Nat) (items : List Value) (rest : List UInt8) :
    Utf8.encode ((Value.arr items).indentedChars depth) ++ rest =
      byte '[' :: (Utf8.encode (lines (depth + 1) true (items.map (·.indentedChars (depth + 1)))) ++
        (Utf8.encode (lastLine depth items) ++ byte ']' :: rest)) := by
  rw [indentedChars_arr, encode_cons (by decide), Utf8.encode_append, Utf8.encode_append, List.cons_append,
    List.append_assoc, List.append_assoc]
  rfl

theorem encode_obj (depth : Nat) (ms : List (String × Value)) (rest : List UInt8) :
    Utf8.encode ((Value.obj ms).indentedChars depth) ++ rest =
      byte '\x7b' :: (Utf8.encode (lines (depth + 1) true (ms.map <| line <| depth + 1)) ++
        (Utf8.encode (lastLine depth ms) ++ byte '\x7d' :: rest)) := by
  rw [indentedChars_obj, encode_cons (by decide), Utf8.encode_append, Utf8.encode_append, List.cons_append,
    List.append_assoc, List.append_assoc]
  rfl

theorem blank_newline (depth : Nat) : Blank (Utf8.encode <| newline depth) := by
  have hc : ∀ c ∈ newline depth, c.toNat < 0x80 ∧ isBlank (byte c) = true := by
    intro c hc
    rcases List.mem_cons.mp hc with rfl | hc
    case inl => decide
    case inr => exact List.eq_of_mem_replicate hc ▸ by decide
  rw [Utf8.encode_eq_map fun c h => (hc c h).left]
  exact List.forall_mem_map.mpr fun c h => (hc c h).right

theorem blank_lastLine {β : Type} (depth : Nat) (parts : List β) : Blank (Utf8.encode <| lastLine depth parts) := by
  unfold lastLine
  split
  case isTrue  => exact blank_nil
  case isFalse => exact blank_newline depth

-- After a value comes a comma, or the end of the array or object that it is in.
theorem closes_lines (depth : Nat) (ts : List (List Char)) (hr : Closes rest) :
    Closes (Utf8.encode (lines depth false ts) ++ rest) := by
  cases ts
  case nil => exact hr
  case cons t ts =>
    intro b hb
    rw [lines_false, encode_cons (by decide)] at hb
    cases hb
    decide

theorem encode_lines_cons (depth : Nat) (first : Bool) (t : List Char) (ts : List (List Char)) :
    Utf8.encode (lines depth first (t :: ts)) =
      Utf8.encode (separator first ++ newline depth) ++ (Utf8.encode t ++ Utf8.encode (lines depth false ts)) := by
  rw [lines, Utf8.encode_append, Utf8.encode_append, List.append_assoc]

-- Each text has a line, and a character of its own on it.
theorem length_le_lines (depth : Nat) (first : Bool) (ts : List (List Char)) :
    ts.length ≤ (lines depth first ts).length ∧ ∀ t ∈ ts, t.length ≤ (lines depth first ts).length := by
  induction ts generalizing first
  case nil => exact ⟨Nat.zero_le _, nofun⟩
  case cons t ts hi =>
    have ⟨hl, ht⟩ := hi false
    have hn : 1 ≤ (newline depth).length := by simp [newline]
    simp only [lines, List.length_append, List.length_cons, List.forall_mem_cons]
    refine ⟨by omega, by omega, fun t' ht' => ?_⟩
    have hl := ht t' ht'
    omega

-- No character takes less than a byte.
theorem length_le_encode (cs : List Char) : cs.length ≤ (Utf8.encode cs).length := by
  induction cs
  case nil => exact Nat.le_refl 0
  case cons c cs hi =>
    have hc : Utf8.encode (c :: cs) = String.utf8EncodeChar c ++ Utf8.encode cs := rfl
    have hp := c.utf8Size_pos
    rw [hc, List.length_append, String.length_utf8EncodeChar, List.length_cons]
    omega

section Arrays

-- The text begins with something that can be seen and does not end an array.
def Opens (t : List Char) : Prop :=
  ∃ c cs, t = c :: cs ∧ visible c = true ∧ c ≠ ']'

theorem toNat_lt_of_visible {c : Char} (h : visible c = true) : c.toNat < 0x80 := by
  simp only [visible, Bool.and_eq_true, decide_eq_true_eq] at h
  exact h.left

-- On the next line something is seen that is no bracket.
theorem gives_seen {k : Option Char → Reader Bool} (ht : Opens t) (hk : ∀ c, c ≠ ']' → k (some c) = pure true)
    (depth : Nat) (rest : List UInt8) :
    (peek? >>= k).Gives (Utf8.encode (newline depth) ++ (Utf8.encode t ++ rest)) true (Utf8.encode t ++ rest) := by
  obtain ⟨c, cs, rfl, hv, hc⟩ := ht
  rw [encode_cons (toNat_lt_of_visible hv), List.cons_append]
  refine (skipsBlanks_peek? _ _ _ <| blank_newline depth).trans <| (gives_peek? hv _).bind ?_
  rw [hk c hc]
  exact .pure true _

theorem gives_nextItem (first : Bool) (depth : Nat) (ht : Opens t) (rest : List UInt8) :
    (nextItem first).Gives (Utf8.encode (separator first ++ newline depth) ++ (Utf8.encode t ++ rest)) true
      (Utf8.encode t ++ rest) := by
  cases first
  case false =>
    rw [encode_comma]
    refine gives_token (by decide) rfl <| gives_seen ht (fun c hc => ?_) depth rest
    split <;> simp_all
  case true =>
    refine gives_seen ht (fun c hc => ?_) depth rest
    split <;> simp_all

theorem gives_noItem (first : Bool) (hb : Blank before) (rest : List UInt8) :
    (nextItem first).Gives (before ++ byte ']' :: rest) false (byte ']' :: rest) :=
  (skipsBlanks_peek? _ _ _ hb).trans <| (gives_peek? (by decide) rest).bind <| .pure false _

-- Items on lines of their own are read one after the other.
theorem gives_items {item : Reader α} {texts : List (List Char)} {as : List α}
    (h : List.Forall₂ (fun t a => Opens t ∧ ∀ rest, Closes rest → item.Gives (Utf8.encode t ++ rest) a rest) texts as)
    {fuel : Nat} (hf : texts.length < fuel) (hb : Blank before) (depth : Nat) (first : Bool) (done : List α)
    (rest : List UInt8) : (items.loop item fuel first done).Gives
      (Utf8.encode (lines depth first texts) ++ (before ++ byte ']' :: rest)) (done.reverse ++ as) rest := by
  induction h generalizing fuel first done
  case nil =>
    cases fuel
    case zero => cases hf
    case succ =>
      rw [List.append_nil]
      exact (gives_noItem first hb rest).bind <| (gives_advance _ _).bind <| .pure _ rest
  case cons t a texts as ht _ hi =>
    cases fuel
    case zero => cases hf
    case succ fuel =>
      have ⟨ho, hg⟩ := ht
      have hc : Closes (before ++ byte ']' :: rest) := closes_blank hb fun b hb => by cases hb; decide
      rw [encode_lines_cons, List.append_assoc, List.append_assoc]
      refine (gives_nextItem first depth ho _).bind <| (hg _ <| closes_lines depth texts hc).bind ?_
      have hi := hi (Nat.lt_of_succ_lt_succ hf) false (a :: done)
      rwa [List.reverse_cons, List.append_assoc] at hi

end Arrays

section Objects

variable {member : σ → String → Reader σ} {d d' : σ} {ms : List (String × Value)}

-- That members on lines of their own, in the order they have, take a state to another one.
inductive Walks (depth : Nat) (member : σ → String → Reader σ) : σ → List (String × Value) → σ → Prop
  | nil (d : σ) : Walks depth member d [] d
  | cons {d d' d'' : σ} {k : String} {v : Value} {ms : List (String × Value)} :
    (∀ rest, Closes rest →
      (member d k).Gives (Utf8.encode (':' :: ' ' :: v.indentedChars depth) ++ rest) d' rest) →
    Walks depth member d' ms d'' → Walks depth member d ((k, v) :: ms) d''

theorem gives_nextName?_line (first : Bool) (depth : Nat) (k : String) (rest : List UInt8) :
    (nextName? first).Gives
      (Utf8.encode (separator first ++ newline depth) ++ (Utf8.encode (quote k.toList) ++ rest)) (some k) rest := by
  have hn := gives_name k rest
  have hp : peek?.Gives (Utf8.encode (quote k.toList) ++ rest) (some '"') (Utf8.encode (quote k.toList) ++ rest) := by
    rw [encode_quote]
    exact gives_peek? (by decide) _
  have hb := blank_newline depth
  cases first
  case false =>
    rw [encode_comma]
    exact gives_token (by decide) rfl <| (skipsBlanks_peek? _ _ _ hb).trans <| hp.bind hn
  case true => exact (skipsBlanks_nextName? true _ _ hb).trans <| hp.bind hn

theorem gives_lines (h : Walks depth member d ms d') {fuel : Nat} (hf : ms.length < fuel) (hb : Blank before)
    (first : Bool) (rest : List UInt8) : (members.loop member fuel first d).Gives
      (Utf8.encode (lines depth first (ms.map <| line depth)) ++ (before ++ byte '\x7d' :: rest)) d' rest := by
  induction h generalizing fuel first
  case nil d =>
    cases fuel
    case zero => cases hf
    case succ =>
      have hn : (nextName? first).Gives (before ++ byte '\x7d' :: rest) none rest :=
        (skipsBlanks_nextName? first _ _ hb).trans <| gives_noName first rest
      exact hn.bind <| .pure d rest
  case cons d d' d'' k v ms hg _ hi =>
    cases fuel
    case zero => cases hf
    case succ fuel =>
      have hc : Closes (before ++ byte '\x7d' :: rest) := closes_blank hb fun b hb => by cases hb; decide
      have hl : Utf8.encode (line depth (k, v)) =
        Utf8.encode (quote k.toList) ++ Utf8.encode (':' :: ' ' :: v.indentedChars depth) := Utf8.encode_append _ _
      rw [List.map_cons, encode_lines_cons, hl, List.append_assoc, List.append_assoc, List.append_assoc]
      refine (gives_nextName?_line first depth k _).bind <| (hg _ <| closes_lines depth _ hc).bind ?_
      exact hi (Nat.lt_of_succ_lt_succ hf) false

theorem gives_after_colon {r : Reader α} {v : Value} {a : α} (hs : r.SkipsBlanks) (h : r.ReadsAt depth v a)
    (hr : Closes rest) : ∃ middle, r.Gives middle a rest ∧
      colon.Gives (Utf8.encode (':' :: ' ' :: v.indentedChars depth) ++ rest) () middle := by
  have hb : Blank [byte ' '] := List.forall_mem_singleton.mpr rfl
  rw [encode_cons (by decide), encode_cons (by decide)]
  exact ⟨_, (hs [byte ' '] _ hb).trans <| h rest hr, gives_colon _⟩

-- A part of a shape is written with a line for each of its members.
theorem walks_entry {known : List (Member σ)} (h : Fills known d ms d') (hv : ∀ m ∈ ms, Fits 0 m.snd)
    (hs : ∀ m ∈ known, ∀ d, (m.read d).SkipsBlanks) (depth most : Nat) : Walks depth (entry known most) d ms d' := by
  induction h
  case nil d => exact .nil d
  case cons d d' d'' m k v ms hm hg hr _ hi =>
    have ⟨hv, hvs⟩ := List.forall_mem_cons.mp hv
    refine .cons (fun rest hc => ?_) <| hi hvs
    have ⟨_, hr, hc⟩ := gives_after_colon (hs m (List.mem_of_find?_eq_some hm) d) (hr.readsAt hv depth) hc
    rw [entry, hm]
    simp only [hg]
    exact hc.bind hr

theorem aggregate_readsAt {known : List (Member σ)} {a : α} {finish : σ → Except Mismatch α} (title : String)
    (h : Fills known d ms d') (ha : finish d' = .ok a) (hv : Fits 1 (.obj ms))
    (hs : ∀ m ∈ known, ∀ d, (m.read d).SkipsBlanks) (depth : Nat) :
    (aggregate title known d finish).ReadsAt depth (.obj ms) a := by
  intro rest _
  rw [encode_obj]
  refine gives_token (by decide) rfl ?_
  have hf : (fromMembers known d).Gives (Utf8.encode (lines (depth + 1) true (ms.map <| line <| depth + 1)) ++
      (Utf8.encode (lastLine depth ms) ++ byte '\x7d' :: rest)) d' rest := by
    refine (gives_bound _).bind ?_
    refine gives_lines (walks_entry h hv.of_obj hs (depth + 1) _) ?_ (blank_lastLine depth ms) true rest
    have hl := (length_le_lines (depth + 1) true (ms.map <| line <| depth + 1)).left
    have he := length_le_encode (lines (depth + 1) true (ms.map <| line <| depth + 1))
    rw [List.length_map] at hl
    rw [List.length_append]
    omega
  refine hf.bind ?_
  rw [ha]
  exact .pure a rest

end Objects

section Values

variable {nesting most : Nat} {v : Value} {ms : List (String × Value)}

theorem exists_first_digits (n : Nat) :
    ∃ c cs, Decimal.digits n = c :: cs ∧ Decimal.isDigit c = true := by
  have ⟨c, cs, hd⟩ : ∃ c cs, Decimal.digits n = c :: cs := List.exists_cons_of_ne_nil Nat.toDigits_ne_nil
  exact ⟨c, cs, hd, Decimal.isDigit_of_mem_digits <| hd ▸ List.mem_cons_self⟩

theorem Fits.opens (h : Fits nesting v) (depth : Nat) : Opens (v.indentedChars depth) := by
  cases h
  case null   => exact ⟨_, _, rfl, by decide, by decide⟩
  case bool b => cases b <;> exact ⟨_, _, rfl, by decide, by decide⟩
  case nat n _ =>
    have ⟨c, cs, hd, hc⟩ := exists_first_digits n
    refine ⟨c, cs, hd, visible_of_isDigit hc, ?_⟩
    rintro rfl
    contradiction
  case str s  => exact ⟨_, _, rfl, by decide, by decide⟩
  case arr    => exact ⟨_, _, indentedChars_arr depth _, by decide, by decide⟩
  case obj    => exact ⟨_, _, indentedChars_obj depth _, by decide, by decide⟩

theorem value_reads_null (most nesting : Nat) : (value most nesting).Reads .null .null := by
  intro rest _
  have hc : Value.null.chars = 'n' :: "ull".toList := rfl
  rw [hc, encode_cons (by decide), List.cons_append]
  unfold value
  exact gives_token (by decide) rfl <| (gives_word (by decide) rest).bind <| .pure Value.null rest

theorem value_reads_bool (most nesting : Nat) (b : Bool) : (value most nesting).Reads (.bool b) (.bool b) := by
  intro rest _
  cases b
  case false =>
    have hc : (Value.bool false).chars = 'f' :: "alse".toList := rfl
    rw [hc, encode_cons (by decide), List.cons_append]
    unfold value
    exact gives_token (by decide) rfl <| (gives_word (by decide) rest).bind <| .pure (Value.bool false) rest
  case true =>
    have hc : (Value.bool true).chars = 't' :: "rue".toList := rfl
    rw [hc, encode_cons (by decide), List.cons_append]
    unfold value
    exact gives_token (by decide) rfl <| (gives_word (by decide) rest).bind <| .pure (Value.bool true) rest

theorem value_reads_nat {n : Nat} (hn : n < UInt64.size) (most nesting : Nat) :
    (value most nesting).Reads (.nat n) (.nat n) := by
  intro rest hr
  have ⟨c, cs, hd, hc⟩ := exists_first_digits n
  have hg := gives_number hn hr
  have hv : (Value.nat n).chars = Decimal.digits n := rfl
  rw [hd, encode_cons <| toNat_lt_of_isDigit hc, List.cons_append] at hg
  rw [hv, hd, encode_cons <| toNat_lt_of_isDigit hc, List.cons_append, Gives, run_value_digit hc]
  exact hg.bind <| .pure (Value.nat n) rest

theorem value_reads_str (most nesting : Nat) (s : String) : (value most nesting).Reads (.str s) (.str s) := by
  intro rest _
  rw [Value.chars, encode_quote, List.cons_append]
  unfold value
  exact gives_token (by decide) rfl <| (gives_rest s rest).bind <| .pure (Value.str s) rest

-- The members are kept as they come, the last one first.
theorem walks_kept (h : ∀ m ∈ ms, (value most nesting).ReadsAt depth m.snd m.snd) (done : List (String × Value)) :
    Walks depth (fun done name => do colon; return (name, ← value most nesting) :: done) done ms
      (ms.reverse ++ done) := by
  induction ms generalizing done
  case nil => exact .nil done
  case cons m ms hi =>
    have ⟨hm, hms⟩ := List.forall_mem_cons.mp h
    have hi := hi hms (m :: done)
    rw [List.reverse_cons, List.append_assoc]
    refine .cons (fun rest hr => ?_) hi
    have ⟨_, hv, hc⟩ := gives_after_colon (skipsBlanks_value most nesting) hm hr
    exact hc.bind <| hv.bind <| .pure _ rest

-- An array or object has more characters than parts, and more than each of the parts.
theorem length_lines_lt {cs : List Char} (ts : List (List Char)) (depth : Nat) (o : Char)
    (h : (o :: (lines depth true ts ++ cs)).length < most) : ts.length < most ∧ ∀ t ∈ ts, t.length < most := by
  have ⟨hl, ht⟩ := length_le_lines depth true ts
  rw [List.length_cons, List.length_append] at h
  refine ⟨by omega, fun t hm => ?_⟩
  have hm := ht t hm
  omega

-- The induction is on the nesting: what is read of a part does not hang on the array or object that it is in.
theorem value_readsAt (h : Fits nesting v) (depth : Nat) (hm : (v.indentedChars depth).length < most) :
    (value most nesting).ReadsAt depth v v := by
  induction h generalizing depth
  case null       => exact (value_reads_null most _).readsAt .null depth
  case bool b     => exact (value_reads_bool most _ b).readsAt (.bool b) depth
  case nat n hn   => exact (value_reads_nat hn most _).readsAt (.nat hn) depth
  case str s      => exact (value_reads_str most _ s).readsAt (.str s) depth
  case arr nesting vs hf hi =>
    intro rest _
    rw [indentedChars_arr] at hm
    obtain ⟨hl, ht⟩ := length_lines_lt _ _ _ hm
    rw [encode_arr]
    unfold value
    refine gives_token (by decide) rfl ?_
    have hv : List.Forall₂ (fun t v => Opens t ∧ ∀ rest, Closes rest →
        (value most nesting).Gives (Utf8.encode t ++ rest) v rest) (vs.map (·.indentedChars (depth + 1))) vs := by
      rw [List.forall₂_map_left_iff, List.forall₂_same]
      exact fun v hv => ⟨(hf v hv).opens _, hi v hv (depth + 1) <| ht _ <| List.mem_map_of_mem hv⟩
    exact (gives_items hv hl (blank_lastLine depth vs) (depth + 1) true [] rest).bind <| .pure (Value.arr vs) rest
  case obj nesting ms hf hi =>
    intro rest _
    rw [indentedChars_obj] at hm
    obtain ⟨hl, ht⟩ := length_lines_lt _ _ _ hm
    rw [encode_obj]
    unfold value
    refine gives_token (by decide) rfl ?_
    have hp : ∀ m ∈ ms, (value most nesting).ReadsAt (depth + 1) m.snd m.snd := fun m hm => by
      have hm' := ht _ <| List.mem_map_of_mem hm
      refine hi m hm (depth + 1) <| Nat.lt_of_le_of_lt ?_ hm'
      simp only [line, List.length_append, List.length_cons]
      omega
    have hk := walks_kept hp []
    rw [List.length_map] at hl
    rw [List.append_nil] at hk
    refine (gives_lines hk hl (blank_lastLine depth ms) true rest).bind ?_
    rw [List.reverse_reverse]
    exact .pure (Value.obj ms) rest

-- No nesting that is kept is too deep for a text as a whole.
theorem readAll_indented (h : Fits nestingLimit v) : anyValue.readAll (Utf8.encode v.indented.toList) = .ok v := by
  have hr : anyValue.ReadsAt 0 v v := by
    intro rest hr
    have hl := length_le_encode (v.indentedChars 0)
    refine (gives_bound _).bind <| value_readsAt h 0 ?_ rest hr
    rw [List.length_append]
    omega
  rw [Value.indented, String.toList_ofList]
  exact hr.readAll

end Values

end Lines

end ProcessControl.Json.Reader
