import Mathlib.Tactic.Choose
import ProcessControl.Proofs.Json.Details
import ProcessControl.Proofs.Json.Shape

namespace ProcessControl.Json

open Reader Grammar

variable {α : Type}

namespace Grammar

-- A member of an object.
def member (first : Bool) (k : String) (w : List UInt8) : List UInt8 :=
  Text.Utf8.encode (separator first ++ quote k.toList) ++ byte ':' :: w

-- An object of two members.
def pair (k : String) (w : List UInt8) (k' : String) (w' : List UInt8) : List UInt8 :=
  byte '\x7b' :: (member true k w ++ (member false k' w' ++ [byte '\x7d']))

example : pair "a" [0x31] "b" [0x32] = Text.Utf8.encode "\x7b\"a\":1,\"b\":2\x7d".toList := by decide

end Grammar

section Objects

variable {σ : Type} {step : σ → String → Reader σ} {next : Reader σ} {s s' : σ} {t : Tagging α} {d : Details α}
  {most fuel : Nat} {first : Bool} {k : String} {w w' before left bytes rest : List UInt8} {v : Value}

theorem skipsBlanks_nextName? (first : Bool) : (nextName? first).SkipsBlanks :=
  skipsBlanks_peek? _

theorem closes_member (k : String) (w rest : List UInt8) : Closes (Grammar.member false k w ++ rest) := by
  intro b hb
  cases hb
  decide

theorem closes_brace : Closes [byte '\x7d'] := by
  intro b hb
  cases hb
  decide

-- The reader of members goes on with what stands after the colon of the next one.
theorem loop_member_iff (hb : Blank before) (hs : step s k = do colon; next) :
    (members.loop step (fuel + 1) first s).Gives (before ++ (Grammar.member first k w ++ rest)) s' bytes ↔
      (next >>= members.loop step fuel false).Gives (w ++ rest) s' bytes := by
  have hn : (nextName? first).Gives (before ++ (Grammar.member first k w ++ rest)) (some k)
      (byte ':' :: (w ++ rest)) := by
    rw [Gives, skipsBlanks_nextName? first _ _ hb, Grammar.member, List.append_assoc]
    exact gives_nextName? first k _
  rw [members.loop, hn.bind_iff]
  dsimp only
  rw [hs, bind_assoc, (gives_colon _).bind_iff]

theorem loop_first_iff (hs : step s k = do colon; next) :
    (members.loop step (fuel + 1) first s).Gives (Grammar.member first k w ++ rest) s' bytes ↔
      (next >>= members.loop step fuel false).Gives (w ++ rest) s' bytes := by
  rw [← List.nil_append (Grammar.member first k w ++ rest)]
  exact loop_member_iff blank_nil hs

theorem loop_brace_iff (hb : Blank before) :
    (members.loop step (fuel + 1) first s).Gives (before ++ [byte '\x7d']) s' bytes ↔ s = s' ∧ [] = bytes := by
  have hn : (nextName? first).Gives (before ++ [byte '\x7d']) none [] := by
    rw [Gives, skipsBlanks_nextName? first _ _ hb]
    exact gives_noName first []
  rw [members.loop, hn.bind_iff]
  exact (Gives.pure s []).iff

theorem answers_oneOf (words : List (String × α)) (h : Label w) :
    ∃ left, Blank left ∧ ∃ answer?, (oneOf words).Answers w left answer? := by
  cases h
  case mk before w after hb hw ha =>
    have ⟨answer?, hs⟩ := (settled_string hw).answers
    have hr (rest : List UInt8) : (oneOf words).run (quoted w ++ rest) =
        (string >>= ofWord words).run (w ++ [byte '"'] ++ rest) := run_token (by decide) rfl _
    have ho := hs.bind fun s => answers_ofWord words s []
    exact ⟨after, ha, _, (ho.congr hr).padded (skipsBlanks_peek? _) hb ha⟩

section Orders

variable (hn : t.detailsName ≠ t.tagName)

theorem member_tag : t.member most .fresh t.tagName = do colon; return .tagged (← oneOf t.alternatives) := by
  simp [Tagging.member]

theorem member_kept_tag : t.member most (.buffered v) t.tagName = do
    colon
    let d ← oneOf t.alternatives
    return .finished (← accept (d.ofValue v)) := by
  simp [Tagging.member]

include hn

theorem member_details : t.member most (.tagged d) t.detailsName = do colon; return .finished (← d.read) := by
  simp [Tagging.member, hn]

theorem member_kept_details :
    t.member most .fresh t.detailsName = do colon; return .buffered (← value most Tagging.bufferLimit) := by
  simp [Tagging.member, hn]

end Orders

-- A value that was kept is all that is known until a tag makes something of it.
theorem member_buffered (k : String) :
    (t.member most (.buffered v) k).GivesOnly fun p => p = .buffered v ∨ ∃ d : Details α, ∃ a, d.ofValue v = .ok a := by
  unfold Tagging.member
  split_ifs
  case pos =>
    refine .after fun _ => .after fun d bytes p rest h => ?_
    have ⟨a, _, ha, _⟩ := gives_bind_iff.mp h
    exact .inr ⟨d, a, (gives_accept_iff.mp ha).left⟩
  case pos => exact givesOnly_refuse _
  case neg => exact .after fun _ => .after fun _ => givesOnly_pure <| .inl rfl

theorem loop_buffered {p : Tagging.Progress α}
    (h : (members.loop (t.member most) fuel first (.buffered v)).Gives bytes p rest) :
    p = .buffered v ∨ ∃ d : Details α, ∃ a, d.ofValue v = .ok a := by
  induction fuel generalizing first bytes
  case zero => contradiction
  case succ fuel hi =>
    have ⟨k?, middle, _, hk⟩ := gives_bind_iff.mp h
    cases k?
    case none   => exact .inl ((Gives.pure _ middle).iff.mp hk).left.symm
    case some =>
      have ⟨p', middle', hm, hl⟩ := gives_bind_iff.mp hk
      cases member_buffered _ _ _ _ hm
      case inl hp => exact hi (hp ▸ hl)
      case inr hd => exact .inr hd

section Orders

variable {d? : Option (Details α)} {answer? : Details α → Option α} {after : List UInt8} {a : α} (hb : Blank left)
  (ht : (oneOf t.alternatives).Answers w left d?) (hn : t.detailsName ≠ t.tagName) (hb' : Blank after)

include hb ht hn hb'

theorem tag_first_iff (hd : ∀ d : Details α, d.read.Answers w' after (answer? d)) :
    (∃ p, (members.loop (t.member most) (fuel + 3) true .fresh).Gives
      (Grammar.member true t.tagName w ++ (Grammar.member false t.detailsName w' ++ [byte '\x7d'])) p bytes ∧
      t.ofProgress p = .ok a) ↔ d?.bind answer? = some a ∧ [] = bytes := by
  simp only [loop_first_iff member_tag, bind_assoc, ht.bind_iff <| closes_member _ _ _]
  cases d?
  case none => simp
  case some d =>
    simp only [Option.some.injEq, exists_eq_left', pure_bind, Option.bind_some, loop_member_iff hb (member_details hn),
      bind_assoc, (hd d).bind_iff closes_brace, loop_brace_iff hb']
    constructor
    case mp =>
      intro ⟨p, ⟨a', ha, hp, he⟩, ho⟩
      exact ⟨ha.trans <| congrArg some <| Except.ok.inj <| hp ▸ ho, he⟩
    case mpr =>
      intro ⟨ha, he⟩
      exact ⟨.finished a, ⟨a, ha, rfl, he⟩, rfl⟩

theorem tag_last_iff (hd : ∀ (d : Details α) most depth, (d.readKept most depth).Answers w' after (answer? d)) :
    (∃ p, (members.loop (t.member most) (fuel + 3) true .fresh).Gives
      (Grammar.member true t.detailsName w' ++ (Grammar.member false t.tagName w ++ [byte '\x7d'])) p bytes ∧
      t.ofProgress p = .ok a) ↔ d?.bind answer? = some a ∧ [] = bytes := by
  have hc := closes_member t.tagName w [byte '\x7d']
  constructor
  case mp =>
    intro ⟨p, hg, hp⟩
    rw [loop_first_iff (member_kept_details hn), bind_assoc] at hg
    have ⟨v, middle, hv, hl⟩ := gives_bind_iff.mp hg
    -- What is left after the value is known only of a value that some details accept; no tag makes anything of others.
    have ⟨d', a', ha'⟩ : ∃ d : Details α, ∃ a, d.ofValue v = .ok a := by
      cases loop_buffered hl
      case inl he => rw [he] at hp; contradiction
      case inr hd => exact hd
    have hk (d : Details α) (a : α) (ha : d.ofValue v = .ok a) :=
      (hd d most Tagging.bufferLimit _ hc a middle).mp <| hv.bind <| gives_accept_iff.mpr ⟨ha, rfl⟩
    rw [(hk d' a' ha').right, pure_bind, loop_member_iff hb' member_kept_tag, bind_assoc,
      ht.bind_iff closes_brace] at hl
    have ⟨d, hd?, hf⟩ := hl
    cases ho : d.ofValue v
    case error =>
      rw [ho] at hf
      contradiction
    case ok b =>
      rw [ho] at hf
      have ⟨hb, he⟩ := (loop_brace_iff hb).mp hf
      have hba : b = a := Except.ok.inj (hb ▸ hp)
      exact ⟨hd? ▸ hba ▸ (hk d b ho).left, he⟩
  case mpr =>
    intro ⟨ha, he⟩
    have ⟨d, hd?, ha⟩ := Option.bind_eq_some_iff.mp ha
    have ⟨v, middle, hv, hl⟩ := gives_bind_iff.mp <| (hd d most Tagging.bufferLimit _ hc a _).mpr ⟨ha, rfl⟩
    have ⟨ho, hm⟩ := gives_accept_iff.mp hl
    refine ⟨.finished a, ?_, rfl⟩
    rw [loop_first_iff (member_kept_details hn), bind_assoc, hv.bind_iff, pure_bind, hm,
      loop_member_iff hb' member_kept_tag, bind_assoc, ht.bind_iff closes_brace]
    refine ⟨d, hd?, ?_⟩
    rw [ho]
    exact (loop_brace_iff hb).mpr ⟨rfl, he⟩

end Orders

theorem gives_bound (bytes : List UInt8) : bound.Gives bytes (bytes.length + 1) bytes :=
  rfl

-- A name has two quotes.
theorem two_le_length_member (k : String) (w rest : List UInt8) : 2 ≤ (Grammar.member true k w ++ rest).length := by
  have hq : Grammar.member true k w =
      byte '"' :: Text.Utf8.encode (k.toList.flatMap escape ++ ['"']) ++ byte ':' :: w := by
    rw [← encode_quote]
    rfl
  rw [hq, List.length_append, List.length_append, List.length_cons, List.length_cons]
  omega

-- An object with a member is read with a bound that is large enough for two members and the brace.
theorem read_object_iff (t : Tagging α) (k : String) (w rest : List UInt8) : ∃ most fuel, ∀ a left,
    t.read.Gives (byte '\x7b' :: (Grammar.member true k w ++ rest)) a left ↔
      ∃ p, (members.loop (t.member most) (fuel + 3) true .fresh).Gives (Grammar.member true k w ++ rest) p left ∧
        t.ofProgress p = .ok a := by
  have hl := two_le_length_member k w rest
  generalize Grammar.member true k w ++ rest = body at hl ⊢
  obtain ⟨fuel, hf⟩ : ∃ fuel, body.length + 1 = fuel + 3 := Nat.exists_eq_add_of_le' (by omega)
  have hr : t.read.run (byte '\x7b' :: body) =
      (do accept (t.ofProgress (← members (← bound) (t.member (← bound)) .fresh)) : Reader α).run body :=
    run_token (by decide) rfl body
  refine ⟨fuel + 3, fuel, fun a left => ?_⟩
  rw [Gives, hr, (gives_bound _).run_bind, (gives_bound _).run_bind, hf, ← Gives, gives_bind_iff]
  constructor
  case mp =>
    rintro ⟨p, middle, hp, ha⟩
    obtain ⟨ha, hm⟩ := gives_accept_iff.mp ha
    exact ⟨p, hm ▸ hp, ha⟩
  case mpr =>
    rintro ⟨p, hp, ha⟩
    exact ⟨p, left, hp, gives_accept_iff.mpr ⟨ha, rfl⟩⟩

-- It does not matter whether the tag or the details come first.
theorem readAll_either_order {depth : Nat} (t : Tagging α) (hn : t.detailsName ≠ t.tagName) (hw : Label w)
    (hw' : Grammar.Value depth w') (a : α) : t.read.readAll (pair t.tagName w t.detailsName w') = .ok a ↔
      t.read.readAll (pair t.detailsName w' t.tagName w) = .ok a := by
  have ⟨left, hb, d?, ht⟩ := answers_oneOf t.alternatives hw
  have ⟨after, hb', hd⟩ := interchangeable_of_value (α := α) hw'
  choose answer? hr hk using hd
  have ⟨_, _, hf⟩ := read_object_iff t t.tagName w (Grammar.member false t.detailsName w' ++ [byte '\x7d'])
  have ⟨_, _, hl⟩ := read_object_iff t t.detailsName w' (Grammar.member false t.tagName w ++ [byte '\x7d'])
  have hg (a : α) (rest : List UInt8) : t.read.Gives (pair t.tagName w t.detailsName w') a rest ↔
      t.read.Gives (pair t.detailsName w' t.tagName w) a rest := by
    rw [pair, pair, hf, hl, tag_first_iff hb ht hn hb' hr, tag_last_iff hb ht hn hb' hk]
  simp only [readAll_eq_ok_iff, hg]

section Written

variable {k : String} {v : Value} {a : α}

theorem gives_finish : finish.Gives [] () [] :=
  rfl

theorem encode_spelled (first : Bool) (k : String) (v : Value) (ms : List (String × Value)) :
    Text.Utf8.encode (spelled first ((k, v) :: ms)) =
      Grammar.member first k (Text.Utf8.encode v.chars) ++ Text.Utf8.encode (spelled false ms) := by
  rw [spelled_cons, Text.Utf8.encode_append, List.cons_append, encode_cons (by decide), Text.Utf8.encode_append v.chars,
    Grammar.member, List.append_assoc, List.cons_append]

theorem encode_object (ms : List (String × Value)) : Text.Utf8.encode (Value.obj ms).render.toList =
    byte '\x7b' :: (Text.Utf8.encode (spelled true ms) ++ [byte '\x7d']) := by
  have hc : (Value.obj ms).chars = '\x7b' :: (spelled true ms ++ ['\x7d']) := rfl
  rw [Value.render, String.toList_ofList, hc, encode_cons (by decide), Text.Utf8.encode_append]
  rfl

-- An alternative with details, as it is written.
theorem readAll_tagged (hn : t.detailsName ≠ t.tagName) (hk : t.alternatives.lookup k = some d)
    (hd : d.read.Reads v a) :
    t.read.readAll (Text.Utf8.encode (Value.obj [(t.tagName, .str k), (t.detailsName, v)]).render.toList) = .ok a := by
  have hp : Text.Utf8.encode (Value.obj [(t.tagName, .str k), (t.detailsName, v)]).render.toList =
      pair t.tagName (Text.Utf8.encode (Value.str k).chars) t.detailsName (Text.Utf8.encode v.chars) := by
    rw [encode_object, encode_spelled, encode_spelled, spelled_nil, pair, List.append_assoc, List.append_assoc]
    rfl
  have ⟨_, _, hf⟩ := read_object_iff t t.tagName (Text.Utf8.encode (Value.str k).chars)
    (Grammar.member false t.detailsName (Text.Utf8.encode v.chars) ++ [byte '\x7d'])
  rw [hp, readAll_eq_ok_iff, pair]
  refine ⟨[], [], (hf a []).mpr ⟨.finished a, ?_, rfl⟩, gives_finish⟩
  rw [loop_first_iff member_tag, bind_assoc, (reads_oneOf hk _ <| closes_member _ _ _).bind_iff, pure_bind,
    loop_first_iff (member_details hn), bind_assoc, (hd _ closes_brace).bind_iff, pure_bind]
  exact (loop_brace_iff blank_nil).mpr ⟨rfl, rfl⟩

-- An alternative without details.
theorem readAll_tag (hk : t.alternatives.lookup k = some d) (ha : d.absent? = some a) :
    t.read.readAll (Text.Utf8.encode (Value.obj [(t.tagName, .str k)]).render.toList) = .ok a := by
  have hp : Text.Utf8.encode (Value.obj [(t.tagName, .str k)]).render.toList =
      byte '\x7b' :: (Grammar.member true t.tagName (Text.Utf8.encode (Value.str k).chars) ++ [byte '\x7d']) := by
    rw [encode_object, encode_spelled, spelled_nil, List.append_assoc]
    rfl
  have ⟨_, _, hf⟩ := read_object_iff t t.tagName (Text.Utf8.encode (Value.str k).chars) [byte '\x7d']
  have ho : t.ofProgress (.tagged d) = .ok a := by
    rw [Tagging.ofProgress, ha]
  rw [hp, readAll_eq_ok_iff]
  refine ⟨[], [], (hf a []).mpr ⟨.tagged d, ?_, ho⟩, gives_finish⟩
  rw [loop_first_iff member_tag, bind_assoc, (reads_oneOf hk _ closes_brace).bind_iff, pure_bind]
  exact (loop_brace_iff blank_nil).mpr ⟨rfl, rfl⟩

end Written

end Objects

end ProcessControl.Json
