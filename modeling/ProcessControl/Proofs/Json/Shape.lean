import ProcessControl.Proofs.Json.Number
import ProcessControl.Proofs.Json.Text

namespace ProcessControl.Json.Reader

open Text

variable {α β σ : Type}

-- The reader understands the value, as it is written, to be `a`.
def Reads (r : Reader α) (v : Value) (a : α) : Prop :=
  ∀ rest, Closes rest → r.Gives (Utf8.encode v.chars ++ rest) a rest

theorem Reads.map {r : Reader α} {v : Value} {a : α} (h : r.Reads v a) (f : α → β) :
    (do return f (← r) : Reader β).Reads v (f a) :=
  fun rest hr => (h rest hr).bind <| .pure (f a) rest

theorem reads_natural {n limit : Nat} (expected : String) (hn : n < UInt64.size) (hl : n < limit) :
    (natural limit expected).Reads (.nat n) n := by
  intro rest hr
  have hc : (Value.nat n).chars = Decimal.digits n := rfl
  exact hc ▸ gives_natural expected hn hl hr

theorem reads_boolean (b : Bool) : boolean.Reads (.bool b) b := by
  intro rest _
  cases b
  case false =>
    have hc : (Value.bool false).chars = 'f' :: "alse".toList := rfl
    rw [hc, encode_cons (by decide), List.cons_append]
    exact gives_token (by decide) rfl <|
      (gives_word (by decide) rest).bind <| .pure false rest
  case true =>
    have hc : (Value.bool true).chars = 't' :: "rue".toList := rfl
    rw [hc, encode_cons (by decide), List.cons_append]
    exact gives_token (by decide) rfl <|
      (gives_word (by decide) rest).bind <| .pure true rest

section Texts

variable {a : α} {words : List (String × α)} {w : String}

theorem encode_quote (cs : List Char) :
    Utf8.encode (quote cs) = byte '"' :: Utf8.encode (cs.flatMap escape ++ ['"']) :=
  encode_cons (by decide) _

-- A text after its opening quote.
theorem gives_rest (s : String) (rest : List UInt8) :
    string.Gives (Utf8.encode (s.toList.flatMap escape ++ ['"']) ++ rest) s rest := by
  have hs := gives_string s.toList rest
  rw [String.ofList_toList] at hs
  exact hs

theorem reads_text (s : String) : text.Reads (.str s) s := by
  intro rest _
  rw [Value.chars, encode_quote]
  exact gives_token (by decide) rfl <| gives_rest s rest

theorem gives_ofWord (h : words.lookup w = some a) (rest : List UInt8) : (ofWord words w).Gives rest a rest := by
  rw [ofWord, h]
  exact .pure a rest

theorem reads_oneOf (h : words.lookup w = some a) : (oneOf words).Reads (.str w) a := by
  intro rest _
  rw [Value.chars, encode_quote]
  exact gives_token (by decide) rfl <|
    (gives_rest w rest).bind <| gives_ofWord h rest

theorem reads_none (item : Reader α) : (optional item).Reads .null none := by
  intro rest _
  have hc : Value.null.chars = 'n' :: "ull".toList := rfl
  rw [hc, encode_cons (by decide), List.cons_append]
  exact gives_token (by decide) rfl <|
    (gives_word (by decide) rest).bind <| .pure none rest

theorem reads_some {item : Reader α} {s : String} (h : item.Reads (.str s) a) :
    (optional item).Reads (.str s) (some a) := by
  intro rest hr
  have hi := h rest hr
  rw [Value.chars, encode_quote] at hi ⊢
  exact (gives_peek? (by decide) _).bind <| hi.bind <| .pure (some a) rest

end Texts

section Objects

variable {known : List (Member σ)} {m : Member σ} {d d' : σ} {k : String} {v : Value} {ms : List (String × Value)}

-- That members of an object, in the order they have, take a draft to another one.
inductive Fills (known : List (Member σ)) : σ → List (String × Value) → σ → Prop
  | nil (d : σ) : Fills known d [] d
  | cons {d d' d'' : σ} {m : Member σ} {k : String} {v : Value} {ms : List (String × Value)} :
    known.find? (·.name == k) = some m → m.given d = false → (m.read d).Reads v d' → Fills known d' ms d'' →
    Fills known d ((k, v) :: ms) d''

theorem gives_entry (hm : known.find? (·.name == k) = some m) (hg : m.given d = false) (h : (m.read d).Reads v d')
    (most : Nat) {rest : List UInt8} (hr : Closes rest) :
    (entry known most d k).Gives (Utf8.encode (':' :: v.chars) ++ rest) d' rest := by
  rw [entry, hm, encode_cons (by decide), List.cons_append]
  simp only [hg]
  exact (gives_colon _).bind <| h rest hr

-- What stands before the name of a member.
def separator (first : Bool) : List Char :=
  if first then [] else [',']

-- The members of an object, or those that come after another one, up to the brace.
def spelled (first : Bool) (ms : List (String × Value)) : List Char :=
  if first then Value.chars.members ms
  else ms.flatMap fun (k, v) => separator false ++ quote k.toList ++ ':' :: v.chars

theorem members_cons (k : String) (v : Value) (ms : List (String × Value)) :
    Value.chars.members ((k, v) :: ms) = quote k.toList ++ ':' :: v.chars ++ spelled false ms := by
  induction ms generalizing k v
  case nil =>
    rw [Value.chars.members]
    exact (List.append_nil _).symm
  case cons p ms hi =>
    rw [Value.chars.members, hi p.fst p.snd]
    · simp [spelled, separator]
    · exact nofun

theorem spelled_cons (first : Bool) (k : String) (v : Value) (ms : List (String × Value)) :
    spelled first ((k, v) :: ms) = separator first ++ quote k.toList ++ (':' :: v.chars ++ spelled false ms) := by
  cases first
  case false => simp [spelled]
  case true  => simp [spelled, separator, members_cons]

theorem spelled_nil (first : Bool) : spelled first [] = [] := by
  cases first <;> rfl

-- An object goes on with a comma or ends with a brace.
theorem closes_spelled (ms : List (String × Value)) (rest : List UInt8) :
    Closes (Utf8.encode (spelled false ms ++ ['\x7d']) ++ rest) := by
  intro b hb
  cases ms
  case nil =>
    cases hb
    decide
  case cons =>
    cases hb
    decide

theorem gives_name (k : String) (rest : List UInt8) :
    (nextName?.name '"').Gives (Utf8.encode (quote k.toList) ++ rest) (some k) rest :=
  (gives_advance _ _).bind <| (gives_rest k rest).bind <| .pure (some k) rest

theorem gives_nextName? (first : Bool) (k : String) (rest : List UInt8) :
    (nextName? first).Gives (Utf8.encode (separator first ++ quote k.toList) ++ rest) (some k) rest := by
  have hn := gives_name k rest
  have hq := encode_quote k.toList
  have hp := gives_peek? (c := '"') (by decide) (Utf8.encode (k.toList.flatMap escape ++ ['"']) ++ rest)
  cases first
  case false =>
    have hs : Utf8.encode (separator false ++ quote k.toList) = byte ',' :: Utf8.encode (quote k.toList) :=
      encode_cons (by decide) _
    rw [hs, hq] at *
    exact gives_token (by decide) rfl <| hp.bind hn
  case true =>
    rw [separator, if_pos rfl, List.nil_append, hq] at *
    exact hp.bind hn

theorem gives_noName (first : Bool) (rest : List UInt8) : (nextName? first).Gives (byte '\x7d' :: rest) none rest :=
  gives_token (by decide) rfl <| .pure none rest

-- The members in front of the brace are read one after the other, each from what the one before it left.
theorem gives_members (h : Fills known d ms d') {most fuel : Nat} (hf : ms.length < fuel) (first : Bool)
    (rest : List UInt8) : (members.loop (entry known most) fuel first d).Gives
      (Utf8.encode (spelled first ms ++ ['\x7d']) ++ rest) d' rest := by
  induction h generalizing fuel first
  case nil d =>
    cases fuel
    case zero => cases hf
    case succ =>
      rw [spelled_nil]
      exact (gives_noName first rest).bind <| .pure d rest
  case cons d d' d'' m k v ms hm hg hv _ hi =>
    cases fuel
    case zero => cases hf
    case succ fuel =>
      have he : Utf8.encode (spelled first ((k, v) :: ms) ++ ['\x7d']) =
          Utf8.encode (separator first ++ quote k.toList) ++
            (Utf8.encode (':' :: v.chars) ++ Utf8.encode (spelled false ms ++ ['\x7d'])) := by
        simp only [spelled_cons, ← Utf8.encode_append, List.append_assoc]
      rw [he, List.append_assoc, List.append_assoc]
      refine (gives_nextName? first k _).bind ?_
      refine (gives_entry hm hg hv most <| closes_spelled ms rest).bind ?_
      exact hi (Nat.lt_of_succ_lt_succ hf) false

-- No object has more members than bytes.
theorem length_le_spelled (first : Bool) (ms : List (String × Value)) :
    ms.length ≤ (Utf8.encode (spelled first ms)).length := by
  induction ms generalizing first
  case nil => exact Nat.zero_le _
  case cons p ms hi =>
    obtain ⟨k, v⟩ := p
    have h := hi false
    have hc (cs : List Char) : Utf8.encode (':' :: cs) = byte ':' :: Utf8.encode cs := encode_cons (by decide) cs
    simp only [spelled_cons, List.cons_append, Utf8.encode_append, hc, List.length_cons, List.length_append]
    omega

-- An object of known members is read to what its full draft stands for.
theorem reads_aggregate {a : α} {empty full : σ} {finish : σ → Except Mismatch α} (title : String)
    (h : Fills known empty ms full) (ha : finish full = .ok a) :
    (aggregate title known empty finish).Reads (.obj ms) a := by
  intro rest _
  have hc : Utf8.encode (Value.obj ms).chars ++ rest =
      byte '\x7b' :: (Utf8.encode (spelled true ms ++ ['\x7d']) ++ rest) := by
    rw [Value.chars, List.cons_append, encode_cons (by decide)]
    rfl
  rw [hc]
  refine gives_token (by decide) rfl ?_
  have hf : (fromMembers known empty).Gives (Utf8.encode (spelled true ms ++ ['\x7d']) ++ rest) full rest := by
    refine Gives.bind (a := (Utf8.encode (spelled true ms ++ ['\x7d']) ++ rest).length + 1) rfl ?_
    refine gives_members h ?_ true rest
    have hl := length_le_spelled true ms
    rw [Utf8.encode_append, List.length_append, List.length_append]
    omega
  refine hf.bind ?_
  rw [ha]
  exact .pure a rest

end Objects

-- A value that was written is a whole text.
theorem Reads.readAll {r : Reader α} {v : Value} {a : α} (h : r.Reads v a) :
    r.readAll (Utf8.encode v.render.toList) = .ok a := by
  have hg := h [] nofun
  rw [List.append_nil] at hg
  rw [Value.render, String.toList_ofList, Reader.readAll, hg]
  rfl

end ProcessControl.Json.Reader
