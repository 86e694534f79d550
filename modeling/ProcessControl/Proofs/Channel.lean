import ProcessControl.Channel

namespace ProcessControl.Channel

variable {α : Type} {c c' : Channel α} {a : α}

-- The same bound, and as many at both ends.
structure Alike (c c' : Channel α) : Prop where
  bound     : c'.bound = c.bound
  senders   : c'.senders = c.senders
  receivers : c'.receivers = c.receivers

theorem length_toList_le (c : Channel α) : c.toList.length ≤ c.bound.toNat :=
  c.length_toList ▸ c.size_le

theorem isEmpty_eq (c : Channel α) : c.isEmpty = decide (c.toList.length = 0) := by
  rw [isEmpty, c.length_toList]
  rfl

theorem isFull_eq (c : Channel α) : c.isFull = decide (c.toList.length = c.bound.toNat) := by
  rw [isFull, c.length_toList]
  rfl

section TrySend

theorem trySend_eq_ok (h : c.trySend a = .ok c') : c'.toList = c.toList ++ [a] ∧ c.Alike c' := by
  unfold trySend at h
  split at h
  case isTrue => cases h
  case isFalse =>
    split at h
    case isFalse => cases h
    case isTrue =>
      cases h
      exact ⟨by simp [toList], rfl, rfl, rfl⟩

theorem trySend_of_room (hd : c.isDisconnected = false) (hr : c.toList.length < c.bound.toNat) (a : α) :
    ∃ c', c.trySend a = .ok c' := by
  rw [length_toList] at hr
  rw [trySend, if_neg (Bool.eq_false_iff.mp hd), dif_pos hr]
  exact ⟨_, rfl⟩

theorem trySend_of_full (hd : c.isDisconnected = false) (hf : c.toList.length = c.bound.toNat) (a : α) :
    c.trySend a = .error .full := by
  rw [length_toList] at hf
  rw [trySend, if_neg (Bool.eq_false_iff.mp hd), dif_neg (hf ▸ Nat.lt_irrefl _)]

end TrySend

section TryRecv

theorem tryRecv_eq_some (h : c.tryRecv = some (a, c')) : c.toList = a :: c'.toList ∧ c.Alike c' := by
  unfold tryRecv at h
  split at h
  case h_1 ho =>
    cases h
    exact ⟨by simp [toList, ho], rfl, rfl, rfl⟩
  case h_2 ho =>
    split at h
    case h_1 => cases h
    case h_2 hn =>
      cases h
      exact ⟨by simp [toList, ho, hn], rfl, rfl, rfl⟩

theorem tryRecv_eq_none_iff : c.tryRecv = none ↔ c.toList = [] := by
  unfold tryRecv
  split
  case h_1 ho => simp [toList, ho]
  case h_2 ho =>
    split
    case h_1 hn => simp [toList, ho, hn]
    case h_2 hn => simp [toList, ho, hn]

-- However long it may take, an item that is there is taken at once.
theorem recvTimeout_served {now : Moment} {time : Duration} (h : c.recvTimeout now time = .served a c') :
    c.tryRecv = some (a, c') := by
  unfold recvTimeout at h
  split at h
  case h_1 => cases h
  case h_2 =>
    split at h
    case h_1 hr =>
      cases h
      exact hr
    case h_2 => split at h <;> cases h

end TryRecv

theorem toList_drain (c : Channel α) : c.drain.snd.toList = [] :=
  rfl

theorem drain_alike (c : Channel α) : c.Alike c.drain.snd :=
  ⟨rfl, rfl, rfl⟩

end ProcessControl.Channel
