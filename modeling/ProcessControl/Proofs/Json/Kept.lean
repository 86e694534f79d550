import ProcessControl.Proofs.Json.Details

namespace ProcessControl.Json.Reader

variable {α σ : Type} {p : σ → Prop} {q : α → Prop} {known : List (Member σ)} {d : σ}

theorem givesOnly_accept {x : Except Mismatch α} (h : ∀ a, x = .ok a → q a) : (accept x).GivesOnly q :=
  fun _ a _ hg => h a (gives_accept_iff.mp hg).left

-- That each of the members keeps the property.
def Keeps (known : List (Member σ)) (p : σ → Prop) : Prop :=
  ∀ m ∈ known, ∀ d, p d → (m.read d).GivesOnly p

section Keeps

variable (hk : Keeps known p)

include hk

theorem givesOnly_entry (hd : p d) (most : Nat) (name : String) : (entry known most d name).GivesOnly p := by
  unfold entry
  split
  case h_1 => exact .after fun _ => .after fun _ => givesOnly_pure hd
  case h_2 m hf =>
    split
    case isTrue  => exact givesOnly_refuse _
    case isFalse => exact .after fun _ => hk m (List.mem_of_find?_eq_some hf) d hd

theorem givesOnly_loop (hd : p d) (most fuel : Nat) (first : Bool) :
    (members.loop (entry known most) fuel first d).GivesOnly p := by
  induction fuel generalizing first d
  case zero => exact givesOnly_malformed
  case succ hi =>
    refine .after fun name? => ?_
    split
    case h_1 => exact givesOnly_pure hd
    case h_2 name => exact (givesOnly_entry hk hd most name).bind fun d' hd' => hi hd' false

theorem givesOnly_fromMembers (hd : p d) : (fromMembers known d).GivesOnly p :=
  .after fun most => givesOnly_loop hk hd most most true

theorem givesOnly_fromItems (hd : p d) (expected : String) (i : Nat) : (fromItems expected known i d).GivesOnly p := by
  induction known generalizing i d
  case nil => exact givesOnly_pure hd
  case cons m rest hi =>
    have ⟨hm, hr⟩ := List.forall_mem_cons.mp hk
    refine .after fun more => ?_
    split
    case isTrue  => exact (hm d hd).bind fun d' hd' => hi hr hd' (i + 1)
    case isFalse => exact givesOnly_refuse _

theorem givesOnly_aggregate (hd : p d) {full : σ → Except Mismatch α} (hf : ∀ d a, p d → full d = .ok a → q a)
    (title : String) : (aggregate title known d full).GivesOnly q := by
  have ha (d : σ) (hd : p d) : (accept <| full d).GivesOnly q := givesOnly_accept fun a => hf d a hd
  refine .after fun c? => ?_
  split
  case h_1 =>
    refine .after fun _ => (givesOnly_fromItems hk hd _ 0).bind fun d' hd' => (ha d' hd').bind fun a hq => ?_
    exact .after fun _ => givesOnly_pure hq
  case h_2 => exact .after fun _ => (givesOnly_fromMembers hk hd).bind ha
  case h_3 => exact givesOnly_unexpected title

end Keeps

end ProcessControl.Json.Reader
