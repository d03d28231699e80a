import BundleManifest.Proofs.Text.Infix
import Mathlib.Data.List.TakeWhile

namespace BundleManifest.Text

theorem join_cons_cons (separator a b : Text) (ts : List Text) :
    join separator (a::b::ts)=a++separator++join separator (b::ts) := by
  simp [join,List.intercalate_cons_cons]

/-- Only the separator comes in between. -/
theorem mem_join {separator : Text} {ts : List Text} {c : Char} (h : c∈join separator ts) :
    c∈separator ∨ ∃ t∈ts, c∈t := by
  induction ts with
  | nil => exact absurd h List.not_mem_nil
  | cons a r ih =>
    cases r with
    | nil => exact .inr ⟨a,List.mem_cons_self,by simpa [join] using h⟩
    | cons b ts =>
      rw [join_cons_cons,List.mem_append,List.mem_append] at h
      rcases h with (ha|hs)|hr
      · exact .inr ⟨a,List.mem_cons_self,ha⟩
      · exact .inl hs
      · exact (ih hr).imp_right fun ⟨t,ht,hc⟩ => ⟨t,List.mem_cons_of_mem a ht,hc⟩

theorem cutUpTo_of_not_mem {d : Char} {t : Text} (h : d∉t) (n : Nat) : cutUpTo d n t=[t] := by
  cases n with
  | zero => rfl
  | succ n => rw [cutUpTo,cut?_of_not_mem h]

theorem cutUpTo_append {d : Char} {a : Text} (h : d∉a) (n : Nat) (b : Text) :
    cutUpTo d (n+1) (a++d::b)=a::cutUpTo d n b := by
  rw [cutUpTo,cut?_append h]

theorem cutUpTo_ne_nil (d : Char) (n : Nat) (t : Text) : cutUpTo d n t≠[] := by
  cases n with
  | zero => simp [cutUpTo]
  | succ n =>
    rw [cutUpTo]
    split <;> simp

theorem cutUpTo_length_le (d : Char) (n : Nat) (t : Text) : (cutUpTo d n t).length ≤ n+1 := by
  induction n generalizing t with
  | zero => simp [cutUpTo]
  | succ n ih =>
    rw [cutUpTo]
    split
    · simp
    · next a r hc =>
      have hr := ih r
      rw [List.length_cons]
      omega

/-- What was cut is put together again by joining. -/
theorem join_cutUpTo (d : Char) (n : Nat) (t : Text) : join [d] (cutUpTo d n t)=t := by
  induction n generalizing t with
  | zero => simp [cutUpTo,join]
  | succ n ih =>
    rw [cutUpTo]
    split
    · simp [join]
    · next a r hc =>
      have hr := ih r
      cases cut : cutUpTo d n r with
      | nil => exact absurd cut (cutUpTo_ne_nil d n r)
      | cons b ts =>
        rw [join_cons_cons,← cut,hr,cut?_eq_some hc]
        simp

/-- What was joined is cut into the same parts, where the last one may hold what the cuts leave. -/
theorem cutUpTo_join {d : Char} {n : Nat} {ts : List Text} (nonempty : ts≠[])
    (count : ts.length ≤ n+1) (h : ∀ t∈ts.take n, d∉t) : cutUpTo d n (join [d] ts)=ts := by
  induction n generalizing ts with
  | zero =>
    obtain ⟨t,rfl⟩ : ∃ t, ts=[t] := by
      apply List.length_eq_one_iff.mp
      have positive := List.length_pos_iff.mpr nonempty
      omega
    simp [cutUpTo,join]
  | succ n ih =>
    cases ts with
    | nil => exact absurd rfl nonempty
    | cons a r =>
      have ha : d∉a := h a (by simp)
      cases r with
      | nil => simpa [join] using cutUpTo_of_not_mem ha (n+1)
      | cons b ts =>
        have hr : cutUpTo d n (join [d] (b::ts))=b::ts :=
          ih (by simp) (by simpa using count) fun t ht => h t (List.mem_cons_of_mem a ht)
        have first := cutUpTo_append ha n (join [d] (b::ts))
        rw [hr] at first
        simpa [join_cons_cons] using first

/-- What follows the last occurrence is found whatever stands in front of it. -/
theorem differ_of_not_mem {d : Char} {s : Text} (h : d∉s) :
    ∀ c∈s.reverse, decide (c≠d)=true := by
  intro c hc
  have other : c≠d := fun same => h (same▸List.mem_reverse.mp hc)
  exact decide_eq_true other

theorem afterLast_append {d : Char} {s : Text} (h : d∉s) (a : Text) :
    afterLast d (a++d::s)=s := by
  have turned : (a++d::s).reverse=s.reverse++d::a.reverse := by simp
  rw [afterLast,turned,List.takeWhile_append_of_pos (differ_of_not_mem h),
    List.takeWhile_cons_of_neg (by simp),List.append_nil,List.reverse_reverse]

theorem afterLast_of_not_mem {d : Char} {t : Text} (h : d∉t) : afterLast d t=t := by
  rw [afterLast,List.takeWhile_eq_self_iff.mpr (differ_of_not_mem h),List.reverse_reverse]

theorem exists_last_of_mem {d : Char} {t : Text} (h : d∈t) : ∃ a s, t=a++d::s ∧ d∉s := by
  obtain ⟨r,l,same,first⟩ := List.eq_append_cons_of_mem (List.mem_reverse.mpr h)
  refine ⟨l.reverse,r.reverse,?_,mt List.mem_reverse.mp first⟩
  rw [← List.reverse_reverse t,same]
  simp

end BundleManifest.Text
