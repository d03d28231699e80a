import BundleManifest.Header.Clause
import BundleManifest.Proofs.Outcome
import BundleManifest.Version.Range

namespace BundleManifest

namespace Text

theorem trim_within (t : Text) : trim t<:+:t := by
  have right : trim t<+:trimLeft t := by
    have h : (trimLeft t).reverse.dropWhile isBlank<:+(trimLeft t).reverse :=
      List.dropWhile_suffix _
    simpa [trim,trimRight] using h.reverse
  exact right.isInfix.trans (List.dropWhile_suffix _).isInfix

theorem cut?_eq_some {d : Char} {t a b : Text} (h : cut? d t=some (a,b)) : t=a++d::b := by
  induction t generalizing a with
  | nil => simp [cut?] at h
  | cons c r ih =>
    rw [cut?] at h
    split_ifs at h with hc
    · obtain ⟨rfl,rfl⟩ := by simpa using h
      simp [hc]
    · obtain ⟨⟨x,y⟩,hx,he⟩ := Option.map_eq_some_iff.mp h
      obtain ⟨rfl,rfl⟩ := by simpa using he
      simp [ih hx]

theorem cut?_of_not_mem {d : Char} {t : Text} (h : d∉t) : cut? d t=none := by
  cases hc : cut? d t with
  | none => rfl
  | some p =>
    rw [cut?_eq_some hc] at h
    exact absurd (by simp) h

theorem cut?_append {d : Char} {a : Text} (h : d∉a) (b : Text) :
    cut? d (a++d::b)=some (a,b) := by
  induction a with
  | nil => simp [cut?]
  | cons c r ih =>
    have rest := ih fun hm => h (List.mem_cons_of_mem c hm)
    have first : c≠d := fun same => h (by simp [same])
    rw [List.cons_append,cut?,if_neg first,rest]
    rfl

theorem cut?_within {d : Char} {t a b : Text} (h : cut? d t=some (a,b)) : a<:+:t ∧ b<:+:t := by
  rw [cut?_eq_some h]
  exact ⟨List.infix_append_left,(List.infix_cons List.infix_rfl).trans List.infix_append_right⟩

theorem within_of_mem_cutUpTo {d : Char} {n : Nat} {t p : Text} (h : p∈cutUpTo d n t) :
    p<:+:t := by
  induction n generalizing t with
  | zero =>
    rw [cutUpTo,List.mem_singleton] at h
    exact h▸List.infix_rfl
  | succ n ih =>
    rw [cutUpTo] at h
    split at h
    · rw [List.mem_singleton] at h
      exact h▸List.infix_rfl
    · next a r hc =>
      rcases List.mem_cons.mp h with rfl|h
      · exact (cut?_within hc).1
      · exact (ih h).trans (cut?_within hc).2

end Text

namespace Header

/-- The first part starts the text and the others lie inside of it. -/
theorem parts_within (d : Char) (quoted : Bool) (t : Text) :
    ∃ p ps, parts d quoted t=p::ps ∧ p<+:t ∧ ∀ q∈ps, q<:+:t := by
  induction t generalizing quoted with
  | nil => exact ⟨[],[],rfl,List.prefix_rfl,nofun⟩
  | cons c r ih =>
    have keep (quoted : Bool) : ∃ p ps,
        (parts d quoted r).modifyHead (c::·)=p::ps ∧ p<+:c::r ∧ ∀ q∈ps, q<:+:c::r := by
      obtain ⟨p,ps,he,hp,hs⟩ := ih quoted
      rw [he]
      exact ⟨c::p,ps,rfl,(List.prefix_cons_inj c).mpr hp,
        fun q hq => List.infix_cons (hs q hq)⟩
    rw [parts_cons]
    split_ifs with hq hd
    · exact keep _
    · obtain ⟨p,ps,he,hp,hs⟩ := ih quoted
      refine ⟨[],p::ps,by rw [he],List.nil_prefix,?_⟩
      exact List.forall_mem_cons.mpr
        ⟨List.infix_cons hp.isInfix,fun q hq => List.infix_cons (hs q hq)⟩
    · exact keep _

theorem within_of_mem_pieces {d : Char} {t : Text} {ps : List Text} (h : pieces d t=.ok ps) :
    ∀ p∈ps, p<:+:t := by
  intro p hp
  rw [pieces] at h
  dsimp only at h
  split_ifs at h with quoted
  · cases h
  obtain rfl := Except.ok.inj h
  obtain ⟨q,hq,rfl⟩ := List.mem_map.mp (List.mem_filter.mp hp).1
  obtain ⟨first,others,he,hf,ho⟩ := parts_within d false t
  rw [parts] at he
  rw [he] at hq
  rcases List.mem_cons.mp hq with rfl|hq
  · exact (Text.trim_within q).trans hf.isInfix
  · exact (Text.trim_within q).trans (ho q hq)

theorem unquote_within (t : Text) : unquote t<:+:t := by
  have inner := Text.trim_within t
  rw [unquote]
  split
  · next r he =>
    rw [he] at inner
    split_ifs
    · exact (List.dropLast_prefix r).isInfix.trans ((List.infix_cons List.infix_rfl).trans inner)
    · exact inner
  · exact inner

theorem Piece.value_within {t : Text} {kind : ParameterKind} {p : Parameter}
    (h : Piece.ofText t=.parameter kind p) : p.value<:+:t := by
  rw [Piece.ofText] at h
  split at h
  · cases h
  · next left right hc =>
    have value := (unquote_within right).trans (Text.cut?_within hc).2
    dsimp only at h
    split_ifs at h <;> cases h <;> exact value

end Header

end BundleManifest
