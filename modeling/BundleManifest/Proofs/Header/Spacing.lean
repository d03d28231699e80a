import BundleManifest.Proofs.Header.Pieces

namespace BundleManifest.Header

open Text (Blank)

theorem exists_first_cut {d : Char} {t : Text} (h : ¬Guarded d t) :
    ∃ a b, t=a++d::b ∧ Balanced a ∧ Guarded d a := by
  have before (n : Nat) (a b : Text) (hn : a.length=n) (ht : t=a++d::b) (ha : Balanced a) :
      ∃ a b, t=a++d::b ∧ Balanced a ∧ Guarded d a := by
    -- a cut inside of `a` comes before the one behind it
    induction n using Nat.strong_induction_on generalizing a b with
    | _ n ih =>
      by_cases inner : Guarded d a
      · exact ⟨a,b,ht,ha,inner⟩
      · simp only [Guarded,not_forall,not_not] at inner
        obtain ⟨x,y,hxy,hx⟩ := inner
        have shorter : x.length < n := by
          rw [← hn,hxy]
          simp
        have earlier : t=x++d::(y++d::b) := by simp [ht,hxy]
        exact ih x.length shorter x (y++d::b) rfl earlier hx
  simp only [Guarded,not_forall,not_not] at h
  obtain ⟨a,b,ht,ha⟩ := h
  exact before a.length a b rfl ht ha

/-- Induction from the first cut to what follows it. -/
theorem cut_induction {d : Char} {P : Text → Prop} (whole : ∀ t, Guarded d t → P t)
    (cut : ∀ a b, Balanced a → Guarded d a → P b → P (a++d::b)) (t : Text) : P t := by
  induction hn : t.length using Nat.strong_induction_on generalizing t with
  | _ n ih =>
    by_cases h : Guarded d t
    · exact whole t h
    · obtain ⟨a,b,ht,ha,hg⟩ := exists_first_cut h
      have shorter : b.length < n := by
        rw [← hn,ht,List.length_append,List.length_cons]
        omega
      rw [ht]
      exact cut a b ha hg (ih b.length shorter b rfl)

theorem Guarded.part {d : Char} {a p b : Text} (h : Guarded d (a++p++b)) (ha : Balanced a) :
    Guarded d p := by
  intro x y hp
  have outer := h (a++x) (y++b) (by simp [hp])
  rw [balanced_append] at outer
  exact fun hx => outer (iff_of_true ha hx)

theorem filler_of_blank {t : Text} (h : Blank t) (d : Char) : Filler d t :=
  fun c hc => .inl (h c hc)

theorem balanced_of_blank {t : Text} (h : Blank t) : Balanced t :=
  balanced_of_not_mem ((filler_of_blank h ',').not_mem_quote (by decide))

/-- A part without a cut is blank, or one piece between margins. -/
theorem kept_of_guarded {d : Char} {t : Text} (hb : Balanced t) (hg : Guarded d t) :
    (Blank t ∧ kept d t=[]) ∨
      ∃ a p b, t=a++p++b ∧ Blank a ∧ Blank b ∧ IsPiece d p ∧ kept d t=[p] := by
  have uncut : parts d false t=[t] := by
    apply parts_of_guarded
    intro a b ht
    simpa using hg a b ht
  by_cases empty : Text.trim t=[]
  · have blank : Blank t := Text.trim_eq_nil_iff.mp empty
    exact .inl ⟨blank,by simp [kept,uncut,empty]⟩
  · obtain ⟨a,b,ha,hm,ht⟩ := Text.exists_margins_trim t
    have left := balanced_of_blank ha
    have right := balanced_of_blank hm
    have isPiece : IsPiece d (Text.trim t) := by
      constructor
      · exact empty
      · exact Text.trimmed_trim t
      · rw [ht,balanced_append,balanced_append] at hb
        simpa [left,right] using hb
      · rw [ht] at hg
        exact hg.part left
    exact .inr ⟨a,Text.trim t,b,ht,ha,hm,isPiece,by simp [kept,uncut,empty]⟩

theorem Filler.append {d : Char} {a b : Text} (ha : Filler d a) (hb : Filler d b) :
    Filler d (a++b) := by
  intro c hc
  exact (List.mem_append.mp hc).elim (ha c) (hb c)

theorem Filler.cons {d : Char} {a : Text} (ha : Filler d a) : Filler d (d::a) :=
  List.forall_mem_cons.mpr ⟨.inr rfl,ha⟩

theorem Spaced.prepend {d : Char} {ps : List Text} {a t : Text} (ha : Filler d a)
    (h : Spaced d ps t) : Spaced d ps (a++t) := by
  cases h with
  | none ht => exact .none (ha.append ht)
  | some hg hu hb =>
    rw [← List.append_assoc,← List.append_assoc]
    exact .some (ha.append hg) hu hb

theorem Spaced.one {d : Char} {a b : Text} (p : Text) (ha : Filler d a) (hb : Filler d b) :
    Spaced d [p] (a++p++b) := .some ha (.one p) hb

/-- One more piece in front of the others. -/
theorem Spaced.cons {d : Char} {ps : List Text} {a b t : Text} (p : Text) (ha : Filler d a)
    (hb : Filler d b) (h : Spaced d ps t) : Spaced d (p::ps) (a++p++b++d::t) := by
  cases h with
  | none ht =>
    rw [List.append_assoc]
    exact .one p ha (hb.append ht.cons)
  | @some g u e _ hg hu he =>
    have gap : Filler d (b++d::g) := hb.append hg.cons
    have joined : Joined d (p::ps) (p++(b++d::g)++u) := .cons gap (by simp) hu
    have around := Spaced.some ha joined he
    have same : a++(p++(b++d::g)++u)++e=a++p++b++d::(g++u++e) := by simp
    rwa [same] at around

theorem spaced_kept {d : Char} (hd : d ≠ '"') {t : Text} (h : Balanced t) :
    Spaced d (kept d t) t ∧ ∀ p∈kept d t, IsPiece d p := by
  induction t using cut_induction (d := d) with
  | whole t hg =>
    rcases kept_of_guarded h hg with ⟨blank,kept⟩|⟨a,p,b,ht,ha,hb,isPiece,kept⟩
    · rw [kept]
      exact ⟨.none (filler_of_blank blank d),nofun⟩
    · rw [kept,List.forall_mem_singleton,ht]
      exact ⟨.one p (filler_of_blank ha d) (filler_of_blank hb d),isPiece⟩
  | cut a b ha hg ih =>
    have rest : Balanced b := by
      rw [balanced_append,balanced_cons hd] at h
      exact h.mp ha
    obtain ⟨spaced,arePieces⟩ := ih rest
    rw [kept_append hd ha]
    rcases kept_of_guarded ha hg with ⟨blank,kept⟩|⟨x,p,y,ht,hx,hy,isPiece,kept⟩
    · have filler : Filler d (a++[d]) := (filler_of_blank blank d).append (Filler.cons nofun)
      have same : a++[d]++b=a++d::b := by simp
      rw [kept,List.nil_append,← same]
      exact ⟨spaced.prepend filler,arePieces⟩
    · rw [kept,ht]
      have more := spaced.cons p (filler_of_blank hx d) (filler_of_blank hy d)
      exact ⟨more,List.forall_mem_cons.mpr ⟨isPiece,arePieces⟩⟩

theorem pieces_eq_error_iff {d : Char} {t : Text} {fault : Fault} :
    pieces d t=.error fault ↔ ¬Balanced t ∧ fault=.rejected (.unbalancedQuote t) := by
  rw [pieces_eq]
  by_cases h : Balanced t
  · simp [h]
  · simp [h,Outcome.reject,eq_comm]

theorem exists_pieces_iff {d : Char} {t : Text} : (∃ ps, pieces d t=.ok ps) ↔ Balanced t := by
  rw [pieces_eq]
  by_cases h : Balanced t <;> simp [h]

theorem pieces_eq_ok_iff {d : Char} (hd : d ≠ '"') {t : Text} {ps : List Text} :
    pieces d t=.ok ps ↔ Spaced d ps t ∧ ∀ p∈ps, IsPiece d p := by
  constructor
  · intro h
    rw [pieces_eq,Outcome.ite_else_reject_eq_ok_iff] at h
    obtain ⟨closed,same⟩ := h
    have all := spaced_kept hd closed
    have kept : kept d t=ps := Except.ok.inj same
    rwa [kept] at all
  · intro h
    exact pieces_of_spaced hd h.1 h.2

/-- Cutting fails exactly on an odd number of quotes. The pieces of any other text are the only ones
of which, with filler, it can be made up, and each of them can be cut again. -/
theorem pieces_eq_iff_spaced {d : Char} (hd : d ≠ '"') (t : Text) :
    ((∃ ps, pieces d t=.ok ps) ↔ t.count '"'%2=0) ∧
    (∀ fault, pieces d t=.error fault ↔
      t.count '"'%2=1 ∧ fault=.rejected (.unbalancedQuote t)) ∧
    (Rejection.unbalancedQuote t).kind=.malformedClause ∧
    (∀ ps, pieces d t=.ok ps ↔ Spaced d ps t ∧ ∀ p∈ps, IsPiece d p) ∧
    ∀ ps, pieces d t=.ok ps → ∀ p∈ps, ∀ e, ∃ qs, pieces e p=.ok qs := by
  have odd : ¬Balanced t ↔ t.count '"'%2=1 := by
    rw [Balanced]
    omega
  refine ⟨exists_pieces_iff,?_,rfl,fun ps => pieces_eq_ok_iff hd,?_⟩
  · intro fault
    rw [pieces_eq_error_iff,odd]
  · intro ps h p hp e
    have isPiece := ((pieces_eq_ok_iff hd).mp h).2 p hp
    exact exists_pieces_iff.mpr isPiece.balanced

/-- A delimiter that is itself white space, once between quotes. -/
theorem pieces_eq_iff_spaced_of_blank_delimiter :
    let text : Text := "\t a=\"x y\"   b\u3000 ".toList
    ' ' ≠ '"' ∧ pieces ' ' text=.ok ["a=\"x y\"".toList,['b']] ∧
      Spaced ' ' ["a=\"x y\"".toList,['b']] text ∧ Guarded ' ' "a=\"x y\"".toList := by
  intro text
  have other : ' ' ≠ '"' := by decide
  have read : pieces ' ' text=.ok ["a=\"x y\"".toList,['b']] := by decide
  obtain ⟨spaced,arePieces⟩ := ((pieces_eq_iff_spaced other text).2.2.2.1 _).mp read
  exact ⟨other,read,spaced,(arePieces _ List.mem_cons_self).guarded⟩

end BundleManifest.Header
