import BundleManifest.Proofs.Text.Casing
import BundleManifest.Proofs.Text.Trim

namespace BundleManifest.Text

namespace CaseRun

/-- Where the run moves a code point to. -/
def image (run : CaseRun) (n : Nat) : Nat := ((n : Int)+run.shift).toNat

/-- Nothing is moved to where the other run would move it on: it goes past that run on one side, or
it comes between its code points when these are every second one. -/
def misses (run other : CaseRun) : Bool :=
  Nat.blt (run.image run.last) other.first || Nat.blt other.last (run.image run.first) ||
    (other.step==2 && (run.step==2 || run.first==run.last) &&
      (run.image run.first+other.first)%2==1)

theorem covers_iff {run : CaseRun} {n : Nat} :
    run.covers n=true ↔ run.first ≤ n ∧ n ≤ run.last ∧ (n-run.first)%run.step=0 := by
  simp [covers,and_assoc]

theorem not_covers_image {run other : CaseRun} (h : run.misses other)
    (positive : 0 ≤ (run.first : Int)+run.shift) {n : Nat} (hn : run.covers n) :
    other.covers (run.image n)=false := by
  obtain ⟨low,high,step⟩ := covers_iff.mp hn
  rw [Bool.eq_false_iff]
  intro hc
  obtain ⟨low',high',step'⟩ := covers_iff.mp hc
  simp only [misses,Bool.or_eq_true,Bool.and_eq_true,Nat.blt_eq,beq_iff_eq] at h
  simp only [image] at h low' high' step'
  rcases h with (beyond|before)|⟨⟨second,same⟩,odd⟩
  · omega
  · omega
  · rw [second] at step'
    cases same with
    | inl even =>
      rw [even] at step
      omega
    | inr single => omega

end CaseRun

/-- No run moves on what another one has moved. -/
theorem lowerRuns_miss {run other : CaseRun} (hr : run∈lowerRuns) (ho : other∈lowerRuns) :
    run.misses other := by
  have all : (lowerRuns.all fun run => lowerRuns.all run.misses)=true := by decide +kernel
  exact List.all_eq_true.mp (List.all_eq_true.mp all run hr) other ho

/-- Stretches of characters without blanks, capitals of ASCII and the dotted capital. -/
def smallStretches : List (Nat × Nat) := [
  (0x6b,0x6b),(0xa1,0x12f),(0x131,0x167f),(0x1681,0x1fff),(0x2060,0x2fff),(0x3001,0xd7ff),
  (0xe000,0x10ffff)]

/-- Every run moves its code points into one of the stretches. -/
theorem exists_stretch {run : CaseRun} (hr : run∈lowerRuns) :
    ∃ s∈smallStretches, (s.1 : Int) ≤ run.first+run.shift ∧ run.last+run.shift ≤ s.2 := by
  have all : (lowerRuns.all fun run => smallStretches.any fun s =>
      decide ((s.1 : Int) ≤ run.first+run.shift) && decide (run.last+run.shift ≤ (s.2 : Int)))=true := by
    decide +kernel
  have within := List.any_eq_true.mp (List.all_eq_true.mp all run hr)
  simpa only [Bool.and_eq_true,decide_eq_true_eq] using within

theorem of_stretch {s : Nat × Nat} (hs : s∈smallStretches) {n : Nat} (low : s.1 ≤ n)
    (high : n ≤ s.2) : (Char.ofNat n).toNat=n ∧ isBlank (Char.ofNat n)=false ∧ n≠0x130 ∧
      (n=0x6b ∨ 128 ≤ n) := by
  have ends : (0x6b ≤ n ∧ n ≤ 0x6b) ∨ (0xa1 ≤ n ∧ n ≤ 0x12f) ∨ (0x131 ≤ n ∧ n ≤ 0x167f) ∨
      (0x1681 ≤ n ∧ n ≤ 0x1fff) ∨ (0x2060 ≤ n ∧ n ≤ 0x2fff) ∨ (0x3001 ≤ n ∧ n ≤ 0xd7ff) ∨
      (0xe000 ≤ n ∧ n ≤ 0x10ffff) := by
    simp only [smallStretches,List.mem_cons,List.not_mem_nil,or_false] at hs
    rcases hs with rfl|rfl|rfl|rfl|rfl|rfl|rfl <;> simp only at low high <;> omega
  have valid : n.isValidChar := by
    simp only [Nat.isValidChar]
    omega
  have same : (Char.ofNat n).toNat=n := by
    rw [Char.ofNat,dif_pos valid]
    rfl
  refine ⟨same,?_,by omega,by omega⟩
  rw [Bool.eq_false_iff]
  intro blank
  simp only [isBlank,same,Bool.or_eq_true,Bool.and_eq_true,decide_eq_true_eq,beq_iff_eq] at blank
  omega

/-- Above ASCII a character is moved by the run that covers it and else stays. -/
theorem lowerChar_cases {c : Char} (h : 128 ≤ c.toNat) :
    (lowerChar c=c ∧ ∀ run∈lowerRuns, run.covers c.toNat=false) ∨
      ∃ run∈lowerRuns, run.covers c.toNat ∧ lowerChar c=Char.ofNat (run.image c.toNat) := by
  have above : ¬c.toNat < 128 := by omega
  rw [lowerChar,if_neg above,shift]
  cases found : lowerRuns.find? (CaseRun.covers · c.toNat) with
  | none =>
    have uncovered := List.find?_eq_none.mp found
    exact .inl ⟨rfl,fun run hr => Bool.eq_false_iff.mpr (uncovered run hr)⟩
  | some run =>
    have covered : run.covers c.toNat := by simpa using List.find?_some found
    exact .inr ⟨run,List.mem_of_find?_eq_some found,covered,rfl⟩

theorem lowerChar_of_uncovered {c : Char} (h : 128 ≤ c.toNat)
    (uncovered : ∀ run∈lowerRuns, run.covers c.toNat=false) : lowerChar c=c := by
  cases lowerChar_cases h with
  | inl stays => exact stays.1
  | inr moved =>
    obtain ⟨run,hr,covered,-⟩ := moved
    rw [uncovered run hr] at covered
    cases covered

/-- The lower case of a character is its own lower case; only the dotted capital is left as it is for
the text to deal with. No blank comes of a character that is none. -/
theorem lowerChar_lowerChar (c : Char) :
    lowerChar (lowerChar c)=lowerChar c ∧ (c ≠ '\u0130' → lowerChar c ≠ '\u0130') ∧
      (isBlank c=false → isBlank (lowerChar c)=false) := by
  by_cases ascii : c.toNat < 128
  · refine ascii_induction ?_ c ascii
    decide +kernel
  · have above : 128 ≤ c.toNat := by omega
    rcases lowerChar_cases above with ⟨stays,-⟩|⟨run,hr,covered,moved⟩
    · rw [stays]
      exact ⟨stays,id,id⟩
    · obtain ⟨low,high,-⟩ := CaseRun.covers_iff.mp covered
      obtain ⟨s,hs,left,right⟩ := exists_stretch hr
      have above' : s.1 ≤ run.image c.toNat := by simp only [CaseRun.image]; omega
      have below : run.image c.toNat ≤ s.2 := by simp only [CaseRun.image]; omega
      obtain ⟨same,unblank,undotted,small⟩ := of_stretch hs above' below
      rw [moved]
      refine ⟨?_,fun _ dotted => ?_,fun _ => unblank⟩
      · cases small with
        | inl k => rw [k]; decide +kernel
        | inr beyond =>
          apply lowerChar_of_uncovered (by rwa [same])
          intro other ho
          rw [same]
          exact CaseRun.not_covers_image (lowerRuns_miss hr ho) (by omega) covered
      · rw [dotted] at same
        exact undotted same.symm

/-- Lower-casing leaves the character alone wherever it stands. -/
def AtRest (c : Char) : Prop := ∀ afterCased rest, lowerAt afterCased c rest=[c]

theorem atRest_of_lowerChar {c : Char} (same : lowerChar c=c) (undotted : c ≠ '\u0130') :
    AtRest c := by
  intro afterCased rest
  have sigma : c ≠ '\u03a3' := by
    intro h
    rw [h] at same
    have moved : lowerChar '\u03a3' ≠ '\u03a3' := by decide +kernel
    exact moved same
  rw [lowerAt,if_neg sigma,if_neg undotted,same]

/-- What a character becomes is at rest, and it is not blank unless the character was. -/
theorem of_mem_lowerAt {afterCased : Bool} {c d : Char} {rest : Text}
    (h : d∈lowerAt afterCased c rest) :
    AtRest d ∧ (isBlank c=false → isBlank d=false) := by
  have rests (e : Char) (same : lowerChar e=e ∧ e ≠ '\u0130' ∧ isBlank e=false) :
      AtRest e ∧ (isBlank c=false → isBlank e=false) :=
    ⟨atRest_of_lowerChar same.1 same.2.1,fun _ => same.2.2⟩
  rw [lowerAt] at h
  dsimp only at h
  split_ifs at h with sigma last dotted
  · rw [List.mem_singleton.mp h]
    exact rests _ (by decide +kernel)
  · rw [List.mem_singleton.mp h]
    exact rests _ (by decide +kernel)
  · cases List.mem_pair.mp h with
    | inl i => exact i ▸ rests _ (by decide +kernel)
    | inr dot => exact dot ▸ rests _ (by decide +kernel)
  · rw [List.mem_singleton.mp h]
    obtain ⟨same,undotted,unblank⟩ := lowerChar_lowerChar c
    exact ⟨atRest_of_lowerChar same (undotted dotted),unblank⟩

theorem lowerAt_ne_nil (afterCased : Bool) (c : Char) (rest : Text) :
    lowerAt afterCased c rest≠[] := by
  rw [lowerAt]
  dsimp only
  split_ifs <;> exact List.cons_ne_nil _ _

theorem lowerFrom_of_atRest {t : Text} (h : ∀ c∈t, AtRest c) (afterCased : Bool) :
    lowerFrom afterCased t=t := by
  induction t generalizing afterCased with
  | nil => rfl
  | cons c r ih =>
    rw [lowerFrom,h c List.mem_cons_self,ih fun d hd => h d (List.mem_cons_of_mem c hd)]
    rfl

theorem atRest_of_mem_lowerFrom {t : Text} {afterCased : Bool} :
    ∀ d∈lowerFrom afterCased t, AtRest d := by
  induction t generalizing afterCased with
  | nil => exact nofun
  | cons c r ih =>
    intro d hd
    rw [lowerFrom] at hd
    cases List.mem_append.mp hd with
    | inl first => exact (of_mem_lowerAt first).1
    | inr later => exact ih d later

/-- A text in lower case is its own lower case. -/
theorem lower_lower (t : Text) : lower (lower t)=lower t :=
  lowerFrom_of_atRest atRest_of_mem_lowerFrom false

theorem lowerFrom_ne_nil {t : Text} (h : t≠[]) (afterCased : Bool) : lowerFrom afterCased t≠[] := by
  cases t with
  | nil => exact absurd rfl h
  | cons c r =>
    rw [lowerFrom]
    exact List.append_ne_nil_of_left_ne_nil (lowerAt_ne_nil afterCased c r) _

/-- The last character comes of the last one. -/
theorem exists_of_getLast?_lowerFrom {t : Text} {afterCased : Bool} {d : Char}
    (h : d∈(lowerFrom afterCased t).getLast?) :
    ∃ c∈t.getLast?, isBlank c=false → isBlank d=false := by
  induction t generalizing afterCased with
  | nil => cases h
  | cons c r ih =>
    rw [lowerFrom] at h
    by_cases single : r=[]
    · subst single
      rw [lowerFrom,List.append_nil] at h
      exact ⟨c,rfl,(of_mem_lowerAt (List.mem_of_getLast? h)).2⟩
    · rw [List.getLast?_append_of_ne_nil _ (lowerFrom_ne_nil single _)] at h
      obtain ⟨e,he,unblank⟩ := ih h
      refine ⟨e,?_,unblank⟩
      rwa [List.getLast?_cons_of_ne_nil single]

theorem Trimmed.lower {t : Text} (h : Trimmed t) : Trimmed (lower t) := by
  constructor
  · intro d hd
    cases t with
    | nil => cases hd
    | cons c r =>
      rw [Text.lower,lowerFrom,List.head?_append_of_ne_nil _ (lowerAt_ne_nil _ c r)] at hd
      exact (of_mem_lowerAt (List.mem_of_head? hd)).2 (h.head c rfl)
  · intro d hd
    obtain ⟨c,hc,unblank⟩ := exists_of_getLast?_lowerFrom hd
    exact unblank (h.last c hc)

end BundleManifest.Text
