import BundleManifest.Proofs.Text.Join
import BundleManifest.Proofs.Text.Trim

namespace BundleManifest.Version

open Decimal (digitLimit)
open Outcome (FaultsAmong)
open Text (Blank)

/-- One or more of the characters and no others. -/
structure Run (p : Char → Bool) (t : Text) : Prop where
  nonempty : t≠[]
  all : t.all p

theorem run_iff {p : Char → Bool} {t : Text} : Run p t ↔ ¬(t.isEmpty || !t.all p) := by
  constructor
  · rintro ⟨nonempty,all⟩
    simp [nonempty,all]
  · intro h
    simp only [Bool.or_eq_true,List.isEmpty_iff,Bool.not_eq_true',not_or,
      Bool.not_eq_false] at h
    exact ⟨h.1,h.2⟩

/-- A whole number in ASCII digits, however long. -/
abbrev Numeral : Text → Prop := Run Char.isDigit

abbrev Qualifier : Text → Prop := Run isQualifierChar

theorem Numeral.not_mem_dot {t : Text} (h : Numeral t) : '.'∉t := by
  intro hm
  have dot := List.all_eq_true.mp h.all _ hm
  exact absurd dot (by decide)

theorem component_eq_ok_iff {value part : Text} {n : Nat} :
    component value part=.ok n ↔
      Numeral part ∧ part.length ≤ digitLimit ∧ Decimal.value part=n := by
  rw [component,Outcome.ite_reject_eq_ok_iff,← run_iff]
  refine and_congr_right fun _ => ?_
  by_cases short : part.length ≤ digitLimit <;> simp [Decimal.numeral?,short]

theorem component_eq_tooLong_iff {value part : Text} :
    component value part=.error .numeralTooLong ↔ Numeral part ∧ digitLimit < part.length := by
  have numeral : Numeral part ↔ _ := run_iff
  rw [component,numeral]
  split_ifs with h
  · simp [Outcome.reject,h]
  · by_cases short : part.length ≤ digitLimit
    · simp [Decimal.numeral?,short]
    · simpa [Decimal.numeral?,short,h] using Nat.lt_of_not_le short

/-- The parts between the dots of a version: `major[.minor[.micro[.qualifier]]]`. -/
inductive Spelled : List Text → Version → Prop
  | major {a : Text} : Numeral a → Spelled [a] {major := Decimal.value a}
  | minor {a b : Text} : Numeral a → Numeral b →
    Spelled [a,b] {major := Decimal.value a,minor := Decimal.value b}
  | micro {a b c : Text} : Numeral a → Numeral b → Numeral c →
    Spelled [a,b,c] {
      major := Decimal.value a,minor := Decimal.value b,micro := Decimal.value c }
  | qualified {a b c q : Text} : Numeral a → Numeral b → Numeral c → Qualifier q →
    Spelled [a,b,c,q] {
      major := Decimal.value a,minor := Decimal.value b,micro := Decimal.value c,qualifier := q }

/-- The text spells the version: blanks around it do not count, and blank text is 0.0.0. -/
inductive Spells : Text → Version → Prop
  | blank {t : Text} : Blank t → Spells t {}
  | parts {t : Text} {ps : List Text} {v : Version} : Spelled ps v →
    Text.trim t=Text.join ['.'] ps → Spells t v

/-- Of the parts that stand for numbers, the first one that cannot be read is a numeral beyond the
limit. -/
def Overlong (t : Text) : Prop :=
  ∃ front part back, (Text.cutUpTo '.' 3 (Text.trim t)).take 3=front++part::back ∧
    (∀ p∈front, Numeral p ∧ p.length ≤ digitLimit) ∧ Numeral part ∧ digitLimit < part.length

theorem Spelled.nonempty {ps : List Text} {v : Version} (h : Spelled ps v) :
    Text.join ['.'] ps≠[] := by
  cases h with
  | major ha => simpa [Text.join] using ha.nonempty
  | minor | micro | qualified => simp [Text.join_cons_cons]

theorem Spelled.numerals {ps : List Text} {v : Version} (h : Spelled ps v) :
    ∀ p∈ps.take 3, Numeral p := by
  cases h <;> simp_all

/-- A version is cut at its dots. -/
theorem Spelled.cutUpTo {ps : List Text} {v : Version} (h : Spelled ps v) :
    Text.cutUpTo '.' 3 (Text.join ['.'] ps)=ps := by
  have whole := fun p hp => (h.numerals p hp).not_mem_dot
  apply Text.cutUpTo_join _ _ whole
  · cases h <;> simp
  · cases h <;> simp

theorem Spells.numerals {t : Text} {v : Version} (h : Spells t v) (body : Text.trim t≠[]) :
    ∀ p∈(Text.cutUpTo '.' 3 (Text.trim t)).take 3, Numeral p := by
  cases h with
  | blank ht => exact absurd (Text.trim_eq_nil_iff.mpr ht) body
  | parts hp same =>
    rw [same,hp.cutUpTo]
    exact hp.numerals

theorem mapM_component_eq_tooLong_iff (value : Text) {ps : List Text} :
    ps.mapM (component value)=.error .numeralTooLong ↔
      ∃ front part back, ps=front++part::back ∧
        (∀ p∈front, Numeral p ∧ p.length ≤ digitLimit) ∧ Numeral part ∧
        digitLimit < part.length := by
  simp only [Outcome.mapM_eq_error_iff,component_eq_tooLong_iff,component_eq_ok_iff,
    exists_and_left,exists_eq',and_true]

theorem not_overlong_of_blank {t : Text} (h : Text.trim t=[]) : ¬Overlong t := by
  rintro ⟨front,part,back,cut,-,numeral,-⟩
  rw [h,Text.cutUpTo_of_not_mem (by simp)] at cut
  have member : part∈([[]] : List Text) := by
    change part∈List.take 3 [[]]
    simp [cut]
  exact numeral.nonempty (List.mem_singleton.mp member)

theorem parse_eq_tooLong_iff {t : Text} : parse t=.error .numeralTooLong ↔ Overlong t := by
  rw [parse]
  dsimp only
  split_ifs with blank
  · simp [not_overlong_of_blank (List.isEmpty_iff.mp blank)]
  · rw [Overlong,← mapM_component_eq_tooLong_iff t,Outcome.bind_eq_error_iff]
    refine or_iff_left ?_
    rintro ⟨numbers,-,h⟩
    split at h
    · cases h
    · split_ifs at h <;> cases h

theorem component_faults_among (value part : Text) :
    FaultsAmong [.numeralTooLong] (component value part) := by
  rw [component]
  split_ifs
  · exact .reject _
  · split
    · exact .ok _
    · exact .error List.mem_cons_self

theorem parse_faults_among (t : Text) : FaultsAmong [.numeralTooLong] (parse t) := by
  rw [parse]
  dsimp only
  split_ifs
  · exact .ok _
  · refine .bind (.mapM fun part _ => component_faults_among t part) fun numbers _ => ?_
    split
    · exact .pure _
    · split_ifs
      · exact .reject _
      · exact .pure _

theorem spells_of_parse {t : Text} {v : Version} (h : parse t=.ok v) : Spells t v := by
  rw [parse] at h
  dsimp only at h
  split_ifs at h with empty
  · obtain rfl := Except.ok.inj h
    exact .blank (Text.trim_eq_nil_iff.mp (List.isEmpty_iff.mp empty))
  · obtain ⟨numbers,hn,hq⟩ := Outcome.bind_eq_ok_iff.mp h
    suffices spelled : Spelled (Text.cutUpTo '.' 3 (Text.trim t)) v from
      .parts spelled (Text.join_cutUpTo _ _ _).symm
    have some := Text.cutUpTo_ne_nil '.' 3 (Text.trim t)
    have count := Text.cutUpTo_length_le '.' 3 (Text.trim t)
    generalize Text.cutUpTo '.' 3 (Text.trim t)=ps at hn hq some count ⊢
    rw [Outcome.mapM_eq_ok_iff] at hn
    simp only [component_eq_ok_iff] at hn
    -- There are one to four parts, and they differ in how many of them are numbers.
    rcases ps with _|⟨a,_|⟨b,_|⟨c,_|⟨q,_|_⟩⟩⟩⟩
    · exact absurd rfl some
    · obtain _|⟨⟨ha,-,rfl⟩,_|_⟩ := hn
      obtain rfl := Except.ok.inj hq
      exact .major ha
    · obtain _|⟨⟨ha,-,rfl⟩,_|⟨⟨hb,-,rfl⟩,_|_⟩⟩ := hn
      obtain rfl := Except.ok.inj hq
      exact .minor ha hb
    · obtain _|⟨⟨ha,-,rfl⟩,_|⟨⟨hb,-,rfl⟩,_|⟨⟨hc,-,rfl⟩,_|_⟩⟩⟩ := hn
      obtain rfl := Except.ok.inj hq
      exact .micro ha hb hc
    · obtain _|⟨⟨ha,-,rfl⟩,_|⟨⟨hb,-,rfl⟩,_|⟨⟨hc,-,rfl⟩,_|_⟩⟩⟩ := hn
      obtain ⟨chars,made⟩ := Outcome.ite_reject_eq_ok_iff.mp hq
      obtain rfl := Except.ok.inj made
      exact .qualified ha hb hc (run_iff.mpr chars)
    · simp only [List.length_cons] at count
      omega

theorem mapM_component_of_spelled {t : Text} {ps : List Text} {v : Version} (h : Spelled ps v)
    (same : Text.trim t=Text.join ['.'] ps) (short : ¬Overlong t) :
    (ps.take 3).mapM (component t)=.ok ((ps.take 3).map Decimal.value) := by
  have limited : ∀ e, (ps.take 3).mapM (component t)≠.error e := by
    intro e he
    apply short
    rw [Overlong,same,h.cutUpTo,← mapM_component_eq_tooLong_iff t,he]
    obtain ⟨front,part,back,cut,-,failed⟩ := Outcome.mapM_eq_error_iff.mp he
    have numeral := h.numerals part (by simp [cut])
    rw [component,if_neg (run_iff.mp numeral)] at failed
    split at failed
    · cases failed
    · rw [Except.error.inj failed]
  cases read : (ps.take 3).mapM (component t) with
  | error e => exact absurd read (limited e)
  | ok numbers =>
    have values : numbers.map id=(ps.take 3).map Decimal.value :=
      Outcome.map_of_mapM (fun _ _ hc => (component_eq_ok_iff.mp hc).2.2.symm) read
    rw [← values,List.map_id]

theorem parse_of_spells {t : Text} {v : Version} (h : Spells t v) (short : ¬Overlong t) :
    parse t=.ok v := by
  cases h with
  | blank ht => simp [parse,Text.trim_eq_nil_iff.mpr ht]
  | @parts ps _ hp same =>
    have numbers := mapM_component_of_spelled hp same short
    have body : ¬(Text.trim t).isEmpty := by simp [same,hp.nonempty]
    rw [parse]
    dsimp only
    rw [if_neg body,same,hp.cutUpTo,numbers]
    cases hp with
    | major | minor | micro => rfl
    | qualified _ _ _ hq => exact Outcome.ite_reject_eq_ok_iff.mpr ⟨run_iff.mp hq,rfl⟩

/-- Reading gives the version that a text spells, if it has only numerals within the limit. -/
theorem parse_eq_ok_iff {t : Text} {v : Version} :
    parse t=.ok v ↔ Spells t v ∧ ¬Overlong t := by
  constructor
  · intro h
    refine ⟨spells_of_parse h,fun long => ?_⟩
    rw [parse_eq_tooLong_iff.mpr long] at h
    cases h
  · rintro ⟨h,short⟩
    exact parse_of_spells h short

end BundleManifest.Version
