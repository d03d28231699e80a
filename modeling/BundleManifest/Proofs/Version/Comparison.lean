import BundleManifest.Proofs.Version.Order

namespace BundleManifest

namespace Text

/-- The code points of a text. -/
def codePoints (t : Text) : List Nat := t.map Char.toNat

theorem codePoints_strictMono : StrictMono codePoints := by
  intro a b less
  exact List.map_lt (fun _ _ first => first) less

theorem codePoints_lt_iff {a b : Text} : codePoints a < codePoints b ↔ a < b :=
  codePoints_strictMono.lt_iff_lt

end Text

namespace Version

/-- The three numbers, the one that counts most in front. -/
def numbers (v : Version) : List Nat := [v.major,v.minor,v.micro]

theorem eq_iff_parts {a b : Version} :
    a=b ↔ numbers a=numbers b ∧ a.qualifier=b.qualifier := by
  cases a
  cases b
  simp [numbers,and_assoc]

theorem lt_iff_parts {a b : Version} :
    a < b ↔ numbers a < numbers b ∨ numbers a=numbers b ∧ a.qualifier < b.qualifier := by
  have less : a < b ↔ a.major < b.major ∨ a.major=b.major ∧ (a.minor < b.minor ∨ a.minor=b.minor ∧
    (a.micro < b.micro ∨ a.micro=b.micro ∧ a.qualifier < b.qualifier)) := Iff.rfl
  have last : ¬([] : List Nat) < [] := List.not_lt_nil _
  simp only [less,numbers,List.cons_lt_cons_iff,List.cons.injEq,last]
  tauto

theorem lt_of_empty_qualifier {a b : Version} (same : numbers a=numbers b) (empty : a.qualifier=[])
    (qualified : b.qualifier≠[]) : a < b := by
  obtain ⟨c,r,hb⟩ := List.exists_cons_of_ne_nil qualified
  refine lt_iff_parts.mpr (.inr ⟨same,?_⟩)
  rw [empty,hb]
  exact List.nil_lt_cons c r

theorem one_of_three (a b : Version) :
    (a < b ∧ a≠b ∧ ¬b < a) ∨ (¬a < b ∧ a=b ∧ ¬b < a) ∨ (¬a < b ∧ a≠b ∧ b < a) := by
  rcases lt_trichotomy a b with less|same|greater
  · exact .inl ⟨less,less.ne,less.asymm⟩
  · exact .inr (.inl ⟨same.not_lt,same,same.not_gt⟩)
  · exact .inr (.inr ⟨greater.asymm,greater.ne',greater⟩)

/-- Two versions are equal when their parts are, and else exactly one comes before the other; all six
comparisons tell the same. The numbers decide first, then the code points of the qualifiers, of
which the empty one is the least. No text stands for a version before 0.0.0. -/
theorem compared_by_parts (a b c : Version) :
    (a=b ↔ numbers a=numbers b ∧ a.qualifier=b.qualifier) ∧
    (a < b ↔ numbers a < numbers b ∨
      numbers a=numbers b ∧ Text.codePoints a.qualifier < Text.codePoints b.qualifier) ∧
    ((a ≤ b ↔ a < b ∨ a=b) ∧ (a ≥ b ↔ ¬a < b) ∧ (a > b ↔ ¬a < b ∧ a≠b) ∧ (a≠b ↔ a < b ∨ a > b)) ∧
    ((a < b ∧ a≠b ∧ ¬b < a) ∨ (¬a < b ∧ a=b ∧ ¬b < a) ∨ (¬a < b ∧ a≠b ∧ b < a)) ∧
    (a < b → b < c → a < c) ∧
    (numbers a=numbers b → a.qualifier=[] → b.qualifier≠[] → a < b) ∧
    ∀ t, parse t=.ok a → ¬a < {} := by
  refine ⟨eq_iff_parts,?_,⟨le_iff_lt_or_eq,not_lt.symm,?_,lt_or_lt_iff_ne.symm⟩,
    one_of_three a b,lt_trans,lt_of_empty_qualifier,fun t _ => not_lt.mpr (zero_le a)⟩
  · rw [Text.codePoints_lt_iff]
    exact lt_iff_parts
  · rw [not_lt,gt_iff_lt,lt_iff_le_and_ne,ne_comm]

/-- Ten is more than nine whatever the qualifiers are, and a capital letter comes before a small one. -/
theorem compared_by_parts_of_qualifiers :
    let nine : Version := ⟨1,9,0,"z".toList⟩
    let plain : Version := ⟨1,10,0,[]⟩
    let capital : Version := ⟨1,10,0,"Z".toList⟩
    let small : Version := ⟨1,10,0,"a".toList⟩
    nine < plain ∧ plain < capital ∧ plain < small ∧ ¬plain < {} := by
  intro nine plain capital small
  obtain ⟨-,numbersFirst,-⟩ := compared_by_parts nine plain small
  obtain ⟨-,-,-,-,chain,lowest,above⟩ := compared_by_parts plain capital small
  obtain ⟨-,byCodePoints,-⟩ := compared_by_parts capital small plain
  have first : plain < capital := lowest rfl rfl (by decide)
  have second : capital < small := byCodePoints.mpr (.inr ⟨rfl,by decide⟩)
  exact ⟨numbersFirst.mpr (.inl (by decide)),first,chain first second,
    above "1.10".toList (by decide)⟩

end Version

end BundleManifest
