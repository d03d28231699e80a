import BundleManifest.Service.PathLabel
import Mathlib.Data.List.Basic

namespace BundleManifest.Service.PathLabel

/-- No slash has a decimal digit right behind it. -/
def Masked (t : Text) : Prop :=
  ∀ front c back, t=front ++ '/' :: c :: back → ¬Text.isDecimalDigit c

theorem masked_cons_iff {c : Char} {r : Text} :
    Masked (c::r) ↔ (c = '/' → ¬r.head?.any Text.isDecimalDigit) ∧ Masked r := by
  constructor
  · intro h
    refine ⟨fun slash => ?_,fun front d back same => h (c::front) d back (by simp [same])⟩
    cases r with
    | nil => simp
    | cons d back => simpa using h [] d back (by simp [slash])
  · rintro ⟨first,later⟩ front d back same
    cases front with
    | nil =>
      obtain ⟨slash,rest⟩ := List.cons_eq_cons.mp same
      simpa [rest] using first slash
    | cons e front => exact later front d back (List.cons_eq_cons.mp same).2

/-- Digits that stand in front are kept; a slash before digits becomes the mask, which starts with one. -/
theorem head?_maskNumbers (t : Text) : (maskNumbers false t).head?=t.head? := by
  cases t with
  | nil => rfl
  | cons c r =>
    rw [maskNumbers,Bool.false_and,if_neg Bool.false_ne_true]
    split_ifs with h
    · have slash : c = '/' := of_decide_eq_true (Bool.and_eq_true_iff.mp h).1
      rw [slash]
      rfl
    · rfl

theorem masked_maskNumbers (masked : Bool) (t : Text) : Masked (maskNumbers masked t) := by
  induction t generalizing masked with
  | nil =>
    intro front c back same
    simp [maskNumbers] at same
  | cons c r ih =>
    rw [maskNumbers]
    split_ifs with run number
    · exact ih true
    · have mask : idMask=['/',':','i','d'] := rfl
      have colon : ¬Text.isDecimalDigit ':' := by decide
      simp [mask,masked_cons_iff,colon,ih true]
    · refine masked_cons_iff.mpr ⟨fun slash => ?_,ih false⟩
      rw [head?_maskNumbers]
      simpa [slash] using number

theorem masked_of_maskNumbers {t : Text} (h : maskNumbers false t=t) : Masked t := by
  rw [← h]
  exact masked_maskNumbers false t

theorem maskNumbers_ne_nil {t : Text} (h : t≠[]) : maskNumbers false t≠[] := by
  intro empty
  have head := head?_maskNumbers t
  rw [empty] at head
  exact h (List.head?_eq_none_iff.mp head.symm)

theorem maskNumbers_kept {c : Char} {r : Text}
    (h : c = '/' → ¬r.head?.any Text.isDecimalDigit) :
    maskNumbers false (c::r)=c::maskNumbers false r := by
  have kept : ¬(c = '/' && r.head?.any Text.isDecimalDigit) := by
    rw [Bool.and_eq_true,decide_eq_true_iff,not_and]
    exact h
  rw [maskNumbers,Bool.false_and,if_neg Bool.false_ne_true,if_neg kept]

theorem maskNumbers_of_masked {t : Text} (h : Masked t) : maskNumbers false t=t := by
  induction t with
  | nil => rfl
  | cons c r ih =>
    obtain ⟨first,later⟩ := masked_cons_iff.mp h
    rw [maskNumbers_kept first,ih later]

/-- In front of a slash there is no number that goes on behind it. -/
theorem maskNumbers_append {front : Text} (h : Masked front) (r : Text) :
    maskNumbers false (front ++ '/' :: r)=front ++ maskNumbers false ('/' :: r) := by
  induction front with
  | nil => rfl
  | cons c front ih =>
    obtain ⟨first,later⟩ := masked_cons_iff.mp h
    have head : (front ++ '/' :: r).head?.any Text.isDecimalDigit=
        front.head?.any Text.isDecimalDigit := by
      cases front with
      | nil => exact (by decide : Text.isDecimalDigit '/'=false)
      | cons d _ => rfl
    rw [← head] at first
    rw [List.cons_append,List.cons_append,maskNumbers_kept first,ih later]

theorem slash_not_mem_maskNumbers {t : Text} (h : '/'∉t) (masked : Bool) :
    '/'∉maskNumbers masked t := by
  induction t generalizing masked with
  | nil => exact h
  | cons c r ih =>
    obtain ⟨first,later⟩ := not_or.mp (mt List.mem_cons.mpr h)
    rw [maskNumbers]
    split_ifs with run number
    · exact ih later true
    · exact absurd (of_decide_eq_true (Bool.and_eq_true_iff.mp number).1).symm first
    · exact mt List.mem_cons.mp (not_or.mpr ⟨first,ih later false⟩)

theorem masked_profilesPath : Masked profilesPath := masked_of_maskNumbers (by decide)

theorem profileName?_eq_some_iff {path name : Text} :
    profileName? path=some name ↔ path=profilesPath ++ '/' :: name ∧ name≠[] ∧ '/'∉name := by
  have behind {t : Text} : (profilesPath++['/']).isPrefixOf? path=some t ↔
      path=profilesPath ++ '/' :: t := by
    rw [List.isPrefixOf?_eq_some_iff_append_eq,List.append_assoc]
    exact eq_comm
  rw [profileName?]
  split
  · next t found =>
    rw [behind] at found
    simp only [Option.ite_none_left_eq_some,Option.some.injEq,Bool.or_eq_true,List.isEmpty_iff,
      List.contains_iff_mem,not_or,found,List.append_cancel_left_eq,List.cons.injEq,true_and]
    constructor
    · rintro ⟨single,rfl⟩
      exact ⟨rfl,single⟩
    · rintro ⟨rfl,single⟩
      exact ⟨single,rfl⟩
  · next missing =>
    constructor
    · intro h
      cases h
    · rintro ⟨same,-⟩
      rw [behind.mpr same] at missing
      cases missing

/-- A name stays a name when its numbers are masked. -/
theorem exists_name_of_maskNumbers {name : Text} (nonempty : name≠[]) (single : '/'∉name) :
    ∃ masked, maskNumbers false (profilesPath ++ '/' :: name)=profilesPath ++ '/' :: masked ∧
      masked≠[] ∧ '/'∉masked := by
  rw [maskNumbers_append masked_profilesPath,maskNumbers,Bool.false_and,
    if_neg Bool.false_ne_true]
  split_ifs
  · refine ⟨":id".toList++maskNumbers true name,rfl,by simp,?_⟩
    have later := slash_not_mem_maskNumbers single true
    simpa using later
  · exact ⟨maskNumbers false name,rfl,maskNumbers_ne_nil nonempty,
      slash_not_mem_maskNumbers single false⟩

/-- The label of all profiles. -/
def profileLabel : Text := profilesPath++"/:name".toList

/-- The labels: paths whose numbers are masked, and that name a profile by the word for all of them. -/
structure IsLabel (t : Text) : Prop where
  nonempty : t≠[]
  masked : Masked t
  profile : ∀ name, t=profilesPath ++ '/' :: name → name≠[] → '/'∉name → t=profileLabel

theorem ofPath_of_name {path name : Text} (nonempty : path≠[])
    (named : profileName? (maskNumbers false path)=some name) : ofPath path=profileLabel := by
  simp [ofPath,nonempty,named,profileLabel]

theorem ofPath_of_no_name {path : Text} (nonempty : path≠[])
    (unnamed : profileName? (maskNumbers false path)=none) :
    ofPath path=maskNumbers false path := by
  simp [ofPath,nonempty,unnamed]

theorem ofPath_of_profile {name : Text} (nonempty : name≠[]) (single : '/'∉name) :
    ofPath (profilesPath ++ '/' :: name)=profileLabel := by
  obtain ⟨masked,same,rest⟩ := exists_name_of_maskNumbers nonempty single
  exact ofPath_of_name (by simp) (profileName?_eq_some_iff.mpr ⟨same,rest⟩)

theorem isLabel_profileLabel : IsLabel profileLabel where
  nonempty := by decide
  masked := masked_of_maskNumbers (by decide)
  profile _ _ _ _ := rfl

theorem isLabel_of_ne_nil {path : Text} (nonempty : path≠[]) : IsLabel (ofPath path) := by
  cases named : profileName? (maskNumbers false path) with
  | some name =>
    rw [ofPath_of_name nonempty named]
    exact isLabel_profileLabel
  | none =>
    rw [ofPath_of_no_name nonempty named]
    refine ⟨maskNumbers_ne_nil nonempty,masked_maskNumbers false path,
      fun name same one single => ?_⟩
    have found := profileName?_eq_some_iff.mpr ⟨same,one,single⟩
    rw [named] at found
    cases found

theorem isLabel_ofPath (path : Text) : IsLabel (ofPath path) := by
  cases path with
  | nil =>
    have root : ofPath []=ofPath ['/'] := rfl
    rw [root]
    exact isLabel_of_ne_nil (List.cons_ne_nil _ _)
  | cons c r => exact isLabel_of_ne_nil (List.cons_ne_nil c r)

theorem ofPath_of_isLabel {t : Text} (h : IsLabel t) : ofPath t=t := by
  have masked := maskNumbers_of_masked h.masked
  cases named : profileName? t with
  | some name =>
    obtain ⟨same,nonempty,single⟩ := profileName?_eq_some_iff.mp named
    rw [ofPath_of_name h.nonempty (masked.symm▸named),h.profile name same nonempty single]
  | none => rw [ofPath_of_no_name h.nonempty (masked.symm▸named),masked]

/-- Every path has one of the labels, which are their own label; so the label of a label is itself, and
no slash of it has a digit behind it. All profiles have one label, whatever their names are. -/
theorem label_settled (path : Text) :
    (ofPath path=path ↔ IsLabel path) ∧ ofPath (ofPath path)=ofPath path ∧
    (∀ front c back, ofPath path=front ++ '/' :: c :: back → ¬Text.isDecimalDigit c) ∧
    ∀ name, name≠[] → '/'∉name →
      ofPath (profilesPath ++ '/' :: name)=profilesPath++"/:name".toList := by
  have label := isLabel_ofPath path
  refine ⟨⟨fun same => ?_,ofPath_of_isLabel⟩,ofPath_of_isLabel label,label.masked,
    fun name nonempty single => ofPath_of_profile nonempty single⟩
  rwa [same] at label

/-- Two numbers next to each other, one of them in another script, and a name that is a number with a
line end behind it. -/
theorem label_settled_of_numbers :
    let path : Text := "/42/٧/x".toList
    let name : Text := "7\n".toList
    ofPath path="/:id".toList ++ '/' :: ':' :: "id/x".toList ∧ ¬Text.isDecimalDigit ':' ∧
    name≠[] ∧ '/'∉name ∧
    ofPath (profilesPath ++ '/' :: name)=profilesPath++"/:name".toList := by
  intro path name
  obtain ⟨-,-,undigited,named⟩ := label_settled path
  have label : ofPath path="/:id".toList ++ '/' :: ':' :: "id/x".toList := by decide
  have nonempty : name≠[] := by decide
  have single : '/'∉name := by decide
  exact ⟨label,undigited _ _ _ label,nonempty,single,named name nonempty single⟩

end BundleManifest.Service.PathLabel
