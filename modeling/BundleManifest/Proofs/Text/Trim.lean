import BundleManifest.Text.Blank
import Mathlib.Data.List.Basic
import Mathlib.Data.List.TakeWhile

namespace BundleManifest.Text

/-- All of the text is white space. -/
def Blank (t : Text) : Prop := ∀ c∈t, isBlank c

theorem blank_nil : Blank [] := nofun

theorem Blank.append {a b : Text} (ha : Blank a) (hb : Blank b) : Blank (a++b) := by
  intro c hc
  exact (List.mem_append.mp hc).elim (ha c) (hb c)

theorem Blank.reverse {a : Text} (h : Blank a) : Blank a.reverse :=
  fun c hc => h c (List.mem_reverse.mp hc)

/-- No blank stands at either end. -/
structure Trimmed (t : Text) : Prop where
  head : ∀ c∈t.head?, isBlank c=false
  last : ∀ c∈t.getLast?, isBlank c=false

theorem trimmed_iff {t : Text} :
    Trimmed t ↔ (t.head?.all (!isBlank ·) && t.getLast?.all (!isBlank ·))=true := by
  rw [Bool.and_eq_true,Option.all_eq_true,Option.all_eq_true]
  simp only [Bool.not_eq_true']
  exact ⟨fun h => ⟨h.head,h.last⟩,fun h => ⟨h.1,h.2⟩⟩

instance (t : Text) : Decidable (Trimmed t) := decidable_of_iff' _ trimmed_iff

/-- The ends of a text are those of its first part and of its last one. -/
theorem Trimmed.append {s t : Text} (hs : Trimmed s) (ht : Trimmed t) (first : s≠[]) (last : t≠[])
    (g : Text) : Trimmed (s++g++t) := by
  constructor
  · intro c hc
    rw [List.append_assoc,List.head?_append_of_ne_nil _ first] at hc
    exact hs.head c hc
  · intro c hc
    rw [List.getLast?_append_of_ne_nil _ last] at hc
    exact ht.last c hc

theorem trimLeft_append {a : Text} (h : Blank a) (t : Text) : trimLeft (a++t)=trimLeft t := by
  rw [trimLeft,List.dropWhile_append_of_pos h]
  rfl

theorem trimLeft_of_blank {a : Text} (h : Blank a) : trimLeft a=[] :=
  List.dropWhile_eq_nil_iff.mpr h

theorem trimLeft_of_head {t : Text} (h : ∀ c∈t.head?, isBlank c=false) : trimLeft t=t := by
  cases t with
  | nil => rfl
  | cons c r =>
    have hc : ¬isBlank c := by simp [h c rfl]
    exact List.dropWhile_cons_of_neg hc

theorem trimLeft_cons {c : Char} (h : isBlank c=false) (r : Text) : trimLeft (c::r)=c::r := by
  apply trimLeft_of_head
  intro d hd
  rwa [← Option.some.inj hd]

/-- Trimming takes a margin off and stops at the first character behind it. -/
theorem trimLeft_margin {a : Text} (ha : Blank a) {c : Char} (hc : isBlank c=false) (r : Text) :
    trimLeft (a++c::r)=c::r := by
  rw [trimLeft_append ha,trimLeft_cons hc]

theorem head_trimLeft (t : Text) : ∀ c∈(trimLeft t).head?, isBlank c=false := by
  intro c hc
  have h := List.head?_dropWhile_not isBlank t
  rw [trimLeft] at hc
  rw [hc] at h
  simpa using h

@[simp] theorem trimLeft_trimLeft (t : Text) : trimLeft (trimLeft t)=trimLeft t :=
  trimLeft_of_head (head_trimLeft t)

theorem exists_margin_trimLeft (t : Text) : ∃ a, Blank a ∧ t=a++trimLeft t := by
  refine ⟨t.takeWhile isBlank,?_,List.takeWhile_append_dropWhile.symm⟩
  intro c hc
  exact List.mem_takeWhile_imp hc

theorem margin_of_trimLeft {t r : Text} {c : Char} (h : trimLeft t=c::r) :
    ∃ a, Blank a ∧ t=a++c::r := by
  obtain ⟨a,ha,ht⟩ := exists_margin_trimLeft t
  rw [h] at ht
  exact ⟨a,ha,ht⟩

theorem trimRight_append {b : Text} (h : Blank b) (t : Text) : trimRight (t++b)=trimRight t := by
  have left := trimLeft_append h.reverse t.reverse
  rw [trimRight,trimRight,List.reverse_append]
  exact congrArg List.reverse left

theorem trimRight_of_last {t : Text} (h : ∀ c∈t.getLast?, isBlank c=false) : trimRight t=t := by
  have left : trimLeft t.reverse=t.reverse := by
    apply trimLeft_of_head
    intro c hc
    rw [List.head?_reverse] at hc
    exact h c hc
  rw [trimRight]
  exact (congrArg List.reverse left).trans t.reverse_reverse

theorem last_trimRight (t : Text) : ∀ c∈(trimRight t).getLast?, isBlank c=false := by
  intro c hc
  rw [trimRight,List.getLast?_reverse] at hc
  exact head_trimLeft t.reverse c hc

theorem exists_margin_trimRight (t : Text) : ∃ b, Blank b ∧ t=trimRight t++b := by
  obtain ⟨a,ha,same⟩ := exists_margin_trimLeft t.reverse
  refine ⟨a.reverse,ha.reverse,?_⟩
  have back := congrArg List.reverse same
  rwa [List.reverse_reverse,List.reverse_append] at back

theorem trim_of_trimmed {t : Text} (h : Trimmed t) : trim t=t := by
  rw [trim,trimLeft_of_head h.head,trimRight_of_last h.last]

/-- Margins make no difference. -/
theorem trim_append {a b : Text} (ha : Blank a) (hb : Blank b) (t : Text) :
    trim (a++t++b)=trim t := by
  rw [trim,trim,List.append_assoc,trimLeft_append ha]
  by_cases h : Blank t
  · rw [trimLeft_of_blank h,trimLeft_of_blank (h.append hb)]
  · have inside : ¬(trimLeft t).isEmpty := by
      rw [List.isEmpty_iff]
      exact mt List.dropWhile_eq_nil_iff.mp h
    have stop : trimLeft (t++b)=trimLeft t++b := List.dropWhile_append.trans (if_neg inside)
    rw [stop,trimRight_append hb]

theorem exists_margins_trim (t : Text) : ∃ a b, Blank a ∧ Blank b ∧ t=a++trim t++b := by
  obtain ⟨a,ha,left⟩ := exists_margin_trimLeft t
  obtain ⟨b,hb,right⟩ := exists_margin_trimRight (trimLeft t)
  refine ⟨a,b,ha,hb,?_⟩
  change t=a++trimRight (trimLeft t)++b
  rw [List.append_assoc,← right]
  exact left

theorem trim_eq_nil_iff {t : Text} : trim t=[] ↔ Blank t := by
  constructor
  · intro h
    obtain ⟨a,b,ha,hb,whole⟩ := exists_margins_trim t
    rw [h,List.append_nil] at whole
    rw [whole]
    exact ha.append hb
  · intro h
    have none := trim_append h blank_nil []
    simpa [trim,trimLeft,trimRight] using none

theorem trimmed_trim (t : Text) : Trimmed (trim t) := by
  constructor
  · intro c hc
    obtain ⟨b,-,same⟩ := exists_margin_trimRight (trimLeft t)
    apply head_trimLeft t c
    rw [same]
    exact List.mem_head?_append_of_mem_head? hc
  · exact last_trimRight (trimLeft t)

/-- Blanks that end a trimmed text are none. -/
theorem Trimmed.eq_nil_of_blank {t b : Text} (h : Trimmed (t++b))
    (hb : Blank b) : b=[] := by
  rcases List.eq_nil_or_concat' b with rfl|⟨q,c,rfl⟩
  · rfl
  · have last := h.last c (by simp [← List.append_assoc])
    have blank := hb c (by simp)
    simp [last] at blank

end BundleManifest.Text
