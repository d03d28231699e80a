import BundleManifest.Header.Pieces
import BundleManifest.Proofs.Outcome
import BundleManifest.Proofs.Text.Trim

namespace BundleManifest.Header

open Text (Blank Trimmed)

/-- Every quote that is opened is closed. -/
def Balanced (t : Text) : Prop := t.count '"'%2=0

instance (t : Text) : Decidable (Balanced t) := inferInstanceAs (Decidable (_=_))

theorem balanced_nil : Balanced [] := rfl

theorem balanced_append {a b : Text} : Balanced (a++b) ↔ (Balanced a ↔ Balanced b) := by
  simp only [Balanced,List.count_append]
  omega

theorem balanced_quote {t : Text} : Balanced ('"' :: t) ↔ ¬Balanced t := by
  simp only [Balanced,List.count_cons_self]
  omega

theorem balanced_of_not_mem {t : Text} (h : '"'∉t) : Balanced t := by
  rw [Balanced,List.count_eq_zero_of_not_mem h]

theorem balanced_cons {c : Char} (h : c ≠ '"') {t : Text} : Balanced (c::t) ↔ Balanced t := by
  simp only [Balanced,List.count_cons_of_ne h]

/-- Every delimiter in the text stands inside of quotes. -/
def Guarded (d : Char) (t : Text) : Prop := ∀ a b, t=a++d::b → ¬Balanced a

theorem guarded_of_not_mem {d : Char} {t : Text} (h : d∉t) : Guarded d t := by
  rintro a b rfl
  exact absurd (by simp) h

theorem Guarded.append {d : Char} {s t : Text} (hs : Guarded d s) (hb : Balanced s)
    (ht : Guarded d t) : Guarded d (s++t) := by
  intro a b h
  rcases List.append_eq_append_iff.mp h with ⟨r,rfl,hr⟩|⟨r,rfl,hr⟩
  · rw [balanced_append]
    exact fun same => ht r b hr (same.mp hb)
  · cases r with
    | nil =>
      have start : t=[]++d::b := hr.symm
      exact absurd balanced_nil (ht [] b start)
    | cons c r =>
      obtain ⟨rfl,-⟩ := List.cons.inj hr
      exact hs a r rfl

/-- A text between quotes guards what is in it. -/
theorem guarded_quoted {d : Char} (hd : d ≠ '"') {v : Text} (hv : '"'∉v) :
    Guarded d ('"' :: v++['"']) := by
  intro a b h
  rw [List.cons_append] at h
  cases a with
  | nil => exact absurd (List.cons.inj h).1.symm hd
  | cons c a =>
    rw [List.cons_append] at h
    obtain ⟨rfl,behind⟩ := List.cons.inj h
    have inside : '"'∉a := by
      rcases List.append_eq_append_iff.mp behind with ⟨r,rfl,hr⟩|⟨r,rfl,-⟩
      · cases r with
        | nil => simpa using hv
        | cons c r => simp at hr
      · exact fun ha => hv (List.mem_append_left r ha)
    rw [balanced_quote]
    exact not_not_intro (balanced_of_not_mem inside)

/-- A quote is left open exactly when their number is odd. -/
theorem open_cutOutsideQuotes_iff {d : Char} {quoted : Bool} {t : Text} :
    (cutOutsideQuotes d quoted t).2 ↔ (Balanced t ↔ quoted) := by
  induction t generalizing quoted with
  | nil => simp [cutOutsideQuotes,balanced_nil]
  | cons c r ih =>
    rw [cutOutsideQuotes]
    by_cases quote : c = '"'
    · subst quote
      rw [if_pos rfl,Prod.map_snd,id,ih,balanced_quote]
      cases quoted <;> simp
    · rw [if_neg quote,balanced_cons quote,← ih]
      split_ifs <;> rfl

theorem parts_ne_nil (d : Char) (quoted : Bool) (t : Text) :
    parts d quoted t≠[] := by
  induction t generalizing quoted with
  | nil => simp [parts_nil]
  | cons c r ih =>
    rw [parts_cons]
    split_ifs
    · simpa using ih _
    · simp
    · simpa using ih _

/-- A cut is made where no quote is open. -/
theorem parts_append {d : Char} (hd : d ≠ '"') {quoted : Bool} {a : Text}
    (h : Balanced a ↔ quoted=false) (b : Text) :
    parts d quoted (a++d::b)=
      parts d quoted a++parts d false b := by
  have extend : ∀ (c : Char) (xs ys : List Text), xs≠[] →
      (xs++ys).modifyHead (c::·)=xs.modifyHead (c::·)++ys := by
    intro c xs ys hx
    cases xs with
    | nil => exact absurd rfl hx
    | cons x xs => rfl
  -- a quote turns the state over, so the state is general in the induction
  induction a generalizing quoted with
  | nil =>
    obtain rfl := h.mp balanced_nil
    simp [parts_nil,parts_cons,hd]
  | cons c r ih =>
    rw [List.cons_append,parts_cons,parts_cons]
    by_cases quote : c = '"'
    · subst quote
      have inner : Balanced r ↔ (!quoted)=false := by
        rw [balanced_quote] at h
        cases quoted <;> simp_all
      rw [if_pos rfl,if_pos rfl,ih inner,extend _ _ _ (parts_ne_nil _ _ _)]
    · have inner := ih ((balanced_cons quote).symm.trans h)
      rw [if_neg quote,if_neg quote,inner]
      split_ifs
      · rfl
      · exact extend _ _ _ (parts_ne_nil _ _ _)

theorem parts_of_guarded {d : Char} {quoted : Bool} {t : Text}
    (h : ∀ a b, t=a++d::b → ¬(Balanced a ↔ quoted=false)) : parts d quoted t=[t] := by
  induction t generalizing quoted with
  | nil => rfl
  | cons c r ih =>
    rw [parts_cons]
    by_cases quote : c = '"'
    · subst quote
      have inner : parts d (!quoted) r=[r] := by
        apply ih
        rintro a b rfl same
        apply h ('"' :: a) b rfl
        rw [balanced_quote]
        cases quoted <;> simp_all
      rw [if_pos rfl,inner]
      rfl
    · have open' : ¬(c=d && !quoted)=true := by
        intro cut
        simp only [Bool.and_eq_true,decide_eq_true_eq,Bool.not_eq_true'] at cut
        obtain ⟨rfl,closed⟩ := cut
        exact h [] r rfl ⟨fun _ => closed,fun _ => balanced_nil⟩
      have inner : parts d quoted r=[r] := by
        apply ih
        rintro a b rfl same
        exact h (c::a) b rfl ((balanced_cons quote).trans same)
      rw [if_neg quote,if_neg open',inner]
      rfl

/-- What cutting can leave as a piece. -/
structure IsPiece (d : Char) (p : Text) : Prop where
  nonempty : p≠[]
  trimmed : Trimmed p
  balanced : Balanced p
  guarded : Guarded d p

/-- Blanks and delimiters. -/
def Filler (d : Char) (t : Text) : Prop := ∀ c∈t, Text.isBlank c ∨ c=d

instance (d : Char) (t : Text) : Decidable (Filler d t) := List.decidableBAll _ t

/-- The pieces one after the other, with at least one delimiter and any blanks between them. -/
inductive Joined (d : Char) : List Text → Text → Prop
  | one (p : Text) : Joined d [p] p
  | cons {p g t : Text} {ps : List Text} : Filler d g → d∈g → Joined d ps t →
    Joined d (p::ps) (p++g++t)

/-- The joined pieces with filler around them. -/
inductive Spaced (d : Char) : List Text → Text → Prop
  | none {t : Text} : Filler d t → Spaced d [] t
  | some {a t b : Text} {ps : List Text} : Filler d a → Joined d ps t → Filler d b →
    Spaced d ps (a++t++b)

/-- The trimmed parts that are not empty. -/
def kept (d : Char) (t : Text) : List Text :=
  ((parts d false t).map Text.trim).filter (· ≠ [])

theorem pieces_eq (d : Char) (t : Text) :
    pieces d t=if Balanced t then .ok (kept d t) else Outcome.reject (.unbalancedQuote t) := by
  have odd := @open_cutOutsideQuotes_iff d false t
  rw [pieces]
  by_cases h : Balanced t
  · have closed : (cutOutsideQuotes d false t).2=false := by simpa [h] using odd
    rw [if_pos h]
    simp only [closed,Bool.false_eq_true,if_false]
    rfl
  · have left : (cutOutsideQuotes d false t).2=true := by simpa [h] using odd
    rw [if_neg h]
    simp only [left,if_true]

theorem kept_append {d : Char} (hd : d ≠ '"') {a : Text} (ha : Balanced a) (b : Text) :
    kept d (a++d::b)=kept d a++kept d b := by
  rw [kept,parts_append hd (by simpa using ha),List.map_append,List.filter_append]
  rfl

theorem kept_nil (d : Char) : kept d []=[] := by
  simp [kept,parts_nil,Text.trim,Text.trimLeft,Text.trimRight]

theorem isBlank_quote : Text.isBlank '"'=false := by decide

/-- Filler in front of a text is passed over. -/
theorem kept_filler {d : Char} (hd : d ≠ '"') {a : Text} (ha : Filler d a) (t : Text) :
    kept d (a++t)=kept d t := by
  induction a with
  | nil => rfl
  | cons c r ih =>
    have inner := ih fun x hx => ha x (List.mem_cons_of_mem c hx)
    rw [List.cons_append,← inner]
    by_cases cut : c=d
    · subst cut
      have none := kept_append hd balanced_nil (r++t)
      rwa [kept_nil] at none
    · have blank : Text.isBlank c := (ha c List.mem_cons_self).resolve_right cut
      have quote : c ≠ '"' := by
        rintro rfl
        simp [isBlank_quote] at blank
      have head : ∀ p : Text, Text.trim (c::p)=Text.trim p := by
        intro p
        have margin : Blank [c] := by simpa [Blank] using blank
        simpa using Text.trim_append margin Text.blank_nil p
      rw [kept,kept,parts_cons,if_neg quote,if_neg (by simp [cut])]
      cases parts d false (r++t) with
      | nil => rfl
      | cons p ps => rw [List.modifyHead_cons,List.map_cons,List.map_cons,head]

theorem kept_piece {d : Char} {p b : Text} (hp : IsPiece d p) (hb : Blank b) (cut : d∉b) :
    kept d (p++b)=[p] := by
  have whole : parts d false (p++b)=[p++b] := by
    apply parts_of_guarded
    intro x y h
    have guarded := hp.guarded.append hp.balanced (guarded_of_not_mem cut) x y h
    simpa using guarded
  have trim : Text.trim (p++b)=p :=
    (Text.trim_append Text.blank_nil hb p).trans (Text.trim_of_trimmed hp.trimmed)
  simp [kept,whole,trim,hp.nonempty]

theorem Filler.not_mem_quote {d : Char} (hd : d ≠ '"') {t : Text} (h : Filler d t) : '"'∉t := by
  intro quote
  rcases h _ quote with blank|same
  · simp [isBlank_quote] at blank
  · exact hd same.symm

/-- A piece ends at the first delimiter in the filler behind it. -/
theorem kept_piece_append {d : Char} (hd : d ≠ '"') {p g : Text} (hp : IsPiece d p)
    (hg : Filler d g) (cut : d∈g) (t : Text) : kept d (p++g++t)=p::kept d t := by
  obtain ⟨b,r,rfl,first⟩ := List.eq_append_cons_of_mem cut
  have blank : Blank b := by
    intro c hc
    apply (hg c (List.mem_append_left _ hc)).resolve_right
    rintro rfl
    exact first hc
  have filler : Filler d r := fun c hc => hg c (by simp [hc])
  have closed : Balanced (p++b) := by
    have quotes := hg.not_mem_quote hd
    have none : Balanced b := balanced_of_not_mem fun h => quotes (List.mem_append_left _ h)
    exact balanced_append.mpr ⟨fun _ => none,fun _ => hp.balanced⟩
  calc
    kept d (p++(b++d::r)++t) = kept d (p++b++d::(r++t)) := by simp
    _ = kept d (p++b)++kept d (r++t) := kept_append hd closed _
    _ = p::kept d t := by rw [kept_piece hp blank first,kept_filler hd filler]; rfl

theorem kept_piece_filler {d : Char} (hd : d ≠ '"') {p g : Text} (hp : IsPiece d p)
    (hg : Filler d g) : kept d (p++g)=[p] := by
  by_cases cut : d∈g
  · have ends := kept_piece_append hd hp hg cut []
    rwa [List.append_nil,kept_nil] at ends
  · apply kept_piece hp _ cut
    intro c hc
    apply (hg c hc).resolve_right
    rintro rfl
    exact cut hc

theorem kept_joined {d : Char} (hd : d ≠ '"') {ps : List Text} {t b : Text} (h : Joined d ps t)
    (hp : ∀ p∈ps, IsPiece d p) (hb : Filler d b) : kept d (t++b)=ps := by
  induction h with
  | one p => exact kept_piece_filler hd (hp p List.mem_cons_self) hb
  | @cons p g t ps hg cut _ ih =>
    have rest := ih fun q hq => hp q (List.mem_cons_of_mem p hq)
    rw [List.append_assoc,kept_piece_append hd (hp p List.mem_cons_self) hg cut,rest]

theorem Joined.balanced {d : Char} (hd : d ≠ '"') {ps : List Text} {t : Text} (h : Joined d ps t)
    (hp : ∀ p∈ps, Balanced p) : Balanced t := by
  induction h with
  | one p => exact hp p List.mem_cons_self
  | @cons p g t ps hg _ _ ih =>
    have first := hp p List.mem_cons_self
    have gap := balanced_of_not_mem (hg.not_mem_quote hd)
    have rest := ih fun q hq => hp q (List.mem_cons_of_mem p hq)
    simp [balanced_append,first,gap,rest]

/-- Cutting gives back the pieces that were put together. -/
theorem pieces_of_spaced {d : Char} (hd : d ≠ '"') {ps : List Text} {t : Text}
    (h : Spaced d ps t) (hp : ∀ p∈ps, IsPiece d p) : pieces d t=.ok ps := by
  cases h with
  | none ht =>
    have closed : Balanced t := balanced_of_not_mem (ht.not_mem_quote hd)
    have empty := kept_filler hd ht []
    rw [List.append_nil,kept_nil] at empty
    rw [pieces_eq,if_pos closed]
    exact congrArg _ empty
  | @some a u b _ ha hu hb =>
    have inner := hu.balanced hd fun p hm => (hp p hm).balanced
    have closed : Balanced (a++u++b) := by
      have left := balanced_of_not_mem (ha.not_mem_quote hd)
      have right := balanced_of_not_mem (hb.not_mem_quote hd)
      simp [balanced_append,left,right,inner]
    have all := kept_filler hd ha (u++b)
    rw [kept_joined hd hu hp hb,← List.append_assoc] at all
    rw [pieces_eq,if_pos closed]
    exact congrArg _ all

theorem pieces_of_joined {d : Char} (hd : d ≠ '"') {ps : List Text} {t : Text}
    (h : Joined d ps t) (hp : ∀ p∈ps, IsPiece d p) : pieces d t=.ok ps := by
  have around := Spaced.some (a := []) (b := []) nofun h nofun
  rw [List.nil_append,List.append_nil] at around
  exact pieces_of_spaced hd around hp

/-- Pieces for one delimiter, joined with another one, make up a piece again. -/
theorem Joined.isPiece {d e : Char} (plain : Text.isBlank e=false) (he : e≠d) (hd : d ≠ '"')
    {ps : List Text} {t : Text} (h : Joined d ps t) (hp : ∀ p∈ps, IsPiece e p) : IsPiece e t := by
  induction h with
  | one p => exact hp p List.mem_cons_self
  | @cons p g t ps hg cut _ ih =>
    have first := hp p List.mem_cons_self
    have rest := ih fun q hq => hp q (List.mem_cons_of_mem p hq)
    have gap : Balanced g := balanced_of_not_mem (hg.not_mem_quote hd)
    have absent : e∉g := by
      intro hm
      rcases hg e hm with blank|same
      · simp [plain] at blank
      · exact he same
    constructor
    · simp [first.nonempty]
    · exact first.trimmed.append rest.trimmed first.nonempty rest.nonempty g
    · simp [balanced_append,first.balanced,gap,rest.balanced]
    · have front := first.guarded.append first.balanced (guarded_of_not_mem absent)
      refine front.append ?_ rest.guarded
      simp [balanced_append,first.balanced,gap]

end BundleManifest.Header
