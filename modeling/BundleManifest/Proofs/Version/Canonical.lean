import BundleManifest.Proofs.Text.Casing
import BundleManifest.Proofs.Version.Components
import BundleManifest.Proofs.Version.Order
import Mathlib.Algebra.Group.Nat.Defs

namespace BundleManifest

namespace Decimal

theorem value_natText (n : Nat) : value (natText n)=n := Nat.ofDigitChars_ten_toDigits

theorem value_cons (c : Char) (digits : Text) :
    value (c::digits)=10^digits.length*(c.toNat - '0'.toNat)+value digits := by
  rw [value,Nat.ofDigitChars_cons,Nat.ofDigitChars_eq_ofDigitChars_zero,Nat.mul_zero,Nat.zero_add]
  rfl

theorem value_lt {digits : Text} (h : ∀ c∈digits, c.isDigit) :
    value digits < 10^digits.length := by
  induction digits with
  | nil => decide
  | cons c r ih =>
    have rest := ih fun d hd => h d (List.mem_cons_of_mem c hd)
    have digit : c.toNat - '0'.toNat ≤ 9 := by
      have bounds := Bool.and_eq_true_iff.mp (h c List.mem_cons_self)
      have last : c.toNat ≤ '9'.toNat := UInt32.le_iff_toNat_le.mp (of_decide_eq_true bounds.2)
      exact Nat.sub_le_sub_right last '0'.toNat
    have place := Nat.mul_le_mul_left (10^r.length) digit
    calc value (c::r)
      _ = 10^r.length*(c.toNat - '0'.toNat)+value r := value_cons c r
      _ < 10^r.length*9+10^r.length := Nat.add_lt_add_of_le_of_lt place rest
      _ = 10^(c::r).length := by rw [List.length_cons,Nat.pow_succ]; omega

/-- Without the zeros in front of it a numeral gets no longer. -/
theorem length_natText_value_le {digits : Text} (nonempty : digits≠[])
    (h : ∀ c∈digits, c.isDigit) : (natText (value digits)).length ≤ digits.length := by
  rw [natText,Nat.length_toDigits_le_iff (by decide) (List.length_pos_iff.mpr nonempty)]
  exact value_lt h

end Decimal

namespace Version

open Decimal (digitLimit natText)
open Text (Blank Trimmed)

/-- The characters around the ends of a range. -/
def delimiters : Text := [',','[',']','(',')']

theorem isBlank_of_delimiter {c : Char} (h : c∈delimiters) : Text.isBlank c=false := by
  have all : delimiters.all (!Text.isBlank ·) := rfl
  simpa using List.all_eq_true.mp all c h

/-- The characters that versions are made of. -/
def isVersionChar (c : Char) : Bool := isQualifierChar c || c = '.'

theorem toNat_lt_of_qualifierChar {c : Char} (h : isQualifierChar c) : c.toNat < 128 := by
  have upTo {d : Char} (small : d.toNat < 128) (hc : c.val ≤ d.val) : c.toNat < 128 :=
    Nat.lt_of_le_of_lt (UInt32.le_iff_toNat_le.mp hc) small
  rcases Bool.or_eq_true_iff.mp h with other|dash
  · rcases Bool.or_eq_true_iff.mp other with letter|underscore
    · rcases Bool.or_eq_true_iff.mp letter with alpha|digit
      · rcases Bool.or_eq_true_iff.mp alpha with upper|lower
        · exact upTo (by decide) (of_decide_eq_true upper).2
        · exact upTo (by decide) (of_decide_eq_true (Bool.and_eq_true_iff.mp lower).2)
      · exact upTo (by decide) (of_decide_eq_true (Bool.and_eq_true_iff.mp digit).2)
    · rw [of_decide_eq_true underscore]
      decide
  · rw [of_decide_eq_true dash]
    decide

theorem not_delimiter_of_versionChar {c : Char} (h : isVersionChar c) :
    Text.isBlank c=false ∧ c∉delimiters := by
  rcases Bool.or_eq_true_iff.mp h with letter|dot
  · have ascii := toNat_lt_of_qualifierChar letter
    revert h
    refine Text.ascii_induction ?_ c ascii
    decide +kernel
  · rw [of_decide_eq_true dot]
    decide

theorem Numeral.qualifier {t : Text} (h : Numeral t) : Qualifier t := by
  refine ⟨h.nonempty,List.all_eq_true.mpr fun c hc => ?_⟩
  have digit : c.isDigit := List.all_eq_true.mp h.all c hc
  simp [isQualifierChar,Char.isAlphanum,digit]

theorem Spelled.qualifiers {ps : List Text} {v : Version} (h : Spelled ps v) :
    ∀ p∈ps, Qualifier p := by
  cases h <;> simp_all [Numeral.qualifier]

theorem Spelled.versionChars {ps : List Text} {v : Version} (h : Spelled ps v) :
    ∀ c∈Text.join ['.'] ps, isVersionChar c := by
  intro c hc
  rcases Text.mem_join hc with dot|⟨p,hp,hc⟩
  · rw [List.mem_singleton.mp dot]
    rfl
  · have letter := List.all_eq_true.mp (h.qualifiers p hp).all c hc
    exact Bool.or_eq_true_iff.mpr (.inl letter)

/-- A version has no blanks to take off. -/
theorem Spelled.trimmed {ps : List Text} {v : Version} (h : Spelled ps v) :
    Trimmed (Text.join ['.'] ps) := by
  constructor
  · intro c hc
    exact (not_delimiter_of_versionChar (h.versionChars c (List.mem_of_head? hc))).1
  · intro c hc
    exact (not_delimiter_of_versionChar (h.versionChars c (List.mem_of_getLast? hc))).1

/-- A numeral beyond the limit is the first that cannot be read. -/
theorem Numeral.overlong {t : Text} (h : Numeral t) (long : digitLimit < t.length) : Overlong t := by
  have spelled := Spelled.major h
  have alone : Text.join ['.'] [t]=t := by simp [Text.join]
  have cut := spelled.cutUpTo
  have whole := Text.trim_of_trimmed spelled.trimmed
  rw [alone] at cut whole
  exact ⟨[],t,[],by rw [whole,cut]; rfl,by simp,h,long⟩

/-- No comma and no bracket stands in a text that is read as a version. -/
theorem not_delimiter_of_parse {t : Text} {v : Version} (h : parse t=.ok v) :
    ∀ c∈t, c∉delimiters := by
  have reserved {c : Char} (blank : Text.isBlank c) : c∉delimiters := by
    intro hc
    simp [isBlank_of_delimiter hc] at blank
  intro c hc
  obtain ⟨spelled,-⟩ := parse_eq_ok_iff.mp h
  cases spelled with
  | blank blank => exact reserved (blank c hc)
  | parts spelled same =>
    obtain ⟨a,b,ha,hb,whole⟩ := Text.exists_margins_trim t
    rw [whole,List.mem_append,List.mem_append] at hc
    rcases hc with (hc|hc)|hc
    · exact reserved (ha c hc)
    · rw [same] at hc
      exact (not_delimiter_of_versionChar (spelled.versionChars c hc)).2
    · exact reserved (hb c hc)

theorem comma_not_mem_of_parse {t : Text} {v : Version} (h : parse t=.ok v) : ','∉t := by
  intro comma
  exact not_delimiter_of_parse h _ comma List.mem_cons_self

theorem parse_trim_eq_ok_iff {t : Text} {v : Version} :
    parse (Text.trim t)=.ok v ↔ parse t=.ok v := by
  have again : Text.trim (Text.trim t)=Text.trim t := Text.trim_of_trimmed (Text.trimmed_trim t)
  by_cases blank : Text.trim t=[]
  · rw [parse_of_blank blank,parse_of_blank (again.trans blank)]
  · have body : Text.trim (Text.trim t)≠[] := by rwa [again]
    rw [parse_eq_ok_iff_readable blank,parse_eq_ok_iff_readable body,components,again]
    rfl

/-- The numbers can be written within the limit, and the qualifier is one unless it is empty. -/
structure Expressible (v : Version) : Prop where
  numbers : ∀ n∈[v.major,v.minor,v.micro], (natText n).length ≤ digitLimit
  qualifier : v.qualifier≠[] → Qualifier v.qualifier

/-- The parts between the dots of the canonical text. -/
def canonicalParts (v : Version) : List Text :=
  [natText v.major,natText v.minor,natText v.micro] ++
    if v.qualifier.isEmpty then [] else [v.qualifier]

theorem toText_eq_join (v : Version) : v.toText=Text.join ['.'] v.canonicalParts := by
  rw [toText,canonicalParts]
  split_ifs <;> simp [Text.join,List.intercalate_cons_cons]

theorem numeral_natText (n : Nat) : Numeral (natText n) := by
  refine ⟨Nat.toDigits_ne_nil,List.all_eq_true.mpr fun c hc => ?_⟩
  exact Nat.isDigit_of_mem_toDigits (by decide) (by decide) hc

theorem spelled_canonicalParts {v : Version} (h : v.Expressible) : Spelled v.canonicalParts v := by
  have ha := numeral_natText v.major
  have hb := numeral_natText v.minor
  have hc := numeral_natText v.micro
  rw [canonicalParts]
  split_ifs with empty
  · have spelled := Spelled.micro ha hb hc
    simp only [Decimal.value_natText] at spelled
    rwa [← List.isEmpty_iff.mp empty] at spelled
  · have spelled := Spelled.qualified ha hb hc (h.qualifier (mt List.isEmpty_iff.mpr empty))
    simp only [Decimal.value_natText] at spelled
    exact spelled

/-- The canonical text of a version that can be written is read as the version. -/
theorem parse_of_expressible {v : Version} (h : v.Expressible) : parse v.toText=.ok v := by
  have spelled := spelled_canonicalParts h
  have whole : Text.trim v.toText=Text.join ['.'] v.canonicalParts := by
    rw [toText_eq_join,Text.trim_of_trimmed spelled.trimmed]
  refine parse_eq_ok_iff.mpr ⟨.parts spelled whole,?_⟩
  rintro ⟨front,part,back,cut,-,-,long⟩
  rw [whole,spelled.cutUpTo] at cut
  have member : part∈v.canonicalParts.take 3 := by simp [cut]
  have number : part∈[v.major,v.minor,v.micro].map natText := member
  obtain ⟨n,hn,rfl⟩ := List.mem_map.mp number
  exact absurd (h.numbers n hn) (Nat.not_le.mpr long)

theorem expressible_zero : Expressible {} where
  numbers := by decide
  qualifier := nofun

theorem Readable.expressible {ps : List Text} (h : Readable ps) : (ofComponents ps).Expressible where
  numbers := by
    have number (i : Nat) (hi : i < 3) :
        (natText ((ps[i]?.map Decimal.value).getD 0)).length ≤ digitLimit := by
      cases place : ps[i]? with
      | none => decide
      | some p =>
        have first : p∈ps.take 3 := by
          apply List.mem_of_getElem? (i := i)
          rwa [List.getElem?_take_of_lt hi]
        obtain ⟨numeral,short⟩ := h.numerals p first
        have digits := List.all_eq_true.mp numeral.all
        exact (Decimal.length_natText_value_le numeral.nonempty digits).trans short
    simpa [ofComponents] using ⟨number 0 (by decide),number 1 (by decide),number 2 (by decide)⟩
  qualifier := by
    intro nonempty
    cases last : ps[3]? with
    | none => simp [ofComponents,last] at nonempty
    | some q => simpa [ofComponents,last] using h.qualifier q last

/-- What is read can be written. -/
theorem expressible_of_parse {t : Text} {v : Version} (h : parse t=.ok v) : v.Expressible := by
  by_cases blank : Text.trim t=[]
  · rw [parse_of_blank blank] at h
    obtain rfl := Except.ok.inj h
    exact expressible_zero
  · obtain ⟨readable,rfl⟩ := (parse_eq_ok_iff_readable blank).mp h
    exact readable.expressible

/-- The versions that are read from some text are those that can be written. -/
theorem exists_text_iff {v : Version} : (∃ t, parse t=.ok v) ↔ v.Expressible :=
  ⟨fun ⟨_,h⟩ => expressible_of_parse h,fun h => ⟨v.toText,parse_of_expressible h⟩⟩

/-- Versions that can be written are told apart by their texts. -/
theorem toText_inj {v w : Version} (hv : v.Expressible) (hw : w.Expressible) :
    v.toText=w.toText ↔ v=w := by
  constructor
  · intro same
    have read := parse_of_expressible hv
    rw [same,parse_of_expressible hw] at read
    exact (Except.ok.inj read).symm
  · rintro rfl
    rfl

end Version

namespace VersionRange

open Text (Trimmed)

/-- The text between brackets, which are square for ends that are included. -/
def bracketed (lowIncluded highIncluded : Bool) (inner : Text) : Text :=
  (if lowIncluded then '[' else '(')::inner++[if highIncluded then ']' else ')']

theorem parseEnds_eq_ok_iff {value inner : Text} {lowIncluded highIncluded : Bool}
    {r : VersionRange} :
    parseEnds value inner lowIncluded highIncluded=.ok r ↔
      ∃ left right low high, Text.cut? ',' inner=some (left,right) ∧
        Version.parse left=.ok low ∧ Version.parse right=.ok high ∧ low ≤ high ∧
        r=.between low high lowIncluded highIncluded := by
  rw [parseEnds]
  cases cut : Text.cut? ',' inner with
  | none => simp [Outcome.reject_ne_ok]
  | some p =>
    simp only [Outcome.bind_eq_ok_iff,Outcome.reject_bind,Outcome.ite_reject_eq_ok_iff,
      Outcome.pure_eq_ok_iff,not_lt]
    constructor
    · rintro ⟨low,hl,high,hh,order,rfl⟩
      exact ⟨p.1,p.2,low,high,rfl,hl,hh,order,rfl⟩
    · rintro ⟨_,_,low,high,⟨⟩,hl,hh,order,rfl⟩
      exact ⟨low,hl,high,hh,order,rfl⟩

theorem trimmed_bracketed (lowIncluded highIncluded : Bool) (inner : Text) :
    Trimmed (bracketed lowIncluded highIncluded inner) := by
  constructor
  · intro c hc
    obtain rfl := Option.some.inj hc
    cases lowIncluded <;> rfl
  · intro c hc
    rw [bracketed,List.getLast?_concat] at hc
    obtain rfl := Option.some.inj hc
    cases highIncluded <;> rfl

theorem trim_bracketed (lowIncluded highIncluded : Bool) (inner : Text) :
    Text.trim (bracketed lowIncluded highIncluded inner)=
      bracketed lowIncluded highIncluded inner :=
  Text.trim_of_trimmed (trimmed_bracketed lowIncluded highIncluded inner)

theorem parse_of_bracketed {t inner : Text} {lowIncluded highIncluded : Bool}
    (h : Text.trim t=bracketed lowIncluded highIncluded inner) :
    parse t=parseEnds t inner lowIncluded highIncluded := by
  rw [parse,h,bracketed,List.cons_append]
  cases lowIncluded <;> cases highIncluded <;> simp

/-- What stands behind an opening bracket is the inside and a closing bracket. -/
theorem bracketed_of_getLast? {r : Text} {highIncluded : Bool}
    (h : r.getLast?=some (if highIncluded then ']' else ')')) (lowIncluded : Bool) :
    (if lowIncluded then '[' else '(')::r=bracketed lowIncluded highIncluded r.dropLast := by
  rw [bracketed,List.cons_append,List.dropLast_append_getLast?]
  exact h

/-- A text with an opening bracket has a closing one too, or it is no range. -/
theorem exists_bracketed_of_parse {t s : Text} {c : Char} {r : VersionRange}
    (body : Text.trim t=c::s) (opened : (c = '[' || c = '(')=true) (h : parse t=.ok r) :
    ∃ lowIncluded highIncluded inner, Text.trim t=bracketed lowIncluded highIncluded inner ∧
      parseEnds t inner lowIncluded highIncluded=.ok r := by
  have bracket : (if decide (c = '[') then '[' else '(')=c := by
    rcases Bool.or_eq_true_iff.mp opened with square|round
    · simp [of_decide_eq_true square]
    · rw [of_decide_eq_true round]
      rfl
  have closed {highIncluded : Bool} (last : s.getLast?=some (if highIncluded then ']' else ')')) :
      Text.trim t=bracketed (decide (c = '[')) highIncluded s.dropLast := by
    rw [← bracketed_of_getLast? last,bracket,body]
  rw [parse,body] at h
  dsimp only at h
  rw [if_pos opened] at h
  split at h
  · next last => exact ⟨_,true,_,closed last,h⟩
  · next last => exact ⟨_,false,_,closed last,h⟩
  · cases h

theorem parse_of_version {t : Text} {low : Version} (h : Version.parse t=.ok low) :
    parse t=.ok (.atLeast low) := by
  cases body : Text.trim t with
  | nil =>
    rw [Version.parse_of_blank body] at h
    obtain rfl := Except.ok.inj h
    rw [parse,body]
    rfl
  | cons c s =>
    have inside : c∈t := (Text.trim_within t).subset (by simp [body])
    have bare := Version.not_delimiter_of_parse h c inside
    have unopened : ¬(c = '[' || c = '(')=true := by
      intro opened
      rcases Bool.or_eq_true_iff.mp opened with square|round
      · exact bare (by simp [Version.delimiters,of_decide_eq_true square])
      · exact bare (by simp [Version.delimiters,of_decide_eq_true round])
    rw [parse,body]
    dsimp only
    rw [if_neg unopened,← body,Version.parse_trim_eq_ok_iff.mpr h]
    rfl

/-- Ranges are read from a version and from two of them between brackets. -/
theorem parse_eq_ok_iff {t : Text} {r : VersionRange} :
    parse t=.ok r ↔ (∃ low, Version.parse t=.ok low ∧ r=.atLeast low) ∨
      ∃ lowIncluded highIncluded inner, Text.trim t=bracketed lowIncluded highIncluded inner ∧
        parseEnds t inner lowIncluded highIncluded=.ok r := by
  constructor
  · intro h
    cases body : Text.trim t with
    | nil =>
      rw [parse,body] at h
      obtain rfl := Except.ok.inj h
      exact .inl ⟨{},Version.parse_of_blank body,rfl⟩
    | cons c s =>
      by_cases opened : (c = '[' || c = '(')=true
      · rw [← body]
        exact .inr (exists_bracketed_of_parse body opened h)
      · rw [parse,body] at h
        dsimp only at h
        rw [if_neg opened,← body] at h
        obtain ⟨low,read,rfl⟩ := Outcome.map_eq_ok_iff.mp h
        exact .inl ⟨low,Version.parse_trim_eq_ok_iff.mp read,rfl⟩
  · rintro (⟨low,read,rfl⟩|⟨_,_,_,body,ends⟩)
    · exact parse_of_version read
    · rwa [parse_of_bracketed body]

/-- Two versions between brackets are read when they are in order. -/
theorem parse_ordered {left right : Text} {low high : Version} (lowIncluded highIncluded : Bool)
    (hl : Version.parse left=.ok low) (hh : Version.parse right=.ok high) (order : low ≤ high) :
    parse (bracketed lowIncluded highIncluded (left ++ ',' :: right))=
      .ok (.between low high lowIncluded highIncluded) := by
  have cut := Text.cut?_append (Version.comma_not_mem_of_parse hl) right
  rw [parse_of_bracketed (trim_bracketed _ _ _)]
  exact parseEnds_eq_ok_iff.mpr ⟨left,right,low,high,cut,hl,hh,order,rfl⟩

/-- The ends can be written, and they are in order. -/
def Expressible : VersionRange → Prop
  | .atLeast low => low.Expressible
  | .between low high _ _ => low.Expressible ∧ high.Expressible ∧ low ≤ high

theorem expressible_of_parse {t : Text} {r : VersionRange} (h : parse t=.ok r) :
    r.Expressible := by
  rcases parse_eq_ok_iff.mp h with ⟨low,read,rfl⟩|⟨_,_,_,-,ends⟩
  · exact Version.expressible_of_parse read
  · obtain ⟨left,right,low,high,-,hl,hh,order,rfl⟩ := parseEnds_eq_ok_iff.mp ends
    exact ⟨Version.expressible_of_parse hl,Version.expressible_of_parse hh,order⟩

theorem parse_of_expressible {r : VersionRange} (h : r.Expressible) : parse r.toText=.ok r := by
  cases r with
  | atLeast low => exact parse_of_version (Version.parse_of_expressible h)
  | between low high lowIncluded highIncluded =>
    obtain ⟨hl,hh,order⟩ := h
    exact parse_ordered lowIncluded highIncluded (Version.parse_of_expressible hl)
      (Version.parse_of_expressible hh) order

theorem exists_text_iff {r : VersionRange} : (∃ t, parse t=.ok r) ↔ r.Expressible :=
  ⟨fun ⟨_,h⟩ => expressible_of_parse h,fun h => ⟨r.toText,parse_of_expressible h⟩⟩

/-- The range has no upper end and includes its lower one, or its ends are in order. -/
theorem Expressible.ends {r : VersionRange} (h : r.Expressible) :
    r.high?=none ∧ r.lowIncluded=true ∨ ∃ high, r.high?=some high ∧ r.low ≤ high := by
  cases r with
  | atLeast => exact .inl ⟨rfl,rfl⟩
  | between _ high => exact .inr ⟨high,rfl,h.2.2⟩

/-- Ranges and versions are read back from their canonical texts, which tell versions apart, and what
can be written is what some text is read as. The ends of a range are in order. -/
theorem canonical_text_read_back :
    (∀ r, (∃ t, parse t=.ok r) ↔ r.Expressible) ∧
    (∀ t r, parse t=.ok r → parse r.toText=.ok r ∧
      (r.high?=none ∧ r.lowIncluded=true ∨ ∃ high, r.high?=some high ∧ r.low ≤ high)) ∧
    (∀ v, (∃ t, Version.parse t=.ok v) ↔ v.Expressible) ∧
    (∀ t v, Version.parse t=.ok v → Version.parse v.toText=.ok v) ∧
    ∀ s t v w, Version.parse s=.ok v → Version.parse t=.ok w → (v.toText=w.toText ↔ v=w) := by
  refine ⟨fun r => exists_text_iff,fun t r h => ?_,fun v => Version.exists_text_iff,fun t v h => ?_,
    fun s t v w hv hw => ?_⟩
  · have written := expressible_of_parse h
    exact ⟨parse_of_expressible written,written.ends⟩
  · exact Version.parse_of_expressible (Version.expressible_of_parse h)
  · exact Version.toText_inj (Version.expressible_of_parse hv) (Version.expressible_of_parse hw)

/-- Blanks, leading zeros and missing numbers do not come back, the qualifier and the brackets do. -/
theorem canonical_text_of_padded_interval :
    let low : Version := ⟨1,2,0,[]⟩
    let high : Version := ⟨3,0,0,"b_-".toList⟩
    let r : VersionRange := .between low high false true
    parse " ( 01.2 ,0003.0.0.b_-] ".toList=.ok r ∧ r.toText="(1.2.0,3.0.0.b_-]".toList ∧
    parse r.toText=.ok r ∧ low ≤ high ∧
    Version.parse low.toText=.ok low ∧ low.toText≠high.toText := by
  intro low high r
  obtain ⟨-,ranges,-,versions,apart⟩ := canonical_text_read_back
  have read : parse " ( 01.2 ,0003.0.0.b_-] ".toList=.ok r := by decide +kernel
  have first : Version.parse " 01.2 ".toList=.ok low := by decide +kernel
  have second : Version.parse "0003.0.0.b_-".toList=.ok high := by decide +kernel
  obtain ⟨back,ends⟩ := ranges _ _ read
  have order : low ≤ high := by
    rcases ends with ⟨none,-⟩|⟨_,some,order⟩
    · cases none
    · rwa [← Option.some.inj some] at order
  exact ⟨read,by decide +kernel,back,order,versions _ _ first,
    mt (apart _ _ _ _ first second).mp (by decide)⟩

end VersionRange

end BundleManifest
