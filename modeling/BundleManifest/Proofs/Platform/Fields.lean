import BundleManifest.Proofs.Filter.Evaluation
import BundleManifest.Proofs.Filter.Parsing
import BundleManifest.Proofs.Native.Selection
import BundleManifest.Proofs.Native.Stored
import BundleManifest.Proofs.Platform.Matcher
import BundleManifest.Running.Stacks

namespace BundleManifest.Platform

/-- One of the entries of a field agrees with the platform, or the field has none. -/
def Met (agrees : Text → Prop) (entries : List Text) : Prop :=
  entries=[] ∨ ∃ e∈entries, agrees e

/-- The range includes the release of the platform. -/
def InRange (properties : Dictionary Text) (range : Text) : Prop :=
  ∃ r v, VersionRange.parse range=.ok r ∧
    releaseVersion (property properties osVersionKey)=.ok v ∧ r.includes v

/-- The platform satisfies the filter that the text stands for. -/
def Satisfies (properties : Dictionary Text) (filter : Text) : Prop :=
  ∃ f, Filter.Derives (Text.trim filter) f ∧ f.Satisfied (Properties.ofTexts properties)

/-- The platform is what every field of the clause asks for. -/
@[mk_iff] structure Fits (properties : Dictionary Text) (c : NativeClause) : Prop where
  osName : Met (normalOsName ·=normalOsName (property properties osNameKey)) c.osNames
  processor :
    Met (normalProcessor ·=normalProcessor (property properties processorKey)) c.processors
  osVersion : Met (InRange properties) c.osVersions
  language : Met (fold ·=fold (property properties languageKey)) c.languages
  selectionFilter : ∀ t, c.selectionFilter=some t → t≠[] → Satisfies properties t

/-- There is room to read the filter of the clause again and to evaluate it. -/
def Shallow (stack : MatchStack) (properties : Dictionary Text) (c : NativeClause) : Prop :=
  ∀ t f, c.selectionFilter=some t → Filter.Derives (Text.trim t) f →
    f.descent stack.reading ≤ stack.reading.room ∧
      f.reach stack.evaluating (Properties.ofTexts properties) ≤ stack.evaluating.room

/-- The fields have the same entries, in whatever order and however often. -/
structure SameEntries (c d : NativeClause) : Prop where
  osNames : ∀ t, t∈d.osNames ↔ t∈c.osNames
  processors : ∀ t, t∈d.processors ↔ t∈c.processors
  osVersions : ∀ t, t∈d.osVersions ↔ t∈c.osVersions
  languages : ∀ t, t∈d.languages ↔ t∈c.languages
  selectionFilter : d.selectionFilter=c.selectionFilter

/-- The entries are gone, or there were some and all of them are still there. -/
def Widened (entries entries' : List Text) : Prop :=
  entries'=[] ∨ entries≠[] ∧ entries⊆entries'

/-- The second clause has every field of the first one widened or as it was, and its filter or none. -/
structure Relaxed (c d : NativeClause) : Prop where
  osNames : Widened c.osNames d.osNames
  processors : Widened c.processors d.processors
  osVersions : Widened c.osVersions d.osVersions
  languages : Widened c.languages d.languages
  selectionFilter : d.selectionFilter=none ∨ d.selectionFilter=c.selectionFilter

theorem met_iff {p : Text → Bool} {entries : List Text} :
    (entries.isEmpty || entries.any p)=true ↔ Met (p ·=true) entries := by
  rw [Bool.or_eq_true,List.isEmpty_iff,List.any_eq_true,Met]

theorem fitsOsName_iff {properties : Dictionary Text} {c : NativeClause} :
    fitsOsName properties c=true ↔
      Met (normalOsName ·=normalOsName (property properties osNameKey)) c.osNames := by
  simp only [fitsOsName,met_iff,beq_iff_eq]

theorem fitsProcessor_iff {properties : Dictionary Text} {c : NativeClause} :
    fitsProcessor properties c=true ↔
      Met (normalProcessor ·=normalProcessor (property properties processorKey)) c.processors := by
  simp only [fitsProcessor,met_iff,beq_iff_eq]

theorem fitsLanguage_iff {properties : Dictionary Text} {c : NativeClause} :
    fitsLanguage properties c=true ↔
      Met (fold ·=fold (property properties languageKey)) c.languages := by
  simp only [fitsLanguage,met_iff,beq_iff_eq]

variable {reading : Filter.ReadStack} {stack : MatchStack} {properties : Dictionary Text}
  {c d : NativeClause}

/-- With a release and ranges that can be read, the answer is whether one of the ranges includes it. -/
theorem exists_fitsOsVersion_iff (short : ShortDecimals (property properties osVersionKey))
    (ranges : ∀ t∈c.osVersions, ∃ r, VersionRange.parse t=.ok r) :
    ∃ b, fitsOsVersion properties c=.ok b ∧ (b=true ↔ Met (InRange properties) c.osVersions) := by
  obtain ⟨v,hv⟩ := exists_releaseVersion short
  rw [fitsOsVersion]
  split_ifs with empty
  · exact ⟨true,rfl,by simp [Met,List.isEmpty_iff.mp empty]⟩
  · refine ⟨_,by rw [hv]; exact Native.anyRange_eq ranges,?_⟩
    rw [List.any_eq_true,Met,or_iff_right (mt List.isEmpty_iff.mpr empty)]
    refine exists_congr fun t => and_congr_right fun ht => ?_
    obtain ⟨r,hr⟩ := ranges t ht
    simp [InRange,hr,hv,Except.toOption]

theorem fitsFilter_of_written {t : Text} (present : c.selectionFilter=some t) (written : t≠[]) :
    fitsFilter stack properties c=Filter.parse stack.reading t >>=
      Filter.holds stack.evaluating (Properties.ofTexts properties) := by
  cases t with
  | nil => exact absurd rfl written
  | cons => rw [fitsFilter,present]

/-- A filter that was read somewhere has an answer, unless it is too deep for this place. -/
theorem fitsFilter_cases (h : c.Rereadable reading) :
    (∃ b, fitsFilter stack properties c=.ok b ∧
      (b=true ↔ ∀ t, c.selectionFilter=some t → t≠[] → Satisfies properties t)) ∨
    fitsFilter stack properties c=.error .nestedTooDeep ∧ ¬Shallow stack properties c := by
  rw [fitsFilter]
  split
  · next absent => exact .inl ⟨true,rfl,by simp [absent]⟩
  · next empty => exact .inl ⟨true,rfl,by simp [empty]⟩
  · next t written present =>
    obtain ⟨f,hf⟩ := h.selectionFilter t present
    have derived := (Filter.parse_eq_ok_iff.mp hf).1
    have nonempty : t≠[] := written
    rw [Filter.parse_of_derives derived]
    by_cases enough : f.descent stack.reading ≤ stack.reading.room
    · rw [if_pos enough]
      rcases Filter.holds_cases stack.evaluating (Properties.ofTexts properties) f with
        ⟨b,hb⟩|⟨deep,short⟩
      · refine .inl ⟨b,hb,?_⟩
        rw [Filter.satisfied_iff hb]
        simp only [present,Option.some.injEq,forall_eq',nonempty,not_false_eq_true,ne_eq,
          forall_const,Satisfies]
        exact ⟨fun yes => ⟨f,derived,yes⟩,fun ⟨g,hg,yes⟩ => hg.eq derived ▸ yes⟩
      · refine .inr ⟨deep,fun shallow => ?_⟩
        exact absurd (shallow t f present derived).2 (by omega)
    · rw [if_neg enough]
      exact .inr ⟨rfl,fun shallow => enough (shallow t f present derived).1⟩

/-- The filter is looked at only when everything else fits. -/
theorem accepts_eq {version : Bool} (hv : fitsOsVersion properties c=.ok version) :
    accepts stack properties c=
      if fitsOsName properties c && fitsProcessor properties c && version &&
        fitsLanguage properties c then fitsFilter stack properties c else .ok false := by
  simp only [accepts,hv]
  cases fitsOsName properties c && fitsProcessor properties c <;>
    cases version <;> cases fitsLanguage properties c <;> rfl

/-- Where everything else fits, the filter gives the outcome. -/
theorem accepts_of_filter {t : Text} {f : Filter} (version : fitsOsVersion properties c=.ok true)
    (fields : (fitsOsName properties c && fitsProcessor properties c && true &&
      fitsLanguage properties c)=true)
    (present : c.selectionFilter=some t) (written : t≠[])
    (read : Filter.parse stack.reading t=.ok f) :
    accepts stack properties c=Filter.holds stack.evaluating (Properties.ofTexts properties) f := by
  rw [accepts_eq version,if_pos fields,fitsFilter_of_written present written,read]
  rfl

/-- A clause is accepted by a platform that is what all of its fields ask for, unless its filter is
too deep to find out. -/
theorem accepts_cases (short : ShortDecimals (property properties osVersionKey))
    (h : c.Rereadable reading) :
    (∃ b, accepts stack properties c=.ok b ∧ (b=true ↔ Fits properties c)) ∨
      accepts stack properties c=.error .nestedTooDeep ∧ ¬Shallow stack properties c := by
  obtain ⟨version,hv,version_iff⟩ := exists_fitsOsVersion_iff short h.ranges
  rw [accepts_eq hv,fits_iff,← fitsOsName_iff,← fitsProcessor_iff,← version_iff,← fitsLanguage_iff]
  split_ifs with fields
  · simp only [Bool.and_eq_true] at fields
    obtain ⟨⟨⟨name,processor⟩,matched⟩,language⟩ := fields
    rcases @fitsFilter_cases reading stack properties c h with ⟨b,hb,filter_iff⟩|deep
    · exact .inl ⟨b,hb,by simp [name,processor,matched,language,filter_iff]⟩
    · exact .inr deep
  · refine .inl ⟨false,rfl,?_⟩
    simp only [Bool.and_eq_true,and_assoc] at fields
    simp only [reduceCtorEq,false_iff]
    rintro ⟨name,processor,matched,language,-⟩
    exact fields ⟨name,processor,matched,language⟩

theorem accepts_eq_true_iff :
    accepts stack properties c=.ok true ↔ fitsOsName properties c=true ∧
      fitsProcessor properties c=true ∧ fitsOsVersion properties c=.ok true ∧
      fitsLanguage properties c=true ∧ fitsFilter stack properties c=.ok true := by
  simp only [accepts]
  cases fitsOsName properties c <;> cases fitsProcessor properties c <;>
    rcases fitsOsVersion properties c with e|_|_ <;> cases fitsLanguage properties c <;>
    simp [bind,Except.bind,pure,Except.pure]

theorem Met.congr {agrees : Text → Prop} {entries entries' : List Text}
    (same : ∀ t, t∈entries' ↔ t∈entries) : Met agrees entries' ↔ Met agrees entries := by
  simp only [Met,List.eq_nil_iff_forall_not_mem,same]

theorem Met.widen {agrees : Text → Prop} {entries entries' : List Text}
    (h : Met agrees entries) (widened : Widened entries entries') : Met agrees entries' := by
  rcases widened with gone|⟨declared,more⟩
  · exact .inl gone
  · obtain ⟨t,ht,agree⟩ := h.resolve_left declared
    exact .inr ⟨t,more ht,agree⟩

theorem SameEntries.accepts_eq (same : SameEntries c d)
    (short : ShortDecimals (property properties osVersionKey))
    (ranges : ∀ t∈c.osVersions, ∃ r, VersionRange.parse t=.ok r) :
    accepts stack properties d=accepts stack properties c := by
  have name : fitsOsName properties d=fitsOsName properties c := by
    rw [Bool.eq_iff_iff,fitsOsName_iff,fitsOsName_iff,Met.congr same.osNames]
  have processor : fitsProcessor properties d=fitsProcessor properties c := by
    rw [Bool.eq_iff_iff,fitsProcessor_iff,fitsProcessor_iff,Met.congr same.processors]
  have language : fitsLanguage properties d=fitsLanguage properties c := by
    rw [Bool.eq_iff_iff,fitsLanguage_iff,fitsLanguage_iff,Met.congr same.languages]
  have filter : fitsFilter stack properties d=fitsFilter stack properties c := by
    rw [fitsFilter,fitsFilter,same.selectionFilter]
  obtain ⟨b,hb,met⟩ := exists_fitsOsVersion_iff short ranges
  obtain ⟨b',hb',met'⟩ := exists_fitsOsVersion_iff (c := d) short
    fun t ht => ranges t ((same.osVersions t).mp ht)
  have version : b'=b := by rw [Bool.eq_iff_iff,met',met,Met.congr same.osVersions]
  rw [Platform.accepts_eq hb',Platform.accepts_eq hb,version,name,processor,language,filter]

theorem Relaxed.accepts_eq (relaxed : Relaxed c d)
    (short : ShortDecimals (property properties osVersionKey))
    (ranges : ∀ t∈c.osVersions, ∃ r, VersionRange.parse t=.ok r)
    (ranges' : ∀ t∈d.osVersions, ∃ r, VersionRange.parse t=.ok r)
    (h : accepts stack properties c=.ok true) : accepts stack properties d=.ok true := by
  obtain ⟨name,processor,version,language,filter⟩ := accepts_eq_true_iff.mp h
  obtain ⟨b,hb,met⟩ := exists_fitsOsVersion_iff short ranges
  obtain ⟨b',hb',met'⟩ := exists_fitsOsVersion_iff short ranges'
  obtain rfl := Except.ok.inj (hb.symm.trans version)
  obtain rfl : b'=true := met'.mpr ((met.mp rfl).widen relaxed.osVersions)
  refine accepts_eq_true_iff.mpr ⟨?_,?_,hb',?_,?_⟩
  · exact fitsOsName_iff.mpr ((fitsOsName_iff.mp name).widen relaxed.osNames)
  · exact fitsProcessor_iff.mpr ((fitsProcessor_iff.mp processor).widen relaxed.processors)
  · exact fitsLanguage_iff.mpr ((fitsLanguage_iff.mp language).widen relaxed.languages)
  · rw [fitsFilter]
    rcases relaxed.selectionFilter with gone|same
    · rw [gone]
    · rwa [same,← fitsFilter]

/-- A clause that was read has an answer on every platform, unless its filter is too deep to find
out: whether the platform is what its fields ask for. The order of entries and their number do not
change the outcome. A match stays one when entries join others, when a field loses all of its entries
and when the filter goes. -/
theorem accepts_of_relaxed (short : ShortDecimals (property properties osVersionKey))
    (h : c.Rereadable reading) (stack : MatchStack) :
    ((∃ b, accepts stack properties c=.ok b ∧ (b=true ↔ Fits properties c)) ∨
      accepts stack properties c=.error .nestedTooDeep ∧ ¬Shallow stack properties c) ∧
    (∀ d, SameEntries c d → accepts stack properties d=accepts stack properties c) ∧
    ∀ d, Relaxed c d → (∀ t∈d.osVersions, ∃ r, VersionRange.parse t=.ok r) →
      accepts stack properties c=.ok true → accepts stack properties d=.ok true :=
  ⟨accepts_cases short h,fun _ same => same.accepts_eq short h.ranges,
    fun _ relaxed ranges => relaxed.accepts_eq short h.ranges ranges⟩

/-- A clause with every field, one with its entries turned round and repeated, and one with more of
them or none. The first language of a clause is no wider field: it can end the match. -/
theorem accepts_of_relaxed_fields :
    let properties : Dictionary Text := [(osNameKey,"Linux".toList),
      (osVersionKey,"6.1.0-13-amd64".toList),(processorKey,"x86_64".toList),
      (languageKey,"en".toList),("Cores".toList,"10".toList)]
    let c : NativeClause := ⟨some [],["Windows 10".toList,"linux".toList],["AMD64".toList],
      ["[5,6.2)".toList,"9".toList],[" EN".toList],some "(cores>=9)".toList⟩
    let turned : NativeClause := ⟨none,["linux".toList,"Windows 10".toList,"linux".toList],
      ["AMD64".toList,"AMD64".toList],["9".toList,"[5,6.2)".toList],[" EN".toList],
      some "(cores>=9)".toList⟩
    let relaxed : NativeClause := ⟨some [],["aix".toList,"Windows 10".toList,"linux".toList],[],
      ["[5,6.2)".toList,"(3,4]".toList,"9".toList],["de".toList," EN".toList],none⟩
    Fits properties c ∧ accepts Running.matchStack properties turned=.ok true ∧
      accepts Running.matchStack properties relaxed=.ok true ∧
      ¬Widened [] ["de".toList] ∧
      accepts Running.matchStack properties {relaxed with languages := []}=.ok true ∧
      accepts Running.matchStack properties {relaxed with languages := ["de".toList]}=
        .ok false := by
  intro properties c turned relaxed
  have short : ShortDecimals (property properties osVersionKey) := .of_length (by decide)
  have matched : accepts Running.matchStack properties c=.ok true := by decide +kernel
  have readable : c.Rereadable Running.readStack := by
    constructor
    · decide
    · intro t written
      cases written
      exact ⟨.compare .atLeast "cores".toList "9".toList,by decide +kernel⟩
  obtain ⟨answer,same,wider⟩ := accepts_of_relaxed short readable Running.matchStack
  have fits : Fits properties c := by
    rcases answer with ⟨b,hb,fits⟩|⟨deep,-⟩
    · exact fits.mp (Except.ok.inj (hb.symm.trans matched))
    · exact nomatch deep.symm.trans matched
  have reordered : SameEntries c turned := by
    constructor <;> simp [c,turned,or_comm]
  have more : Relaxed c relaxed := by
    constructor <;> simp [c,relaxed,Widened]
  refine ⟨fits,(same turned reordered).trans matched,
    wider relaxed more (by decide) matched,by simp [Widened],?_,?_⟩
  · decide +kernel
  · decide +kernel

end BundleManifest.Platform
