import BundleManifest.Proofs.Manifest.Reading
import BundleManifest.Proofs.Version.Grammar
import BundleManifest.Running.Stacks

namespace BundleManifest

/-- The headers with the text for the version of the bundle. -/
def Headers.withBundleVersion (headers : Headers) (raw : Text) : Headers :=
  headers.insert bundleVersion (some raw)

theorem Headers.text?_withBundleVersion (headers : Headers) (raw name : Text) :
    (headers.withBundleVersion raw).text? name=
      if bundleVersion=name then some raw else headers.text? name := by
  rw [text?,withBundleVersion,Dictionary.get?_insert]
  split_ifs <;> rfl

namespace Manifest

variable {stack : Filter.ReadStack} {headers : Headers} {m : Manifest} {raw : Text}

/-- The manifest is read with the text in place; only its headers and its version are others, and
it has a version exactly when the text spells one. -/
def Tolerates (stack : Filter.ReadStack) (headers : Headers) (raw : Text) (m : Manifest) : Prop :=
  ∃ version, (read stack (headers.withBundleVersion raw)).outcome=
      .ok {m with headers := headers.withBundleVersion raw,bundleVersion := version} ∧
    ∀ v, version=some v ↔ Version.Spells raw v

theorem readBundleVersion_withBundleVersion (edition : Edition) (headers : Headers) (raw : Text) :
    readBundleVersion edition (headers.withBundleVersion raw)=
      match Version.parse raw with
      | .ok v => .ok (some v)
      | .error (.rejected cause) =>
        match edition with
        | .legacy => .ok none
        | .modern => Outcome.reject (.malformedBundleVersion Headers.bundleVersion raw cause)
      | .error fault => .error fault := by
  have text := Headers.text?_withBundleVersion headers raw Headers.bundleVersion
  rw [if_pos rfl] at text
  rw [readBundleVersion]
  generalize (headers.withBundleVersion raw).text? Headers.bundleVersion=found at text ⊢
  subst text
  rfl

theorem edition_withBundleVersion (headers : Headers) (raw : Text) :
    Edition.ofHeaders (headers.withBundleVersion raw)=Edition.ofHeaders headers := by
  have other : (headers.withBundleVersion raw).text? Headers.manifestVersion=
      headers.text? Headers.manifestVersion := by
    rw [Headers.text?_withBundleVersion,if_neg (by decide)]
  rw [Edition.ofHeaders,Edition.ofHeaders,other]

/-- Everything but the version of the bundle is declared by other headers. -/
theorem Declares.withBundleVersion {d : Declared} (hd : Declares stack headers d)
    {version : Option Version}
    (hv : readBundleVersion d.edition (headers.withBundleVersion raw)=.ok version) :
    Declares stack (headers.withBundleVersion raw) {d with bundleVersion := version} := by
  have text (name : Text) (h : Headers.bundleVersion≠name) :
      (headers.withBundleVersion raw).text name=headers.text name := by
    rw [Headers.text,Headers.text,Headers.text?_withBundleVersion,if_neg h]
  constructor
  · rw [edition_withBundleVersion]
    exact hd.edition
  · exact hv
  · rw [text _ (by decide)]
    exact hd.exports
  · rw [text _ (by decide)]
    exact hd.imports
  · rw [text _ (by decide)]
    exact hd.dynamicImports
  · rw [text _ (by decide)]
    exact hd.native

/-- The version of the bundle has no effect on the legacy pass. -/
theorem read_withBundleVersion (legacy : headers.text? Headers.manifestVersion=none)
    (h : (read stack headers).outcome=.ok m) {version : Option Version}
    (hv : readBundleVersion .legacy (headers.withBundleVersion raw)=.ok version) :
    (read stack (headers.withBundleVersion raw)).outcome=
      .ok {m with headers := headers.withBundleVersion raw,bundleVersion := version} := by
  obtain ⟨d,hd,made⟩ := read_eq_ok_iff.mp h
  have edition := Except.ok.inj (hd.edition.symm.trans (edition_of_missing legacy))
  obtain ⟨result,hn,rfl⟩ := (ofDeclared_legacy_eq_ok_iff edition).mp made
  rw [← edition] at hv
  have declared := hd.withBundleVersion hv
  have edition' : ({d with bundleVersion := version} : Declared).edition=.legacy := edition
  exact read_eq_ok_iff.mpr
    ⟨_,declared,(ofDeclared_legacy_eq_ok_iff edition').mpr ⟨result,hn,rfl⟩⟩

/-- The version is read right behind the edition, so its fault is that of the manifest. -/
theorem read_of_overlong (legacy : headers.text? Headers.manifestVersion=none)
    (long : Version.Overlong raw) :
    (read stack (headers.withBundleVersion raw)).outcome=.error .numeralTooLong := by
  have edition := (edition_withBundleVersion headers raw).trans (edition_of_missing legacy)
  have version : readBundleVersion .legacy (headers.withBundleVersion raw)=
      .error .numeralTooLong := by
    rw [readBundleVersion_withBundleVersion,Version.parse_eq_tooLong_iff.mpr long]
  simp only [read,readDeclared,Logged.outcome_bind,Logged.outcome_ofOutcome,edition]
  change (readBundleVersion .legacy (headers.withBundleVersion raw) >>= _) >>= _=_
  rw [version]
  rfl

theorem tolerates_of_not_overlong (legacy : headers.text? Headers.manifestVersion=none)
    (h : (read stack headers).outcome=.ok m) (short : ¬Version.Overlong raw) :
    Tolerates stack headers raw m := by
  have spelled (v : Version) : Version.parse raw=.ok v ↔ Version.Spells raw v :=
    Version.parse_eq_ok_iff.trans (and_iff_left short)
  have version := readBundleVersion_withBundleVersion .legacy headers raw
  cases hv : Version.parse raw with
  | ok v =>
    rw [hv] at version
    refine ⟨some v,read_withBundleVersion legacy h version,fun w => ?_⟩
    rw [← spelled w,hv,Option.some.injEq,Except.ok.injEq]
  | error fault =>
    obtain ⟨cause,rfl⟩ : ∃ cause, fault=.rejected cause := by
      apply (Version.parse_faults_among raw fault hv).resolve_left
      intro long
      rw [List.mem_singleton.mp long] at hv
      exact short (Version.parse_eq_tooLong_iff.mp hv)
    rw [hv] at version
    refine ⟨none,read_withBundleVersion legacy h version,fun w => ?_⟩
    rw [← spelled w,hv]
    simp

/-- Whatever stands for the version of a legacy bundle is tolerated, unless it is cut short by a
numeral beyond the limit; then the manifest is neither read nor refused. -/
theorem tolerates_iff_not_overlong (legacy : headers.text? Headers.manifestVersion=none)
    (h : (read stack headers).outcome=.ok m) (raw : Text) :
    (Tolerates stack headers raw m ↔ ¬Version.Overlong raw) ∧
      (Version.Overlong raw →
        (read stack (headers.withBundleVersion raw)).outcome=.error .numeralTooLong) := by
  refine ⟨⟨fun tolerated long => ?_,tolerates_of_not_overlong legacy h⟩,read_of_overlong legacy⟩
  obtain ⟨version,accepted,-⟩ := tolerated
  rw [read_of_overlong legacy long] at accepted
  cases accepted

/-- The second number is none, so the bundle has no version; its exports stay. -/
theorem tolerates_of_worded_number :
    let headers : Headers := [(Headers.exportPackage,some "a;version=1".toList)]
    let raw : Text := "1.two".toList
    ∃ m, (read Running.readStack headers).outcome=.ok m ∧
      m.exports.map ExportDeclaration.name=[['a']] ∧
      Tolerates Running.readStack headers raw m := by
  intro headers raw
  have result : (read Running.readStack headers).outcome.map
      (fun m => m.exports.map ExportDeclaration.name)=
      .ok [['a']] := by decide +kernel
  obtain ⟨m,hm,names⟩ := Outcome.map_eq_ok_iff.mp result
  have short : ¬Version.Overlong raw := by
    rw [← Version.parse_eq_tooLong_iff]
    decide +kernel
  exact ⟨m,hm,names,(tolerates_iff_not_overlong rfl hm raw).1.mpr short⟩

/-- One zero more than the limit stands before a dot and a letter. The text is no version, and yet
a bundle without any other header is not read with it. -/
theorem not_tolerates_of_many_zeros :
    let zeros : Text := List.replicate (Decimal.digitLimit+1) '0'
    let raw : Text := zeros++".x".toList
    (∃ m, (read Running.readStack []).outcome=.ok m ∧ ¬Tolerates Running.readStack [] raw m) ∧
      ∀ v, ¬Version.Spells raw v := by
  intro zeros raw
  have numeral : Version.Numeral zeros :=
    ⟨by simp [zeros],List.all_replicate.trans (by decide)⟩
  have whole : Text.trim raw=raw := by
    have first : raw.head?=some '0' := by simp [raw,zeros,List.replicate_succ]
    have last : raw.getLast?=some 'x' := by simp [raw]
    refine Text.trim_of_trimmed ⟨fun c hc => ?_,fun c hc => ?_⟩
    · obtain rfl := Option.some.inj (first.symm.trans hc)
      rfl
    · obtain rfl := Option.some.inj (last.symm.trans hc)
      rfl
  have parts : Text.cutUpTo '.' 3 (Text.trim raw)=[zeros,['x']] := by
    rw [whole]
    exact Text.cutUpTo_append numeral.not_mem_dot 2 ['x']
  constructor
  · have result : (read Running.readStack []).outcome.map Manifest.exports=.ok [] := by rfl
    obtain ⟨m,hm,-⟩ := Outcome.map_eq_ok_iff.mp result
    have long : Version.Overlong raw := by
      refine ⟨[],zeros,[['x']],?_,nofun,numeral,by simp [zeros]⟩
      rw [parts]
      rfl
    refine ⟨m,hm,?_⟩
    intro ⟨version,accepted,_⟩
    rw [read_of_overlong rfl long] at accepted
    cases accepted
  · intro v spelled
    have body : Text.trim raw≠[] := by
      rw [whole]
      simp [raw]
    have letter : Version.Numeral ['x'] := spelled.numerals body _ (by simp [parts])
    exact absurd letter.all (by decide)

end Manifest

end BundleManifest
