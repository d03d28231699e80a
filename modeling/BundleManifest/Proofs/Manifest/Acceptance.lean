import BundleManifest.Proofs.Manifest.Reading
import BundleManifest.Proofs.Package.Acceptance
import BundleManifest.Running.Stacks

namespace BundleManifest.Manifest

/-- The headers that declare something can be read, and their clauses are such as an edition
accepts. -/
structure Acceptable (stack : Filter.ReadStack)
    (exportable importable dynamic : PackageClause → Prop) (headers : Headers) : Prop where
  /-- Only the first export clause of each name counts. -/
  exports : ∃ cs, PackageClause.parseHeader (headers.text Headers.exportPackage)=.ok cs ∧
    ∀ c, FirstOfName cs c → ¬Package.reservedStart<+:c.name ∧ exportable c
  imports : ∃ cs, PackageClause.parseHeader (headers.text Headers.importPackage)=.ok cs ∧
    (cs.map PackageClause.name).Nodup ∧ ∀ c∈cs, ¬Package.reservedStart<+:c.name ∧ importable c
  dynamicImports : ∃ cs,
    PackageClause.parseHeader (headers.text Headers.dynamicImportPackage)=.ok cs ∧
      ∀ c∈cs, dynamic c
  native : ∃ cs, NativeClause.parseHeader stack (headers.text Headers.nativeCode)=.ok cs

/-- What a manifest of version 1 needs. -/
def LegacyAcceptable (stack : Filter.ReadStack) : Headers → Prop :=
  Acceptable stack Legacy.Exportable Legacy.Importable Legacy.Bare

/-- What a manifest of version 2 needs. -/
structure ModernAcceptable (stack : Filter.ReadStack) (headers : Headers) : Prop extends
    Acceptable stack Modern.Exportable Modern.Importable Modern.Importable headers where
  bundleVersion : ∀ raw, headers.text? Headers.bundleVersion=some raw →
    ∃ v, Version.parse raw=.ok v
  /-- The first clause names the bundle. -/
  symbolicName : ∃ raw c cs, headers.text? Headers.symbolicName=some raw ∧
    PackageClause.parseHeader raw=.ok (c::cs) ∧ c.name≠[]

/-- Reading ends in a rejection, or in native clauses that nest too deep to be followed. -/
def Refused (stack : Filter.ReadStack) (headers : Headers) : Prop :=
  (∃ cause, (read stack headers).outcome=.error (.rejected cause)) ∨
    (read stack headers).outcome=.error .nestedTooDeep ∧
      NativeClause.parseHeader stack (headers.text Headers.nativeCode)=.error .nestedTooDeep

variable {stack : Filter.ReadStack}

section Declarations

variable {headers : Headers} {exportable exportable' importable importable' : PackageClause → Prop}
  {dynamic dynamic' : PackageClause → Prop}

/-- Clauses of a header never repeat an attribute, so the conditions may rely on it. -/
theorem Acceptable.mono
    (hes : ∀ c, (c.attributes.map Attribute.name).Nodup → exportable c → exportable' c)
    (his : ∀ c, (c.attributes.map Attribute.name).Nodup → importable c → importable' c)
    (hds : ∀ c, (c.attributes.map Attribute.name).Nodup → dynamic c → dynamic' c)
    (h : Acceptable stack exportable importable dynamic headers) :
    Acceptable stack exportable' importable' dynamic' headers := by
  have nodup {name : Text} {cs : List PackageClause}
      (read : PackageClause.parseHeader (headers.text name)=.ok cs) {c : PackageClause}
      (hc : c∈cs) : (c.attributes.map Attribute.name).Nodup :=
    (PackageClause.readFrom_of_mem_parseHeader read c hc).attributes_nodup
  obtain ⟨⟨ecs,hec,he⟩,⟨ics,hic,distinct,hi⟩,⟨dcs,hdc,hd⟩,native⟩ := h
  refine ⟨⟨ecs,hec,fun c hc => ?_⟩,⟨ics,hic,distinct,fun c hc => ?_⟩,
    ⟨dcs,hdc,fun c hc => ?_⟩,native⟩
  · exact (he c hc).imp_right (hes c (nodup hec (List.mem_of_find?_eq_some hc)))
  · exact (hi c hc).imp_right (his c (nodup hic hc))
  · exact hds c (nodup hdc hc) (hd c hc)

theorem acceptable_congr
    (hes : ∀ c, (c.attributes.map Attribute.name).Nodup → (exportable c ↔ exportable' c))
    (his : ∀ c, (c.attributes.map Attribute.name).Nodup → (importable c ↔ importable' c))
    (hds : ∀ c, (c.attributes.map Attribute.name).Nodup → (dynamic c ↔ dynamic' c)) :
    Acceptable stack exportable importable dynamic headers ↔
      Acceptable stack exportable' importable' dynamic' headers := by
  constructor
  · exact .mono (fun c hc => (hes c hc).mp) (fun c hc => (his c hc).mp) fun c hc => (hds c hc).mp
  · exact .mono (fun c hc => (hes c hc).mpr) (fun c hc => (his c hc).mpr)
      fun c hc => (hds c hc).mpr

/-- Only the headers that declare something count. -/
theorem Acceptable.iff_of_text {other : Headers}
    (exports : other.text Headers.exportPackage=headers.text Headers.exportPackage)
    (imports : other.text Headers.importPackage=headers.text Headers.importPackage)
    (dynamics : other.text Headers.dynamicImportPackage=headers.text Headers.dynamicImportPackage)
    (native : other.text Headers.nativeCode=headers.text Headers.nativeCode) :
    Acceptable stack exportable importable dynamic other ↔
      Acceptable stack exportable importable dynamic headers := by
  constructor
  · rintro ⟨hes,his,hds,hn⟩
    exact ⟨exports▸hes,imports▸his,dynamics▸hds,native▸hn⟩
  · rintro ⟨hes,his,hds,hn⟩
    exact ⟨exports▸hes,imports▸his,dynamics▸hds,native▸hn⟩

/-- Declarations with given properties exist exactly when each clause makes one. -/
theorem exists_declares_iff {edition : Edition} {P : ExportDeclaration → Prop}
    {Q R : ImportDeclaration → Prop} (he : Edition.ofHeaders headers=.ok edition) :
    (∃ d, Declares stack headers d ∧ (∀ e∈d.exports, P e) ∧ (∀ i∈d.imports, Q i) ∧
        ∀ i∈d.dynamicImports, R i) ↔
      (∃ v, readBundleVersion edition headers=.ok v) ∧
        Acceptable stack (fun c => ∃ e, ExportDeclaration.ofClause c=.ok e ∧ P e)
          (fun c => ∃ i, ImportDeclaration.ofClause c=.ok i ∧ Q i)
          (fun c => ∃ i, ImportDeclaration.ofClause c=.ok i ∧ R i) headers := by
  constructor
  · rintro ⟨d,⟨hd,hv,⟨ecs,hec,hes⟩,⟨ics,hic,his⟩,⟨dcs,hdc,hds⟩,hn⟩,hP,hQ,hR⟩
    obtain rfl := Except.ok.inj (he.symm.trans hd)
    exact ⟨⟨_,hv⟩,⟨ecs,hec,exists_buildExports_iff.mp ⟨_,hes,hP⟩⟩,
      ⟨ics,hic,exists_buildImports_iff.mp ⟨_,his,hQ⟩⟩,
      ⟨dcs,hdc,Outcome.exists_mapM_forall_iff.mp ⟨_,hds,hR⟩⟩,⟨_,hn⟩⟩
  · rintro ⟨⟨v,hv⟩,⟨ecs,hec,hes⟩,⟨ics,hic,his⟩,⟨dcs,hdc,hds⟩,⟨native,hn⟩⟩
    obtain ⟨es,hes,hP⟩ := exists_buildExports_iff.mpr hes
    obtain ⟨is,his,hQ⟩ := exists_buildImports_iff.mpr his
    obtain ⟨ds,hds,hR⟩ := Outcome.exists_mapM_forall_iff.mpr hds
    exact ⟨⟨edition,v,es,is,ds,native⟩,
      ⟨he,hv,⟨ecs,hec,hes⟩,⟨ics,hic,his⟩,⟨dcs,hdc,hds⟩,hn⟩,hP,hQ,hR⟩

end Declarations

theorem refused_of_not_exists {headers : Headers} (short : ShortNumerals headers)
    (none : ¬∃ m, (read stack headers).outcome=.ok m) : Refused stack headers := by
  cases hr : (read stack headers).outcome with
  | ok m => exact absurd ⟨m,hr⟩ none
  | error fault =>
    rcases rejected_or_too_deep short hr with ⟨cause,rfl⟩|⟨rfl,deep⟩
    · exact .inl ⟨cause,hr⟩
    · exact .inr ⟨hr,deep⟩

theorem exists_ofDeclared_legacy_iff (headers : Headers) {d : Declared}
    (legacy : d.edition=.legacy) :
    (∃ m, ofDeclared headers d=.ok m) ↔
      (∀ e∈d.exports, Legacy.Plain e.attributes e.directives) ∧
        (∀ i∈d.imports, Legacy.Plain i.attributes i.directives ∧ i.range.high?=none) ∧
        ∀ i∈d.dynamicImports, i.directives=[] ∧ i.attributes=[] := by
  constructor
  · rintro ⟨m,hm⟩
    obtain ⟨_,hn,-⟩ := (ofDeclared_legacy_eq_ok_iff legacy).mp hm
    obtain ⟨hes,his,hds,-⟩ := Legacy.normalize_eq_ok_iff.mp hn
    exact ⟨hes,his,hds⟩
  · rintro ⟨hes,his,hds⟩
    have hn := Legacy.normalize_eq_ok_iff.mpr ⟨hes,his,hds,rfl⟩
    exact ⟨_,(ofDeclared_legacy_eq_ok_iff legacy).mpr ⟨_,hn,rfl⟩⟩

theorem exists_ofDeclared_modern_iff (headers : Headers) {d : Declared}
    (modern : d.edition=.modern) :
    (∃ m, ofDeclared headers d=.ok m) ↔
      (∃ name, readSymbolicName headers=.ok name ∧ name.getD []≠[]) ∧
        ∀ e∈d.exports, ∀ a∈e.attributes, Modern.isReserved a.name=false := by
  constructor
  · rintro ⟨m,hm⟩
    obtain ⟨name,hs,_,hn,-⟩ := (ofDeclared_modern_eq_ok_iff modern).mp hm
    obtain ⟨present,hes,-⟩ := Modern.normalize_eq_ok_iff.mp hn
    exact ⟨⟨name,hs,present⟩,hes⟩
  · rintro ⟨⟨name,hs,present⟩,hes⟩
    have hn : Modern.normalize d.exports name d.bundleVersion=.ok _ :=
      Modern.normalize_eq_ok_iff.mpr ⟨present,hes,rfl⟩
    exact ⟨_,(ofDeclared_modern_eq_ok_iff modern).mpr ⟨name,hs,_,hn,rfl⟩⟩

theorem exists_symbolicName_iff {headers : Headers} :
    (∃ name, readSymbolicName headers=.ok name ∧ name.getD []≠[]) ↔
      ∃ raw c cs, headers.text? Headers.symbolicName=some raw ∧
        PackageClause.parseHeader raw=.ok (c::cs) ∧ c.name≠[] := by
  constructor
  · rintro ⟨name,hn,present⟩
    obtain ⟨raw,c,cs,ht,hc,rfl⟩ := (readSymbolicName_eq_ok_iff present).mp hn
    exact ⟨raw,c,cs,ht,hc,present⟩
  · rintro ⟨raw,c,cs,ht,hc,present⟩
    have given : (some c.name).getD []≠[] := present
    exact ⟨some c.name,(readSymbolicName_eq_ok_iff given).mpr ⟨raw,c,cs,ht,hc,rfl⟩,given⟩

/-- Reading gives a manifest exactly when there are declarations that can be normalized. -/
theorem exists_read_iff {headers : Headers} :
    (∃ m, (read stack headers).outcome=.ok m) ↔
      ∃ d, Declares stack headers d ∧ ∃ m, ofDeclared headers d=.ok m := by
  simp only [read_eq_ok_iff]
  rw [exists_comm]
  simp only [exists_and_left]

theorem exists_read_legacy_iff {headers : Headers}
    (legacy : headers.text? Headers.manifestVersion=none) (short : ShortNumerals headers) :
    (∃ m, (read stack headers).outcome=.ok m) ↔ LegacyAcceptable stack headers := by
  have edition := edition_of_missing legacy
  have checks {d : Declared} (hd : Declares stack headers d) :=
    exists_ofDeclared_legacy_iff headers (Except.ok.inj (hd.edition.symm.trans edition))
  rw [exists_read_iff,exists_congr fun d => and_congr_right checks,exists_declares_iff edition,
    and_iff_right (exists_readBundleVersion_legacy short)]
  exact acceptable_congr (fun _ => Legacy.exists_export_iff) (fun _ => Legacy.exists_import_iff)
    fun _ _ => Legacy.exists_dynamicImport_iff

theorem exists_read_modern_iff {headers : Headers}
    (modern : headers.text? Headers.manifestVersion=some Edition.modern.toText) :
    (∃ m, (read stack headers).outcome=.ok m) ↔ ModernAcceptable stack headers := by
  have edition := edition_of_two modern
  have importable (c : PackageClause) :
      (∃ i, ImportDeclaration.ofClause c=.ok i ∧ True) ↔ Modern.Importable c := by
    simp only [and_true,Modern.exists_import_iff]
  have declared := @exists_declares_iff stack headers _
    (fun e => ∀ a∈e.attributes, Modern.isReserved a.name=false) (fun _ => True) (fun _ => True)
    edition
  rw [acceptable_congr (fun _ _ => Modern.exists_export_iff) (fun c _ => importable c)
    (fun c _ => importable c),exists_readBundleVersion_modern_iff] at declared
  rw [exists_read_iff]
  constructor
  · rintro ⟨d,hd,hm⟩
    have same : d.edition=.modern := Except.ok.inj (hd.edition.symm.trans edition)
    obtain ⟨name,hes⟩ := (exists_ofDeclared_modern_iff headers same).mp hm
    obtain ⟨version,clauses⟩ := declared.mp ⟨d,hd,hes,fun _ _ => trivial,fun _ _ => trivial⟩
    exact ⟨clauses,version,exists_symbolicName_iff.mp name⟩
  · rintro ⟨clauses,version,name⟩
    obtain ⟨d,hd,hes,-⟩ := declared.mpr ⟨version,clauses⟩
    have same : d.edition=.modern := Except.ok.inj (hd.edition.symm.trans edition)
    exact ⟨d,hd,(exists_ofDeclared_modern_iff headers same).mpr ⟨exists_symbolicName_iff.mpr name,hes⟩⟩

/-- A legacy manifest is read or refused, and the name and version of the bundle have no part in
which of the two it is. -/
theorem legacy_read_or_refused {headers : Headers}
    (legacy : headers.text? Headers.manifestVersion=none) (short : ShortNumerals headers) :
    ((∃ m, (read stack headers).outcome=.ok m) ↔ LegacyAcceptable stack headers) ∧
      (¬LegacyAcceptable stack headers → Refused stack headers) ∧
      ∀ other : Headers, ShortNumerals other →
        (∀ name, name≠Headers.symbolicName → name≠Headers.bundleVersion →
          other.text? name=headers.text? name) →
        ((∃ m, (read stack other).outcome=.ok m) ↔ ∃ m, (read stack headers).outcome=.ok m) := by
  have accepted : (∃ m, (read stack headers).outcome=.ok m) ↔ _ :=
    exists_read_legacy_iff legacy short
  refine ⟨accepted,fun h => refused_of_not_exists short (mt accepted.mp h),?_⟩
  intro other otherShort same
  have otherLegacy : other.text? Headers.manifestVersion=none :=
    (same _ (by decide) (by decide)).trans legacy
  have text (name : Text) (hs : name≠Headers.symbolicName) (hv : name≠Headers.bundleVersion) :
      other.text name=headers.text name := by
    rw [Headers.text,Headers.text,same name hs hv]
  rw [exists_read_legacy_iff otherLegacy otherShort,accepted]
  refine Acceptable.iff_of_text ?_ ?_ ?_ ?_ <;> exact text _ (by decide) (by decide)

/-- The bundle has neither a name nor a version that could be read. -/
theorem legacy_read_of_unnamed :
    let headers : Headers := [(Headers.bundleVersion,some "latest".toList),
      (Headers.symbolicName,some ";;".toList),
      (Headers.exportPackage,some "a;version=1,a;vendor=b".toList),
      (Headers.importPackage,some "c;version=2".toList),
      (Headers.dynamicImportPackage,some "d.*".toList)]
    ShortNumerals headers ∧ (∃ m, (read Running.readStack headers).outcome=.ok m) ∧
      LegacyAcceptable Running.readStack headers := by
  intro headers
  have short : ShortNumerals headers := .of_length (by decide)
  have read : ∃ m, (read Running.readStack headers).outcome=.ok m := ⟨_,rfl⟩
  exact ⟨short,read,(legacy_read_or_refused rfl short).1.mp read⟩

/-- A modern manifest is read or refused. -/
theorem modern_read_or_refused {headers : Headers}
    (modern : headers.text? Headers.manifestVersion=some Edition.modern.toText)
    (short : ShortNumerals headers) :
    ((∃ m, (read stack headers).outcome=.ok m) ↔ ModernAcceptable stack headers) ∧
      (¬ModernAcceptable stack headers → Refused stack headers) := by
  have accepted : (∃ m, (read stack headers).outcome=.ok m) ↔ _ := exists_read_modern_iff modern
  exact ⟨accepted,fun h => refused_of_not_exists short (mt accepted.mp h)⟩

/-- Only the second of two exports of one package sets an attribute that is not its own. -/
theorem modern_read_of_repeated :
    let headers : Headers := [(Headers.manifestVersion,some "2".toList),
      (Headers.symbolicName,some "s;singleton:=true".toList),
      (Headers.exportPackage,some "a;version=1;uses:=c,a;bundle-version=2".toList),
      (Headers.importPackage,some "c;version=\"[1,2)\"".toList)]
    ShortNumerals headers ∧ (∃ m, (read Running.readStack headers).outcome=.ok m) ∧
      ModernAcceptable Running.readStack headers :=
  ⟨.of_length (by decide),⟨_,rfl⟩,
    (modern_read_or_refused rfl (.of_length (by decide))).1.mp ⟨_,rfl⟩⟩

end BundleManifest.Manifest
