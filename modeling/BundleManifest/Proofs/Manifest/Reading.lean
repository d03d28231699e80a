import BundleManifest.Manifest.Basic
import BundleManifest.Proofs.Native.Clause
import BundleManifest.Proofs.Package.Declaration
import BundleManifest.Proofs.Package.Normalization

namespace BundleManifest.Manifest

open Outcome (FaultsAmong)
open Decimal (ShortRuns)

/-- No header holds a run of digits that is longer than a numeral may be. -/
def ShortNumerals (headers : Headers) : Prop :=
  ∀ name value, headers.text? name=some value → ShortRuns value

theorem ShortNumerals.text {headers : Headers} (h : ShortNumerals headers) (name : Text) :
    ShortRuns (headers.text name) := by
  rw [Headers.text]
  cases ht : headers.text? name with
  | none => exact .of_length (Nat.zero_le _)
  | some value => exact h name value ht

theorem ShortNumerals.of_length {headers : Headers}
    (h : ∀ entry∈headers, ∀ value∈entry.2, value.length ≤ Decimal.digitLimit) :
    ShortNumerals headers := by
  intro name value ht
  have found : headers.get? name=some (some value) := Option.join_eq_some_iff.mp ht
  exact .of_length (h _ (Dictionary.mem_of_get?_eq_some found) value rfl)

theorem edition_of_missing {headers : Headers}
    (h : headers.text? Headers.manifestVersion=none) :
    Edition.ofHeaders headers=.ok .legacy := by
  rw [Edition.ofHeaders,h]

theorem edition_of_two {headers : Headers}
    (h : headers.text? Headers.manifestVersion=some Edition.modern.toText) :
    Edition.ofHeaders headers=.ok .modern := by
  rw [Edition.ofHeaders,h]
  exact if_pos rfl

theorem edition_faults (headers : Headers) : FaultsAmong [] (Edition.ofHeaders headers) := by
  rw [Edition.ofHeaders]
  split
  · exact .ok _
  · split_ifs
    · exact .ok _
    · exact .reject _

/-- Whatever a legacy manifest gives for its version, that does not end the reading. -/
theorem exists_readBundleVersion_legacy {headers : Headers} (h : ShortNumerals headers) :
    ∃ v, readBundleVersion .legacy headers=.ok v := by
  rw [readBundleVersion]
  cases ht : headers.text? Headers.bundleVersion with
  | none => exact ⟨none,rfl⟩
  | some raw =>
    have faults := Version.parse_faults (h _ _ ht)
    cases hv : Version.parse raw with
    | ok v => exact ⟨some v,by simp [hv]⟩
    | error fault =>
      obtain ⟨cause,rfl⟩ := (faults fault hv).resolve_left List.not_mem_nil
      exact ⟨none,by simp [hv]⟩

theorem exists_readBundleVersion_modern_iff {headers : Headers} :
    (∃ v, readBundleVersion .modern headers=.ok v) ↔
      ∀ raw, headers.text? Headers.bundleVersion=some raw → ∃ v, Version.parse raw=.ok v := by
  rw [readBundleVersion]
  cases ht : headers.text? Headers.bundleVersion with
  | none => simp
  | some raw =>
    cases hv : Version.parse raw with
    | ok v => simp [hv]
    | error fault => cases fault <;> simp [hv]

theorem readBundleVersion_faults (edition : Edition) {headers : Headers}
    (h : ShortNumerals headers) : FaultsAmong [] (readBundleVersion edition headers) := by
  rw [readBundleVersion]
  split
  · exact .ok _
  · next raw ht =>
    have faults := Version.parse_faults (h _ _ ht)
    split
    · exact .ok _
    · cases edition
      · exact .ok _
      · exact .reject _
    · next fault _ hv =>
      intro other he
      exact faults other (by rw [hv,Except.error.inj he])

theorem readSymbolicName_faults (headers : Headers) :
    FaultsAmong [] (readSymbolicName headers) := by
  rw [readSymbolicName]
  split
  · exact .ok _
  · exact .bind (PackageClause.parseHeader_faults _) fun _ _ => .pure _

/-- A symbolic name is the name of the first clause of its header. -/
theorem readSymbolicName_eq_ok_iff {headers : Headers} {name : Option Text}
    (present : name.getD []≠[]) :
    readSymbolicName headers=.ok name ↔ ∃ raw c cs, headers.text? Headers.symbolicName=some raw ∧
      PackageClause.parseHeader raw=.ok (c::cs) ∧ some c.name=name := by
  rw [readSymbolicName]
  cases ht : headers.text? Headers.symbolicName with
  | none =>
    simp only [Except.ok.injEq,reduceCtorEq,false_and,exists_false,iff_false]
    rintro rfl
    exact present rfl
  | some raw =>
    simp only [Outcome.bind_eq_ok_iff,Outcome.pure_eq_ok_iff,Option.some.injEq]
    constructor
    · rintro ⟨_|⟨c,cs⟩,hc,rfl⟩
      · exact absurd rfl present
      · exact ⟨raw,c,cs,rfl,hc,rfl⟩
    · rintro ⟨_,c,cs,rfl,hc,rfl⟩
      exact ⟨c::cs,hc,rfl⟩

/-- The declarations are those that the headers make. -/
structure Declares (stack : Filter.ReadStack) (headers : Headers) (d : Declared) : Prop where
  edition : Edition.ofHeaders headers=.ok d.edition
  bundleVersion : readBundleVersion d.edition headers=.ok d.bundleVersion
  exports : ∃ cs, PackageClause.parseHeader (headers.text Headers.exportPackage)=.ok cs ∧
    (buildExports [] cs).outcome=.ok d.exports
  imports : ∃ cs, PackageClause.parseHeader (headers.text Headers.importPackage)=.ok cs ∧
    buildImports [] cs=.ok d.imports
  dynamicImports : ∃ cs,
    PackageClause.parseHeader (headers.text Headers.dynamicImportPackage)=.ok cs ∧
      buildDynamicImports cs=.ok d.dynamicImports
  native : NativeClause.parseHeader stack (headers.text Headers.nativeCode)=.ok d.native

variable {stack : Filter.ReadStack}

theorem readDeclared_eq_ok_iff {headers : Headers} {d : Declared} :
    (readDeclared stack headers).outcome=.ok d ↔ Declares stack headers d := by
  simp only [readDeclared,Logged.outcome_bind,Logged.outcome_ofOutcome,Outcome.bind_eq_ok_iff,
    Outcome.pure_eq_ok_iff]
  constructor
  · rintro ⟨edition,he,version,hv,ecs,hec,es,hes,ics,hic,is,his,dcs,hdc,ds,hds,native,hn,rfl⟩
    exact ⟨he,hv,⟨ecs,hec,hes⟩,⟨ics,hic,his⟩,⟨dcs,hdc,hds⟩,hn⟩
  · rintro ⟨he,hv,⟨ecs,hec,hes⟩,⟨ics,hic,his⟩,⟨dcs,hdc,hds⟩,hn⟩
    exact ⟨_,he,_,hv,ecs,hec,_,hes,ics,hic,_,his,dcs,hdc,_,hds,_,hn,rfl⟩

theorem shortRuns_of_parseHeader {value : Text} {cs : List PackageClause} (h : ShortRuns value)
    (read : PackageClause.parseHeader value=.ok cs) :
    ∀ c∈cs, ∀ a∈c.attributes, ShortRuns a.value := fun c hc a ha =>
  h.of_within ((PackageClause.readFrom_of_mem_parseHeader read c hc).value_within a ha)

/-- The headers have no faults of their own but those of the native clauses. -/
theorem readDeclared_faults {headers : Headers} {allowed : List Fault}
    (h : ShortNumerals headers)
    (native : FaultsAmong allowed
      (NativeClause.parseHeader stack (headers.text Headers.nativeCode))) :
    FaultsAmong allowed (readDeclared stack headers).outcome := by
  have short (name : Text) {cs : List PackageClause}
      (read : PackageClause.parseHeader (headers.text name)=.ok cs) :=
    shortRuns_of_parseHeader (h.text name) read
  simp only [readDeclared,Logged.outcome_bind,Logged.outcome_ofOutcome]
  refine .bind (edition_faults headers).weaken fun edition _ => ?_
  refine .bind (readBundleVersion_faults edition h).weaken fun _ _ => ?_
  refine .bind (PackageClause.parseHeader_faults _).weaken fun _ hec => ?_
  refine .bind (buildExports_faults [] (short _ hec)).weaken fun _ _ => ?_
  refine .bind (PackageClause.parseHeader_faults _).weaken fun _ hic => ?_
  refine .bind (buildImports_faults [] (short _ hic)).weaken fun _ _ => ?_
  refine .bind (PackageClause.parseHeader_faults _).weaken fun _ hdc => ?_
  refine .bind (buildDynamicImports_faults (short _ hdc)).weaken fun _ _ => ?_
  exact .bind native fun _ _ => .pure _

/-- The manifest of the declarations, with what the normalization makes of them. -/
def Declared.manifest (d : Declared) (headers : Headers) (symbolicName : Option Text)
    (exports : List ExportDeclaration) (imports : List ImportDeclaration) : Manifest :=
  { headers,edition := d.edition,symbolicName,bundleVersion := d.bundleVersion,exports,imports
    dynamicImports := d.dynamicImports,nativeClauses := (splitMarker d.native).1
    nativeOptional := (splitMarker d.native).2 }

theorem ofDeclared_legacy_eq_ok_iff {headers : Headers} {d : Declared} {m : Manifest}
    (legacy : d.edition=.legacy) :
    ofDeclared headers d=.ok m ↔
      ∃ result, Legacy.normalize d.exports d.imports d.dynamicImports=.ok result ∧
        d.manifest headers none result.1 result.2=m := by
  simp only [ofDeclared,legacy,Outcome.bind_eq_ok_iff,Outcome.pure_eq_ok_iff,Declared.manifest]

theorem ofDeclared_modern_eq_ok_iff {headers : Headers} {d : Declared} {m : Manifest}
    (modern : d.edition=.modern) :
    ofDeclared headers d=.ok m ↔
      ∃ name, readSymbolicName headers=.ok name ∧
        ∃ exports, Modern.normalize d.exports name d.bundleVersion=.ok exports ∧
          d.manifest headers name exports d.imports=m := by
  simp only [ofDeclared,modern,Outcome.bind_eq_ok_iff,Outcome.pure_eq_ok_iff,Declared.manifest]

theorem ofDeclared_faults (headers : Headers) (d : Declared) :
    FaultsAmong [] (ofDeclared headers d) := by
  simp only [ofDeclared]
  split
  · refine .bind (readSymbolicName_faults headers) fun name _ => ?_
    exact .bind (Modern.normalize_faults _ _ _) fun _ _ => .pure _
  · exact .bind (Legacy.normalize_faults _ _ _) fun _ _ => .pure _

theorem read_eq_ok_iff {headers : Headers} {m : Manifest} :
    (read stack headers).outcome=.ok m ↔
      ∃ d, Declares stack headers d ∧ ofDeclared headers d=.ok m := by
  simp only [read,Logged.outcome_bind,Logged.outcome_ofOutcome,Outcome.bind_eq_ok_iff,
    readDeclared_eq_ok_iff]

/-- A manifest has the clauses of its native code header, taken apart from the marker. -/
theorem exists_native_of_read {headers : Headers} {m : Manifest}
    (h : (read stack headers).outcome=.ok m) :
    ∃ cs, NativeClause.parseHeader stack (headers.text Headers.nativeCode)=.ok cs ∧
      splitMarker cs=(m.nativeClauses,m.nativeOptional) := by
  obtain ⟨d,hd,hm⟩ := read_eq_ok_iff.mp h
  refine ⟨d.native,hd.native,?_⟩
  cases edition : d.edition with
  | legacy =>
    obtain ⟨result,-,rfl⟩ := (ofDeclared_legacy_eq_ok_iff edition).mp hm
    rfl
  | modern =>
    obtain ⟨name,-,result,-,rfl⟩ := (ofDeclared_modern_eq_ok_iff edition).mp hm
    rfl

theorem read_faults {headers : Headers} {allowed : List Fault} (h : ShortNumerals headers)
    (native : FaultsAmong allowed
      (NativeClause.parseHeader stack (headers.text Headers.nativeCode))) :
    FaultsAmong allowed (read stack headers).outcome := by
  rw [read,Logged.outcome_bind]
  exact .bind (readDeclared_faults h native) fun d _ => (ofDeclared_faults headers d).weaken

/-- A manifest is refused or read, unless the native clauses nest too deep. -/
theorem rejected_or_too_deep {headers : Headers} (h : ShortNumerals headers) {fault : Fault}
    (hf : (read stack headers).outcome=.error fault) :
    (∃ cause, fault=.rejected cause) ∨ fault=.nestedTooDeep ∧
      NativeClause.parseHeader stack (headers.text Headers.nativeCode)=.error .nestedTooDeep := by
  have native : FaultsAmong _ (NativeClause.parseHeader stack _) :=
    NativeClause.parseHeader_faults (h.text Headers.nativeCode)
  by_cases deep :
      NativeClause.parseHeader stack (headers.text Headers.nativeCode)=.error .nestedTooDeep
  · rcases read_faults h native fault hf with hm|refused
    · exact .inr ⟨List.mem_singleton.mp hm,deep⟩
    · exact .inl refused
  · have shallow :
        FaultsAmong [] (NativeClause.parseHeader stack (headers.text Headers.nativeCode)) := by
      intro other ho
      refine (native other ho).imp_left fun hm => ?_
      rw [List.mem_singleton.mp hm] at ho
      exact absurd ho deep
    exact .inl ((read_faults h shallow fault hf).resolve_left List.not_mem_nil)

end BundleManifest.Manifest
