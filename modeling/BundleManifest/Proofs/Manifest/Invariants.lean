import BundleManifest.Proofs.Manifest.Reading
import BundleManifest.Proofs.Package.Implication
import BundleManifest.Running.Stacks

namespace BundleManifest

theorem Modern.map_withOrigin_names (symbolicName : Text) (version : Version)
    (exports : List ExportDeclaration) :
    (exports.map (withOrigin symbolicName version)).map ExportDeclaration.name=
      exports.map ExportDeclaration.name := by
  simp [withOrigin,Function.comp_def]

namespace Manifest

/-- The invariants of the declarations of a manifest. -/
structure WellDeclared (headers : Headers) (m : Manifest) : Prop where
  edition : Edition.ofHeaders headers=.ok m.edition
  exports : Package.Wirable (m.exports.map ExportDeclaration.name)
  imports : Package.Wirable (m.imports.map ImportDeclaration.name)
  /-- A legacy manifest imports whatever it exports. -/
  exports_imported : m.edition=.legacy →
    ∀ e∈m.exports, e.name∈m.imports.map ImportDeclaration.name
  /-- Each clause makes one dynamic import, in order and however often it is repeated. -/
  dynamicImports : ∃ cs,
    PackageClause.parseHeader (headers.text Headers.dynamicImportPackage)=.ok cs ∧
      cs.mapM ImportDeclaration.ofClause=.ok m.dynamicImports ∧
      m.dynamicImports.map ImportDeclaration.name=cs.map PackageClause.name

theorem wellDeclared_of_read {stack : Filter.ReadStack} {headers : Headers} {m : Manifest}
    (h : (read stack headers).outcome=.ok m) : WellDeclared headers m := by
  obtain ⟨d,hd,hm⟩ := read_eq_ok_iff.mp h
  obtain ⟨_,-,hes⟩ := hd.exports
  obtain ⟨_,-,his⟩ := hd.imports
  obtain ⟨cs,hcs,hds⟩ := hd.dynamicImports
  have exports := wirable_of_buildExports hes
  have imports := wirable_of_buildImports his
  have dynamicImports : ∃ cs,
      PackageClause.parseHeader (headers.text Headers.dynamicImportPackage)=.ok cs ∧
        cs.mapM ImportDeclaration.ofClause=.ok d.dynamicImports ∧
        d.dynamicImports.map ImportDeclaration.name=cs.map PackageClause.name :=
    ⟨cs,hcs,hds,Outcome.map_of_mapM (fun _ _ hc => (ImportDeclaration.ofClause_parts hc).1) hds⟩
  cases edition : d.edition with
  | legacy =>
    obtain ⟨result,hn,rfl⟩ := (ofDeclared_legacy_eq_ok_iff edition).mp hm
    obtain ⟨-,-,-,rfl⟩ := Legacy.normalize_eq_ok_iff.mp hn
    refine ⟨hd.edition,?_,Legacy.wirable_implyImports exports imports,fun _ e he => ?_,
      dynamicImports⟩
    · change Package.Wirable ((Legacy.attachUses _ _).map ExportDeclaration.name)
      rwa [Legacy.attachUses_names]
    · refine Legacy.mem_implyImports_names exports.nodup imports.nodup ?_
      rw [← Legacy.attachUses_names]
      exact List.mem_map_of_mem he
  | modern =>
    obtain ⟨name,-,result,hn,rfl⟩ := (ofDeclared_modern_eq_ok_iff edition).mp hm
    obtain ⟨-,-,rfl⟩ := Modern.normalize_eq_ok_iff.mp hn
    refine ⟨hd.edition,?_,imports,fun legacy => ?_,dynamicImports⟩
    · change Package.Wirable ((d.exports.map _).map ExportDeclaration.name)
      rwa [Modern.map_withOrigin_names]
    · exact absurd (edition.symm.trans legacy) (by decide)

/-- A legacy manifest that exports one package twice and wants another twice when needed. -/
theorem wellDeclared_of_repeated :
    let headers : Headers := [(Headers.exportPackage,some "a;b;version=1,a;version=2".toList),
      (Headers.importPackage,some "c,b".toList),
      (Headers.dynamicImportPackage,some "d.*,d.*".toList)]
    ∃ m, (read Running.readStack headers).outcome=.ok m ∧ WellDeclared headers m ∧
      m.imports.map ImportDeclaration.name=["c".toList,"b".toList,"a".toList] :=
  ⟨_,rfl,@wellDeclared_of_read Running.readStack _ _ rfl,rfl⟩

end Manifest

end BundleManifest
