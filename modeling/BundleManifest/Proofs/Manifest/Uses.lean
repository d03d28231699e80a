import BundleManifest.Proofs.Header.Unquoted
import BundleManifest.Proofs.Manifest.Reading
import BundleManifest.Proofs.Package.Implication
import BundleManifest.Running.Stacks

namespace BundleManifest

open Text (Listable)

theorem PackageClause.listable_of_unquoted {value : Text} (h : '"'∉value)
    {ks : List PackageClause} (read : parseHeader value=.ok ks) :
    ∀ n∈ks.map PackageClause.name, Listable n := by
  obtain ⟨cs,written,names⟩ := names_of_parseHeader read
  rw [names]
  exact Header.Clause.listable_of_parseAll h written

theorem Legacy.uses_of_mem_attachUses {exports : List ExportDeclaration}
    {imports : List ImportDeclaration} {e : ExportDeclaration} (he : e∈attachUses exports imports) :
    e.uses=(imports.map ImportDeclaration.name).flatMap Text.commaList := by
  obtain ⟨built,-,rfl⟩ := List.mem_map.mp he
  rw [← Text.commaList_join]
  rfl

namespace Manifest

variable {stack : Filter.ReadStack} {headers : Headers} {m : Manifest}

/-- A legacy manifest has the implied imports, and its exports use all of them. -/
theorem declares_of_legacy (legacy : headers.text? Headers.manifestVersion=none)
    (h : (read stack headers).outcome=.ok m) :
    ∃ d, Declares stack headers d ∧ m.imports=Legacy.implyImports d.exports d.imports ∧
      m.exports=Legacy.attachUses d.exports m.imports := by
  obtain ⟨d,hd,hm⟩ := read_eq_ok_iff.mp h
  have edition := Except.ok.inj (hd.edition.symm.trans (edition_of_missing legacy))
  obtain ⟨_,hn,rfl⟩ := (ofDeclared_legacy_eq_ok_iff edition).mp hm
  obtain ⟨-,-,-,rfl⟩ := Legacy.normalize_eq_ok_iff.mp hn
  exact ⟨d,hd,rfl,rfl⟩

/-- Each name is read back as the items that it holds. -/
theorem uses_eq_flatMap (legacy : headers.text? Headers.manifestVersion=none)
    (h : (read stack headers).outcome=.ok m) {e : ExportDeclaration} (he : e∈m.exports) :
    e.uses=(m.imports.map ImportDeclaration.name).flatMap Text.commaList := by
  obtain ⟨d,-,-,exports⟩ := declares_of_legacy legacy h
  rw [exports] at he
  exact Legacy.uses_of_mem_attachUses he

/-- Without quotes in the headers nothing goes wrong. -/
theorem uses_eq_names_of_unquoted (legacy : headers.text? Headers.manifestVersion=none)
    (h : (read stack headers).outcome=.ok m) (exports : '"'∉headers.text Headers.exportPackage)
    (imports : '"'∉headers.text Headers.importPackage) {e : ExportDeclaration}
    (he : e∈m.exports) : e.uses=m.imports.map ImportDeclaration.name := by
  rw [uses_eq_flatMap legacy h he]
  apply Text.flatMap_commaList_eq_iff.mpr
  obtain ⟨d,hd,implied,-⟩ := declares_of_legacy legacy h
  obtain ⟨ecs,hec,hes⟩ := hd.exports
  obtain ⟨ics,hic,his⟩ := hd.imports
  rw [implied,Legacy.implyImports_names (wirable_of_buildExports hes).nodup
    (wirable_of_buildImports his).nodup,names_of_buildExports hes,names_of_buildImports his]
  intro n hn
  rcases List.mem_append.mp hn with hn|hn
  · exact PackageClause.listable_of_unquoted imports hic n hn
  -- An implied import has the name of an export.
  · obtain ⟨c,hc,rfl⟩ := List.mem_map.mp (List.mem_filter.mp hn).1
    have clause := List.mem_of_find?_eq_some (mem_firstOfEach_iff.mp hc).2
    exact PackageClause.listable_of_unquoted exports hec c.name (List.mem_map_of_mem clause)

theorem uses_eq_names_iff (legacy : headers.text? Headers.manifestVersion=none)
    (h : (read stack headers).outcome=.ok m) {e : ExportDeclaration} (he : e∈m.exports) :
    e.uses=m.imports.map ImportDeclaration.name ↔ ∀ i∈m.imports, Listable i.name := by
  rw [uses_eq_flatMap legacy h he,Text.flatMap_commaList_eq_iff,List.forall_mem_map]

/-- Quotes around a name that is an item make no difference. -/
theorem uses_of_quoted_name :
    let headers : Headers := [(Headers.exportPackage,some "a;version=1".toList),
      (Headers.importPackage,some "\"b\"".toList)]
    ∃ m, (read Running.readStack headers).outcome=.ok m ∧
      m.imports.map ImportDeclaration.name=[['b'],['a']] ∧
      m.exports.length=1 ∧ ∀ e∈m.exports, e.uses=m.imports.map ImportDeclaration.name := by
  intro headers
  have result : (read Running.readStack headers).outcome.map (fun m =>
      (m.imports.map ImportDeclaration.name,
      m.exports.length))=.ok ([['b'],['a']],1) := by decide +kernel
  obtain ⟨m,hm,same⟩ := Outcome.map_eq_ok_iff.mp result
  obtain ⟨names,one⟩ := Prod.mk.inj same
  have items : ∀ n∈m.imports.map ImportDeclaration.name, Listable n := by
    rw [names]
    decide
  refine ⟨m,hm,names,one,fun e he => ?_⟩
  exact (uses_eq_names_iff rfl hm he).mpr (List.forall_mem_map.mp items)

/-- A comma between the quotes makes two packages of one, and neither of them is imported. -/
theorem uses_of_quoted_comma :
    let headers : Headers := [(Headers.exportPackage,some ['a']),
      (Headers.importPackage,some "\"b,c\"".toList)]
    ∃ m, (read Running.readStack headers).outcome=.ok m ∧
      m.imports.map ImportDeclaration.name=[['b',',','c'],['a']] ∧
      ∃ e∈m.exports, e.uses=[['b'],['c'],['a']] := by
  intro headers
  have result : (read Running.readStack headers).outcome.map (fun m =>
      (m.imports.map ImportDeclaration.name,
      m.exports.map ExportDeclaration.uses))=
      .ok ([['b',',','c'],['a']],[[['b'],['c'],['a']]]) := by decide +kernel
  obtain ⟨m,hm,same⟩ := Outcome.map_eq_ok_iff.mp result
  obtain ⟨names,uses⟩ := Prod.mk.inj same
  obtain ⟨e,only,split⟩ := List.map_eq_singleton_iff.mp uses
  refine ⟨m,hm,names,e,?_,split⟩
  rw [only]
  exact List.mem_singleton_self e

end Manifest

end BundleManifest
