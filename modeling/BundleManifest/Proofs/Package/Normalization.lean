import BundleManifest.Package.Legacy
import BundleManifest.Package.Modern
import BundleManifest.Proofs.Dictionary
import BundleManifest.Proofs.Outcome

namespace BundleManifest

open Outcome (FaultsAmong)

namespace Legacy

/-- No directives, and no attributes other than a single version. -/
def Plain (attributes : List (Attribute AttributeValue)) (directives : List Header.Parameter) :
    Prop :=
  directives=[] ∧ (attributes.map Attribute.name=[] ∨
    attributes.map Attribute.name=[Package.versionName])

theorem checkShape_eq_ok_iff {wiring : Wiring} {name : Text}
    {attributes : List (Attribute AttributeValue)} {directives : List Header.Parameter}
    {u : Unit} :
    checkShape wiring name attributes directives=.ok u ↔ Plain attributes directives := by
  simp [checkShape,Plain]

theorem checkImport_eq_ok_iff {i : ImportDeclaration} {u : Unit} :
    checkImport i=.ok u ↔ Plain i.attributes i.directives ∧ i.range.high?=none := by
  simp [checkImport,checkShape_eq_ok_iff]

theorem checkDynamicImport_eq_ok_iff {d : ImportDeclaration} {u : Unit} :
    checkDynamicImport d=.ok u ↔ d.directives=[] ∧ d.attributes=[] := by
  simp [checkDynamicImport]

theorem normalize_eq_ok_iff {exports : List ExportDeclaration}
    {imports dynamics : List ImportDeclaration}
    {result : List ExportDeclaration × List ImportDeclaration} :
    normalize exports imports dynamics=.ok result ↔
      (∀ e∈exports, Plain e.attributes e.directives) ∧
      (∀ i∈imports, Plain i.attributes i.directives ∧ i.range.high?=none) ∧
      (∀ d∈dynamics, d.directives=[] ∧ d.attributes=[]) ∧
      (attachUses exports (implyImports exports imports),implyImports exports imports)=result := by
  simp only [normalize,checkDeclarations,checkDynamicImports,Outcome.check_eq_ok_iff,
    Outcome.pure_eq_ok_iff,Outcome.forM_eq_ok_iff,checkExport,checkShape_eq_ok_iff,
    checkImport_eq_ok_iff,checkDynamicImport_eq_ok_iff,and_assoc]

theorem checkShape_faults (wiring : Wiring) (name : Text)
    (attributes : List (Attribute AttributeValue)) (directives : List Header.Parameter) :
    FaultsAmong [] (checkShape wiring name attributes directives) := by
  simp only [checkShape,Outcome.reject_bind]
  split_ifs
  · exact .pure _
  · exact .reject _
  · exact .reject _

theorem checkImport_faults (i : ImportDeclaration) : FaultsAmong [] (checkImport i) := by
  rw [checkImport]
  refine .bind (checkShape_faults _ _ _ _) fun _ _ => ?_
  split_ifs
  · exact .reject _
  · exact .pure _

theorem checkDynamicImport_faults (d : ImportDeclaration) :
    FaultsAmong [] (checkDynamicImport d) := by
  simp only [checkDynamicImport,Outcome.reject_bind]
  split_ifs
  · exact .pure _
  · exact .reject _
  · exact .reject _

theorem normalize_faults (exports : List ExportDeclaration)
    (imports dynamics : List ImportDeclaration) :
    FaultsAmong [] (normalize exports imports dynamics) := by
  rw [normalize,checkDeclarations]
  refine .bind (.bind (.forM fun e _ => ?_) fun _ _ => .forM fun i _ => ?_) fun _ _ => ?_
  · exact checkShape_faults _ _ _ _
  · exact checkImport_faults i
  · exact .bind (.forM fun d _ => checkDynamicImport_faults d) fun _ _ => .pure _

/-- Exports of distinct packages imply their imports in order. -/
theorem foldl_implyImport {exports : List ExportDeclaration}
    (nodup : (exports.map ExportDeclaration.name).Nodup) (known : Dictionary ImportDeclaration) :
    exports.foldl implyImport known=known++
      (exports.filter fun e => e.name∉known.keys).map fun e => (e.name,.ofExport e) := by
  induction exports generalizing known with
  | nil => simp
  | cons e r ih =>
    obtain ⟨away,nodup⟩ := List.nodup_cons.mp nodup
    rw [List.foldl_cons,ih nodup,implyImport]
    by_cases there : e.name∈known.keys
    · have found : (known.get? e.name).isSome :=
        Option.isSome_iff_exists.mpr (Dictionary.exists_get?_iff.mpr there)
      rw [if_pos found,List.filter_cons_of_neg (by simpa using there)]
    · have missing : ¬(known.get? e.name).isSome := by
        simp [Dictionary.get?_eq_none_iff.mpr there]
      have others : r.filter (fun d => d.name∉known.keys++[e.name])=
          r.filter fun d => d.name∉known.keys := by
        refine List.filter_congr fun d hd => ?_
        have other : d.name≠e.name := fun h => away (List.mem_map.mpr ⟨d,hd,h⟩)
        simp [other]
      rw [if_neg missing,Dictionary.keys_insert,if_neg there,others,
        Dictionary.insert_of_not_mem there,List.filter_cons_of_pos (by simpa using there)]
      simp

/-- Distinct imports stay as they are, and every other export adds its own. -/
theorem implyImports_eq {exports : List ExportDeclaration} {imports : List ImportDeclaration}
    (hes : (exports.map ExportDeclaration.name).Nodup)
    (his : (imports.map ImportDeclaration.name).Nodup) :
    implyImports exports imports=imports++
      (exports.filter fun e => e.name∉imports.map ImportDeclaration.name).map .ofExport := by
  have names : (imports.map fun i => (i.name,i)).map Prod.fst=
      imports.map ImportDeclaration.name := by simp [Function.comp_def]
  have known : Dictionary.ofList (imports.map fun i => (i.name,i))=
      imports.map fun i => (i.name,i) := Dictionary.ofList_of_nodup (by rwa [names])
  rw [implyImports,known]
  rw [foldl_implyImport hes,Dictionary.keys,names]
  simp [Function.comp_def]

theorem implyImports_names {exports : List ExportDeclaration} {imports : List ImportDeclaration}
    (hes : (exports.map ExportDeclaration.name).Nodup)
    (his : (imports.map ImportDeclaration.name).Nodup) :
    (implyImports exports imports).map ImportDeclaration.name=
      imports.map ImportDeclaration.name++
        (exports.map ExportDeclaration.name).filter fun n =>
          n∉imports.map ImportDeclaration.name := by
  rw [implyImports_eq hes his,List.map_append,List.map_map,List.filter_map]
  rfl

theorem attachUses_names (exports : List ExportDeclaration) (imports : List ImportDeclaration) :
    (attachUses exports imports).map ExportDeclaration.name=
      exports.map ExportDeclaration.name := by
  simp [attachUses,Function.comp_def]

end Legacy

namespace Modern

/-- The export with the two origin attributes behind its own. -/
def withOrigin (symbolicName : Text) (version : Version) (e : ExportDeclaration) :
    ExportDeclaration :=
  {e with attributes := e.attributes++[⟨symbolicNameAttribute,.text symbolicName,false⟩,
    ⟨bundleVersionAttribute,.version version,false⟩]}

theorem markOrigin_eq_ok_iff {symbolicName : Text} {version : Version}
    {e marked : ExportDeclaration} :
    markOrigin symbolicName version e=.ok marked ↔
      (∀ a∈e.attributes, isReserved a.name=false) ∧ withOrigin symbolicName version e=marked := by
  rw [markOrigin]
  split
  · next a ha =>
    have hm := List.mem_of_find?_eq_some ha
    have hr : isReserved a.name=true := by simpa using List.find?_some ha
    simp only [Outcome.reject_ne_ok,false_iff,not_and]
    intro h
    simp [h a hm] at hr
  · next ha =>
    have unset : ∀ a∈e.attributes, isReserved a.name=false := by
      simpa using List.find?_eq_none.mp ha
    rw [and_iff_right unset,Except.ok.injEq]
    rfl

theorem normalize_eq_ok_iff {exports result : List ExportDeclaration}
    {symbolicName : Option Text} {bundleVersion : Option Version} :
    normalize exports symbolicName bundleVersion=.ok result ↔
      symbolicName.getD []≠[] ∧ (∀ e∈exports, ∀ a∈e.attributes, isReserved a.name=false) ∧
        exports.map (withOrigin (symbolicName.getD []) (bundleVersion.getD {}))=result := by
  simp only [normalize,Outcome.reject_bind,Outcome.ite_reject_eq_ok_iff,Outcome.mapM_eq_ok_iff,
    markOrigin_eq_ok_iff,List.isEmpty_iff]
  refine and_congr_right fun _ => ?_
  induction exports generalizing result with
  | nil =>
    rw [List.forall₂_nil_left_iff,List.map_nil,and_iff_right (List.forall_mem_nil _)]
    exact eq_comm
  | cons e es ih =>
    simp only [List.forall₂_cons_left_iff,ih,List.forall_mem_cons,List.map_cons]
    constructor
    · rintro ⟨_,_,⟨he,rfl⟩,⟨hes,rfl⟩,rfl⟩
      exact ⟨⟨he,hes⟩,rfl⟩
    · rintro ⟨⟨he,hes⟩,rfl⟩
      exact ⟨_,_,⟨he,rfl⟩,⟨hes,rfl⟩,rfl⟩

theorem markOrigin_faults (symbolicName : Text) (version : Version) (e : ExportDeclaration) :
    FaultsAmong [] (markOrigin symbolicName version e) := by
  rw [markOrigin]
  split
  · exact .reject _
  · exact .ok _

theorem normalize_faults (exports : List ExportDeclaration) (symbolicName : Option Text)
    (bundleVersion : Option Version) :
    FaultsAmong [] (normalize exports symbolicName bundleVersion) := by
  simp only [normalize,Outcome.reject_bind]
  split_ifs
  · exact .reject _
  · exact .mapM fun e _ => markOrigin_faults _ _ e

end Modern

end BundleManifest
