import BundleManifest.Package.Declaration
import BundleManifest.Proofs.Package.Clause
import BundleManifest.Proofs.Version.Reading

namespace BundleManifest

open Outcome (FaultsAmong)
open Decimal (ShortRuns)

/-- The attribute names that are only ever the version, once at most. -/
theorem names_eq_version_iff {names : List Text} (nodup : names.Nodup) (version : Text) :
    names=[] ∨ names=[version] ↔ ∀ n∈names, n=version := by
  constructor
  · rintro (rfl|rfl) <;> simp
  · intro h
    rcases names with _|⟨a,_|⟨b,r⟩⟩
    · exact .inl rfl
    · exact .inr (by rw [h a (by simp)])
    · have same : a=b := (h a (by simp)).trans (h b (by simp)).symm
      simp [same] at nodup

namespace Attribute

variable {read : Text → Outcome AttributeValue}

theorem readVersion_name {a : Attribute Text} {b : Attribute AttributeValue}
    (h : readVersion read a=.ok b) : b.name=a.name := by
  rw [readVersion] at h
  split_ifs at h
  · obtain ⟨v,-,rfl⟩ := Outcome.map_eq_ok_iff.mp h
    rfl
  · obtain rfl := Except.ok.inj h
    rfl

theorem exists_readVersion_iff {a : Attribute Text} :
    (∃ b, readVersion read a=.ok b) ↔
      (a.name=Package.versionName → ∃ v, read a.value=.ok v) := by
  rw [readVersion]
  split_ifs with hv <;> simp [hv]

theorem readVersion_eq_error_iff {a : Attribute Text} {fault : Fault} :
    readVersion read a=.error fault ↔ a.name=Package.versionName ∧ read a.value=.error fault := by
  rw [readVersion]
  split_ifs with hv <;> simp [hv,Outcome.map_eq_error_iff]

theorem exists_mapM_readVersion_iff {as : List (Attribute Text)} :
    (∃ bs, as.mapM (readVersion read)=.ok bs) ↔
      ∀ a∈as, a.name=Package.versionName → ∃ v, read a.value=.ok v := by
  rw [Outcome.exists_mapM_eq_ok_iff]
  exact forall₂_congr fun a _ => exists_readVersion_iff

theorem readVersion_faults {a : Attribute Text} (h : FaultsAmong [] (read a.value)) :
    FaultsAmong [] (readVersion read a) := by
  rw [readVersion]
  split_ifs
  · exact h.map
  · exact .ok _

end Attribute

namespace ExportDeclaration

theorem ofClause_parts {c : PackageClause} {e : ExportDeclaration} (h : ofClause c=.ok e) :
    e.name=c.name ∧ e.directives=c.directives ∧
      e.attributes.map Attribute.name=c.attributes.map Attribute.name := by
  simp only [ofClause,Outcome.bind_eq_ok_iff,Outcome.pure_eq_ok_iff] at h
  obtain ⟨attributes,ha,rfl⟩ := h
  exact ⟨rfl,rfl,Outcome.map_of_mapM (fun _ _ => Attribute.readVersion_name) ha⟩

theorem exists_ofClause_iff {c : PackageClause} :
    (∃ e, ofClause c=.ok e) ↔
      ∀ a∈c.attributes, a.name=Package.versionName → ∃ v, Version.parse a.value=.ok v := by
  have all : (∃ bs, c.attributes.mapM readAttribute=.ok bs) ↔ _ :=
    Attribute.exists_mapM_readVersion_iff
  simp only [Outcome.exists_map_eq_ok_iff] at all
  simp only [← all,ofClause,Outcome.bind_eq_ok_iff,Outcome.pure_eq_ok_iff]
  constructor
  · rintro ⟨_,attributes,ha,rfl⟩
    exact ⟨attributes,ha⟩
  · rintro ⟨attributes,ha⟩
    exact ⟨_,attributes,ha,rfl⟩

theorem ofClause_faults {c : PackageClause} (h : ∀ a∈c.attributes, ShortRuns a.value) :
    FaultsAmong [] (ofClause c) := by
  rw [ofClause]
  refine .bind (.mapM fun a ha => ?_) fun _ _ => .pure _
  exact Attribute.readVersion_faults (Version.parse_faults (h a ha)).map

end ExportDeclaration

namespace ImportDeclaration

theorem ofClause_parts {c : PackageClause} {i : ImportDeclaration} (h : ofClause c=.ok i) :
    i.name=c.name ∧ i.directives=c.directives ∧
      i.attributes.map Attribute.name=c.attributes.map Attribute.name := by
  simp only [ofClause,Outcome.bind_eq_ok_iff,Outcome.pure_eq_ok_iff] at h
  obtain ⟨attributes,ha,rfl⟩ := h
  exact ⟨rfl,rfl,Outcome.map_of_mapM (fun _ _ => Attribute.readVersion_name) ha⟩

theorem exists_ofClause_iff {c : PackageClause} :
    (∃ i, ofClause c=.ok i) ↔
      ∀ a∈c.attributes, a.name=Package.versionName → ∃ r, VersionRange.parse a.value=.ok r := by
  have all : (∃ bs, c.attributes.mapM readAttribute=.ok bs) ↔ _ :=
    Attribute.exists_mapM_readVersion_iff
  simp only [Outcome.exists_map_eq_ok_iff] at all
  simp only [← all,ofClause,Outcome.bind_eq_ok_iff,Outcome.pure_eq_ok_iff]
  constructor
  · rintro ⟨_,attributes,ha,rfl⟩
    exact ⟨attributes,ha⟩
  · rintro ⟨attributes,ha⟩
    exact ⟨_,attributes,ha,rfl⟩

/-- With a version for its only attribute, an import has an upper bound exactly when the range
that is written has one. -/
theorem high?_eq_none_iff {c : PackageClause} {i : ImportDeclaration} (h : ofClause c=.ok i)
    (shape : c.attributes.map Attribute.name=[] ∨
      c.attributes.map Attribute.name=[Package.versionName]) :
    i.range.high?=none ↔
      ∀ a∈c.attributes, ∃ r, VersionRange.parse a.value=.ok r ∧ r.high?=none := by
  simp only [ofClause,Outcome.bind_eq_ok_iff,Outcome.pure_eq_ok_iff] at h
  obtain ⟨attributes,ha,rfl⟩ := h
  rcases shape with shape|shape
  · have bare : c.attributes=[] := by simpa using shape
    rw [bare] at ha ⊢
    obtain rfl := Except.ok.inj ha
    simp [rangeOf,VersionRange.any,VersionRange.high?]
  · obtain ⟨a,only,hn⟩ : ∃ a, c.attributes=[a] ∧ a.name=Package.versionName := by
      simpa [List.map_eq_singleton_iff] using shape
    rw [only] at ha ⊢
    simp only [List.mapM_cons,List.mapM_nil,Outcome.bind_eq_ok_iff,Outcome.pure_eq_ok_iff,
      readAttribute,Attribute.readVersion,if_pos hn,Outcome.map_eq_ok_iff] at ha
    obtain ⟨b,⟨_,⟨r,hr,rfl⟩,rfl⟩,_,rfl,rfl⟩ := ha
    simp [rangeOf,hn,hr]

theorem ofClause_faults {c : PackageClause} (h : ∀ a∈c.attributes, ShortRuns a.value) :
    FaultsAmong [] (ofClause c) := by
  rw [ofClause]
  refine .bind (.mapM fun a ha => ?_) fun _ _ => .pure _
  exact Attribute.readVersion_faults (VersionRange.parse_faults (h a ha)).map

end ImportDeclaration

namespace Package

theorem checkReserved_eq_ok_iff {wiring : Wiring} {name : Text} {u : Unit} :
    checkReserved wiring name=.ok u ↔ ¬reservedStart<+:name := by
  rw [checkReserved,Outcome.ite_reject_eq_ok_iff,List.isPrefixOf_iff_prefix]
  exact and_iff_left rfl

theorem checkReserved_faults (wiring : Wiring) (name : Text) :
    FaultsAmong [] (checkReserved wiring name) := by
  rw [checkReserved]
  split_ifs
  · exact .reject _
  · exact .ok _

end Package

/-- What a clause declares when it is the first of its name: the name is checked before anything is
read. -/
def ExportDeclaration.declare (c : PackageClause) : Outcome ExportDeclaration := do
  Package.checkReserved .exporting c.name
  ExportDeclaration.ofClause c

theorem ExportDeclaration.declare_eq_ok_iff {c : PackageClause} {e : ExportDeclaration} :
    declare c=.ok e ↔ ¬Package.reservedStart<+:c.name ∧ ofClause c=.ok e := by
  rw [declare,Outcome.check_eq_ok_iff,Package.checkReserved_eq_ok_iff]

/-- The first clause of each name that is not among those seen. -/
def firstOfEach (seen : List Text) : List PackageClause → List PackageClause
  | [] => []
  | c::r =>
    if c.name∈seen then firstOfEach seen r else c::firstOfEach (c.name::seen) r

theorem mem_firstOfEach_iff {seen : List Text} {cs : List PackageClause} {c : PackageClause} :
    c∈firstOfEach seen cs ↔ c.name∉seen ∧ cs.find? (·.name=c.name)=some c := by
  induction cs generalizing seen with
  | nil => simp [firstOfEach]
  | cons d r ih =>
    rw [firstOfEach]
    by_cases hd : d.name=c.name
    · rw [List.find?_cons_of_pos (by simpa using hd),hd,Option.some.injEq]
      split_ifs with hs
      · simp [ih,hs]
      · rw [List.mem_cons,ih]
        simp [hs,eq_comm]
    · rw [List.find?_cons_of_neg (by simpa using hd)]
      split_ifs with hs
      · exact ih
      · rw [List.mem_cons,ih,List.mem_cons,not_or]
        constructor
        · rintro (rfl|h)
          · exact absurd rfl hd
          · exact ⟨h.1.2,h.2⟩
        · rintro ⟨hs,hf⟩
          exact .inr ⟨⟨Ne.symm hd,hs⟩,hf⟩

theorem firstOfEach_nodup (seen : List Text) (cs : List PackageClause) :
    ((firstOfEach seen cs).map PackageClause.name).Nodup := by
  induction cs generalizing seen with
  | nil => exact List.nodup_nil
  | cons c r ih =>
    rw [firstOfEach]
    split_ifs
    · exact ih seen
    · rw [List.map_cons,List.nodup_cons]
      refine ⟨fun hm => ?_,ih _⟩
      obtain ⟨d,hd,he⟩ := List.mem_map.mp hm
      exact (mem_firstOfEach_iff.mp hd).1 (he▸List.mem_cons_self)

/-- The exports are what the first clauses of each name declare. -/
theorem outcome_buildExports (seen : List Text) (cs : List PackageClause) :
    (buildExports seen cs).outcome=(firstOfEach seen cs).mapM ExportDeclaration.declare := by
  induction cs generalizing seen with
  | nil => rfl
  | cons c r ih =>
    rw [buildExports,firstOfEach]
    split_ifs
    · rw [Logged.outcome_bind,Logged.outcome_note]
      exact ih seen
    · rw [List.mapM_cons,← ih]
      simp only [Logged.outcome_bind,Logged.outcome_ofOutcome,Logged.outcome_pure,
        ExportDeclaration.declare,bind_assoc]
      rfl

theorem buildExports_eq_ok_iff {seen : List Text} {cs : List PackageClause}
    {es : List ExportDeclaration} :
    (buildExports seen cs).outcome=.ok es ↔
      (∀ c∈firstOfEach seen cs, ¬Package.reservedStart<+:c.name) ∧
        (firstOfEach seen cs).mapM ExportDeclaration.ofClause=.ok es := by
  simp only [outcome_buildExports,Outcome.mapM_eq_ok_iff,ExportDeclaration.declare_eq_ok_iff,
    List.forall₂_and_left]

theorem buildImports_eq_ok_iff {seen : List Text} {cs : List PackageClause}
    {is : List ImportDeclaration} :
    buildImports seen cs=.ok is ↔
      (cs.map PackageClause.name).Nodup ∧ (∀ c∈cs, c.name∉seen) ∧
        (∀ c∈cs, ¬Package.reservedStart<+:c.name) ∧
        cs.mapM ImportDeclaration.ofClause=.ok is := by
  induction cs generalizing seen is with
  | nil => simp [buildImports,pure,Except.pure]
  | cons c r ih =>
    simp only [buildImports,Outcome.reject_bind,Outcome.ite_reject_eq_ok_iff,
      Outcome.bind_eq_ok_iff,Outcome.pure_eq_ok_iff,Package.checkReserved_eq_ok_iff,ih,
      List.mapM_cons,List.forall_mem_cons,List.map_cons,List.nodup_cons]
    constructor
    -- The clauses behind are new with this name among those seen, so it is not one of theirs.
    · rintro ⟨hs,_,hc,i,hi,rest,⟨nodup,fresh,hr,hm⟩,his⟩
      refine ⟨⟨fun hn => ?_,nodup⟩,⟨hs,?_⟩,⟨hc,hr⟩,i,hi,rest,hm,his⟩
      · obtain ⟨d,hd,he⟩ := List.mem_map.mp hn
        exact fresh d hd (he▸List.mem_cons_self)
      · exact fun d hd hm => fresh d hd (List.mem_cons_of_mem _ hm)
    · rintro ⟨⟨away,nodup⟩,⟨hs,fresh⟩,⟨hc,hr⟩,i,hi,rest,hm,his⟩
      refine ⟨hs,(),hc,i,hi,rest,⟨nodup,fun d hd hn => ?_,hr,hm⟩,his⟩
      rcases List.mem_cons.mp hn with he|hn
      · exact away (he▸List.mem_map_of_mem hd)
      · exact fresh d hd hn

/-- Names that can be wired: all different, and none of them the platform's own. -/
structure Package.Wirable (names : List Text) : Prop where
  nodup : names.Nodup
  unreserved : ∀ n∈names, ¬reservedStart<+:n

theorem names_of_buildExports {seen : List Text} {cs : List PackageClause}
    {es : List ExportDeclaration} (h : (buildExports seen cs).outcome=.ok es) :
    es.map ExportDeclaration.name=(firstOfEach seen cs).map PackageClause.name := by
  obtain ⟨-,built⟩ := buildExports_eq_ok_iff.mp h
  exact Outcome.map_of_mapM (fun _ _ hc => (ExportDeclaration.ofClause_parts hc).1) built

theorem names_of_buildImports {seen : List Text} {cs : List PackageClause}
    {is : List ImportDeclaration} (h : buildImports seen cs=.ok is) :
    is.map ImportDeclaration.name=cs.map PackageClause.name := by
  obtain ⟨-,-,-,built⟩ := buildImports_eq_ok_iff.mp h
  exact Outcome.map_of_mapM (fun _ _ hc => (ImportDeclaration.ofClause_parts hc).1) built

theorem wirable_of_buildExports {cs : List PackageClause} {es : List ExportDeclaration}
    (h : (buildExports [] cs).outcome=.ok es) :
    Package.Wirable (es.map ExportDeclaration.name) := by
  have free := (buildExports_eq_ok_iff.mp h).1
  rw [names_of_buildExports h]
  exact ⟨firstOfEach_nodup [] cs,List.forall_mem_map.mpr free⟩

theorem wirable_of_buildImports {cs : List PackageClause} {is : List ImportDeclaration}
    (h : buildImports [] cs=.ok is) : Package.Wirable (is.map ImportDeclaration.name) := by
  obtain ⟨nodup,-,free,-⟩ := buildImports_eq_ok_iff.mp h
  rw [names_of_buildImports h]
  exact ⟨nodup,List.forall_mem_map.mpr free⟩

/-- The clause is the first of its name. -/
def FirstOfName (cs : List PackageClause) (c : PackageClause) : Prop :=
  cs.find? (·.name=c.name)=some c

theorem exists_buildExports_iff {P : ExportDeclaration → Prop} {cs : List PackageClause} :
    (∃ es, (buildExports [] cs).outcome=.ok es ∧ ∀ e∈es, P e) ↔
      ∀ c, FirstOfName cs c → ¬Package.reservedStart<+:c.name ∧
        ∃ e, ExportDeclaration.ofClause c=.ok e ∧ P e := by
  have first (c : PackageClause) : c∈firstOfEach [] cs ↔ FirstOfName cs c :=
    mem_firstOfEach_iff.trans (and_iff_right List.not_mem_nil)
  simp only [buildExports_eq_ok_iff,and_assoc,exists_and_left,Outcome.exists_mapM_forall_iff,
    ← forall₂_and,first]

theorem exists_buildImports_iff {P : ImportDeclaration → Prop} {cs : List PackageClause} :
    (∃ is, buildImports [] cs=.ok is ∧ ∀ i∈is, P i) ↔
      (cs.map PackageClause.name).Nodup ∧ ∀ c∈cs, ¬Package.reservedStart<+:c.name ∧
        ∃ i, ImportDeclaration.ofClause c=.ok i ∧ P i := by
  have fresh : ∀ c∈cs, c.name∉([] : List Text) := fun _ _ => List.not_mem_nil
  simp only [buildImports_eq_ok_iff,and_assoc,exists_and_left,Outcome.exists_mapM_forall_iff,
    ← forall₂_and,and_iff_right fresh]

theorem buildExports_faults (seen : List Text) {cs : List PackageClause}
    (h : ∀ c∈cs, ∀ a∈c.attributes, ShortRuns a.value) :
    FaultsAmong [] (buildExports seen cs).outcome := by
  rw [outcome_buildExports]
  refine .mapM fun c hc => .bind (Package.checkReserved_faults _ _) fun _ _ => ?_
  have member := List.mem_of_find?_eq_some (mem_firstOfEach_iff.mp hc).2
  exact ExportDeclaration.ofClause_faults (h c member)

theorem buildImports_faults (seen : List Text) {cs : List PackageClause}
    (h : ∀ c∈cs, ∀ a∈c.attributes, ShortRuns a.value) :
    FaultsAmong [] (buildImports seen cs) := by
  induction cs generalizing seen with
  | nil => exact .ok _
  | cons c r ih =>
    have tail (seen : List Text) := ih seen fun d hd => h d (List.mem_cons_of_mem c hd)
    simp only [buildImports,Outcome.reject_bind]
    split_ifs
    · exact .reject _
    · refine .bind (Package.checkReserved_faults _ _) fun _ _ => ?_
      refine .bind (ImportDeclaration.ofClause_faults (h c List.mem_cons_self)) fun _ _ => ?_
      exact .bind (tail _) fun _ _ => .pure _

theorem buildDynamicImports_faults {cs : List PackageClause}
    (h : ∀ c∈cs, ∀ a∈c.attributes, ShortRuns a.value) :
    FaultsAmong [] (buildDynamicImports cs) :=
  .mapM fun c hc => ImportDeclaration.ofClause_faults (h c hc)

end BundleManifest
