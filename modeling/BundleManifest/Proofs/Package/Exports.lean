import BundleManifest.Proofs.Package.Declaration

namespace BundleManifest

open Package (reservedStart versionName)

/-- Each clause with all that stand in front of it, those of `front` to begin with. -/
def placed (front : List PackageClause) :
    List PackageClause → List (List PackageClause × PackageClause)
  | [] => []
  | c::r => (front,c)::placed (front++[c]) r

/-- One of those in front has the name of the clause. -/
def Repeats (p : List PackageClause × PackageClause) : Prop :=
  p.2.name∈p.1.map PackageClause.name

instance (p : List PackageClause × PackageClause) : Decidable (Repeats p) :=
  inferInstanceAs (Decidable (_∈_))

/-- The clauses that are the first of their names behind `front`, in order. -/
def newcomers (front cs : List PackageClause) : List PackageClause :=
  ((placed front cs).filter fun p => ¬Repeats p).map Prod.snd

/-- The clauses that repeat a name, in order. -/
def repeats (front cs : List PackageClause) : List PackageClause :=
  ((placed front cs).filter fun p => Repeats p).map Prod.snd

theorem newcomers_cons (front : List PackageClause) (c : PackageClause) (r : List PackageClause) :
    newcomers front (c::r)=
      if c.name∈front.map PackageClause.name then newcomers (front++[c]) r
      else c::newcomers (front++[c]) r := by
  rw [newcomers,placed,List.filter_cons]
  by_cases h : c.name∈front.map PackageClause.name
  · rw [if_neg (by simpa [Repeats] using h),if_pos h]
    rfl
  · rw [if_pos (by simpa [Repeats] using h),if_neg h]
    rfl

theorem repeats_cons (front : List PackageClause) (c : PackageClause) (r : List PackageClause) :
    repeats front (c::r)=
      if c.name∈front.map PackageClause.name then c::repeats (front++[c]) r
      else repeats (front++[c]) r := by
  rw [repeats,placed,List.filter_cons]
  by_cases h : c.name∈front.map PackageClause.name
  · rw [if_pos (by simpa [Repeats] using h),if_pos h]
    rfl
  · rw [if_neg (by simpa [Repeats] using h),if_neg h]
    rfl

theorem length_placed (front cs : List PackageClause) : (placed front cs).length=cs.length := by
  induction cs generalizing front with
  | nil => rfl
  | cons c r ih => rw [placed,List.length_cons,List.length_cons,ih]

theorem length_newcomers_add_repeats (front cs : List PackageClause) :
    (newcomers front cs).length+(repeats front cs).length=cs.length := by
  have all := List.length_eq_length_filter_add (l := placed front cs) fun p => ¬Repeats p
  rw [length_placed] at all
  simpa [newcomers,repeats] using all.symm

theorem newcomers_append (front as bs : List PackageClause) :
    newcomers front (as++bs)=newcomers front as++newcomers (front++as) bs := by
  induction as generalizing front with
  | nil => simp [newcomers,placed]
  | cons c r ih =>
    rw [List.cons_append,newcomers_cons,newcomers_cons,ih,List.append_assoc]
    split_ifs <;> rfl

/-- The names seen are those of the clauses in front. -/
def Seen (seen : List Text) (front : List PackageClause) : Prop :=
  ∀ n, n∈seen ↔ n∈front.map PackageClause.name

theorem seen_nil : Seen [] [] := fun _ => Iff.rfl

theorem Seen.repeated {seen : List Text} {front : List PackageClause} {c : PackageClause}
    (same : Seen seen front) (h : c.name∈front.map PackageClause.name) :
    Seen seen (front++[c]) := by
  intro n
  rw [same,List.map_append,List.mem_append]
  refine (or_iff_left_of_imp fun hn => ?_).symm
  rwa [List.mem_singleton.mp hn]

theorem Seen.new {seen : List Text} {front : List PackageClause} (same : Seen seen front)
    (c : PackageClause) : Seen (c.name::seen) (front++[c]) := by
  intro n
  simp [same n,or_comm]

/-- A new clause among the others stands behind those in front of which it is new. -/
theorem exists_placed_of_newcomers {front cs as bs : List PackageClause} {c : PackageClause}
    (h : newcomers front cs=as++c::bs) :
    ∃ before after, cs=before++c::after ∧ newcomers front before=as ∧
      c.name∉(front++before).map PackageClause.name := by
  induction cs generalizing front as with
  | nil => simp [newcomers,placed] at h
  | cons d r ih =>
    rw [newcomers_cons] at h
    split_ifs at h with old
    · obtain ⟨before,after,rfl,same,new⟩ := ih h
      refine ⟨d::before,after,rfl,?_,by simpa using new⟩
      rw [newcomers_cons,if_pos old,same]
    · cases as with
      | nil =>
        obtain ⟨rfl,-⟩ := List.cons.inj h
        exact ⟨[],r,rfl,rfl,by simpa using old⟩
      | cons a as =>
        obtain ⟨rfl,behind⟩ := List.cons.inj h
        obtain ⟨before,after,rfl,same,new⟩ := ih behind
        refine ⟨d::before,after,rfl,?_,by simpa using new⟩
        rw [newcomers_cons,if_neg old,same]

theorem mem_newcomers_iff {cs : List PackageClause} {c : PackageClause} :
    c∈newcomers [] cs ↔ ∃ front back, cs=front++c::back ∧ c.name∉front.map PackageClause.name := by
  constructor
  · intro h
    obtain ⟨as,bs,place⟩ := List.append_of_mem h
    obtain ⟨front,back,whole,-,new⟩ := exists_placed_of_newcomers place
    exact ⟨front,back,whole,new⟩
  · rintro ⟨front,back,rfl,new⟩
    rw [newcomers_append,newcomers_cons,List.nil_append,if_neg new]
    simp

theorem firstOfEach_eq_newcomers {seen : List Text} {front : List PackageClause}
    (same : Seen seen front) (cs : List PackageClause) :
    firstOfEach seen cs=newcomers front cs := by
  induction cs generalizing seen front with
  | nil => rfl
  | cons c r ih =>
    rw [firstOfEach,newcomers_cons]
    simp only [same c.name]
    split_ifs with old
    · exact ih (same.repeated old)
    · rw [ih (same.new c)]

/-- A clause that repeats a name makes no other one new or old. -/
theorem newcomers_of_repeat {front back : List PackageClause} {c : PackageClause}
    (h : c.name∈front.map PackageClause.name) :
    newcomers [] (front++c::back)=newcomers [] (front++back) := by
  have same : Seen (front.map PackageClause.name) front := fun _ => Iff.rfl
  have behind := firstOfEach_eq_newcomers (same.repeated h) back
  rw [firstOfEach_eq_newcomers same] at behind
  rw [newcomers_append,newcomers_append,List.nil_append,newcomers_cons,if_pos h,← behind]

theorem notices_of_repeat {seen : List Text} {c : PackageClause} (h : c.name∈seen)
    (r : List PackageClause) :
    (buildExports seen (c::r)).notices=
      .duplicateExport c.name::(buildExports seen r).notices := by
  rw [buildExports,if_pos h,Logged.notices_bind_of_ok rfl]
  rfl

theorem notices_of_declared {seen : List Text} {c : PackageClause} {e : ExportDeclaration}
    (h : c.name∉seen) (made : ExportDeclaration.declare c=.ok e) (r : List PackageClause) :
    (buildExports seen (c::r)).notices=(buildExports (c.name::seen) r).notices := by
  obtain ⟨u,free,read⟩ := Outcome.bind_eq_ok_iff.mp made
  rw [buildExports,if_neg h,Logged.notices_bind_of_ok free,Logged.notices_bind_of_ok read]
  cases rest : (buildExports (c.name::seen) r).outcome with
  | ok es =>
    rw [Logged.notices_bind_of_ok rest]
    simp [Logged.ofOutcome,pure,Logged.pure]
  | error fault =>
    rw [Logged.notices_bind_of_error rest]
    rfl

theorem notices_of_failed {seen : List Text} {c : PackageClause} {fault : Fault}
    (h : c.name∉seen) (failed : ExportDeclaration.declare c=.error fault)
    (r : List PackageClause) : (buildExports seen (c::r)).notices=[] := by
  rw [buildExports,if_neg h]
  rcases Outcome.bind_eq_error_iff.mp failed with reserved|⟨u,free,unread⟩
  · rw [Logged.notices_bind_of_error reserved]
    rfl
  · rw [Logged.notices_bind_of_ok free,Logged.notices_bind_of_error unread]
    rfl

/-- Up to a clause behind it, a list that can be exported is noted at its repeats. -/
theorem notices_append {seen : List Text} {front before : List PackageClause}
    (same : Seen seen front)
    (made : ∀ c∈newcomers front before, ∃ e, ExportDeclaration.declare c=.ok e)
    (after : List PackageClause) :
    ∃ later, Seen later (front++before) ∧
      (buildExports seen (before++after)).notices=
        (repeats front before).map (fun c => .duplicateExport c.name)++
          (buildExports later after).notices := by
  induction before generalizing seen front with
  | nil => exact ⟨seen,by rwa [List.append_nil],by simp [repeats,placed]⟩
  | cons c r ih =>
    rw [newcomers_cons] at made
    rw [repeats_cons,List.cons_append]
    split_ifs at made ⊢ with old
    · obtain ⟨later,names,rest⟩ := ih (same.repeated old) made
      refine ⟨later,by rwa [List.append_cons],?_⟩
      rw [notices_of_repeat ((same c.name).mpr old),rest,List.map_cons,List.cons_append]
    · obtain ⟨⟨e,first⟩,made⟩ := List.forall_mem_cons.mp made
      obtain ⟨later,names,rest⟩ := ih (same.new c) made
      refine ⟨later,by rwa [List.append_cons],?_⟩
      rw [notices_of_declared (mt (same c.name).mp old) first,rest]

/-- Why a clause cannot be exported: its name is reserved or, failing that, the first of its version
attributes that is no version. -/
inductive Unexportable (c : PackageClause) : Fault → Prop
  | reserved : reservedStart<+:c.name →
    Unexportable c (.rejected (.reservedPackage .exporting c.name))
  | version {front back : List (Attribute Text)} {a : Attribute Text} {fault : Fault} :
    ¬reservedStart<+:c.name → c.attributes=front++a::back →
    (∀ b∈front, b.name=versionName → ∃ v, Version.parse b.value=.ok v) →
    a.name=versionName → Version.parse a.value=.error fault → Unexportable c fault

theorem ExportDeclaration.ofClause_eq_error_iff {c : PackageClause} {fault : Fault} :
    ofClause c=.error fault ↔ ∃ front a back, c.attributes=front++a::back ∧
      (∀ b∈front, b.name=versionName → ∃ v, Version.parse b.value=.ok v) ∧
      a.name=versionName ∧ Version.parse a.value=.error fault := by
  have attributes : ofClause c=.error fault ↔ c.attributes.mapM readAttribute=.error fault := by
    rw [ofClause,Outcome.bind_eq_error_iff]
    exact or_iff_left (by simp [pure,Except.pure])
  rw [attributes,Outcome.mapM_eq_error_iff]
  simp only [readAttribute,Attribute.exists_readVersion_iff,Attribute.readVersion_eq_error_iff,
    Outcome.exists_map_eq_ok_iff,Outcome.map_eq_error_iff]

theorem declare_eq_error_iff {c : PackageClause} {fault : Fault} :
    ExportDeclaration.declare c=.error fault ↔ Unexportable c fault := by
  rw [ExportDeclaration.declare,Outcome.bind_eq_error_iff]
  constructor
  · rintro (refused|⟨_,free,failed⟩)
    · rw [Package.checkReserved] at refused
      split_ifs at refused with reserved
      · obtain rfl := Except.error.inj refused
        exact .reserved (List.isPrefixOf_iff_prefix.mp reserved)
    · have open' := Package.checkReserved_eq_ok_iff.mp free
      obtain ⟨front,a,back,place,read,name,fault⟩ :=
        ExportDeclaration.ofClause_eq_error_iff.mp failed
      exact .version open' place read name fault
  · rintro (reserved|⟨free,place,read,name,fault⟩)
    · left
      rw [Package.checkReserved,if_pos (List.isPrefixOf_iff_prefix.mpr reserved)]
      rfl
    · right
      have failed := ExportDeclaration.ofClause_eq_error_iff.mpr ⟨_,_,_,place,read,name,fault⟩
      exact ⟨(),Package.checkReserved_eq_ok_iff.mpr free,failed⟩

/-- A clause is declared unless something stands against it. -/
theorem exists_declare_iff {c : PackageClause} :
    (∃ e, ExportDeclaration.declare c=.ok e) ↔ ∀ fault, ¬Unexportable c fault := by
  simp only [← declare_eq_error_iff]
  cases ExportDeclaration.declare c <;> simp

theorem exists_unexportable_iff {c : PackageClause} :
    (∃ fault, Unexportable c fault) ↔ reservedStart<+:c.name ∨
      ∃ a∈c.attributes, a.name=versionName ∧ ∃ fault, Version.parse a.value=.error fault := by
  simp only [← declare_eq_error_iff,← Outcome.not_exists_ok_iff,
    ExportDeclaration.declare_eq_ok_iff,exists_and_left,ExportDeclaration.exists_ofClause_iff]
  rw [not_and_or,not_not]
  simp only [not_forall,exists_prop]

/-- One notice for each clause that repeats a name. -/
def duplicateNotices (cs : List PackageClause) : List Notice :=
  (repeats [] cs).map fun c => .duplicateExport c.name

theorem outcome_of_newcomers (cs : List PackageClause) :
    (buildExports [] cs).outcome=(newcomers [] cs).mapM ExportDeclaration.declare := by
  rw [outcome_buildExports,firstOfEach_eq_newcomers seen_nil]

theorem notices_of_exportable {cs : List PackageClause}
    (made : ∀ c∈newcomers [] cs, ∃ e, ExportDeclaration.declare c=.ok e) :
    (buildExports [] cs).notices=duplicateNotices cs := by
  obtain ⟨later,-,all⟩ := notices_append seen_nil made []
  rw [List.append_nil] at all
  rw [all]
  exact List.append_nil _

theorem outcome_eq_ok_iff {cs : List PackageClause} {es : List ExportDeclaration} :
    (buildExports [] cs).outcome=.ok es ↔
      (∀ c∈newcomers [] cs, ∀ fault, ¬Unexportable c fault) ∧
        List.Forall₂ (fun c e => ExportDeclaration.ofClause c=.ok e) (newcomers [] cs) es := by
  rw [outcome_of_newcomers]
  constructor
  · intro h
    have made := Outcome.exists_mapM_eq_ok_iff.mp ⟨es,h⟩
    refine ⟨fun c hc => exists_declare_iff.mp (made c hc),?_⟩
    apply (Outcome.mapM_eq_ok_iff.mp h).imp
    exact fun c e he => (ExportDeclaration.declare_eq_ok_iff.mp he).2
  · rintro ⟨made,read⟩
    simp only [Outcome.mapM_eq_ok_iff,ExportDeclaration.declare_eq_ok_iff,List.forall₂_and_left]
    refine ⟨fun c hc reserved => ?_,read⟩
    exact made c hc _ (.reserved reserved)

theorem buildExports_of_failed {front : List PackageClause} {c : PackageClause} {fault : Fault}
    (made : ∀ d∈newcomers [] front, ∃ e, ExportDeclaration.declare d=.ok e)
    (new : c.name∉front.map PackageClause.name)
    (failed : ExportDeclaration.declare c=.error fault) (back : List PackageClause) :
    buildExports [] (front++c::back)=⟨duplicateNotices front,.error fault⟩ := by
  have outcome : (buildExports [] (front++c::back)).outcome=.error fault := by
    rw [outcome_of_newcomers,newcomers_append,newcomers_cons,List.nil_append,if_neg new,
      Outcome.mapM_eq_error_iff]
    exact ⟨_,c,_,rfl,made,failed⟩
  obtain ⟨later,names,all⟩ := notices_append seen_nil made (c::back)
  rw [notices_of_failed (mt (names c.name).mp new) failed,List.append_nil] at all
  rw [← outcome]
  exact congrArg (Logged.mk · _) all

theorem buildExports_eq_error_iff {cs : List PackageClause} {notices : List Notice}
    {fault : Fault} :
    buildExports [] cs=⟨notices,.error fault⟩ ↔
      ∃ front c back, cs=front++c::back ∧ c.name∉front.map PackageClause.name ∧
        (∀ d∈newcomers [] front, ∀ e, ¬Unexportable d e) ∧ Unexportable c fault ∧
        notices=duplicateNotices front := by
  constructor
  · intro h
    have outcome : (buildExports [] cs).outcome=.error fault := by rw [h]
    rw [outcome_of_newcomers,Outcome.mapM_eq_error_iff] at outcome
    obtain ⟨as,c,bs,place,made,failed⟩ := outcome
    obtain ⟨front,back,rfl,rfl,new⟩ := exists_placed_of_newcomers place
    have all := buildExports_of_failed made new failed back
    obtain ⟨rfl,-⟩ := Logged.mk.inj (h.symm.trans all)
    refine ⟨front,c,back,rfl,new,?_,declare_eq_error_iff.mp failed,rfl⟩
    exact fun d hd => exists_declare_iff.mp (made d hd)
  · rintro ⟨front,c,back,rfl,new,made,failed,rfl⟩
    apply buildExports_of_failed _ new (declare_eq_error_iff.mpr failed)
    exact fun d hd => exists_declare_iff.mpr (made d hd)

theorem buildExports_eq_declared_iff {cs : List PackageClause} {notices : List Notice}
    {es : List ExportDeclaration} :
    buildExports [] cs=⟨notices,.ok es⟩ ↔
      (∀ c∈newcomers [] cs, ∀ fault, ¬Unexportable c fault) ∧
        List.Forall₂ (fun c e => ExportDeclaration.ofClause c=.ok e) (newcomers [] cs) es ∧
        notices=duplicateNotices cs := by
  rw [← and_assoc,← outcome_eq_ok_iff]
  have noted (h : (buildExports [] cs).outcome=.ok es) :
      (buildExports [] cs).notices=duplicateNotices cs := by
    have made := (outcome_eq_ok_iff.mp h).1
    exact notices_of_exportable fun c hc => exists_declare_iff.mpr (made c hc)
  constructor
  · intro h
    have outcome : (buildExports [] cs).outcome=.ok es := by rw [h]
    refine ⟨outcome,?_⟩
    rw [← noted outcome,h]
  · rintro ⟨outcome,rfl⟩
    rw [← noted outcome,← outcome]

theorem exists_fault_iff {cs : List PackageClause} :
    (∃ fault, (buildExports [] cs).outcome=.error fault) ↔
      ∃ front c back, cs=front++c::back ∧ c.name∉front.map PackageClause.name ∧
        (reservedStart<+:c.name ∨ ∃ a∈c.attributes, a.name=versionName ∧
          ∃ fault, Version.parse a.value=.error fault) := by
  rw [← Outcome.not_exists_ok_iff,outcome_of_newcomers,Outcome.exists_mapM_eq_ok_iff]
  simp only [exists_declare_iff,not_forall,not_not,exists_prop,mem_newcomers_iff,
    exists_unexportable_iff]
  constructor
  · rintro ⟨c,⟨front,back,place,new⟩,bad⟩
    exact ⟨front,c,back,place,new,bad⟩
  · rintro ⟨front,c,back,place,new,bad⟩
    exact ⟨c,⟨front,back,place,new⟩,bad⟩

/-- Building fails exactly when a clause that is the first of its name has a reserved name or a
version that is none. Then the first such clause tells the fault, and the clauses in front of it that
repeat a name are noted. Otherwise each first clause is declared and each of the others noted. A
clause that repeats a name makes no other difference. -/
theorem buildExports_of_newcomers (cs : List PackageClause) :
    ((∃ fault, (buildExports [] cs).outcome=.error fault) ↔
      ∃ front c back, cs=front++c::back ∧ c.name∉front.map PackageClause.name ∧
        (reservedStart<+:c.name ∨ ∃ a∈c.attributes, a.name=versionName ∧
          ∃ fault, Version.parse a.value=.error fault)) ∧
    (∀ notices fault, buildExports [] cs=⟨notices,.error fault⟩ ↔
      ∃ front c back, cs=front++c::back ∧ c.name∉front.map PackageClause.name ∧
        (∀ d∈newcomers [] front, ∀ e, ¬Unexportable d e) ∧ Unexportable c fault ∧
        notices=duplicateNotices front) ∧
    (∀ notices es, buildExports [] cs=⟨notices,.ok es⟩ ↔
      (∀ c∈newcomers [] cs, ∀ fault, ¬Unexportable c fault) ∧
        List.Forall₂ (fun c e => ExportDeclaration.ofClause c=.ok e) (newcomers [] cs) es ∧
        notices=duplicateNotices cs) ∧
    (∀ notices es, buildExports [] cs=⟨notices,.ok es⟩ → es.length+notices.length=cs.length) ∧
    ∀ front c back, cs=front++c::back → c.name∈front.map PackageClause.name →
      (buildExports [] cs).outcome=(buildExports [] (front++back)).outcome := by
  refine ⟨exists_fault_iff,fun _ _ => buildExports_eq_error_iff,
    fun _ _ => buildExports_eq_declared_iff,?_,?_⟩
  · intro notices es h
    obtain ⟨-,declared,rfl⟩ := buildExports_eq_declared_iff.mp h
    rw [← declared.length_eq,duplicateNotices,List.length_map]
    exact length_newcomers_add_repeats [] cs
  · rintro front c back rfl h
    rw [outcome_of_newcomers,outcome_of_newcomers,newcomers_of_repeat h]

/-- The version of a repeated clause is not read, that of a new one is, and nothing behind a fault is
noted. -/
theorem buildExports_of_repeated_fault :
    let first : PackageClause := ⟨['a'],[],[]⟩
    let repeated : PackageClause := ⟨['a'],[⟨versionName,['x'],false⟩],[]⟩
    let new : PackageClause := ⟨['b'],[⟨versionName,"1.x".toList,false⟩],[]⟩
    (∃ es, buildExports [] [first,repeated]=⟨[.duplicateExport ['a']],.ok es⟩ ∧
      es.length+1=2) ∧
    (∃ fault, Unexportable new fault ∧
      buildExports [] [first,repeated,new,repeated]=⟨[.duplicateExport ['a']],.error fault⟩) ∧
    (buildExports [] [first,repeated,new,repeated]).outcome=
      (buildExports [] [first,new,repeated]).outcome := by
  intro first repeated new
  have made : buildExports [] [first,repeated]=
      ⟨[.duplicateExport ['a']],.ok [⟨['a'],[],[]⟩]⟩ := rfl
  obtain ⟨-,-,-,count,-⟩ := buildExports_of_newcomers [first,repeated]
  obtain ⟨-,fails,-,-,dropped⟩ := buildExports_of_newcomers [first,repeated,new,repeated]
  have unread : Unexportable new (.rejected (.invalidVersion "1.x".toList)) := by
    have place : new.attributes=[]++⟨versionName,"1.x".toList,false⟩::[] := rfl
    exact .version (by decide) place nofun rfl rfl
  refine ⟨⟨_,made,count _ _ made⟩,⟨_,unread,?_⟩,dropped [first] repeated [new,repeated] rfl ?_⟩
  · apply (fails _ _).mpr
    refine ⟨[first,repeated],new,[repeated],rfl,by decide,?_,unread,rfl⟩
    intro d hd
    change d∈[first] at hd
    rw [List.mem_singleton.mp hd]
    exact exists_declare_iff.mp ⟨⟨['a'],[],[]⟩,rfl⟩
  · decide

end BundleManifest
