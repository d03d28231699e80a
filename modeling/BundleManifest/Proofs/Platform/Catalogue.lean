import BundleManifest.Platform.Catalogue
import BundleManifest.Proofs.Dictionary
import BundleManifest.Proofs.Outcome
import BundleManifest.Proofs.Text.Join
import BundleManifest.Proofs.Text.Order
import BundleManifest.Running.Setup

namespace BundleManifest.Platform

variable {readers : Readers}

namespace Template

/-- What reading the file comes to; only files of the known formats are read. -/
def reading? (readers : Readers) (t : Template) : Option (Outcome (Option Profile)) :=
  t.format?.map fun format => profile? readers format t.file

/-- By its name the file is one of profiles: it ends in one of three suffixes, with something in
front of the dot. -/
def Eligible (t : Template) : Prop :=
  ∃ stem suffix, t.name=stem++ '.'::suffix ∧ stem≠[] ∧
    suffix∈["json".toList,"yaml".toList,"yml".toList]

/-- The file is one of profiles and holds this one. -/
def Holds (readers : Readers) (t : Template) (p : Profile) : Prop :=
  t.reading? readers=some (.ok (some p))

/-- The file is one of profiles and holds none that is valid. -/
def isInvalid (readers : Readers) (t : Template) : Bool :=
  match t.reading? readers with
  | some (.ok none) => true
  | _ => false

/-- The file is not read, or reading it does not go beyond what readers can do. -/
def Settled (readers : Readers) (t : Template) : Prop :=
  ∀ x, t.reading? readers=some x → ∃ found, x=.ok found

/-- The profile of the file under its name. -/
def named? (readers : Readers) (t : Template) : Option (Text × Profile) :=
  match t.reading? readers with
  | some (.ok (some p)) => some (p.name,p)
  | _ => none

theorem Holds.named?_eq {t : Template} {p : Profile} (h : t.Holds readers p) :
    t.named? readers=some (p.name,p) := by
  rw [named?,h]

theorem holds_of_named? {t : Template} {e : Text × Profile} (h : t.named? readers=some e) :
    t.Holds readers e.2 ∧ e.1=e.2.name := by
  rw [named?] at h
  split at h
  · next p read =>
    rw [← Option.some.inj h]
    exact ⟨read,rfl⟩
  · cases h

theorem named?_eq_none {t : Template} (h : ∀ p, ¬t.Holds readers p) : t.named? readers=none := by
  cases found : t.named? readers with
  | none => rfl
  | some e => exact absurd (holds_of_named? found).1 (h e.2)

/-- The three ways in which a file is settled. -/
theorem Settled.cases {t : Template} (h : t.Settled readers) :
    t.reading? readers=none ∨ t.reading? readers=some (.ok none) ∨ ∃ p, t.Holds readers p := by
  cases read : t.reading? readers with
  | none => exact .inl rfl
  | some x =>
    obtain ⟨found,rfl⟩ := h x read
    cases found with
    | none => exact .inr (.inl rfl)
    | some p => exact .inr (.inr ⟨p,read⟩)

theorem suffix?_append {stem suffix : Text} (plain : '.'∉suffix) :
    suffix? (stem++ '.'::suffix)=if suffix=[] ∨ stem=[] then none else some suffix := by
  simp only [suffix?,Text.afterLast_append plain,List.length_append,List.length_cons]
  by_cases nothing : suffix=[] ∨ stem=[]
  · rw [if_pos nothing]
    cases nothing with
    | inl empty => simp [empty]
    | inr empty => simp [empty]
  · obtain ⟨nonempty,something⟩ := not_or.mp nothing
    have long := List.length_pos_of_ne_nil something
    have short : ¬suffix.length+2 > stem.length+(suffix.length+1) := by omega
    rw [if_neg nothing]
    simp [nonempty,short]

theorem suffix?_of_not_mem {name : Text} (h : '.'∉name) : suffix? name=none := by
  simp [suffix?,Text.afterLast_of_not_mem h]

theorem format?_of_suffix {t : Template} {s : Text} (h : suffix? t.name=some s) :
    (∃ format, t.format?=some format) ↔ s∈["json".toList,"yaml".toList,"yml".toList] := by
  simp only [format?,h,List.mem_cons,List.not_mem_nil,or_false,Bool.or_eq_true,decide_eq_true_eq]
  split_ifs with json yaml
  · exact ⟨fun _ => .inl json,fun _ => ⟨_,rfl⟩⟩
  · exact ⟨fun _ => .inr yaml,fun _ => ⟨_,rfl⟩⟩
  · simp only [exists_false,json,yaml,or_self]

/-- The files that are read are those whose names have one of the suffixes. -/
theorem exists_format?_iff {t : Template} : (∃ format, t.format?=some format) ↔ t.Eligible := by
  constructor
  · intro h
    by_cases dotted : '.'∈t.name
    · obtain ⟨stem,s,whole,plain⟩ := Text.exists_last_of_mem dotted
      have cut : suffix? (stem++ '.'::s)=_ := suffix?_append plain
      rw [← whole] at cut
      split_ifs at cut with nothing
      · obtain ⟨format,known⟩ := h
        rw [format?,cut] at known
        cases known
      · exact ⟨stem,s,whole,fun empty => nothing (.inr empty),(format?_of_suffix cut).mp h⟩
    · obtain ⟨format,known⟩ := h
      rw [format?,suffix?_of_not_mem dotted] at known
      cases known
  · intro h
    obtain ⟨stem,s,whole,something,known⟩ := h
    have plain : ∀ s∈["json".toList,"yaml".toList,"yml".toList], s≠[] ∧ '.'∉s := by decide
    obtain ⟨nonempty,undotted⟩ := plain s known
    have cut : suffix? t.name=some s := by
      rw [whole,suffix?_append undotted,if_neg (not_or.mpr ⟨nonempty,something⟩)]
    exact (format?_of_suffix cut).mpr known

theorem exists_reading?_iff {t : Template} : (∃ x, t.reading? readers=some x) ↔ t.Eligible := by
  rw [← exists_format?_iff]
  cases known : t.format? <;> simp [reading?,known]

end Template

namespace Catalogue

open Template

theorem extend_of_unread {t : Template} (h : t.reading? readers=none) (catalogue : Catalogue)
    (rest : List Template) : extend readers catalogue (t::rest)=extend readers catalogue rest := by
  have unknown : t.format?=none := by simpa [reading?] using h
  rw [extend,unknown]

theorem extend_of_invalid {t : Template} (h : t.reading? readers=some (.ok none))
    (catalogue : Catalogue) (rest : List Template) :
    extend readers catalogue (t::rest)=
      ⟨.skippedProfile t.name::(extend readers catalogue rest).notices,
        (extend readers catalogue rest).outcome⟩ := by
  obtain ⟨format,known,read⟩ := Option.map_eq_some_iff.mp h
  rw [extend,known]
  simp only [read]
  rfl

theorem extend_of_holds {t : Template} {p : Profile} (h : t.Holds readers p) (catalogue : Catalogue)
    (rest : List Template) :
    extend readers catalogue (t::rest)=extend readers (catalogue.insert p.name p) rest := by
  obtain ⟨format,known,read⟩ := Option.map_eq_some_iff.mp h
  rw [extend,known]
  simp only [read]
  rfl

/-- Files that are settled lay their profiles over the catalogue in turn, and each invalid one is
noted. -/
theorem extend_eq {ts : List Template} (settled : ∀ t∈ts, t.Settled readers)
    (catalogue : Catalogue) :
    extend readers catalogue ts=⟨(ts.filter (isInvalid readers)).map (.skippedProfile ·.name),
      .ok (catalogue.update (ts.filterMap (named? readers)))⟩ := by
  induction ts generalizing catalogue with
  | nil => rfl
  | cons t rest ih =>
    have later := ih fun u hu => settled u (List.mem_cons_of_mem t hu)
    rcases (settled t List.mem_cons_self).cases with unread|invalid|⟨p,holds⟩
    · have valid : t.isInvalid readers=false := by rw [isInvalid,unread]
      have none : t.named? readers=none := by rw [named?,unread]
      rw [extend_of_unread unread,later,List.filter_cons_of_neg (by rw [valid]; decide),
        List.filterMap_cons_none none]
    · have noted : t.isInvalid readers=true := by rw [isInvalid,invalid]
      have none : t.named? readers=none := by rw [named?,invalid]
      rw [extend_of_invalid invalid,later,List.filter_cons_of_pos noted,
        List.filterMap_cons_none none]
      rfl
    · have valid : t.isInvalid readers=false := by rw [isInvalid,holds]
      rw [extend_of_holds holds,later,List.filter_cons_of_neg (by rw [valid]; decide),
        List.filterMap_cons_some holds.named?_eq]
      rfl

/-- The files are taken in the order of their names, however they are listed. -/
theorem load_eq {templates ordered : List Template} (reordered : ordered.Perm templates)
    (ascending : ordered.Pairwise fun t u => t.name < u.name)
    (settled : ∀ t∈templates, t.Settled readers) :
    load readers templates=⟨(ordered.filter (isInvalid readers)).map (.skippedProfile ·.name),
      .ok (builtin.update (ordered.filterMap (named? readers)))⟩ := by
  rw [load,Text.mergeSort_eq reordered ascending]
  exact extend_eq (fun t ht => settled t (reordered.subset ht)) builtin

theorem get?_of_named (ps : List Profile) (name : Text) :
    Dictionary.get? name (ps.map fun p => (p.name,p))=ps.find? (·.name=name) := by
  induction ps with
  | nil => rfl
  | cons p r ih =>
    by_cases same : p.name=name
    · simp [Dictionary.get?,same]
    · simp [Dictionary.get?,same,ih]

/-- Files without a profile of the name have no entry for it. -/
theorem not_mem_keys_named {ts : List Template} {name : Text}
    (h : ∀ t∈ts, ∀ p, t.Holds readers p → p.name≠name) :
    name∉Dictionary.keys (ts.filterMap (named? readers)) := by
  intro present
  obtain ⟨e,he,same⟩ := List.mem_map.mp present
  obtain ⟨t,ht,found⟩ := List.mem_filterMap.mp he
  obtain ⟨holds,key⟩ := holds_of_named? found
  exact h t ht e.2 holds (key.symm.trans same)

theorem nodup_keys_builtin : (Dictionary.keys builtin).Nodup := by decide

/-- Any directory of template files, in whatever state, gives a catalogue, provided that reading a file
does not go beyond what readers can do. Of the files that hold a profile of one name the last by file
name gives it, and where there is none the name is that of a built-in profile or of none at all. The
built-in names are always listed, each name once and in ascending order. A file is looked at by its
suffix; each of these without a valid profile is noted, in the order of the file names. Files without
a profile can be left out. -/
theorem load_by_file_names (readers : Readers) {templates ordered : List Template}
    (reordered : ordered.Perm templates) (ascending : ordered.Pairwise fun t u => t.name < u.name)
    (settled : ∀ t∈templates, t.Settled readers) :
    ∃ catalogue : Catalogue,
      load readers templates=
        ⟨(ordered.filter (isInvalid readers)).map (.skippedProfile ·.name),.ok catalogue⟩ ∧
      (∀ t : Template, (∃ x, t.reading? readers=some x) ↔ t.Eligible) ∧
      (∀ front t back p, ordered=front++t::back → t.Holds readers p →
        (∀ u∈back, ∀ q, u.Holds readers q → q.name≠p.name) →
        Dictionary.get? p.name catalogue=some p) ∧
      (∀ name, (∀ t∈templates, ∀ p, t.Holds readers p → p.name≠name) →
        Dictionary.get? name catalogue=Profile.builtin.find? (·.name=name)) ∧
      (∀ p∈Profile.builtin, p.name∈catalogue.names) ∧ catalogue.names.Pairwise (· < ·) ∧
      (∀ name, name∈catalogue.names ↔ ∃ p, Dictionary.get? name catalogue=some p) ∧
      ∀ front t back, templates=front++t::back → (∀ p, ¬t.Holds readers p) →
        (load readers (front++back)).outcome=.ok catalogue := by
  have distinct : (Dictionary.keys (builtin.update (ordered.filterMap (named? readers)))).Nodup :=
    Dictionary.nodup_keys_update nodup_keys_builtin
  refine ⟨_,load_eq reordered ascending settled,fun t => exists_reading?_iff,?_,?_,?_,
    Text.pairwise_sorted distinct,?_,?_⟩
  · intro front t back p whole holds last
    rw [whole,List.filterMap_append,List.filterMap_cons_some holds.named?_eq]
    exact Dictionary.get?_update_of_last builtin p (not_mem_keys_named last)
  · intro name absent
    have none := not_mem_keys_named fun t ht => absent t (reordered.subset ht)
    rw [Dictionary.get?_update_of_not_mem none]
    exact get?_of_named Profile.builtin name
  · intro p hp
    have known : p.name∈Dictionary.keys builtin := by
      rw [Dictionary.keys,builtin,List.map_map]
      exact List.mem_map.mpr ⟨p,hp,rfl⟩
    exact Text.mem_sorted.mpr (Dictionary.mem_keys_update.mpr (.inl known))
  · intro name
    rw [Dictionary.exists_get?_iff]
    exact Text.mem_sorted
  · intro front t back whole empty
    have member : t∈ordered := reordered.symm.subset (by rw [whole]; simp)
    obtain ⟨before,after,split⟩ := List.append_of_mem member
    have within : (before++after).Sublist ordered := by
      rw [split]
      exact (List.sublist_cons_self t after).append_left before
    have rest : (before++after).Perm (front++back) := by
      rw [whole,split] at reordered
      exact (List.perm_middle.symm.trans (reordered.trans List.perm_middle)).cons_inv
    have fewer : ∀ u∈front++back, u.Settled readers := by
      intro u hu
      have listed : u∈ordered := within.subset (rest.symm.subset hu)
      exact settled u (reordered.subset listed)
    rw [load_eq rest (ascending.sublist within) fewer,split,List.filterMap_append,
      List.filterMap_append,List.filterMap_cons_none (named?_eq_none empty)]

/-- Two files with profiles of one name and three files behind them that hold none, listed from the
end: the second of the two gives the profile, and two of the three are noted. -/
theorem load_by_file_names_of_one_name :
    let readers := Running.readers
    let older : Template := ⟨"a.yml".toList,
      .bytes (List.utf8Encode "name: n\nos_name: Linux\nprocessor: arm".toList)⟩
    let newer : Template := ⟨"b.json".toList,.bytes (List.utf8Encode
      "\x7b\"name\": \"n\", \"os_name\": \"AIX\", \"processor\": \"power\"\x7d".toList)⟩
    let list : Template := ⟨"c.json".toList,.bytes (List.utf8Encode "[]".toList)⟩
    let folder : Template := ⟨"d.yaml".toList,.directory⟩
    let other : Template := ⟨"e.txt".toList,.bytes ⟨#[0xff]⟩⟩
    let p : Profile := {name := "n".toList,osName := "AIX".toList,processor := "power".toList}
    newer.Holds readers p ∧ (load readers [other,folder,list,newer,older]).notices=
        [.skippedProfile "c.json".toList,.skippedProfile "d.yaml".toList] ∧
      ∃ catalogue : Catalogue,
        (load readers [other,folder,list,newer,older]).outcome=.ok catalogue ∧
        Dictionary.get? "n".toList catalogue=some p ∧
        Dictionary.get? "linux_aarch64".toList catalogue=
          Profile.builtin.find? (·.name="linux_aarch64".toList) ∧
        (load readers [other,list,newer,older]).outcome=.ok catalogue := by
  intro readers older newer list folder other p
  have first : older.reading? readers=
      some (.ok (some
        {name := "n".toList,osName := "Linux".toList,processor := "arm".toList})) := by
    decide +kernel
  have second : newer.Holds readers p := by
    rw [Holds]
    decide +kernel
  have third : list.reading? readers=some (.ok none) := by decide +kernel
  have fourth : folder.reading? readers=some (.ok none) := by decide +kernel
  have fifth : other.reading? readers=none := by decide +kernel
  have settled : ∀ t∈[other,folder,list,newer,older], t.Settled readers := by
    intro t ht x read
    simp only [List.mem_cons,List.not_mem_nil,or_false] at ht
    rcases ht with rfl|rfl|rfl|rfl|rfl
    · rw [fifth] at read
      cases read
    · exact ⟨_,Option.some.inj (read.symm.trans fourth)⟩
    · exact ⟨_,Option.some.inj (read.symm.trans third)⟩
    · exact ⟨_,Option.some.inj (read.symm.trans second)⟩
    · exact ⟨_,Option.some.inj (read.symm.trans first)⟩
  have named : ∀ t∈[other,folder,list,newer,older], ∀ q, t.Holds readers q →
      q.name="n".toList := by
    intro t ht q holds
    simp only [List.mem_cons,List.not_mem_nil,or_false] at ht
    rcases ht with rfl|rfl|rfl|rfl|rfl
    · cases fifth.symm.trans holds
    · cases fourth.symm.trans holds
    · cases third.symm.trans holds
    · cases second.symm.trans holds
      rfl
    · cases first.symm.trans holds
      rfl
  have ascending : [older,newer,list,folder,other].Pairwise fun t u => t.name < u.name := by
    decide
  obtain ⟨catalogue,loaded,-,last,absent,-,-,-,without⟩ :=
    load_by_file_names readers (List.reverse_perm [other,folder,list,newer,older])
      ascending settled
  refine ⟨second,?_,catalogue,by rw [loaded],?_,?_,?_⟩
  · have noted : [older,newer,list,folder,other].filter (isInvalid readers)=[list,folder] := by
      have valid (t : Template) (q : Profile) (h : t.Holds readers q) :
          t.isInvalid readers=false := by
        rw [isInvalid,h]
      rw [List.filter_cons_of_neg (by simp [valid older _ first]),
        List.filter_cons_of_neg (by simp [valid newer p second])]
      simp [isInvalid,third,fourth,fifth]
    rw [loaded]
    exact congrArg (List.map _) noted
  · refine last [older] newer [list,folder,other] p rfl second fun t ht q holds => ?_
    simp only [List.mem_cons,List.not_mem_nil,or_false] at ht
    rcases ht with rfl|rfl|rfl
    · cases third.symm.trans holds
    · cases fourth.symm.trans holds
    · cases fifth.symm.trans holds
  · refine absent _ fun t ht q holds => ?_
    rw [named t ht q holds]
    decide
  · exact without [other] folder [list,newer,older] rfl fun q holds => by
      cases fourth.symm.trans holds

end Catalogue

end BundleManifest.Platform
