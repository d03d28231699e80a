import BundleManifest.Proofs.Platform.Entries
import BundleManifest.Running.Setup

namespace BundleManifest.Platform

namespace Profile

/-- The property as the profile has it: the four of the framework from its own fields, and any other
one from its further properties. -/
def stated? (p : Profile) (key : Text) : Option Text :=
  if key=osNameKey then some p.osName
  else if key=osVersionKey then some p.osVersion
  else if key=processorKey then some p.processor
  else if key=languageKey then some p.language
  else p.properties.get? key

theorem nodup_keys_frameworkProperties (p : Profile) :
    (Dictionary.keys p.frameworkProperties).Nodup := by
  have distinct : [osNameKey,osVersionKey,processorKey,languageKey].Nodup := by decide
  exact distinct

theorem get?_allProperties (p : Profile) (key : Text) :
    p.allProperties.get? key=p.stated? key := by
  rw [allProperties,Dictionary.get?_update p.nodup_keys_frameworkProperties,stated?]
  simp only [frameworkProperties,Dictionary.get?,eq_comm (b := key)]
  split_ifs <;> rfl

theorem get?_withOverrides (p : Profile) {overrides : Dictionary Text}
    (distinct : overrides.keys.Nodup) (key : Text) :
    (p.withOverrides overrides).get? key=(overrides.get? key).or (p.stated? key) := by
  rw [withOverrides,Dictionary.get?_update distinct,get?_allProperties]

end Profile

theorem Overrides.nodup_keys_of_load {formats : Formats} {file : StoredFile} {d : Dictionary Text}
    (h : (load formats file).outcome=.ok d) : d.keys.Nodup := by
  -- a file that holds no mapping leaves no overrides
  have empty {x : Outcome (Dictionary Text)} (none : x=.ok []) (given : x=.ok d) :
      d.keys.Nodup := by
    have same : []=d := Except.ok.inj (none.symm.trans given)
    rw [← same]
    exact List.nodup_nil
  cases file with
  | absent => exact empty rfl h
  | directory => exact empty rfl h
  | bytes content =>
    rw [load,Logged.outcome_bind,Logged.outcome_ofOutcome,Outcome.bind_eq_ok_iff] at h
    obtain ⟨text,-,h⟩ := h
    rw [Logged.outcome_bind,Logged.outcome_ofOutcome,Outcome.bind_eq_ok_iff] at h
    obtain ⟨found,-,h⟩ := h
    cases found with
    | none => exact empty rfl h
    | some document =>
      cases document with
      | mapping entries =>
        change (ofDocument (.mapping entries)).outcome=.ok d at h
        rw [outcome_ofDocument_mapping] at h
        exact nodup_keys_of_ofEntries h
      | scalar s => exact empty rfl h
      | list items => exact empty rfl h
      | set items => exact empty rfl h

namespace Environment

variable {readers : Readers}

/-- The name of the profile that is asked for, empty when there is none. -/
def asked (e : Environment) : Text := Text.trim (e.profile.getD [])

/-- The profile is asked for by a name that is not blank, and it is what the catalogue has under it. -/
def Chosen (readers : Readers) (e : Environment) (p : Profile) : Prop :=
  e.asked≠[] ∧ ∃ catalogue, e.catalogue readers=.ok catalogue ∧
    Dictionary.get? e.asked catalogue=some p

theorem outcome_baseProperties_of_unasked {e : Environment} (h : e.asked=[]) :
    (e.baseProperties readers).outcome=e.host.properties := by
  rw [asked] at h
  simp only [baseProperties,h,Logged.outcome_bind,Logged.outcome_ofOutcome,Logged.outcome_pure]
  exact bind_pure e.host.properties

theorem outcome_baseProperties_of_asked {e : Environment} (h : e.asked≠[]) :
    (e.baseProperties readers).outcome=e.host.properties >>= fun host =>
      e.catalogue readers >>= fun catalogue =>
        .ok (((Dictionary.get? e.asked catalogue).map Profile.allProperties).getD host) := by
  obtain ⟨c,r,name⟩ := List.exists_cons_of_ne_nil h
  rw [asked] at name
  simp only [baseProperties,asked,name,Logged.outcome_bind,Logged.outcome_ofOutcome,catalogue]
  refine bind_congr fun host => bind_congr fun profiles => ?_
  cases Dictionary.get? (c::r) profiles with
  | none =>
    simp only [Logged.outcome_bind,Logged.outcome_note,Option.map_none,Option.getD_none]
    rfl
  | some p => simp only [Logged.outcome_pure,Option.map_some,Option.getD_some]

theorem properties_eq_ok_iff {e : Environment} {d : Dictionary Text} :
    (e.properties readers).outcome=.ok d ↔ ∃ base overrides,
      (e.baseProperties readers).outcome=.ok base ∧
      (Overrides.load readers.overrides e.overrides).outcome=.ok overrides ∧
      base.update overrides=d := by
  rw [properties,Logged.outcome_bind,Outcome.bind_eq_ok_iff]
  refine exists_congr fun base => ?_
  rw [Logged.outcome_bind_pure,Outcome.map_eq_ok_iff,exists_and_left]

theorem exists_baseProperties_iff {e : Environment} :
    (∃ base, (e.baseProperties readers).outcome=.ok base) ↔ (∃ host, e.host.properties=.ok host) ∧
      (e.asked≠[] → ∃ catalogue, e.catalogue readers=.ok catalogue) := by
  by_cases name : e.asked=[]
  · rw [outcome_baseProperties_of_unasked name]
    exact (and_iff_left fun asked => absurd name asked).symm
  · simp only [outcome_baseProperties_of_asked name,Outcome.bind_eq_ok_iff]
    constructor
    · intro h
      obtain ⟨_,host,told,catalogue,loaded,-⟩ := h
      exact ⟨⟨host,told⟩,fun _ => ⟨catalogue,loaded⟩⟩
    · intro h
      obtain ⟨⟨host,told⟩,loads⟩ := h
      obtain ⟨catalogue,loaded⟩ := loads name
      exact ⟨_,host,told,catalogue,loaded,rfl⟩

/-- A chosen profile stands in for the host as a whole. -/
theorem Chosen.eq_allProperties {e : Environment} {p : Profile} (h : e.Chosen readers p)
    {base : Dictionary Text} (found : (e.baseProperties readers).outcome=.ok base) :
    base=p.allProperties := by
  obtain ⟨name,catalogue,loaded,known⟩ := h
  simp only [outcome_baseProperties_of_asked name,Outcome.bind_eq_ok_iff] at found
  obtain ⟨host,-,same,reloaded,given⟩ := found
  obtain rfl := Except.ok.inj (loaded.symm.trans reloaded)
  rw [known,Option.map_some,Option.getD_some] at given
  exact (Except.ok.inj given).symm

theorem eq_host_of_not_chosen {e : Environment} (h : ∀ p, ¬e.Chosen readers p)
    {host base : Dictionary Text} (told : e.host.properties=.ok host)
    (found : (e.baseProperties readers).outcome=.ok base) : base=host := by
  by_cases name : e.asked=[]
  · rw [outcome_baseProperties_of_unasked name] at found
    exact Except.ok.inj (found.symm.trans told)
  · simp only [outcome_baseProperties_of_asked name,Outcome.bind_eq_ok_iff] at found
    obtain ⟨same,retold,catalogue,loaded,given⟩ := found
    obtain rfl := Except.ok.inj (told.symm.trans retold)
    have unknown : Dictionary.get? e.asked catalogue=none := by
      rw [Option.eq_none_iff_forall_ne_some]
      intro p known
      exact h p ⟨name,catalogue,loaded,known⟩
    rw [unknown,Option.map_none,Option.getD_none] at given
    exact (Except.ok.inj given).symm

/-- When the properties of the platform can be told, and what each of them is: the override of that
key; under a key without one, what the profile that is chosen states, be it nothing; and only when
none is chosen the host's. A profile that is given is laid under overrides in the same way. -/
theorem properties_by_layer (readers : Readers) (e : Environment) :
    ((∃ d, (e.properties readers).outcome=.ok d) ↔ (∃ host, e.host.properties=.ok host) ∧
      (e.asked≠[] → ∃ catalogue, e.catalogue readers=.ok catalogue) ∧
      ∃ overrides, (Overrides.load readers.overrides e.overrides).outcome=.ok overrides) ∧
    (∀ host overrides d key, e.host.properties=.ok host →
      (Overrides.load readers.overrides e.overrides).outcome=.ok overrides →
      (e.properties readers).outcome=.ok d →
      (∀ p, e.Chosen readers p → d.get? key=(overrides.get? key).or (p.stated? key)) ∧
      ((∀ p, ¬e.Chosen readers p) → d.get? key=(overrides.get? key).or (host.get? key))) ∧
    ∀ (p : Profile) (overrides : Dictionary Text) key, overrides.keys.Nodup →
      (p.withOverrides overrides).get? key=(overrides.get? key).or (p.stated? key) := by
  refine ⟨?_,?_,fun p _ key distinct => p.get?_withOverrides distinct key⟩
  · rw [← and_assoc,← exists_baseProperties_iff]
    simp only [properties_eq_ok_iff]
    constructor
    · intro h
      obtain ⟨_,base,overrides,found,loaded,-⟩ := h
      exact ⟨⟨base,found⟩,overrides,loaded⟩
    · intro h
      obtain ⟨⟨base,found⟩,overrides,loaded⟩ := h
      exact ⟨_,base,overrides,found,loaded,rfl⟩
  · intro host overrides d key told loaded given
    obtain ⟨base,again,found,reloaded,rfl⟩ := properties_eq_ok_iff.mp given
    obtain rfl := Except.ok.inj (loaded.symm.trans reloaded)
    have distinct := Overrides.nodup_keys_of_load loaded
    rw [Dictionary.get?_update distinct]
    constructor
    · intro p chosen
      rw [chosen.eq_allProperties found,p.get?_allProperties]
    · intro unchosen
      rw [eq_host_of_not_chosen unchosen told found]

/-- A profile of a template, asked for between blanks, with one property of its own and one that the
file patches. Under a name that is not known the host remains. -/
theorem properties_by_layer_of_template :
    let readers := Running.readers
    let template : Template := ⟨"a.yml".toList,.bytes (List.utf8Encode
      "name: n\nos_name: AIX\nprocessor: p\nproperties:\n  r: x".toList)⟩
    let named (name : Text) : Environment := {
      host := {system := "Linux".toList,release := "6.1".toList,locale := some "de_DE".toList}
      profile := some name
      templates := [template]
      overrides := .bytes (List.utf8Encode "z: 3".toList)}
    let overrides : Dictionary Text := [("z".toList,"3".toList)]
    ∃ p : Profile, (named " n\t".toList).Chosen readers p ∧
      (∀ q, ¬(named "m".toList).Chosen readers q) ∧
      (∃ d, ((named " n\t".toList).properties readers).outcome=.ok d ∧
        d.get? "z".toList=some "3".toList ∧
        d.get? "r".toList=some "x".toList ∧ d.get? osNameKey=some "AIX".toList ∧
        d.get? languageKey=some "en".toList) ∧
      (∃ d, ((named "m".toList).properties readers).outcome=.ok d ∧
        d.get? "z".toList=some "3".toList ∧
        d.get? "r".toList=none ∧ d.get? osNameKey=some "Linux".toList ∧
        d.get? languageKey=some "de".toList) ∧
      (p.withOverrides overrides).get? "z".toList=some "3".toList ∧
      (p.withOverrides overrides).get? "r".toList=some "x".toList := by
  intro readers template named overrides
  let host : Dictionary Text := [(osNameKey,"Linux".toList),(osVersionKey,"6.1.0".toList),
    (processorKey,"unknown".toList),(languageKey,"de".toList)]
  let p : Profile := {
    name := "n".toList,osName := "AIX".toList,processor := "p".toList
    properties := [("r".toList,"x".toList)]}
  let profiles : Catalogue := Catalogue.builtin.insert "n".toList p
  have told : (named []).host.properties=.ok host := by decide +kernel
  have loaded : (Overrides.load readers.overrides (named []).overrides).outcome=.ok overrides := by
    decide +kernel
  have listed : (Catalogue.load readers [template]).outcome=.ok profiles := by decide +kernel
  have known : Dictionary.get? "n".toList profiles=some p := by decide +kernel
  have unknown : Dictionary.get? "m".toList profiles=none := by decide +kernel
  have chosen : (named " n\t".toList).Chosen readers p := ⟨by decide,profiles,listed,known⟩
  have unchosen (q : Profile) : ¬(named "m".toList).Chosen readers q := by
    intro h
    obtain ⟨-,catalogue,same,found⟩ := h
    have same := Except.ok.inj (listed.symm.trans same)
    rw [← same] at found
    cases unknown.symm.trans found
  have found (name : Text) : ∃ d, ((named name).properties readers).outcome=.ok d :=
    (properties_by_layer readers (named name)).1.mpr
      ⟨⟨host,told⟩,fun _ => ⟨profiles,listed⟩,overrides,loaded⟩
  obtain ⟨d,found_known⟩ := found " n\t".toList
  obtain ⟨d',found_unknown⟩ := found "m".toList
  obtain ⟨-,layers,-⟩ := properties_by_layer readers (named " n\t".toList)
  obtain ⟨-,layers',-⟩ := properties_by_layer readers (named "m".toList)
  have stated (key : Text) := (layers host overrides d key told loaded found_known).1 p chosen
  have detected (key : Text) := (layers' host overrides d' key told loaded found_unknown).2 unchosen
  have given (key : Text) :=
    (properties_by_layer readers (named [])).2.2 p overrides key (by decide)
  refine ⟨p,chosen,unchosen,⟨d,found_known,?_⟩,⟨d',found_unknown,?_⟩,?_⟩
  · simp only [stated]
    decide
  · simp only [detected]
    decide
  · simp only [given]
    decide

end Environment

end BundleManifest.Platform
