import BundleManifest.Platform.Matcher
import BundleManifest.Proofs.Text.Lower
import BundleManifest.Running.Stacks

namespace BundleManifest.Platform

theorem fold_fold (t : Text) : fold (fold t)=fold t := by
  have trimmed : Text.Trimmed (fold t) := (Text.trimmed_trim t).lower
  rw [fold,Text.trim_of_trimmed trimmed]
  exact Text.lower_lower (Text.trim t)

/-- What an alias stands for is a normal name: no alias of something else, and not called Windows
by its first letters. -/
theorem normalOsName_alias : ∀ e∈osAliases, normalOsName e.2=e.2 := by decide +kernel

theorem normalProcessor_alias : ∀ e∈processorAliases, normalProcessor e.2=e.2 := by decide +kernel

theorem mem_of_lookup {aliases : List (Text × Text)} {n m : Text}
    (h : aliases.lookup n=some m) : (n,m)∈aliases := by
  obtain ⟨front,back,whole,-⟩ := List.lookup_eq_some_iff.mp h
  rw [whole]
  exact List.mem_append_right front List.mem_cons_self

theorem normalOsName_normalOsName (name : Text) :
    normalOsName (normalOsName name)=normalOsName name := by
  by_cases windows : "win".toList.isPrefixOf (fold name)
  · have normal : normalOsName name="win32".toList := if_pos windows
    rw [normal]
    decide +kernel
  · have other : normalOsName name=(osAliases.lookup (fold name)).getD (fold name) :=
      if_neg windows
    cases known : osAliases.lookup (fold name) with
    | some m =>
      rw [known] at other
      rw [other]
      exact normalOsName_alias _ (mem_of_lookup known)
    | none =>
      rw [known] at other
      have same : normalOsName (fold name)=normalOsName name := by
        rw [normalOsName,normalOsName,fold_fold]
      rw [other]
      exact same.trans other

theorem normalProcessor_normalProcessor (name : Text) :
    normalProcessor (normalProcessor name)=normalProcessor name := by
  cases known : processorAliases.lookup (fold name) with
  | some m =>
    have normal : normalProcessor name=m := by rw [normalProcessor,known]; rfl
    rw [normal]
    exact normalProcessor_alias _ (mem_of_lookup known)
  | none =>
    have normal : normalProcessor name=fold name := by rw [normalProcessor,known]; rfl
    have same : normalProcessor (fold name)=normalProcessor name := by
      rw [normalProcessor,normalProcessor,fold_fold]
    rw [normal]
    exact same.trans normal

/-- Each name is as it was or in its normal form. -/
def Respelled (normal : Text → Text) : List Text → List Text → Prop :=
  List.Forall₂ fun n m => m=n ∨ m=normal n

/-- The second clause has some of the names of the first one in their normal forms, and all else
that a platform is asked for as it was. -/
structure Renamed (c d : NativeClause) : Prop where
  osNames : Respelled normalOsName c.osNames d.osNames
  processors : Respelled normalProcessor c.processors d.processors
  languages : Respelled fold c.languages d.languages
  osVersions : d.osVersions=c.osVersions
  selectionFilter : d.selectionFilter=c.selectionFilter

theorem Respelled.map_eq {normal : Text → Text} (normalized : ∀ n, normal (normal n)=normal n)
    {ns ms : List Text} (h : Respelled normal ns ms) : ms.map normal=ns.map normal := by
  induction h with
  | nil => rfl
  | cons first _ ih =>
    rw [List.map_cons,List.map_cons,ih]
    cases first with
    | inl same => rw [same]
    | inr changed => rw [changed,normalized]

/-- Names are only looked at in their normal forms. -/
theorem Respelled.fits_eq {normal : Text → Text} (normalized : ∀ n, normal (normal n)=normal n)
    {ns ms : List Text} (h : Respelled normal ns ms) (current : Text) :
    (ms.isEmpty || ms.any fun m => normal m==normal current)=
      (ns.isEmpty || ns.any fun n => normal n==normal current) := by
  have looked (ts : List Text) : (ts.isEmpty || ts.any fun t => normal t==normal current)=
      ((ts.map normal).isEmpty || (ts.map normal).any (·==normal current)) := by
    rw [List.any_map,List.isEmpty_map]
    rfl
  rw [looked,looked,h.map_eq normalized]

/-- A normal form of a system or a processor is its own normal form. Systems, processors and languages
of a clause can be given in normal form or otherwise: on every platform the clause fares alike. -/
theorem accepts_of_renamed :
    (∀ name, normalOsName (normalOsName name)=normalOsName name) ∧
    (∀ name, normalProcessor (normalProcessor name)=normalProcessor name) ∧
    ∀ stack properties c d, Renamed c d →
      accepts stack properties d=accepts stack properties c := by
  refine ⟨normalOsName_normalOsName,normalProcessor_normalProcessor,
    fun stack properties c d h => ?_⟩
  have osName : fitsOsName properties d=fitsOsName properties c :=
    h.osNames.fits_eq normalOsName_normalOsName _
  have processor : fitsProcessor properties d=fitsProcessor properties c :=
    h.processors.fits_eq normalProcessor_normalProcessor _
  have language : fitsLanguage properties d=fitsLanguage properties c :=
    h.languages.fits_eq fold_fold _
  have osVersion : fitsOsVersion properties d=fitsOsVersion properties c := by
    rw [fitsOsVersion,fitsOsVersion,h.osVersions]
  have filter : fitsFilter stack properties d=fitsFilter stack properties c := by
    rw [fitsFilter,fitsFilter,h.selectionFilter]
  rw [accepts,accepts,osName,processor,language,osVersion,filter]

/-- Aliases, letters in any case and blanks around them, with a sigma whose lower case is that of the
end of a word. -/
theorem accepts_of_renamed_aliases :
    let properties : Dictionary Text := [(osNameKey,"Darwin".toList),(processorKey,"EM64T".toList),
      (languageKey,"ας".toList)]
    let c : NativeClause := ⟨some [],["WinNT".toList,"Mac OS X ".toList],["AMD64".toList],[],
      [" ΑΣ".toList],none⟩
    let d : NativeClause := ⟨some [],["win32".toList,"macosx".toList],["x86-64".toList],[],
      ["ας".toList],none⟩
    d≠c ∧ Renamed c d ∧
      accepts Running.matchStack properties d=accepts Running.matchStack properties c ∧
      accepts Running.matchStack properties c=.ok true := by
  intro properties c d
  have renamed : Renamed c d := by
    constructor
    · exact .cons (.inr (by decide +kernel)) (.cons (.inr (by decide +kernel)) .nil)
    · exact .cons (.inr (by decide +kernel)) .nil
    · exact .cons (.inr (by decide +kernel)) .nil
    · rfl
    · rfl
  have same := accepts_of_renamed.2.2 Running.matchStack properties c d renamed
  exact ⟨by decide,renamed,same,by decide +kernel⟩

end BundleManifest.Platform
