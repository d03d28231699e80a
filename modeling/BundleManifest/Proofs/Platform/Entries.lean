import BundleManifest.Proofs.Dictionary
import BundleManifest.Proofs.Platform.Overrides
import BundleManifest.Proofs.Version.Canonical

namespace BundleManifest.Platform.Overrides

/-- The entry has a key that is not blank, but no value that can be kept. -/
def isSkipped (e : Scalar × Document) : Bool :=
  decide (Text.trim e.1.display≠[]) && isNested e.2

/-- The entry gives a value to the property: its key is that name between blanks, which is not empty,
and its value is neither null nor a list nor a mapping. -/
structure Gives (e : Scalar × Document) (name : Text) : Prop where
  key : Text.trim e.1.display=name
  nonempty : name≠[]
  kept : isNested e.2=false

/-- The property that the entry gives a value to, with the value. -/
def property? (e : Scalar × Document) : Option (Text × Text) :=
  if Text.trim e.1.display=[] ∨ isNested e.2 then none
  else some (Text.trim e.1.display,Text.trim e.2.display)

theorem Gives.property?_eq {e : Scalar × Document} {name : Text} (h : Gives e name) :
    property? e=some (name,Text.trim e.2.display) := by
  have named : ¬(Text.trim e.1.display=[] ∨ isNested e.2) := by
    rw [h.key,h.kept]
    simp [h.nonempty]
  rw [property?,if_neg named,h.key]

theorem gives_of_property? {e : Scalar × Document} {p : Text × Text} (h : property? e=some p) :
    Gives e p.1 := by
  rw [property?] at h
  split_ifs at h with passed
  obtain ⟨nonempty,kept⟩ := not_or.mp passed
  rw [← Option.some.inj h]
  exact ⟨rfl,nonempty,Bool.eq_false_iff.mpr kept⟩

theorem property?_eq_none {e : Scalar × Document} (h : ∀ name, ¬Gives e name) :
    property? e=none := by
  cases found : property? e with
  | none => rfl
  | some p => exact absurd (gives_of_property? found) (h p.1)

variable {e : Scalar × Document}

theorem ofEntries_of_blank (written : ¬e.1.Overlong) (blank : Text.trim e.1.display=[])
    (overrides : Dictionary Text) (rest : List (Scalar × Document)) :
    ofEntries overrides (e::rest)=ofEntries overrides rest := by
  rw [ofEntries,trimmedText_of_not_overlong written,Logged.ofOutcome_ok_bind,if_pos blank]

theorem ofEntries_of_skipped (written : ¬e.1.Overlong) (skipped : isSkipped e)
    (overrides : Dictionary Text) (rest : List (Scalar × Document)) :
    ofEntries overrides (e::rest)=
      ⟨.skippedProperty e.1::(ofEntries overrides rest).notices,
        (ofEntries overrides rest).outcome⟩ := by
  obtain ⟨key,value⟩ := e
  obtain ⟨counts,nested⟩ := Bool.and_eq_true_iff.mp skipped
  rw [ofEntries,trimmedText_of_not_overlong written,Logged.ofOutcome_ok_bind,
    if_neg (of_decide_eq_true counts)]
  cases value with
  | scalar s =>
    cases s with
    | null => exact Logged.note_bind _ _
    | _ => cases nested
  | set items => cases nested
  | list items => exact Logged.note_bind _ _
  | mapping entries => exact Logged.note_bind _ _

theorem ofEntries_of_gives (written : ¬Unwritable e.1 e.2) {name : Text} (h : Gives e name)
    (overrides : Dictionary Text) (rest : List (Scalar × Document)) :
    ofEntries overrides (e::rest)=
      ofEntries (overrides.insert name (Text.trim e.2.display)) rest := by
  obtain ⟨key,value⟩ := e
  obtain ⟨rfl,nonempty,kept⟩ := h
  have short : ¬key.Overlong := fun long => written (.inl long)
  have counts : ¬Text.Blank key.display := mt Text.trim_eq_nil_iff.mpr nonempty
  have text : trimmedText value=.ok (Text.trim value.display) :=
    trimmedText_of_kept kept fun long => written (.inr ⟨counts,long⟩)
  rw [ofEntries,trimmedText_of_not_overlong short,Logged.ofOutcome_ok_bind,if_neg nonempty]
  cases value with
  | scalar s =>
    cases s with
    | null => cases kept
    | _ =>
      dsimp only
      rw [text,Logged.ofOutcome_ok_bind]
  | set items =>
    dsimp only
    rw [text,Logged.ofOutcome_ok_bind]
  | list items => cases kept
  | mapping entries => cases kept

/-- Written entries give their properties in turn, and those without a value are noted. -/
theorem ofEntries_eq {entries : List (Scalar × Document)}
    (written : ∀ e∈entries, ¬Unwritable e.1 e.2) (overrides : Dictionary Text) :
    ofEntries overrides entries=⟨(entries.filter isSkipped).map (.skippedProperty ·.1),
      .ok (overrides.update (entries.filterMap property?))⟩ := by
  induction entries generalizing overrides with
  | nil => rfl
  | cons e rest ih =>
    have first := written e List.mem_cons_self
    have short : ¬e.1.Overlong := fun long => first (.inl long)
    have later := ih fun d hd => written d (List.mem_cons_of_mem e hd)
    by_cases blank : Text.trim e.1.display=[]
    · have quiet : ¬isSkipped e := by simp [isSkipped,blank]
      have none : property? e=none := if_pos (.inl blank)
      rw [ofEntries_of_blank short blank,later,List.filter_cons_of_neg quiet,
        List.filterMap_cons_none none]
    · by_cases nested : isNested e.2
      · have skipped : isSkipped e := by simp [isSkipped,blank,nested]
        have none : property? e=none := if_pos (.inr nested)
        rw [ofEntries_of_skipped short skipped,later,List.filter_cons_of_pos skipped,
          List.filterMap_cons_none none]
        rfl
      · have quiet : ¬isSkipped e := by simp [isSkipped,nested]
        have gives : Gives e (Text.trim e.1.display) :=
          ⟨rfl,blank,Bool.eq_false_iff.mpr nested⟩
        rw [ofEntries_of_gives first gives,later,List.filter_cons_of_neg quiet,
          List.filterMap_cons_some gives.property?_eq]
        rfl

theorem keys_properties {entries : List (Scalar × Document)} {name : Text} :
    name∈Dictionary.keys (entries.filterMap property?) ↔ ∃ e∈entries, Gives e name := by
  constructor
  · intro h
    obtain ⟨p,hp,rfl⟩ := List.mem_map.mp h
    obtain ⟨e,he,found⟩ := List.mem_filterMap.mp hp
    exact ⟨e,he,gives_of_property? found⟩
  · intro h
    obtain ⟨e,he,gives⟩ := h
    exact List.mem_map.mpr ⟨_,List.mem_filterMap.mpr ⟨e,he,gives.property?_eq⟩,rfl⟩

theorem written_of_ofEntries {entries : List (Scalar × Document)} {d : Dictionary Text}
    (h : (ofEntries [] entries).outcome=.ok d) : ∀ e∈entries, ¬Unwritable e.1 e.2 := by
  intro e he long
  have failed : (ofEntries [] entries).outcome=.error .numeralTooLong :=
    ofEntries_eq_error_iff.mpr ⟨rfl,e,he,long⟩
  cases h.symm.trans failed

theorem nodup_keys_of_ofEntries {entries : List (Scalar × Document)} {d : Dictionary Text}
    (h : (ofEntries [] entries).outcome=.ok d) : d.keys.Nodup := by
  rw [ofEntries_eq (written_of_ofEntries h),Except.ok.injEq] at h
  rw [← h]
  exact Dictionary.nodup_keys_update List.nodup_nil

/-- Entries that can all be written give a dictionary: its keys are the properties that some entry gives
a value to, each with the trimmed value of the last such entry. Entries that give none have no effect
on it, and of these the ones without a value under a key that counts are noted in order. If a key,
or a value under a key that is not blank, is an integer of too many digits, or if such a value is a
set with one in it, there is no dictionary. -/
theorem ofEntries_by_last_entries (entries : List (Scalar × Document)) :
    ((∃ e∈entries, Unwritable e.1 e.2) →
      (ofEntries [] entries).outcome=.error .numeralTooLong) ∧
    ((∀ e∈entries, ¬Unwritable e.1 e.2) → ∃ d : Dictionary Text,
      ofEntries [] entries=⟨(entries.filter isSkipped).map (.skippedProperty ·.1),.ok d⟩ ∧
      d.keys.Nodup ∧ (∀ name, name∈d.keys ↔ ∃ e∈entries, Gives e name) ∧
      (∀ front e back name, entries=front++e::back → Gives e name →
        (∀ e'∈back, ¬Gives e' name) → d.get? name=some (Text.trim e.2.display)) ∧
      ∀ front e back, entries=front++e::back → (∀ name, ¬Gives e name) →
        (ofEntries [] (front++back)).outcome=.ok d) := by
  refine ⟨fun long => ofEntries_eq_error_iff.mpr ⟨rfl,long⟩,fun written => ?_⟩
  refine ⟨_,ofEntries_eq written [],Dictionary.nodup_keys_update List.nodup_nil,?_,?_,?_⟩
  · intro name
    rw [Dictionary.mem_keys_update,keys_properties]
    exact or_iff_right List.not_mem_nil
  · intro front e back name whole gives last
    have none : name∉Dictionary.keys (back.filterMap property?) := by
      rw [keys_properties]
      intro given
      obtain ⟨e',he',again⟩ := given
      exact last e' he' again
    rw [whole,List.filterMap_append,List.filterMap_cons_some gives.property?_eq]
    exact Dictionary.get?_update_of_last [] _ none
  · intro front e back whole nothing
    have within : (front++back).Sublist entries := by
      rw [whole]
      exact (List.sublist_cons_self e back).append_left front
    have fewer : ∀ d∈front++back, ¬Unwritable d.1 d.2 := fun d hd => written d (within.subset hd)
    rw [ofEntries_eq fewer,whole,List.filterMap_append,List.filterMap_append,
      List.filterMap_cons_none (property?_eq_none nothing)]

/-- The largest integer of 3572 digits in base sixteen. -/
theorem overlong_sixteen : Scalar.Overlong (.integer (Nat.pow 16 3572-1 : Nat)) := by
  refine ⟨_,rfl,?_⟩
  rw [Int.natAbs_natCast,← Nat.not_le,Decimal.natText,
    Nat.length_toDigits_le_iff (by decide) (by decide)]
  decide +kernel

/-- A number and two texts that are one name: the last scalar counts, not the null and the list, and
nothing is kept under blanks. An integer that is too long as a key ends it all. -/
theorem ofEntries_by_last_entries_of_number :
    let entries : List (Scalar × Document) := [(.integer 7,.ofText "x".toList),
      (.text " 7 ".toList,.list []),(.text "7\t".toList,.scalar (.boolean true)),
      (.text " ".toList,.ofText "y".toList),(.text "7".toList,.null)]
    (∀ e∈entries, ¬Unwritable e.1 e.2) ∧
      (∃ d : Dictionary Text,
        ofEntries [] entries=⟨[.skippedProperty (.text " 7 ".toList),
          .skippedProperty (.text "7".toList)],.ok d⟩ ∧
        d.get? "7".toList=some "True".toList ∧
        (∀ name, name∈d.keys ↔ ∃ e∈entries, Gives e name) ∧
        (ofEntries [] entries.dropLast).outcome=.ok d) ∧
      (ofEntries [] ((.integer (Nat.pow 16 3572-1 : Nat),.null)::entries)).outcome=
        .error .numeralTooLong := by
  intro entries
  have settled : (ofEntries [] entries).outcome=.ok [("7".toList,"True".toList)] := by decide +kernel
  have written := written_of_ofEntries settled
  have void {e : Scalar × Document} (nothing : property? e=none) (name : Text) :
      ¬Gives e name := by
    intro gives
    cases nothing.symm.trans gives.property?_eq
  obtain ⟨d,given,-,keys,last,without⟩ := (ofEntries_by_last_entries entries).2 written
  have counts : Gives (.text "7\t".toList,.scalar (.boolean true)) "7".toList :=
    ⟨by decide,by decide,rfl⟩
  refine ⟨written,⟨d,given,?_,keys,without entries.dropLast _ [] rfl (void (by decide))⟩,?_⟩
  · refine last (entries.take 2) _ (entries.drop 3) _ rfl counts fun e he => ?_
    rcases List.mem_pair.mp he with rfl|rfl
    · exact void (by decide) _
    · exact void (by decide) _
  · exact (ofEntries_by_last_entries _).1 ⟨_,List.mem_cons_self,.inl overlong_sixteen⟩

/-- An integer that is too long ends it all although the entry behind it gives the same property. -/
theorem ofEntries_fails_of_replaced_integer :
    let entries : List (Scalar × Document) := [
      (.text "a".toList,.ofInt (Nat.pow 16 3572-1 : Nat)),(.text " a".toList,.ofText "b".toList)]
    (∀ e∈entries, Gives e "a".toList) ∧ ¬∃ d, (ofEntries [] entries).outcome=.ok d := by
  intro entries
  have counts : ¬Text.Blank (Scalar.display (.text "a".toList)) := by
    rw [← Text.trim_eq_nil_iff]
    decide
  have failed : (ofEntries [] entries).outcome=.error .numeralTooLong :=
    ofEntries_eq_error_iff.mpr
      ⟨rfl,_,List.mem_cons_self,.inr ⟨counts,.scalar overlong_sixteen⟩⟩
  refine ⟨fun e he => ?_,Outcome.not_exists_ok_iff.mpr ⟨_,failed⟩⟩
  rcases List.mem_pair.mp he with rfl|rfl
  · exact ⟨by decide,by decide,rfl⟩
  · exact ⟨by decide,by decide,rfl⟩

end BundleManifest.Platform.Overrides
