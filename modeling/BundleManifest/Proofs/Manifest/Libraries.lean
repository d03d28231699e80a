import BundleManifest.Manifest.Descriptor
import BundleManifest.Proofs.Manifest.Reading
import BundleManifest.Proofs.Native.Layout
import BundleManifest.Proofs.Platform.Fields
import BundleManifest.Running.Stacks

namespace BundleManifest.Manifest

open Platform (ShortDecimals MatchStack)

theorem mem_of_mem_splitMarker {cs : List NativeClause} {c : NativeClause}
    (h : c∈(splitMarker cs).1) : c∈cs := by
  rw [splitMarker] at h
  split_ifs at h
  · exact List.dropLast_subset cs h
  · exact h

theorem rereadable_of_read {reading : Filter.ReadStack} {headers : Headers} {m : Manifest}
    (h : (read reading headers).outcome=.ok m) : ∀ c∈m.nativeClauses, c.Rereadable reading := by
  obtain ⟨cs,hcs,split⟩ := exists_native_of_read h
  have stored := NativeClause.rereadable_of_mem_parseHeader hcs
  intro c hc
  have kept : c∈(splitMarker cs).1 := by rwa [split]
  exact stored c (mem_of_mem_splitMarker kept)

section

variable {stack : MatchStack} {properties : Dictionary Text} {m : Manifest}

/-- There are native clauses, the platform fits none of them, and native code is not optional. -/
structure Unmatched (stack : MatchStack) (properties : Dictionary Text) (m : Manifest) :
    Prop where
  present : m.nativeClauses≠[]
  unfit : ∀ c∈m.nativeClauses, Platform.accepts stack properties c=.ok false
  needed : m.nativeOptional=false

/-- There are two faults. That no clause matches arises exactly when none does, and there is not
enough room exactly when there is not for one of the clauses. -/
def FailsUnmatched {α : Type} (stack : MatchStack) (properties : Dictionary Text) (m : Manifest)
    (x : Outcome α) : Prop :=
  ∀ fault, x=.error fault ↔
    (fault=.rejected (.noMatchingClause m.nativeClauses.length) ∧
      Unmatched stack properties m) ∨
    (fault=.nestedTooDeep ∧
      ∃ c∈m.nativeClauses, Platform.accepts stack properties c=.error .nestedTooDeep)

theorem FailsUnmatched.map {α β : Type} {x : Outcome α}
    (h : FailsUnmatched stack properties m x) (f : α → β) :
    FailsUnmatched stack properties m (x.map f) := by
  intro fault
  rw [← h fault]
  cases x <;> simp [Except.map]

theorem selectedClause_fails {reading : Filter.ReadStack}
    (readable : ∀ c∈m.nativeClauses, c.Rereadable reading)
    (short : ShortDecimals (Platform.property properties Platform.osVersionKey)) :
    FailsUnmatched stack properties m
      (m.selectedClause (pure (Platform.accepts stack properties))).outcome := by
  intro fault
  have chosen : (m.selectedClause (pure (Platform.accepts stack properties))).outcome=
      Native.select id (Platform.accepts stack properties) m.nativeClauses m.nativeOptional := by
    rw [selectedClause]
    split_ifs with empty
    · simp only [Native.select,empty]
      rfl
    · rw [Logged.outcome_bind]
      rfl
  have ranges : ∀ c∈m.nativeClauses, Native.Readable id c := fun c hc => (readable c hc).ranges
  have answers : ∀ c∈m.nativeClauses, (∃ b, Platform.accepts stack properties c=.ok b) ∨
      Platform.accepts stack properties c=.error .nestedTooDeep := by
    intro c hc
    obtain ⟨b,answered,-⟩|⟨deep,-⟩ := Platform.accepts_cases short (readable c hc)
    · exact .inl ⟨b,answered⟩
    · exact .inr deep
  rw [chosen]
  by_cases deep : ∃ c∈m.nativeClauses, Platform.accepts stack properties c=.error .nestedTooDeep
  · obtain ⟨c,hc,failed⟩ := deep
    rw [Native.select_of_mem_error m.nativeOptional answers hc failed,Except.error.injEq]
    constructor
    · intro same
      exact .inr ⟨same.symm,c,hc,failed⟩
    · intro either
      obtain ⟨-,unmatched⟩|⟨same,-⟩ := either
      · cases failed.symm.trans (unmatched.unfit c hc)
      · exact same.symm
  · have total : ∀ c∈m.nativeClauses, ∃ b, Platform.accepts stack properties c=.ok b :=
      fun c hc => (answers c hc).resolve_right fun failed => deep ⟨c,hc,failed⟩
    rw [Native.select_eq_error_iff ranges total,or_iff_left fun both => deep both.2]
    refine and_congr_right fun _ => ?_
    constructor
    · intro refused
      obtain ⟨present,unfit,needed⟩ := refused
      exact ⟨present,unfit,needed⟩
    · intro unmatched
      exact ⟨unmatched.present,unmatched.unfit,unmatched.needed⟩

end

/-- Every accepted manifest can be asked for its native code on every platform, as far as there is
room to read the selection filters of its clauses again and to evaluate them. -/
theorem libraries_fail_unmatched {reading : Filter.ReadStack} {headers : Headers} {m : Manifest}
    {properties : Dictionary Text} (h : (read reading headers).outcome=.ok m)
    (short : ShortDecimals (Platform.property properties Platform.osVersionKey))
    (stack : MatchStack) :
    (∀ c∈m.nativeClauses, c.Rereadable reading ∧
      ((∃ b, Platform.accepts stack properties c=.ok b ∧
          (b=true ↔ Platform.Fits properties c)) ∨
        Platform.accepts stack properties c=.error .nestedTooDeep ∧
          ¬Platform.Shallow stack properties c)) ∧
      let platform := pure (Platform.accepts stack properties)
      FailsUnmatched stack properties m (m.selectedClause platform).outcome ∧
      (∀ (ρ : Type) (revision : ρ),
        FailsUnmatched stack properties m (m.libraries platform revision).outcome) ∧
      ∀ field, FailsUnmatched stack properties m
        ((m.libraryFiles platform).outcome.map fun files =>
          Descriptor.entries field m.describe++[Descriptor.librariesEntry files]) := by
  have readable := rereadable_of_read h
  have selected : FailsUnmatched stack properties m
      (m.selectedClause (pure (Platform.accepts stack properties))).outcome :=
    selectedClause_fails readable short
  have libraries (ρ : Type) (revision : ρ) :
      FailsUnmatched stack properties m
        (m.libraries (pure (Platform.accepts stack properties)) revision).outcome := by
    rw [Manifest.libraries,Logged.outcome_bind_pure]
    exact selected.map _
  have files : FailsUnmatched stack properties m
      (m.libraryFiles (pure (Platform.accepts stack properties))).outcome := by
    rw [libraryFiles,Logged.outcome_bind_pure]
    exact (libraries Unit ()).map _
  exact ⟨fun c hc => ⟨readable c hc,Platform.accepts_cases short (readable c hc)⟩,selected,
    libraries,fun field => files.map _⟩

/-- The release lies between the two ranges, and the other clause asks for another `x`. -/
theorem libraries_fail_unmatched_between_ranges :
    let headers : Headers := [(Headers.nativeCode,
      some "a;osversion=\"[1,2)\";osversion=3,b;selection-filter=\"(x<=1)\"".toList)]
    let properties : Dictionary Text := [(Platform.osVersionKey,"2.5-rc1".toList),
      ("X".toList,"beta".toList)]
    ∃ m, (read Running.readStack headers).outcome=.ok m ∧
      ShortDecimals (Platform.property properties Platform.osVersionKey) ∧
      (m.libraries (pure (Platform.accepts Running.matchStack properties)) ()).outcome=
        .error (.rejected (.noMatchingClause 2)) := by
  intro headers properties
  let a : NativeClause :=
    { libraryFiles := some [['a']],osVersions := ["[1,2)".toList,['3']] }
  let b : NativeClause :=
    { libraryFiles := some [['b']],selectionFilter := some "(x<=1)".toList }
  have native : (read Running.readStack headers).outcome.map
      (fun m => (m.nativeClauses,m.nativeOptional))=.ok ([a,b],false) := by decide +kernel
  obtain ⟨m,hm,same⟩ := Outcome.map_eq_ok_iff.mp native
  obtain ⟨clauses,optional⟩ := Prod.mk.inj same
  have short : ShortDecimals (Platform.property properties Platform.osVersionKey) :=
    .of_length (by decide)
  have left : Platform.accepts Running.matchStack properties a=.ok false := by decide +kernel
  have right : Platform.accepts Running.matchStack properties b=.ok false := by decide +kernel
  have unmatched : Unmatched Running.matchStack properties m := by
    refine ⟨by simp [clauses],?_,optional⟩
    simp [clauses,left,right]
  obtain ⟨-,-,libraries,-⟩ := libraries_fail_unmatched hm short Running.matchStack
  have fails := (libraries Unit () _).mpr (.inl ⟨rfl,unmatched⟩)
  rw [clauses] at fails
  exact ⟨m,hm,short,fails⟩

/-- A manifest of one clause with a selection filter. -/
theorem exists_read_of_filter {reading : Filter.ReadStack} {t : Text} (unquoted : '"'∉t)
    (readable : ∃ f, Filter.parse reading t=.ok f) :
    ∃ m, (read reading [(Headers.nativeCode,
        some ("a;selection-filter=\"".toList++t++['"']))]).outcome=.ok m ∧
      m.nativeClauses=[{ libraryFiles := some [['a']],selectionFilter := some t }] := by
  let value : Text := "a;selection-filter=\"".toList++t++['"']
  let l : NativeClause.Layout :=
    ⟨[(0,['a'])],[⟨.selectionFilter,"selection-filter".toList,t⟩]⟩
  have wellFormed : l.WellFormed reading := by
    constructor
    · exact List.cons_ne_nil _ _
    · exact List.forall_mem_singleton.mpr (by decide)
    · have spelled : "selection-filter".toList.map Char.toLower="selection-filter".toList := by
        decide
      exact List.forall_mem_singleton.mpr spelled
    · exact List.forall_mem_singleton.mpr unquoted
    · exact nofun
    · exact List.forall_mem_singleton.mpr readable
    · exact Nat.le_refl 1
    · simp [l,Header.Layout.texts,NativeClause.Layout.header]
  have parts : Header.Joined ';' l.header.texts value :=
    .cons (g := [';']) (by decide) (by decide) (.one _)
  have written : Header.Spaced ',' [value] value := by
    simpa using Header.Spaced.some (a := []) (b := []) (by decide) (.one value) (by decide)
  have native : NativeClause.parseHeader reading value=.ok [l.meant] :=
    NativeClause.parseHeader_of_laidOut (List.forall_mem_singleton.mpr wellFormed)
      (.cons parts .nil) false written
  have declares : Declares reading [(Headers.nativeCode,some value)]
      ⟨.legacy,none,[],[],[],[l.meant]⟩ :=
    ⟨rfl,rfl,⟨[],rfl,rfl⟩,⟨[],rfl,rfl⟩,⟨[],rfl,rfl⟩,native⟩
  exact ⟨_,read_eq_ok_iff.mpr ⟨_,declares,rfl⟩,rfl⟩

/-- A clause that asks for nothing else has the outcome of its filter. -/
theorem accepts_filter_alone {stack : MatchStack} {properties : Dictionary Text} {f : Filter}
    (read : Filter.parse stack.reading f.toText=.ok f) :
    Platform.accepts stack properties
        { libraryFiles := some [['a']],selectionFilter := some f.toText }=
      Filter.holds stack.evaluating (Properties.ofTexts properties) f := by
  have written : f.toText≠[] := by
    obtain ⟨u,hu⟩ := Filter.toText_parenthesized f
    simp [hu]
  exact Platform.accepts_of_filter rfl rfl rfl written read

theorem unquoted_iterate {f : Filter} (h : '"'∉f.toText) (n : Nat) :
    '"'∉((fun f => Filter.all [f])^[n] f).toText := by
  induction n with
  | zero => exact h
  | succ n ih =>
    rw [Function.iterate_succ_apply',Filter.toText,Filter.toTexts,Filter.toTexts]
    simpa using ih

/-- The selection filter is read with the manifest, but it is too deep to be evaluated. -/
theorem libraries_of_deep_filter :
    let f : Filter := (fun f => .all [f])^[420] (.compare .equal ['a'] ['b'])
    let headers : Headers := [(Headers.nativeCode,
      some ("a;selection-filter=\"".toList++f.toText++['"']))]
    let properties : Dictionary Text := [(['a'],['b'])]
    ∃ m, (read Running.readStack headers).outcome=.ok m ∧
      ShortDecimals (Platform.property properties Platform.osVersionKey) ∧
      (m.libraries (pure (Platform.accepts Running.matchStack properties)) ()).outcome=
        .error .nestedTooDeep := by
  intro f headers properties
  have parsed : Filter.parse Running.readStack f.toText=.ok f := by
    have derived := Filter.derives_iterate Filter.exists_derives_all 420
    have calls := Filter.measure_iterate (Filter.descent_all Running.readStack)
      (.compare .equal ['a'] ['b']) 420
    have test : Filter.descent Running.readStack (.compare .equal ['a'] ['b'])=5 := by
      decide +kernel
    have enough : 845 ≤ Running.readStack.room := by decide
    rw [Filter.parse_of_derives derived,if_pos (by omega)]
  obtain ⟨m,hm,clauses⟩ := exists_read_of_filter
    (unquoted_iterate (by decide : '"'∉(Filter.compare .equal ['a'] ['b']).toText) 420) ⟨f,parsed⟩
  have short : ShortDecimals (Platform.property properties Platform.osVersionKey) :=
    .of_length (by decide)
  let c : NativeClause := { libraryFiles := some [['a']],selectionFilter := some f.toText }
  have deep : Platform.accepts Running.matchStack properties c=.error .nestedTooDeep := by
    have more : Running.evalStack.room < 420*(Running.evalStack.list+1) := by decide
    have outcome : Platform.accepts Running.matchStack properties c=
        Filter.holds Running.evalStack (Properties.ofTexts properties) f :=
      accepts_filter_alone parsed
    exact outcome.trans (Filter.evaluate_of_deep_lists (.compare .equal ['a'] ['b']) more)
  obtain ⟨-,-,libraries,-⟩ := libraries_fail_unmatched hm short Running.matchStack
  refine ⟨m,hm,short,(libraries Unit () _).mpr (.inr ⟨rfl,?_⟩)⟩
  rw [clauses]
  exact ⟨_,List.mem_singleton_self _,deep⟩

end BundleManifest.Manifest
