import BundleManifest.Native.Clause
import BundleManifest.Proofs.Header.Layout
import BundleManifest.Proofs.Text.Casing
import BundleManifest.Running.Stacks

namespace BundleManifest.NativeClause

open Header (Plain Parameter Joined Spaced IsPiece)
open Text (Trimmed)

inductive Key where
  | osName
  | processor
  | osVersion
  | language
  | selectionFilter
  deriving DecidableEq, Repr

def Key.name : Key → Text
  | .osName => "osname".toList
  | .processor => "processor".toList
  | .osVersion => "osversion".toList
  | .language => "language".toList
  | .selectionFilter => "selection-filter".toList

/-- A parameter with its name as it is put down. -/
structure Entry where
  key : Key
  name : Text
  value : Text

def Entry.parameter (e : Entry) : Parameter := ⟨e.name,e.value⟩

/-- What an author puts down for one clause: the paths, each with the number of slashes in front of
it, and the parameters. -/
structure Layout where
  paths : List (Nat × Text)
  entries : List Entry

namespace Layout

/-- The clause as any header has it. -/
def header (l : Layout) : Header.Layout where
  paths := l.paths.map fun (n,p) => List.replicate n '/'++p
  parameters := l.entries.map fun e => (.attr,e.parameter)

def values (l : Layout) (k : Key) : List Text :=
  (l.entries.filter (·.key = k)).map Entry.value

/-- What the clause means. -/
def meant (l : Layout) : NativeClause where
  libraryFiles := some (l.paths.map Prod.snd)
  osNames := l.values .osName
  processors := l.values .processor
  osVersions := l.values .osVersion
  languages := l.values .language
  selectionFilter := (l.values .selectionFilter).head?

structure WellFormed (stack : Filter.ReadStack) (l : Layout) : Prop where
  paths_nonempty : l.paths≠[]
  plain : ∀ p∈l.paths, Plain p.2 ∧ p.2.head?≠some '/'
  spelled : ∀ e∈l.entries, e.name.map Char.toLower=e.key.name
  unquoted : ∀ e∈l.entries, '"'∉e.value
  ranges : ∀ v∈l.values .osVersion, ∃ range, VersionRange.parse v=.ok range
  filters : ∀ v∈l.values .selectionFilter, ∃ filter, Filter.parse stack v=.ok filter
  one_filter : (l.values .selectionFilter).length ≤ 1
  /-- A bare star alone would be the marker. -/
  unmarked : l.header.texts≠[['*']]

instance (stack : Filter.ReadStack) (l : Layout) : Decidable (l.WellFormed stack) :=
  decidable_of_iff (l.paths≠[] ∧ (∀ p∈l.paths, Plain p.2 ∧ p.2.head?≠some '/') ∧
      (∀ e∈l.entries, e.name.map Char.toLower=e.key.name) ∧ (∀ e∈l.entries, '"'∉e.value) ∧
      (∀ v∈l.values .osVersion, ∃ range, VersionRange.parse v=.ok range) ∧
      (∀ v∈l.values .selectionFilter, ∃ filter, Filter.parse stack v=.ok filter) ∧
      (l.values .selectionFilter).length ≤ 1 ∧ l.header.texts≠[['*']])
    ⟨fun ⟨a,b,c,d,e,f,g,h⟩ => ⟨a,b,c,d,e,f,g,h⟩,fun ⟨a,b,c,d,e,f,g,h⟩ => ⟨a,b,c,d,e,f,g,h⟩⟩

end Layout

theorem Key.name_injective {a b : Key} (h : a.name=b.name) : a=b := by
  cases a <;> cases b <;> first | rfl | exact absurd h (by decide)

theorem Key.name_letters (k : Key) :
    (k.name.all fun c => c.toNat < 128 && (c.isLower || c = '-'))=true := by
  cases k <;> rfl

theorem not_reserved_of_letter {c : Char} (ascii : c.toNat < 128)
    (h : (c.toLower.isLower || c.toLower = '-')=true) :
    Text.isBlank c=false ∧ c∉['"',',',';','=',':'] := by
  revert h
  refine Text.ascii_induction ?_ c ascii
  decide +kernel

theorem Key.char_of_spelled {k : Key} {name : Text} (h : name.map Char.toLower=k.name) :
    ∀ c∈name, c.toNat < 128 ∧ Text.isBlank c=false ∧ c∉['"',',',';','=',':'] := by
  intro c hc
  have lower : c.toLower∈k.name := by
    rw [← h]
    exact List.mem_map_of_mem hc
  have letter := List.all_eq_true.mp k.name_letters _ lower
  obtain ⟨small,letter⟩ := Bool.and_eq_true_iff.mp letter
  -- only ASCII letters have an ASCII lower case, so no other character can stand in the name
  have ascii := Text.toNat_lt_of_toLower (of_decide_eq_true small)
  exact ⟨ascii,not_reserved_of_letter ascii letter⟩

theorem Key.lower_of_spelled {k : Key} {name : Text} (h : name.map Char.toLower=k.name) :
    Text.lower name=k.name := by
  rw [Text.lower_of_ascii fun c hc => (Key.char_of_spelled h c hc).1,h]

theorem Key.plain_of_spelled {k : Key} {name : Text} (h : name.map Char.toLower=k.name) :
    Plain name := by
  have chars := Key.char_of_spelled h
  constructor
  · intro empty
    rw [empty] at h
    cases k <;> cases h
  · constructor
    · intro c hc
      exact (chars c (List.mem_of_head? hc)).2.1
    · intro c hc
      exact (chars c (List.mem_of_getLast? hc)).2.1
  · intro c hc reserved
    exact (chars c hc).2.2 (List.mem_append_left [':'] reserved)

namespace Layout

variable {stack : Filter.ReadStack} {l : Layout}

theorem plain_slashes {p : Text} (h : Plain p) (n : Nat) : Plain (List.replicate n '/'++p) := by
  cases n with
  | zero => exact h
  | succ n =>
    constructor
    · simp
    · have slash : Trimmed ['/'] := by decide
      exact slash.append h.trimmed (by simp) h.nonempty (List.replicate n '/')
    · intro c hc
      rcases List.mem_append.mp hc with slash|inner
      · rw [List.eq_of_mem_replicate slash]
        decide
      · exact h.unreserved c inner

theorem dropWhile_slashes {p : Text} (h : p.head?≠some '/') (n : Nat) :
    (List.replicate n '/'++p).dropWhile (· = '/')=p := by
  induction n with
  | zero =>
    cases p with
    | nil => rfl
    | cons c r =>
      have other : c ≠ '/' := by simpa using h
      simp [other]
  | succ n ih => simpa [List.replicate_succ] using ih

theorem WellFormed.header (h : l.WellFormed stack) : l.header.WellFormed := by
  constructor
  · simpa [Layout.header] using h.paths_nonempty
  · intro p hp
    obtain ⟨⟨n,q⟩,hq,rfl⟩ := List.mem_map.mp hp
    exact plain_slashes (h.plain _ hq).1 n
  · intro e he
    obtain ⟨e,hm,rfl⟩ := List.mem_map.mp he
    have spelled := h.spelled e hm
    refine ⟨Key.plain_of_spelled spelled,fun _ last => ?_,h.unquoted e hm⟩
    have chars := Key.char_of_spelled spelled ':' (List.mem_of_getLast? last)
    exact chars.2.2 (by decide)

theorem ofKind_attr (l : Layout) : l.header.ofKind .attr=l.entries.map Entry.parameter := by
  simp [Header.Layout.ofKind,Layout.header,List.filterMap_map]

/-- Names in any case are sorted out by their keys. -/
theorem WellFormed.valuesOf_name (h : l.WellFormed stack) (k : Key) :
    valuesOf k.name (l.header.ofKind .attr)=l.values k := by
  have same : ∀ e∈l.entries, decide (Text.lower e.name=k.name)=decide (e.key=k) := by
    intro e he
    rw [Key.lower_of_spelled (h.spelled e he),decide_eq_decide]
    exact ⟨Key.name_injective,congrArg Key.name⟩
  rw [ofKind_attr,NativeClause.valuesOf,List.filter_map,List.map_map,Layout.values]
  exact congrArg (List.map Entry.value) (List.filter_congr same)

theorem WellFormed.readFilter?_eq (h : l.WellFormed stack) (clause : Text) :
    readFilter? stack clause (l.header.ofKind .attr)=.ok (l.values .selectionFilter).head? := by
  have found : NativeClause.valuesOf "selection-filter".toList (l.header.ofKind .attr)=_ :=
    h.valuesOf_name .selectionFilter
  rw [NativeClause.readFilter?,found]
  cases filters : l.values .selectionFilter with
  | nil => rfl
  | cons v vs =>
    have one := h.one_filter
    rw [filters] at one
    obtain rfl : vs=[] := List.length_eq_zero_iff.mp (by simpa using one)
    obtain ⟨filter,read⟩ := h.filters v (by simp [filters])
    simp only [read]
    rfl

theorem WellFormed.map_dropWhile (h : l.WellFormed stack) :
    l.header.paths.map (·.dropWhile (· = '/'))=l.paths.map Prod.snd := by
  rw [Layout.header,List.map_map]
  apply List.map_congr_left
  intro p hp
  exact dropWhile_slashes (h.plain p hp).2 p.1

/-- A clause that was laid out is read as it was meant. -/
theorem parseClause_of_joined (h : l.WellFormed stack) {u : Text}
    (hu : Joined ';' l.header.texts u) :
    parseClause stack u=.ok l.meant := by
  have clause := Header.Clause.parse_of_joined h.header hu
  simp only [parseClause,Outcome.bind_eq_ok_iff,Outcome.pure_eq_ok_iff]
  have versions : valuesOf "osversion".toList l.header.clause.attributes=l.values .osVersion :=
    h.valuesOf_name .osVersion
  have readable : (l.values .osVersion).forM (fun r => do
      let _ ← VersionRange.parse r)=(.ok () : Outcome Unit) := by
    rw [Outcome.forM_eq_ok_iff]
    intro v hv
    obtain ⟨range,read⟩ := h.ranges v hv
    rw [read]
    rfl
  refine ⟨_,clause,_,h.readFilter?_eq u,(),?_,?_⟩
  · rw [versions]
    exact readable
  · simp only [meant,NativeClause.mk.injEq,Option.some.injEq]
    exact ⟨h.map_dropWhile,h.valuesOf_name .osName,h.valuesOf_name .processor,
      h.valuesOf_name .osVersion,h.valuesOf_name .language,trivial⟩

theorem WellFormed.ne_star (h : l.WellFormed stack) {u : Text} (hu : Joined ';' l.header.texts u) :
    u≠['*'] := by
  intro star
  have parts := Header.Layout.isPiece_texts h.header (d := ';') (by decide)
  have cut := Header.pieces_of_joined (by decide) hu parts
  rw [star] at cut
  have one : Header.pieces ';' ['*']=.ok [['*']] := by decide
  exact h.unmarked (Except.ok.inj (cut.symm.trans one))

end Layout

variable {stack : Filter.ReadStack}

/-- The clauses are read one after the other, with the marker behind them. -/
theorem parseClauses_of_forall₂ (value : Text) {ts : List Text} {cs : List NativeClause}
    (h : List.Forall₂ (fun t c => t≠['*'] ∧ parseClause stack t=.ok c) ts cs) (optional : Bool) :
    parseClauses stack value (ts++if optional then [['*']] else [])=
      .ok (cs++if optional then [marker] else []) := by
  induction h with
  | nil => cases optional <;> rfl
  | @cons t c ts cs first _ ih =>
    obtain ⟨other,parsed⟩ := first
    rw [List.cons_append,parseClauses,if_neg other,parsed,ih]
    rfl

/-- A header is read as what was laid out in it, with its clauses between commas, the parts of a
clause between semicolons, and blanks around both; a star at the end makes it optional. -/
theorem parseHeader_of_laidOut {ls : List Layout} {us : List Text} {header : Text}
    (wellFormed : ∀ l∈ls, l.WellFormed stack)
    (clauses : List.Forall₂ (fun l u => Joined ';' l.header.texts u) ls us) (optional : Bool)
    (spaced : Spaced ',' (us++if optional then [['*']] else []) header) :
    parseHeader stack header=.ok (ls.map Layout.meant++if optional then [marker] else []) := by
  have laidOut : List.Forall₂ (fun l u => l.WellFormed stack ∧ Joined ';' l.header.texts u)
      ls us := by
    rw [List.forall₂_and_left]
    exact ⟨wellFormed,clauses⟩
  have each : List.Forall₂ (fun u l => IsPiece ',' u ∧ u≠['*'] ∧ parseClause stack u=.ok l.meant)
      us ls := by
    apply laidOut.flip.imp
    intro u l ⟨hl,joined⟩
    have parts := Header.Layout.isPiece_texts hl.header (d := ',') (by decide)
    exact ⟨joined.isPiece (by decide) (by decide) (by decide) parts,hl.ne_star joined,
      Layout.parseClause_of_joined hl joined⟩
  rw [List.forall₂_and_left] at each
  obtain ⟨isPiece,parsed⟩ := each
  have star : ∀ t∈if optional then [['*']] else [], IsPiece ',' t := by
    have plain : Plain ['*'] := by decide
    cases optional with
    | false => exact nofun
    | true => exact List.forall_mem_singleton.mpr (plain.isPiece (by decide))
  have cut := Header.pieces_of_spaced (by decide) spaced
    (List.forall_mem_append.mpr ⟨isPiece,star⟩)
  rw [parseHeader,cut]
  exact parseClauses_of_forall₂ header (List.forall₂_map_right_iff.mpr parsed) optional

/-- Names of one key in different cases belong together, and a comma, a semicolon or an equals sign
in a value is none of the header's. -/
theorem parseHeader_of_mixed_case :
    parseHeader Running.readStack ("//a;b;OSName=\"x,y\";Selection-Filter=\"(k=1)\";osversion=\"[1,2)\";"++
        "osNAME=\"z;\",/c ; LANGUAGE=\"de\",*").toList=.ok
      [{ libraryFiles := some [['a'],['b']],osNames := ["x,y".toList,"z;".toList],
         osVersions := ["[1,2)".toList],selectionFilter := some "(k=1)".toList },
        { libraryFiles := some [['c']],languages := ["de".toList] },
        marker] := by
  let first : Layout := ⟨[(2,['a']),(0,['b'])],[⟨.osName,"OSName".toList,"x,y".toList⟩,
    ⟨.selectionFilter,"Selection-Filter".toList,"(k=1)".toList⟩,
    ⟨.osVersion,"osversion".toList,"[1,2)".toList⟩,⟨.osName,"osNAME".toList,"z;".toList⟩]⟩
  let second : Layout := ⟨[(1,['c'])],[⟨.language,"LANGUAGE".toList,"de".toList⟩]⟩
  have firstText : Joined ';' first.header.texts _ :=
    .cons (g := [';']) (by decide) (by decide) <|
      .cons (g := [';']) (by decide) (by decide) <|
      .cons (g := [';']) (by decide) (by decide) <|
      .cons (g := [';']) (by decide) (by decide) <|
      .cons (g := [';']) (by decide) (by decide) <| .one _
  have secondText : Joined ';' second.header.texts _ :=
    .cons (g := [' ',';',' ']) (by decide) (by decide) <| .one _
  have wellFormed : ∀ l∈[first,second], l.WellFormed Running.readStack := by decide +kernel
  have read := parseHeader_of_laidOut wellFormed (.cons firstText (.cons secondText .nil)) true
    (.some (a := []) (b := []) (by decide)
      (.cons (g := [',']) (by decide) (by decide) <|
        .cons (g := [',']) (by decide) (by decide) <| .one _) (by decide))
  refine (congrArg (parseHeader Running.readStack) ?_).trans (read.trans (congrArg Except.ok ?_))
  · decide +kernel
  · decide +kernel

end BundleManifest.NativeClause
