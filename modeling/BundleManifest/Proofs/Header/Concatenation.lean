import BundleManifest.Native.Clause
import BundleManifest.Package.Clause
import BundleManifest.Proofs.Header.Pieces
import BundleManifest.Running.Stacks

namespace BundleManifest

open Header

namespace Header

theorem pieces_eq_ok_iff_kept {d : Char} {t : Text} {ps : List Text} :
    pieces d t=.ok ps ↔ Balanced t ∧ kept d t=ps := by
  rw [pieces_eq,Outcome.ite_else_reject_eq_ok_iff,Except.ok.injEq]

theorem pieces_append_eq_ok_iff {d : Char} (hd : d ≠ '"') {a b : Text} (ha : Balanced a)
    {ps : List Text} :
    pieces d (a++d::b)=.ok ps ↔
      ∃ us vs, pieces d a=.ok us ∧ pieces d b=.ok vs ∧ ps=us++vs := by
  have closed : Balanced (a++d::b) ↔ Balanced b := by
    rw [balanced_append,balanced_cons hd]
    exact iff_of_eq (by simp [ha])
  simp only [pieces_eq_ok_iff_kept,kept_append hd ha,closed]
  constructor
  · rintro ⟨hb,rfl⟩
    exact ⟨kept d a,kept d b,⟨ha,rfl⟩,⟨hb,rfl⟩,rfl⟩
  · rintro ⟨us,vs,⟨-,rfl⟩,⟨hb,rfl⟩,rfl⟩
    exact ⟨hb,rfl⟩

end Header

theorem PackageClause.parseHeader_append_eq_ok_iff {a b : Text} (ha : Balanced a)
    {ks : List PackageClause} :
    parseHeader (a ++ ',' :: b)=.ok ks ↔
      ∃ us vs, parseHeader a=.ok us ∧ parseHeader b=.ok vs ∧ ks=us++vs := by
  have cut (ts : List Text) : pieces ',' (a ++ ',' :: b)=.ok ts ↔ _ :=
    pieces_append_eq_ok_iff (by decide) ha
  simp only [parseHeader,Outcome.bind_eq_ok_iff,Outcome.pure_eq_ok_iff,cut]
  constructor
  · rintro ⟨_,⟨ts,us,ht,hu,rfl⟩,blocks,read,rfl⟩
    obtain ⟨xs,ys,hx,hy,rfl⟩ := Outcome.mapM_append_eq_ok_iff.mp read
    exact ⟨xs.flatten,ys.flatten,⟨ts,ht,xs,hx,rfl⟩,⟨us,hu,ys,hy,rfl⟩,List.flatten_append⟩
  · rintro ⟨_,_,⟨ts,ht,xs,hx,rfl⟩,⟨us,hu,ys,hy,rfl⟩,rfl⟩
    have read := Outcome.mapM_append_eq_ok_iff.mpr ⟨xs,ys,hx,hy,rfl⟩
    exact ⟨ts++us,⟨ts,us,ht,hu,rfl⟩,xs++ys,read,List.flatten_append⟩

namespace NativeClause

variable {stack : Filter.ReadStack}

/-- The whole text is only for the report of a misplaced marker. -/
theorem parseClauses_congr {value other : Text} {ts : List Text} {cs : List NativeClause} :
    parseClauses stack value ts=.ok cs ↔ parseClauses stack other ts=.ok cs := by
  induction ts generalizing cs with
  | nil => rfl
  | cons t ts ih =>
    rw [parseClauses,parseClauses]
    split_ifs
    · rfl
    · simp
    · simp only [Outcome.bind_eq_ok_iff,ih]

theorem parseClauses_append_eq_ok_iff {value : Text} {ts us : List Text} (starless : ['*']∉ts)
    {cs : List NativeClause} :
    parseClauses stack value (ts++us)=.ok cs ↔
      ∃ xs ys, parseClauses stack value ts=.ok xs ∧ parseClauses stack value us=.ok ys ∧
        cs=xs++ys := by
  induction ts generalizing cs with
  | nil => simp [parseClauses]
  | cons t ts ih =>
    have named : t≠['*'] := (List.ne_of_not_mem_cons starless).symm
    have tail : ['*']∉ts := List.not_mem_of_not_mem_cons starless
    simp only [List.cons_append,parseClauses,if_neg named,Outcome.bind_eq_ok_iff,
      Outcome.pure_eq_ok_iff,ih tail]
    constructor
    · rintro ⟨c,hc,_,⟨xs,ys,hx,hy,rfl⟩,rfl⟩
      exact ⟨c::xs,ys,⟨c,hc,xs,hx,rfl⟩,hy,rfl⟩
    · rintro ⟨_,ys,⟨c,hc,xs,hx,rfl⟩,hy,rfl⟩
      exact ⟨c,hc,xs++ys,⟨xs,ys,hx,hy,rfl⟩,rfl⟩

theorem parseHeader_append_eq_ok_iff {a b : Text} (ha : Balanced a)
    (starless : ∀ ts, pieces ',' a=.ok ts → ['*']∉ts) {cs : List NativeClause} :
    parseHeader stack (a ++ ',' :: b)=.ok cs ↔
      ∃ xs ys, parseHeader stack a=.ok xs ∧ parseHeader stack b=.ok ys ∧ cs=xs++ys := by
  have cut (ts : List Text) : pieces ',' (a ++ ',' :: b)=.ok ts ↔ _ :=
    pieces_append_eq_ok_iff (by decide) ha
  simp only [parseHeader,Outcome.bind_eq_ok_iff,cut]
  constructor
  · rintro ⟨_,⟨ts,us,ht,hu,rfl⟩,read⟩
    obtain ⟨xs,ys,hx,hy,rfl⟩ := (parseClauses_append_eq_ok_iff (starless ts ht)).mp read
    exact ⟨xs,ys,⟨ts,ht,parseClauses_congr.mp hx⟩,⟨us,hu,parseClauses_congr.mp hy⟩,rfl⟩
  · rintro ⟨xs,ys,⟨ts,ht,hx⟩,⟨us,hu,hy⟩,rfl⟩
    refine ⟨ts++us,⟨ts,us,ht,hu,rfl⟩,?_⟩
    rw [parseClauses_append_eq_ok_iff (starless ts ht)]
    exact ⟨xs,ys,parseClauses_congr.mp hx,parseClauses_congr.mp hy,rfl⟩

end NativeClause

/-- Two headers around a comma, the first with an even number of quotes, are read exactly when each
of them is, and declare what they declare one after the other. For native code no piece of the first
may be a bare star. -/
theorem Header.joined_read_iff (stack : Filter.ReadStack) {first : Text}
    (even : first.count '"'%2=0) (second : Text) :
    (∀ ks, PackageClause.parseHeader (first ++ ',' :: second)=.ok ks ↔
      ∃ us vs, PackageClause.parseHeader first=.ok us ∧
        PackageClause.parseHeader second=.ok vs ∧ ks=us++vs) ∧
    ((∀ ts, pieces ',' first=.ok ts → ['*']∉ts) →
      ∀ cs, NativeClause.parseHeader stack (first ++ ',' :: second)=.ok cs ↔
        ∃ xs ys, NativeClause.parseHeader stack first=.ok xs ∧
          NativeClause.parseHeader stack second=.ok ys ∧ cs=xs++ys) := by
  refine ⟨fun ks => PackageClause.parseHeader_append_eq_ok_iff even,fun starless cs => ?_⟩
  exact NativeClause.parseHeader_append_eq_ok_iff even starless

/-- A comma between quotes in the first header, blank pieces at the seam, and a star that is last
only in the second one. -/
theorem Header.joined_read_of_quoted_comma :
    let first : Text := "a;osname=\"x,y\",\"*\", ".toList
    let second : Text := ",/b;osversion=1,*,".toList
    first.count '"'%2=0 ∧ (∀ ts, pieces ',' first=.ok ts → ['*']∉ts) ∧
      (∃ ks, PackageClause.parseHeader (first ++ ',' :: second)=.ok ks ∧
        ks.map PackageClause.name=[['a'],['*'],['/','b'],['*']]) ∧
      ∃ cs, NativeClause.parseHeader Running.readStack (first ++ ',' :: second)=.ok cs ∧
        cs.map NativeClause.libraryFiles=[some [['a']],some [['*']],some [['b']],none] := by
  intro first second
  have even : first.count '"'%2=0 := by decide
  have cut : pieces ',' first=.ok ["a;osname=\"x,y\"".toList,"\"*\"".toList] := by decide
  have starless : ∀ ts, pieces ',' first=.ok ts → ['*']∉ts := by
    intro ts h
    obtain rfl := Except.ok.inj (cut.symm.trans h)
    decide
  obtain ⟨package,native⟩ := Header.joined_read_iff Running.readStack even second
  refine ⟨even,starless,?_,?_⟩
  · have left : (PackageClause.parseHeader first).map (·.map PackageClause.name)=
        .ok [['a'],['*']] := by decide +kernel
    have right : (PackageClause.parseHeader second).map (·.map PackageClause.name)=
        .ok [['/','b'],['*']] := by decide +kernel
    obtain ⟨us,hu,left⟩ := Outcome.map_eq_ok_iff.mp left
    obtain ⟨vs,hv,right⟩ := Outcome.map_eq_ok_iff.mp right
    refine ⟨us++vs,(package _).mpr ⟨us,vs,hu,hv,rfl⟩,?_⟩
    rw [List.map_append,left,right]
    rfl
  · have left : (NativeClause.parseHeader Running.readStack first).map
        (·.map NativeClause.libraryFiles)=
        .ok [some [['a']],some [['*']]] := by decide +kernel
    have right : (NativeClause.parseHeader Running.readStack second).map
        (·.map NativeClause.libraryFiles)=
        .ok [some [['b']],none] := by decide +kernel
    obtain ⟨xs,hx,left⟩ := Outcome.map_eq_ok_iff.mp left
    obtain ⟨ys,hy,right⟩ := Outcome.map_eq_ok_iff.mp right
    refine ⟨xs++ys,(native starless _).mpr ⟨xs,ys,hx,hy,rfl⟩,?_⟩
    rw [List.map_append,left,right]
    rfl

end BundleManifest
