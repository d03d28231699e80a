import BundleManifest.Proofs.Manifest.Reading
import BundleManifest.Proofs.Native.Marker
import BundleManifest.Running.Stacks

namespace BundleManifest.Manifest

open NativeClause (marker EndsInStar)

theorem splitMarker_append {cs : List NativeClause} (h : ∀ c∈cs, c.isMarker=false)
    (optional : Bool) :
    splitMarker (cs++if optional then [marker] else [])=(cs,optional) := by
  cases optional with
  | true =>
    have last : (cs++[marker]).getLast?.any NativeClause.isMarker=true := by
      rw [List.getLast?_concat]
      rfl
    change splitMarker (cs++[marker])=_
    rw [splitMarker,if_pos last,List.dropLast_concat]
  | false =>
    have none : ¬cs.getLast?.any NativeClause.isMarker=true := by
      cases last : cs.getLast? with
      | none => simp
      | some c => simp [h c (List.mem_of_getLast? last)]
    change splitMarker (cs++[])=_
    rw [List.append_nil,splitMarker,if_neg none]

/-- Behind a marker nothing can follow when all clauses but the marker at the end are none. -/
theorem eq_nil_behind_marker {cs front back : List NativeClause} {c : NativeClause}
    {optional : Bool} (h : ∀ c∈cs, c.isMarker=false)
    (place : cs++(if optional then [marker] else [])=front++c::back) (marked : c.isMarker=true) :
    back=[] := by
  have unlisted : c∉cs := by
    intro hc
    rw [h c hc] at marked
    cases marked
  cases optional with
  | false =>
    change cs++[]=_ at place
    rw [List.append_nil] at place
    exact absurd (by simp [place]) unlisted
  | true =>
    rcases List.eq_nil_or_concat' back with empty|⟨q,x,rfl⟩
    · exact empty
    · have whole : cs++[marker]=(front++c::q)++[x] := by simpa using place
      have before : cs=front++c::q := (List.append_inj' whole rfl).1
      exact absurd (by simp [before]) unlisted

/-- The marker is taken off the clauses of the header, where it stands only at the end; it does
exactly when the header ends in a bare star. The other clauses list files and have readable ranges. -/
theorem native_of_read {stack : Filter.ReadStack} {headers : Headers} {m : Manifest}
    (h : (read stack headers).outcome=.ok m) :
    ∃ cs, NativeClause.parseHeader stack (headers.text Headers.nativeCode)=.ok cs ∧
      (∀ front c back, cs=front++c::back → c.isMarker=true → back=[]) ∧
      m.nativeClauses=cs.filter (!·.isMarker) ∧
      (m.nativeOptional=true ↔ EndsInStar (headers.text Headers.nativeCode)) ∧
      ∀ c∈m.nativeClauses, c.Listed := by
  obtain ⟨cs,hcs,split⟩ := exists_native_of_read h
  obtain ⟨listed,optional,rfl,star,all⟩ := NativeClause.exists_listed_of_parseHeader hcs
  have unmarked : ∀ c∈listed, c.isMarker=false := fun c hc => (all c hc).isMarker
  rw [splitMarker_append unmarked] at split
  obtain ⟨clauses,flag⟩ := Prod.mk.inj split
  rw [← clauses,← flag]
  refine ⟨_,hcs,?_,?_,star,all⟩
  · intro front c back place marked
    exact eq_nil_behind_marker unmarked place marked
  · have kept : listed.filter (!·.isMarker)=listed := by
      apply List.filter_eq_self.mpr
      intro c hc
      simp [unmarked c hc]
    rw [List.filter_append,kept]
    cases optional <;> simp [marker,NativeClause.isMarker]

/-- A star between quotes and one with a parameter are files; the last piece is the bare star in
front of blanks and commas. -/
theorem native_of_read_of_several_stars :
    let headers : Headers := [(Headers.nativeCode,
      some "//a;/;osversion=\"[1,2)\",\"*\",*;osname=x, * , ,".toList)]
    ∃ m, (read Running.readStack headers).outcome=.ok m ∧
      m.nativeClauses.map NativeClause.libraryFiles=[some [['a'],[]],some [['*']],some [['*']]] ∧
      EndsInStar (headers.text Headers.nativeCode) ∧ ∀ c∈m.nativeClauses, c.Listed := by
  intro headers
  have result : (read Running.readStack headers).outcome.map
      (fun m => (m.nativeClauses.map NativeClause.libraryFiles,m.nativeOptional))=
      .ok ([some [['a'],[]],some [['*']],some [['*']]],true) := by decide +kernel
  obtain ⟨m,hm,same⟩ := Outcome.map_eq_ok_iff.mp result
  obtain ⟨files,optional⟩ := Prod.mk.inj same
  obtain ⟨cs,-,-,-,star,listed⟩ := native_of_read hm
  exact ⟨m,hm,files,star.mp optional,listed⟩

end BundleManifest.Manifest
