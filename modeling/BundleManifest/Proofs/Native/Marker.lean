import BundleManifest.Proofs.Header.Clause
import BundleManifest.Proofs.Header.Spacing
import BundleManifest.Proofs.Native.Stored

namespace BundleManifest.NativeClause

open Header (Clause IsPiece Spaced)

/-- The clause lists files, none of them with a slash in front, and its ranges can be read. -/
structure Listed (c : NativeClause) : Prop where
  files : ∃ fs, c.libraryFiles=some fs ∧ fs≠[] ∧ ∀ f∈fs, f.head?≠some '/'
  ranges : ∀ t∈c.osVersions, ∃ r, VersionRange.parse t=.ok r

theorem Listed.isMarker {c : NativeClause} (h : c.Listed) : c.isMarker=false := by
  obtain ⟨fs,hf,-⟩ := h.files
  simp [NativeClause.isMarker,hf]

variable {stack : Filter.ReadStack}

theorem listed_of_parseClause {clause : Text} {c : NativeClause}
    (h : parseClause stack clause=.ok c) : c.Listed := by
  have stored := rereadable_of_parseClause h
  simp only [parseClause,Outcome.bind_eq_ok_iff,Outcome.pure_eq_ok_iff] at h
  obtain ⟨d,hd,_,-,_,-,rfl⟩ := h
  obtain ⟨_,-,-,paths⟩ := Clause.parse_eq_ok_iff.mp hd
  refine ⟨⟨_,rfl,by simpa using paths,?_⟩,stored.ranges⟩
  intro f hf slash
  obtain ⟨p,-,hp⟩ := List.mem_map.mp hf
  have stop := List.head?_dropWhile_not (· = '/') p
  rw [hp,slash] at stop
  simp at stop

/-- The last piece of the header is a bare star. -/
def EndsInStar (value : Text) : Prop :=
  ∃ ps, Spaced ',' ps value ∧ (∀ p∈ps, IsPiece ',' p) ∧ ps.getLast?=some ['*']

/-- What is read is listed clauses, with the marker behind them if the last piece is a star. -/
theorem exists_listed_of_parseClauses {value : Text} {ts : List Text} {cs : List NativeClause}
    (h : parseClauses stack value ts=.ok cs) :
    ∃ listed, cs=listed++(if ts.getLast?=some ['*'] then [marker] else []) ∧
      ∀ c∈listed, c.Listed := by
  induction ts generalizing cs with
  | nil =>
    obtain rfl := Except.ok.inj h
    exact ⟨[],by simp,nofun⟩
  | cons t ts ih =>
    rw [parseClauses] at h
    split_ifs at h with star last
    · obtain rfl := Except.ok.inj h
      exact ⟨[],by simp [star,last],nofun⟩
    · exact absurd h Outcome.reject_ne_ok
    · simp only [Outcome.bind_eq_ok_iff,Outcome.pure_eq_ok_iff] at h
      obtain ⟨c,hc,rest,hr,rfl⟩ := h
      obtain ⟨listed,same,all⟩ := ih hr
      have first := listed_of_parseClause hc
      -- a star behind the clause is the last piece of those behind it, since the clause is none
      have behind : (t::ts).getLast?=some ['*'] ↔ ts.getLast?=some ['*'] := by
        cases ts with
        | nil => simpa using star
        | cons u us => rw [List.getLast?_cons_cons]
      refine ⟨c::listed,?_,List.forall_mem_cons.mpr ⟨first,all⟩⟩
      rw [same,List.cons_append]
      simp only [behind]

theorem exists_listed_of_parseHeader {value : Text} {cs : List NativeClause}
    (h : parseHeader stack value=.ok cs) :
    ∃ listed optional, cs=listed++(if optional then [marker] else []) ∧
      (optional=true ↔ EndsInStar value) ∧ ∀ c∈listed, c.Listed := by
  rw [parseHeader,Outcome.bind_eq_ok_iff] at h
  obtain ⟨ts,cut,hc⟩ := h
  obtain ⟨listed,same,all⟩ := exists_listed_of_parseClauses hc
  refine ⟨listed,decide (ts.getLast?=some ['*']),by simpa using same,?_,all⟩
  rw [decide_eq_true_iff]
  constructor
  · intro star
    obtain ⟨spaced,arePieces⟩ := (Header.pieces_eq_ok_iff (by decide)).mp cut
    exact ⟨ts,spaced,arePieces,star⟩
  · intro ends
    obtain ⟨ps,spaced,arePieces,star⟩ := ends
    have again := (Header.pieces_eq_ok_iff (by decide)).mpr ⟨spaced,arePieces⟩
    obtain rfl := Except.ok.inj (cut.symm.trans again)
    exact star

end BundleManifest.NativeClause
