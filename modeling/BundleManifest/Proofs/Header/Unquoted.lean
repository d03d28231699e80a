import BundleManifest.Proofs.Header.Clause
import BundleManifest.Proofs.Header.Spacing
import BundleManifest.Proofs.Text.CommaList

namespace BundleManifest

namespace Header

open Text (Listable)

theorem unquote_of_unquoted {t : Text} (h : '"'∉t) : unquote t=Text.trim t := by
  rw [unquote]
  split
  · next r ht =>
    have quote : '"'∈Text.trim t := by simp [ht]
    exact absurd ((Text.trim_within t).subset quote) h
  · rfl

theorem parts_of_unquoted {d : Char} {t : Text} (h : '"'∉t) :
    parts d false t=t.splitOn d := by
  induction t with
  | nil => rfl
  | cons c r ih =>
    have quote : c ≠ '"' := fun same => h (by simp [same])
    have inner := ih fun hr => h (List.mem_cons_of_mem c hr)
    rw [parts_cons,if_neg quote,inner,List.splitOn_cons_eq_if_modifyHead]
    simp

theorem pieces_of_unquoted {value : Text} (h : '"'∉value) {ts : List Text}
    (cut : pieces ',' value=.ok ts) : ts=Text.commaList value := by
  rw [pieces_eq,Outcome.ite_else_reject_eq_ok_iff,kept,parts_of_unquoted h] at cut
  exact (Except.ok.inj cut.2).symm

theorem Piece.path_eq_unquote {t p : Text} (h : Piece.ofText t=.path p) : p=unquote t := by
  rw [Piece.ofText] at h
  split at h
  · exact (Piece.path.inj h).symm
  · dsimp only at h
    split_ifs at h

namespace Clause

theorem exists_piece_of_mem_paths {clause : Text} {afterParameter : Bool} {ts : List Text}
    {c : Clause} (h : ofPieces clause afterParameter ts=.ok c) :
    ∀ p∈c.paths, ∃ t∈ts, p=unquote t := by
  induction ts generalizing afterParameter c with
  | nil =>
    obtain rfl := Except.ok.inj h
    intro p hp
    cases hp
  | cons t r ih =>
    simp only [ofPieces,Outcome.bind_eq_ok_iff,Outcome.pure_eq_ok_iff] at h
    obtain ⟨_,-,rest,hr,rfl⟩ := h
    have later {p : Text} (hp : p∈rest.paths) : ∃ u∈t::r, p=unquote u := by
      obtain ⟨u,hu,same⟩ := ih hr p hp
      exact ⟨u,List.mem_cons_of_mem t hu,same⟩
    intro p hp
    cases piece : Piece.ofText t with
    | path name =>
      rw [piece] at hp
      rcases List.mem_cons.mp hp with rfl|hp
      · exact ⟨t,List.mem_cons_self,Piece.path_eq_unquote piece⟩
      · exact later hp
    | parameter kind parameter =>
      rw [piece] at hp
      cases kind
      · exact later hp
      · exact later hp

theorem listable_of_unquoted {clause : Text} (h : '"'∉clause) (whole : ','∉clause) {c : Clause}
    (read : parse clause=.ok c) : ∀ p∈c.paths, Listable p := by
  intro p hp
  obtain ⟨ts,cut,hc,-⟩ := parse_eq_ok_iff.mp read
  obtain ⟨t,ht,rfl⟩ := exists_piece_of_mem_paths hc p hp
  have piece := ((pieces_eq_ok_iff (by decide)).mp cut).2 t ht
  have inside := (within_of_mem_pieces cut t ht).subset
  have same : unquote t=t := by
    rw [unquote_of_unquoted fun quote => h (inside quote),Text.trim_of_trimmed piece.trimmed]
  rw [same]
  exact ⟨piece.nonempty,piece.trimmed,fun comma => whole (inside comma)⟩

/-- Only quotes can make a path that is no item. -/
theorem listable_of_parseAll {value : Text} (h : '"'∉value) {cs : List Clause}
    (read : parseAll value=.ok cs) : ∀ p∈cs.flatMap Clause.paths, Listable p := by
  rw [parseAll,Outcome.bind_eq_ok_iff] at read
  obtain ⟨ts,cut,read⟩ := read
  intro p hp
  obtain ⟨c,hc,hp⟩ := List.mem_flatMap.mp hp
  obtain ⟨t,ht,parsed⟩ := Outcome.exists_of_mem_mapM read hc
  have inside := (within_of_mem_pieces cut t ht).subset
  -- The header is cut at every comma, which leaves none in a clause.
  rw [pieces_of_unquoted h cut] at ht
  have whole := (Text.listable_of_mem_commaList ht).whole
  exact listable_of_unquoted (fun quote => h (inside quote)) whole parsed p hp

end Clause

end Header

end BundleManifest
