import BundleManifest.Proofs.Text.Infix

namespace BundleManifest.Header

open Outcome (FaultsAmong)

theorem pieces_faults (d : Char) (t : Text) : FaultsAmong [] (pieces d t) := by
  rw [pieces]
  dsimp only
  split_ifs
  · exact .reject _
  · exact .ok _

theorem checkPiece_faults (clause : Text) (afterParameter : Bool) (piece : Text) :
    FaultsAmong [] (checkPiece clause afterParameter piece) := by
  rw [checkPiece]
  split
  · split_ifs
    · exact .reject _
    · exact .ok _
  · split_ifs
    · exact .reject _
    · exact .ok _

namespace Clause

theorem ofPieces_faults (clause : Text) (afterParameter : Bool) (ts : List Text) :
    FaultsAmong [] (ofPieces clause afterParameter ts) := by
  induction ts generalizing afterParameter with
  | nil => exact .ok _
  | cons t ts ih =>
    rw [ofPieces]
    exact .bind (checkPiece_faults _ _ _) fun _ _ => .bind (ih _) fun _ _ => .pure _

theorem parse_faults (clause : Text) : FaultsAmong [] (parse clause) := by
  rw [parse]
  refine .bind (pieces_faults _ _) fun ps _ => .bind (ofPieces_faults _ _ _) fun c _ => ?_
  dsimp only
  split_ifs
  · exact .reject _
  · exact .pure _

theorem attributes_cons_within {t : Text} {c : Clause} {a : Parameter}
    (h : a∈(cons (Piece.ofText t) c).attributes) : a.value<:+:t ∨ a∈c.attributes := by
  cases he : Piece.ofText t with
  | path p => exact .inr (by simpa [he,cons] using h)
  | parameter kind p =>
    cases kind with
    | attr =>
      rw [he] at h
      rcases List.mem_cons.mp h with rfl|h
      · exact .inl (Piece.value_within he)
      · exact .inr h
    | directive => exact .inr (by simpa [he,cons] using h)

theorem ofPieces_within {clause : Text} {afterParameter : Bool} {ts : List Text} {c : Clause}
    (h : ofPieces clause afterParameter ts=.ok c) :
    ∀ a∈c.attributes, ∃ t∈ts, a.value<:+:t := by
  induction ts generalizing afterParameter c with
  | nil =>
    obtain rfl := Except.ok.inj h
    exact nofun
  | cons t ts ih =>
    simp only [ofPieces,Outcome.bind_eq_ok_iff,Outcome.pure_eq_ok_iff] at h
    obtain ⟨_,-,rest,hr,rfl⟩ := h
    intro a ha
    rcases attributes_cons_within ha with ha|ha
    · exact ⟨t,List.mem_cons_self,ha⟩
    · obtain ⟨u,hu,hi⟩ := ih hr a ha
      exact ⟨u,List.mem_cons_of_mem t hu,hi⟩

theorem parse_eq_ok_iff {clause : Text} {c : Clause} :
    parse clause=.ok c ↔
      ∃ ts, pieces ';' clause=.ok ts ∧ ofPieces clause false ts=.ok c ∧ c.paths≠[] := by
  simp only [parse,Outcome.bind_eq_ok_iff,Outcome.reject_bind,Outcome.ite_reject_eq_ok_iff,
    Outcome.pure_eq_ok_iff,List.isEmpty_iff]
  constructor
  · rintro ⟨ts,cut,d,hd,paths,rfl⟩
    exact ⟨ts,cut,hd,paths⟩
  · rintro ⟨ts,cut,hc,paths⟩
    exact ⟨ts,cut,c,hc,paths,rfl⟩

/-- The values of the attributes are parts of the clause. -/
theorem parse_within {clause : Text} {c : Clause} (h : parse clause=.ok c) :
    ∀ a∈c.attributes, a.value<:+:clause := by
  obtain ⟨ts,cut,hc,-⟩ := parse_eq_ok_iff.mp h
  intro a ha
  obtain ⟨t,hm,hi⟩ := ofPieces_within hc a ha
  exact hi.trans (within_of_mem_pieces cut t hm)

/-- The clauses of a header before anything is made of their parameters. -/
def parseAll (value : Text) : Outcome (List Clause) := do
  (← pieces ',' value).mapM parse

end Clause

theorem firstRepeat?_eq_none_iff {seen ns : List Text} :
    firstRepeat? seen ns=none ↔ ns.Nodup ∧ ∀ n∈ns, n∉seen := by
  induction ns generalizing seen with
  | nil => simp [firstRepeat?]
  | cons n ns ih =>
    rw [firstRepeat?,List.nodup_cons,List.forall_mem_cons]
    by_cases hn : n∈seen
    · simp [hn]
    · rw [if_neg hn,ih]
      constructor
      · rintro ⟨nodup,fresh⟩
        refine ⟨⟨fun hm => fresh n hm List.mem_cons_self,nodup⟩,hn,?_⟩
        exact fun m hm hs => fresh m hm (List.mem_cons_of_mem n hs)
      · rintro ⟨⟨away,nodup⟩,-,fresh⟩
        refine ⟨nodup,fun m hm hs => ?_⟩
        rcases List.mem_cons.mp hs with rfl|hs
        · exact away hm
        · exact fresh m hm hs

theorem checkDistinct_eq_ok_iff {kind : ParameterKind} {clause : Text} {ps : List Parameter}
    {u : Unit} : checkDistinct kind clause ps=.ok u ↔ (ps.map Parameter.name).Nodup := by
  have distinct : firstRepeat? [] (ps.map Parameter.name)=none ↔ _ := firstRepeat?_eq_none_iff
  rw [checkDistinct]
  cases h : firstRepeat? [] (ps.map Parameter.name) with
  | none => simpa [h] using distinct
  | some n => simpa [h] using distinct

theorem checkDistinct_faults (kind : ParameterKind) (clause : Text) (ps : List Parameter) :
    FaultsAmong [] (checkDistinct kind clause ps) := by
  rw [checkDistinct]
  split
  · exact .reject _
  · exact .ok _

end BundleManifest.Header
