import BundleManifest.Proofs.Header.Pieces
import BundleManifest.Proofs.Header.Unquoted

namespace BundleManifest

/-- What stands between a parameter's name and its value. -/
def ParameterKind.sign : ParameterKind → Text
  | .attr => ['=']
  | .directive => [':','=']

namespace Header

open Text (Blank Trimmed)

/-- A path or a name that can stand without quotes. -/
structure Plain (t : Text) : Prop where
  nonempty : t≠[]
  trimmed : Trimmed t
  unreserved : ∀ c∈t, c∉['"',',',';','=']

instance (t : Text) : Decidable (Plain t) :=
  have : Decidable (∀ c∈t, c∉['"',',',';','=']) := List.decidableBAll _ t
  decidable_of_iff (t≠[] ∧ Trimmed t ∧ ∀ c∈t, c∉['"',',',';','='])
    ⟨fun h => ⟨h.1,h.2.1,h.2.2⟩,fun h => ⟨h.nonempty,h.trimmed,h.unreserved⟩⟩

/-- A parameter that can be laid out. An attribute whose name ended in a colon would be taken for a
directive. -/
structure Writable (kind : ParameterKind) (p : Parameter) : Prop where
  name : Plain p.name
  colon : kind=.attr → p.name.getLast?≠some ':'
  value : '"'∉p.value

instance (kind : ParameterKind) (p : Parameter) : Decidable (Writable kind p) :=
  decidable_of_iff (Plain p.name ∧ (kind=.attr → p.name.getLast?≠some ':') ∧ '"'∉p.value)
    ⟨fun h => ⟨h.1,h.2.1,h.2.2⟩,fun h => ⟨h.name,h.colon,h.value⟩⟩

def Parameter.text (kind : ParameterKind) (p : Parameter) : Text :=
  p.name++kind.sign++('"' :: p.value++['"'])

/-- What an author puts down for one clause. -/
structure Layout where
  paths : List Text
  parameters : List (ParameterKind × Parameter)

namespace Layout

/-- The parameters of one kind, in order. -/
def ofKind (kind : ParameterKind) (l : Layout) : List Parameter :=
  l.parameters.filterMap fun (k,p) => if k=kind then some p else none

/-- The texts of the paths and of the parameters. -/
def texts (l : Layout) : List Text :=
  l.paths++l.parameters.map fun (k,p) => p.text k

def clause (l : Layout) : Clause := ⟨l.paths,l.ofKind .attr,l.ofKind .directive⟩

structure WellFormed (l : Layout) : Prop where
  paths_nonempty : l.paths≠[]
  plain : ∀ p∈l.paths, Plain p
  writable : ∀ e∈l.parameters, Writable e.1 e.2

instance (l : Layout) : Decidable l.WellFormed :=
  decidable_of_iff
    (l.paths≠[] ∧ (∀ p∈l.paths, Plain p) ∧ ∀ e∈l.parameters, Writable e.1 e.2)
    ⟨fun h => ⟨h.1,h.2.1,h.2.2⟩,fun h => ⟨h.paths_nonempty,h.plain,h.writable⟩⟩

end Layout

theorem Plain.not_mem {t : Text} (h : Plain t) {c : Char} (hc : c∈['"',',',';','=']) : c∉t :=
  fun hm => h.unreserved c hm hc

theorem Plain.isPiece {t : Text} (h : Plain t) {d : Char} (hd : d∈[',',';']) : IsPiece d t where
  nonempty := h.nonempty
  trimmed := h.trimmed
  balanced := balanced_of_not_mem (h.not_mem (by decide))
  guarded := by
    apply guarded_of_not_mem
    apply h.not_mem
    simp only [List.mem_cons,List.not_mem_nil,or_false] at hd ⊢
    rcases hd with rfl|rfl <;> simp

theorem trimmed_quotes (v : Text) : Trimmed ('"' :: v++['"']) := by
  have one : Trimmed ['"'] := by decide
  exact one.append one (by simp) (by simp) v

theorem Writable.isPiece {kind : ParameterKind} {p : Parameter} (h : Writable kind p) {d : Char}
    (hd : d∈[',',';']) : IsPiece d (p.text kind) := by
  have name := h.name.isPiece hd
  have sign : '"'∉kind.sign ∧ d∉kind.sign := by
    simp only [List.mem_cons,List.not_mem_nil,or_false] at hd
    rcases hd with rfl|rfl <;> cases kind <;> decide
  have quote : d ≠ '"' := by
    rintro rfl
    exact absurd hd (by decide)
  have value := guarded_quoted quote h.value
  have closed : Balanced (p.name++kind.sign) :=
    balanced_append.mpr ⟨fun _ => balanced_of_not_mem sign.1,fun _ => name.balanced⟩
  constructor
  · simp [Parameter.text]
  · exact h.name.trimmed.append (trimmed_quotes _) h.name.nonempty (by simp) kind.sign
  · have quotes : Balanced ('"' :: p.value++['"']) := by
      have inner : Balanced p.value := balanced_of_not_mem h.value
      have last : ¬Balanced ['"'] := by decide
      simp [balanced_quote,balanced_append,inner,last]
    exact balanced_append.mpr ⟨fun _ => quotes,fun _ => closed⟩
  · have front := name.guarded.append name.balanced (guarded_of_not_mem sign.2)
    exact front.append closed value

theorem unquote_plain {t : Text} (h : Plain t) : unquote t=t := by
  rw [unquote_of_unquoted (h.not_mem (by decide)),Text.trim_of_trimmed h.trimmed]

theorem unquote_quoted (v : Text) : unquote ('"' :: (v++['"']))=v := by
  have whole : Text.trim ('"' :: (v++['"'])) = '"' :: (v++['"']) :=
    Text.trim_of_trimmed (trimmed_quotes v)
  rw [unquote,whole]
  simp

theorem ofText_plain {t : Text} (h : Plain t) : Piece.ofText t=.path t := by
  rw [Piece.ofText,Text.cut?_of_not_mem (h.not_mem (by decide))]
  exact congrArg _ (unquote_plain h)

theorem ofText_text {kind : ParameterKind} {p : Parameter} (h : Writable kind p) :
    Piece.ofText (p.text kind)=.parameter kind p := by
  have name : Text.trim p.name=p.name := Text.trim_of_trimmed h.name.trimmed
  have sign : '='∉p.name := h.name.not_mem (by decide)
  cases kind with
  | attr =>
    have text : p.text .attr=p.name ++ '=' :: ('"' :: p.value++['"']) := by
      simp [Parameter.text,ParameterKind.sign]
    rw [text,Piece.ofText,Text.cut?_append sign]
    simp [name,h.colon rfl,unquote_quoted]
  | directive =>
    have text : p.text .directive=(p.name++[':']) ++ '=' :: ('"' :: p.value++['"']) := by
      simp [Parameter.text,ParameterKind.sign]
    have left : Text.trim (p.name++[':'])=p.name++[':'] := by
      have colon : Trimmed [':'] := by decide
      have both := h.name.trimmed.append colon h.name.nonempty (by simp) []
      rw [List.append_nil] at both
      exact Text.trim_of_trimmed both
    rw [text,Piece.ofText,Text.cut?_append (by simp [sign])]
    simp [left,name,unquote_quoted]

theorem Layout.isPiece_texts {l : Layout} (h : l.WellFormed) {d : Char} (hd : d∈[',',';']) :
    ∀ t∈l.texts, IsPiece d t := by
  intro t ht
  rcases List.mem_append.mp ht with path|parameter
  · exact (h.plain t path).isPiece hd
  · obtain ⟨e,he,rfl⟩ := List.mem_map.mp parameter
    exact (h.writable e he).isPiece hd

namespace Clause

theorem ofPieces_parameters (clause : Text) {es : List (ParameterKind × Parameter)}
    (h : ∀ e∈es, Writable e.1 e.2) (afterParameter : Bool) :
    ofPieces clause afterParameter (es.map fun (k,p) => p.text k)=.ok (Layout.mk [] es).clause := by
  induction es generalizing afterParameter with
  | nil => rfl
  | cons e es ih =>
    obtain ⟨kind,p⟩ := e
    have writable := h (kind,p) List.mem_cons_self
    have text := ofText_text writable
    have named : p.name.isEmpty=false := List.isEmpty_eq_false_iff.mpr writable.name.nonempty
    have rest := ih fun x hx => h x (List.mem_cons_of_mem _ hx)
    rw [List.map_cons,ofPieces]
    simp only [checkPiece,text,named,rest]
    cases kind <;> rfl

theorem ofPieces_paths (clause : Text) {paths : List Text} (h : ∀ p∈paths, Plain p)
    {ts : List Text} {c : Clause} (hc : ofPieces clause false ts=.ok c) :
    ofPieces clause false (paths++ts)=.ok {c with paths := paths++c.paths} := by
  induction paths with
  | nil => exact hc
  | cons p paths ih =>
    have text := ofText_plain (h p List.mem_cons_self)
    have rest := ih fun q hq => h q (List.mem_cons_of_mem p hq)
    rw [List.cons_append,ofPieces]
    simp only [checkPiece,text,Bool.or_false,rest]
    rfl

/-- A clause that was laid out is read back. -/
theorem parse_of_joined {l : Layout} (h : l.WellFormed) {u : Text} (hu : Joined ';' l.texts u) :
    parse u=.ok l.clause := by
  have cut := pieces_of_joined (by decide) hu (Layout.isPiece_texts h (by decide))
  have read : ofPieces u false l.texts=.ok l.clause := by
    have all := ofPieces_paths u h.plain (ofPieces_parameters u h.writable false)
    simpa [Layout.texts,Layout.clause,Layout.ofKind] using all
  exact parse_eq_ok_iff.mpr ⟨l.texts,cut,read,h.paths_nonempty⟩

end Clause

end Header

end BundleManifest
