import BundleManifest.Header.Pieces

namespace BundleManifest.Header

/-- A named text value, as it is written. -/
structure Parameter where
  name : Text
  value : Text
  deriving DecidableEq, Repr

/-- One piece of a clause. -/
inductive Piece where
  | path (name : Text)
  | parameter (kind : ParameterKind) (content : Parameter)
  deriving DecidableEq, Repr

/-- A piece without an equals sign is a path; a colon before the sign makes a directive. -/
def Piece.ofText (t : Text) : Piece :=
  match Text.cut? '=' t with
  | none => .path (unquote t)
  | some (left,right) =>
    let name := Text.trim left
    let value := unquote right
    if name.getLast?=some ':' then .parameter .directive ⟨Text.trim name.dropLast,value⟩
    else .parameter .attr ⟨name,value⟩

/-- The paths, attributes and directives of one clause, each in written order. -/
structure Clause where
  paths : List Text := []
  attributes : List Parameter := []
  directives : List Parameter := []
  deriving DecidableEq, Repr

/-- Puts a piece in front of the pieces that follow it. -/
def Clause.cons : Piece → Clause → Clause
  | .path p,c => {c with paths := p::c.paths}
  | .parameter .attr p,c => {c with attributes := p::c.attributes}
  | .parameter .directive p,c => {c with directives := p::c.directives}

/-- Refuses a path after a parameter and a parameter without a name. -/
def checkPiece (clause : Text) (afterParameter : Bool) (piece : Text) : Outcome Unit :=
  match Piece.ofText piece with
  | .path _ => if afterParameter then Outcome.reject (.misplacedPath piece clause) else .ok ()
  | .parameter _ p => if p.name.isEmpty then Outcome.reject (.namelessParameter clause) else .ok ()

/-- The clause that the pieces make up; `afterParameter` tells whether one came before them. -/
def Clause.ofPieces (clause : Text) (afterParameter : Bool) : List Text → Outcome Clause
  | [] => .ok {}
  | t::r => do
    checkPiece clause afterParameter t
    let piece := Piece.ofText t
    let isParameter := match piece with
      | .path _ => false
      | .parameter .. => true
    let rest ← Clause.ofPieces clause (afterParameter || isParameter) r
    return .cons piece rest

/-- Reads one clause, which has to name at least one path. -/
def Clause.parse (clause : Text) : Outcome Clause := do
  let c ← Clause.ofPieces clause false (← pieces ';' clause)
  if c.paths.isEmpty then Outcome.reject (.missingPath clause)
  return c

/-- The first name that occurs a second time; `seen` holds the names before. -/
def firstRepeat? (seen : List Text) : List Text → Option Text
  | [] => none
  | n::r => if n∈seen then some n else firstRepeat? (n::seen) r

/-- Refuses parameters that give one name twice. -/
def checkDistinct (kind : ParameterKind) (clause : Text) (ps : List Parameter) : Outcome Unit :=
  match firstRepeat? [] (ps.map Parameter.name) with
  | some n => Outcome.reject (.repeatedParameter kind n clause)
  | none => .ok ()

end BundleManifest.Header
