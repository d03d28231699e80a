import BundleManifest.Rejection

namespace BundleManifest.Header

/-- The parts between the delimiters outside quotes, and whether a quote is left open; `quoted` tells
whether one is open in front. The quotes stay in the parts. -/
def cutOutsideQuotes (delimiter : Char) (quoted : Bool) : Text → List Text × Bool
  | [] => ([[]],quoted)
  | c::r =>
    if c = '"' then (cutOutsideQuotes delimiter (!quoted) r).map (·.modifyHead (c::·)) id
    else if c=delimiter && !quoted then (cutOutsideQuotes delimiter quoted r).map ([]::·) id
    else (cutOutsideQuotes delimiter quoted r).map (·.modifyHead (c::·)) id

/-- The pieces of a header value, in order. -/
def pieces (delimiter : Char) (value : Text) : Outcome (List Text) :=
  let (parts,quoted) := cutOutsideQuotes delimiter false value
  if quoted then Outcome.reject (.unbalancedQuote value)
  else .ok ((parts.map Text.trim).filter (· ≠ []))

/-- The parts alone. -/
def parts (delimiter : Char) (quoted : Bool) (t : Text) : List Text :=
  (cutOutsideQuotes delimiter quoted t).1

theorem parts_nil (d : Char) (quoted : Bool) : parts d quoted []=[[]] := rfl

theorem parts_cons (d : Char) (quoted : Bool) (c : Char) (r : Text) :
    parts d quoted (c::r)=
      if c = '"' then (parts d (!quoted) r).modifyHead (c::·)
      else if c=d && !quoted then []::parts d quoted r
      else (parts d quoted r).modifyHead (c::·) := by
  rw [parts,cutOutsideQuotes]
  split
  · rfl
  · split <;> rfl

/-- The trimmed text without the double quotes that enclose it. -/
def unquote (t : Text) : Text :=
  match Text.trim t with
  | '"'::r => if r.getLast?=some '"' then r.dropLast else '"'::r
  | t => t

end BundleManifest.Header
