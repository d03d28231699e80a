import BundleManifest.Rejection

namespace BundleManifest

/-- A version; the default is 0.0.0, the least one. -/
structure Version where
  major : Nat := 0
  minor : Nat := 0
  micro : Nat := 0
  qualifier : Text := []
  deriving DecidableEq, Repr

namespace Version

instance : Inhabited Version := ⟨{}⟩

instance : LT Version where
  lt a b := a.major < b.major ∨ a.major=b.major ∧ (a.minor < b.minor ∨ a.minor=b.minor ∧
    (a.micro < b.micro ∨ a.micro=b.micro ∧ a.qualifier < b.qualifier))

instance : LE Version where
  le a b := a < b ∨ a=b

instance (a b : Version) : Decidable (a < b) :=
  inferInstanceAs (Decidable (_ ∨ _ ∧ (_ ∨ _ ∧ (_ ∨ _ ∧ _))))

instance (a b : Version) : Decidable (a ≤ b) := inferInstanceAs (Decidable (_ ∨ _))

/-- The canonical text: three numbers, and the qualifier unless it is empty. -/
def toText (v : Version) : Text :=
  let numbers := Text.join ['.'] ([v.major,v.minor,v.micro].map Decimal.natText)
  if v.qualifier.isEmpty then numbers else numbers ++ '.' :: v.qualifier

def isQualifierChar (c : Char) : Bool := c.isAlphanum || c = '_' || c = '-'

/-- The number that one component stands for; `value` is the text it comes from. -/
def component (value part : Text) : Outcome Nat :=
  if part.isEmpty || !part.all Char.isDigit then Outcome.reject (.invalidVersion value)
  else match Decimal.numeral? part with
    | some n => .ok n
    | none => .error .numeralTooLong

/-- Reads up to three numbers and a qualifier, cut at the first three dots. Missing numbers are
zero and blank text is 0.0.0. -/
def parse (value : Text) : Outcome Version :=
  let body := Text.trim value
  if body.isEmpty then .ok {}
  else do
    let parts := Text.cutUpTo '.' 3 body
    let numbers ← (parts.take 3).mapM (component value)
    let version : Version := ⟨numbers.getD 0 0,numbers.getD 1 0,numbers.getD 2 0,[]⟩
    match parts[3]? with
    | none => return version
    | some qualifier =>
      if qualifier.isEmpty || !qualifier.all isQualifierChar then
        Outcome.reject (.invalidQualifier value)
      else return {version with qualifier}

end Version

end BundleManifest
