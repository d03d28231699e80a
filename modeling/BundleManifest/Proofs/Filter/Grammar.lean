import BundleManifest.Filter.Reader
import BundleManifest.Proofs.Filter.Depth
import BundleManifest.Proofs.Text.Trim

namespace BundleManifest.Filter

open Text (Blank Trimmed)

/-- A property name as it stands in a filter. -/
structure IsKey (key : Text) : Prop where
  nonempty : key≠[]
  trimmed : Trimmed key
  unbroken : ∀ c∈key, c∉['=','<','>','~','(',')']
  /-- It cannot be taken for a connective. -/
  start : ∀ c∈key.head?, c∉['&','|','!']

/-- The text spells a value that wildcards cut into pieces, a first one and those behind it. -/
inductive Spells : Text → Text → List Text → Prop
  | done : Spells [] [] []
  | literal {c : Char} {s piece : Text} {pieces : List Text} : c∉['(',')','*','\\'] →
    Spells s piece pieces → Spells (c::s) (c::piece) pieces
  | escaped {c : Char} {s piece : Text} {pieces : List Text} :
    Spells s piece pieces → Spells ('\\' :: c :: s) (c::piece) pieces
  | wildcard {s piece : Text} {pieces : List Text} :
    Spells s piece pieces → Spells ('*' :: s) [] (piece::pieces)

/-- The text is a key, an operator and a value. Only equality takes wildcards. -/
inductive Test : Text → Filter → Prop
  | compare (op : Comparison) {key b s value : Text} : IsKey key → Blank b →
    Spells s value [] → Test (key++b++op.symbol++s) (.compare op key value)
  | present {key b s : Text} : IsKey key → Blank b →
    Spells s [] [[]] → Test (key++b++Comparison.equal.symbol++s) (.present key)
  | substring {key b s first last : Text} {middle : List Text} : IsKey key → Blank b →
    Spells s first (middle++[last]) → ¬(first=[] ∧ middle=[] ∧ last=[]) →
    Test (key++b++Comparison.equal.symbol++s) (.substring key first middle last)

/-- What the characters that join filters stand for. -/
inductive Joins : Char → (List Filter → Filter) → Prop
  | all : Joins '&' .all
  | any : Joins '|' .any

mutual

/-- The text is a filter: a group or a test between parentheses. A test takes all there is up to
the closing one. -/
inductive Derives : Text → Filter → Prop
  | group {a b s c : Text} {f : Filter} : Blank a → Blank b → Group s f → Blank c →
    Derives (a ++ '(' :: b ++ s ++ c ++ [')']) f
  | test {a b s : Text} {f : Filter} : Blank a → Blank b → Test s f →
    Derives (a ++ '(' :: b ++ s ++ [')']) f

/-- The text joins one or more filters, or negates one. -/
inductive Group : Text → Filter → Prop
  | join {op : Char} {make : List Filter → Filter} {s : Text} {fs : List Filter} :
    Joins op make → fs≠[] → Sequence s fs → Group (op::s) (make fs)
  | not {s : Text} {f : Filter} : Derives s f → Group ('!' :: s) (.not f)

/-- The text is one filter after the other. -/
inductive Sequence : Text → List Filter → Prop
  | nil : Sequence [] []
  | cons {s r : Text} {f : Filter} {fs : List Filter} :
    Derives s f → Sequence r fs → Sequence (s++r) (f::fs)

end

/-- The calls that reading a filter goes down: one for the filter, one more for a list, and those that
a test takes. -/
def descent (stack : ReadStack) : Filter → Nat := depth 1 2 fun _ => stack.test+1

/-- The most calls for any of the filters. -/
def deepest (stack : ReadStack) : List Filter → Nat := depths 1 2 fun _ => stack.test+1

variable {stack : ReadStack}

theorem descent_not (f : Filter) : (Filter.not f).descent stack=f.descent stack+1 := by
  rw [descent,depth]

theorem deepest_cons (f : Filter) (fs : List Filter) :
    deepest stack (f::fs)=max (f.descent stack) (deepest stack fs) := by
  rw [deepest,depths]
  rfl

theorem deepest_nil : deepest stack []=0 := by
  rw [deepest,depths]

theorem Joins.descent_eq {op : Char} {make : List Filter → Filter} (h : Joins op make)
    (fs : List Filter) : (make fs).descent stack=deepest stack fs+2 := by
  cases h <;> rw [descent,depth,deepest]

theorem Joins.isBlank_eq {op : Char} {make : List Filter → Filter} (h : Joins op make) :
    Text.isBlank op=false := by
  cases h <;> decide

theorem Test.descent_eq {s : Text} {f : Filter} (h : Test s f) :
    f.descent stack=stack.test+1 := by
  cases h <;> rw [descent,depth]

theorem descent_pos (stack : ReadStack) (f : Filter) : 0 < f.descent stack := by
  cases f <;> simp only [descent,depth] <;> omega

theorem deepest_pos (stack : ReadStack) {fs : List Filter} (h : fs≠[]) : 0 < deepest stack fs := by
  obtain ⟨f,r,rfl⟩ := List.exists_cons_of_ne_nil h
  have first := descent_pos stack f
  rw [deepest_cons]
  omega

/-- A reader that may go down `n` calls runs out of them inside of the text, for filters alone. -/
inductive TooDeep : Nat → Text → Prop
  | spent (s : Text) : TooDeep 0 s
  | negation {n : Nat} {a b s : Text} : Blank a → Blank b → TooDeep n s →
    TooDeep (n+1) (a ++ '(' :: b ++ '!' :: s)
  /-- The list holds filters up to the one that is too deep. -/
  | member {n : Nat} {op : Char} {make : List Filter → Filter} {a b s c r : Text}
    {fs : List Filter} : Blank a → Blank b → Joins op make → Sequence s fs → Blank c →
    TooDeep (n-1) ('(' :: r) → TooDeep (n+1) (a ++ '(' :: b ++ op :: s ++ c ++ '(' :: r)

end BundleManifest.Filter
