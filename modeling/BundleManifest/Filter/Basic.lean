import BundleManifest.Text.Basic

namespace BundleManifest

/-- The tests that compare a property with one text. -/
inductive Comparison where
  | equal
  | approximate
  | atLeast
  | atMost
  deriving DecidableEq, Repr

def Comparison.symbol : Comparison → Text
  | .equal => ['=']
  | .approximate => ['~','=']
  | .atLeast => ['>','=']
  | .atMost => ['<','=']

inductive Filter where
  | all (parts : List Filter)
  | any (parts : List Filter)
  | not (part : Filter)
  | compare (operator : Comparison) (key value : Text)
  | present (key : Text)
  /-- The value starts with the first piece, ends with the last, and holds the middle ones between
  them in order. -/
  | substring (key first : Text) (middle : List Text) (last : Text)
  deriving Repr

namespace Filter

def isSpecial (c : Char) : Bool := c = '(' || c = ')' || c = '*' || c = '\\'

/-- A value with a backslash before every character that would end or split it. -/
def escape (value : Text) : Text :=
  value.flatMap fun c => if isSpecial c then ['\\',c] else [c]

mutual

/-- The canonical text of a filter, which reads back as the filter. -/
def toText : Filter → Text
  | .all fs => '(' :: '&' :: toTexts fs ++ [')']
  | .any fs => '(' :: '|' :: toTexts fs ++ [')']
  | .not f => '(' :: '!' :: toText f ++ [')']
  | .compare op key value => '(' :: key ++ op.symbol ++ escape value ++ [')']
  | .present key => '(' :: key ++ ['=','*',')']
  | .substring key first middle last =>
    '(' :: key ++ '=' :: Text.join ['*'] ((first::middle++[last]).map escape) ++ [')']

/-- The canonical texts, one after the other. -/
def toTexts : List Filter → Text
  | [] => []
  | f::r => toText f++toTexts r

end

mutual

/-- Equality of filters, by recursion on the trees. -/
def same : Filter → Filter → Bool
  | .all fs,.all gs => sameAll fs gs
  | .any fs,.any gs => sameAll fs gs
  | .not f,.not g => same f g
  | .compare op key value,.compare op' key' value' => op==op' && key==key' && value==value'
  | .present key,.present key' => key==key'
  | .substring key first middle last,.substring key' first' middle' last' =>
    key==key' && first==first' && middle==middle' && last==last'
  | _,_ => false

def sameAll : List Filter → List Filter → Bool
  | [],[] => true
  | f::fs,g::gs => same f g && sameAll fs gs
  | _,_ => false

end

mutual

theorem eq_of_same : ∀ {f g : Filter},same f g=true → f=g
  | .all fs,.all gs,h => by
    simp only [same] at h
    rw [eq_of_sameAll h]
  | .any fs,.any gs,h => by
    simp only [same] at h
    rw [eq_of_sameAll h]
  | .not f,.not g,h => by
    simp only [same] at h
    rw [eq_of_same h]
  | .compare .., .compare ..,h => by
    simp only [same,Bool.and_eq_true,beq_iff_eq] at h
    simp [h]
  | .present _,.present _,h => by
    simp only [same,beq_iff_eq] at h
    simp [h]
  | .substring .., .substring ..,h => by
    simp only [same,Bool.and_eq_true,beq_iff_eq] at h
    simp [h]
  | .all _,.any _,h | .all _,.not _,h | .all _,.compare ..,h | .all _,.present _,h
  | .all _,.substring ..,h | .any _,.all _,h | .any _,.not _,h | .any _,.compare ..,h
  | .any _,.present _,h | .any _,.substring ..,h | .not _,.all _,h | .not _,.any _,h
  | .not _,.compare ..,h | .not _,.present _,h | .not _,.substring ..,h | .compare ..,.all _,h
  | .compare ..,.any _,h | .compare ..,.not _,h | .compare ..,.present _,h
  | .compare ..,.substring ..,h | .present _,.all _,h | .present _,.any _,h | .present _,.not _,h
  | .present _,.compare ..,h | .present _,.substring ..,h | .substring ..,.all _,h
  | .substring ..,.any _,h | .substring ..,.not _,h | .substring ..,.compare ..,h
  | .substring ..,.present _,h => by simp [same] at h

theorem eq_of_sameAll : ∀ {fs gs : List Filter},sameAll fs gs=true → fs=gs
  | [],[],_ => rfl
  | f::fs,g::gs,h => by
    simp only [sameAll,Bool.and_eq_true] at h
    rw [eq_of_same h.1,eq_of_sameAll h.2]
  | [],_::_,h => by simp [sameAll] at h
  | _::_,[],h => by simp [sameAll] at h

end

mutual

theorem same_self : ∀ f : Filter,same f f=true
  | .all fs => by simp [same,sameAll_self fs]
  | .any fs => by simp [same,sameAll_self fs]
  | .not f => by simp [same,same_self f]
  | .compare .. => by simp [same]
  | .present _ => by simp [same]
  | .substring .. => by simp [same]

theorem sameAll_self : ∀ fs : List Filter,sameAll fs fs=true
  | [] => rfl
  | f::fs => by simp [sameAll,same_self f,sameAll_self fs]

end

instance : DecidableEq Filter := fun f g =>
  if h : same f g=true then .isTrue (eq_of_same h)
  else .isFalse fun e => h (e▸same_self f)

end Filter

end BundleManifest
