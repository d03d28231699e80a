import BundleManifest.Proofs.Text.Join
import BundleManifest.Proofs.Text.Upper
import BundleManifest.Proofs.Version.Canonical
import BundleManifest.Service.Counters

namespace BundleManifest

namespace Decimal

theorem natText_injective : Function.Injective natText :=
  Function.LeftInverse.injective value_natText

theorem isDigit_of_mem_natText {n : Nat} {c : Char} (h : c∈natText n) : c.isDigit :=
  List.all_eq_true.mp (Version.numeral_natText n).all c h

theorem mem_intText {n : Int} {c : Char} (h : c∈intText n) : c = '-' ∨ c.isDigit := by
  cases n with
  | ofNat n => exact .inr (isDigit_of_mem_natText h)
  | negSucc n => exact (List.mem_cons.mp h).imp_right isDigit_of_mem_natText

theorem intText_injective : Function.Injective intText := by
  have signed {m n : Nat} : intText (.ofNat m)≠intText (.negSucc n) := by
    intro same
    have sign : '-'∈natText m := by
      rw [show natText m=_ from same]
      exact List.mem_cons_self
    exact absurd (isDigit_of_mem_natText sign) (by decide)
  rintro (m|m) (n|n) same
  · rw [natText_injective same]
  · exact absurd same signed
  · exact absurd same.symm signed
  · have digits : natText (m+1)=natText (n+1) := (List.cons_eq_cons.mp same).2
    rw [Nat.succ.inj (natText_injective digits)]

end Decimal

namespace Service.Counters

/-- A status as it is written behind a path. -/
def statusText : Option Int → Text
  | some n => Decimal.intText n
  | none => "unknown".toList

def pathMark : Text := "path_".toList

def methodMark : Text := "requests_".toList

theorem pathKey_eq (path : Text) (status : Option Int) :
    pathKey path status=pathMark ++ (path ++ '|' :: statusText status) := by
  rw [← List.append_assoc]
  cases status <;> rfl

theorem methodKey_eq (method : Text) : methodKey method=methodMark++method := rfl

theorem resultKey_eq (result : Text) : resultKey result=resultMark++result := rfl

theorem bar_not_mem_statusText (status : Option Int) : '|'∉statusText status := by
  cases status with
  | none => decide
  | some n =>
    intro h
    rcases Decimal.mem_intText h with sign|digit
    · exact absurd sign (by decide)
    · exact absurd digit (by decide)

theorem statusText_injective : Function.Injective statusText := by
  have known {n : Int} : statusText (some n)≠statusText none := by
    intro same
    have letter : 'u'∈Decimal.intText n := by
      rw [show Decimal.intText n=_ from same]
      decide
    rcases Decimal.mem_intText letter with sign|digit
    · exact absurd sign (by decide)
    · exact absurd digit (by decide)
  rintro (_|m) (_|n) same
  · rfl
  · exact absurd same.symm known
  · exact absurd same known
  · rw [Decimal.intText_injective same]

/-- The status is what follows the last bar, whatever bars the path has. -/
theorem pathKey_inj {path other : Text} {status status' : Option Int} :
    pathKey path status=pathKey other status' ↔ path=other ∧ status=status' := by
  constructor
  · intro same
    rw [pathKey_eq,pathKey_eq,List.append_cancel_left_eq] at same
    have last := congrArg (Text.afterLast '|') same
    rw [Text.afterLast_append (bar_not_mem_statusText _),
      Text.afterLast_append (bar_not_mem_statusText _)] at last
    rw [last,List.append_cancel_right_eq] at same
    exact ⟨same,statusText_injective last⟩
  · rintro ⟨rfl,rfl⟩
    rfl

theorem methodKey_inj {method other : Text} : methodKey method=methodKey other ↔ method=other := by
  rw [methodKey_eq,methodKey_eq,List.append_cancel_left_eq]

theorem resultKey_inj {result other : Text} : resultKey result=resultKey other ↔ result=other := by
  rw [resultKey_eq,resultKey_eq,List.append_cancel_left_eq]

/-- No method in upper case is the word for the total. -/
theorem methodKey_upper_ne_total (method : Text) : methodKey (Text.upper method)≠totalKey := by
  intro same
  have word : methodKey (Text.upper method)=methodKey "total".toList := same.trans (by decide)
  have small : 't'∈Text.upper method := by
    rw [methodKey_inj.mp word]
    decide
  exact Text.not_isLower_of_mem_upper small (by decide)

theorem pathKey_ne_total (path : Text) (status : Option Int) : pathKey path status≠totalKey := by
  rw [pathKey_eq]
  intro same
  have first := congrArg List.head? same
  cases first

theorem pathKey_ne_methodKey (path : Text) (status : Option Int) (method : Text) :
    pathKey path status≠methodKey method := by
  rw [pathKey_eq,methodKey_eq]
  intro same
  have first := congrArg List.head? same
  cases first

theorem resultKey_ne_parses (result : Text) : resultKey result≠parsesKey := by
  rw [resultKey_eq]
  intro same
  have differ := congrArg (fun t => t[14]?) same
  cases differ

theorem isPrefixOf_append (mark t : Text) : mark.isPrefixOf (mark++t)=true :=
  List.isPrefixOf_iff_prefix.mpr (List.prefix_append mark t)

theorem marked_pathKey (path : Text) (status : Option Int) :
    pathMark.isPrefixOf (pathKey path status)=true := by
  rw [pathKey_eq]
  exact isPrefixOf_append _ _

theorem marked_methodKey (method : Text) : methodMark.isPrefixOf (methodKey method)=true :=
  isPrefixOf_append _ _

theorem marked_resultKey (result : Text) : resultMark.isPrefixOf (resultKey result)=true :=
  isPrefixOf_append _ _

theorem methodMark_pathKey (path : Text) (status : Option Int) :
    methodMark.isPrefixOf (pathKey path status)=false := rfl

theorem pathMark_methodKey (method : Text) : pathMark.isPrefixOf (methodKey method)=false := rfl

theorem pathMark_total : pathMark.isPrefixOf totalKey=false := by decide

theorem resultMark_parses : resultMark.isPrefixOf parsesKey=false := by decide

end Service.Counters

end BundleManifest
