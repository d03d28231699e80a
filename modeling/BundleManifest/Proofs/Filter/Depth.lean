import BundleManifest.Filter.Basic
import Mathlib.Logic.Function.Iterate

namespace BundleManifest.Filter

mutual

/-- The calls that a walk goes down into a filter, if a negation takes `negation` of them, a list takes
`list`, and a test what `test` says. -/
def depth (negation list : Nat) (test : Filter → Nat) : Filter → Nat
  | .all fs | .any fs => depths negation list test fs+list
  | .not f => depth negation list test f+negation
  | .compare op key value => test (.compare op key value)
  | .present key => test (.present key)
  | .substring key first middle last => test (.substring key first middle last)

/-- The most calls that it goes down into any of the filters. -/
def depths (negation list : Nat) (test : Filter → Nat) : List Filter → Nat
  | [] => 0
  | f::fs => max (depth negation list test f) (depths negation list test fs)

end

/-- Where each layer around a filter adds the same, many layers add it that many times. -/
theorem measure_iterate {measure : Filter → Nat} {around : Filter → Filter} {more : Nat}
    (step : ∀ f, measure (around f)=measure f+more) (f : Filter) (n : Nat) :
    measure (around^[n] f)=measure f+n*more := by
  induction n with
  | zero => simp
  | succ n ih => rw [Function.iterate_succ_apply',step,ih,Nat.succ_mul,Nat.add_assoc]

end BundleManifest.Filter
