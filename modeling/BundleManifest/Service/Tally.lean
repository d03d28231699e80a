namespace BundleManifest.Service

abbrev Tally (α : Type) := List (α × Nat)

namespace Tally

variable {α : Type} [DecidableEq α]

/-- Counts one more occurrence of a label. -/
def mark (label : α) : Tally α → Tally α
  | [] => [(label,1)]
  | (l,n)::r => if l=label then (l,n+1)::r else (l,n)::mark label r

/-- How often a label occurred. -/
def count (label : α) : Tally α → Nat
  | [] => 0
  | (l,n)::r => if l=label then n else count label r

theorem count_mark (t : Tally α) (label other : α) :
    count other (mark label t)=count other t+if label=other then 1 else 0 := by
  induction t with
  | nil => simp [mark,count]
  | cons e r ih =>
    obtain ⟨l,n⟩ := e
    by_cases h : l=label
    · subst h
      by_cases h' : l=other <;> simp [mark,count,h']
    · by_cases h' : l=other
      · subst h'
        simp [mark,count,h,Ne.symm h]
      · simp [mark,count,h,h',ih]

end Tally

end BundleManifest.Service
