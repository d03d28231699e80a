import BundleManifest.Filter.Basic
import BundleManifest.Rejection

namespace BundleManifest.Filter

/-- What is left of the stack where a filter is printed. -/
structure PrintStack where
  /-- The calls that printing may go down. -/
  room : Nat
  /-- The calls between a filter and its parts. -/
  parts : Nat
  /-- The calls that a test takes. -/
  test : Filter → Nat

mutual

/-- The canonical text, printed with so much room. -/
def printIn (stack : PrintStack) (room : Nat) : Filter → Outcome Text
  | .all fs => Outcome.within room (stack.parts+1) do
    return '(' :: '&' :: (← printAll stack (room-(stack.parts+1)) fs) ++ [')']
  | .any fs => Outcome.within room (stack.parts+1) do
    return '(' :: '|' :: (← printAll stack (room-(stack.parts+1)) fs) ++ [')']
  | .not f => Outcome.within room (stack.parts+1) do
    return '(' :: '!' :: (← printIn stack (room-(stack.parts+1)) f) ++ [')']
  | f => Outcome.within room (stack.test f+1) (.ok f.toText)

def printAll (stack : PrintStack) (room : Nat) : List Filter → Outcome Text
  | [] => .ok []
  | f::fs => do return (← printIn stack room f) ++ (← printAll stack room fs)

end

/-- Prints a filter. -/
def print (stack : PrintStack) (f : Filter) : Outcome Text := printIn stack stack.room f

end BundleManifest.Filter
