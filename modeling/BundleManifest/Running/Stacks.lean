import BundleManifest.Filter.Printer
import BundleManifest.Platform.Matcher

namespace BundleManifest.Running

/-- How deep documents may nest. -/
def nesting : Nat := 980

/-- About what is left of a stack of a thousand calls. -/
def readStack : Filter.ReadStack := { room := 984,test := 4,refusal := fun _ => 6 }

def printStack : Filter.PrintStack := { room := 984,parts := 3,test := fun _ => 3 }

def evalStack : Filter.EvalStack := {
  room := 984
  list := 2
  lookup := 1
  compare := fun _ _ _ => 8
  search := fun _ => 4 }

def matchStack : Platform.MatchStack := ⟨readStack,evalStack⟩

end BundleManifest.Running
