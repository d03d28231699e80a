import BundleManifest.Text.CaseTable

namespace BundleManifest.Text

private def inRanges (ranges : List (Nat × Nat)) (n : Nat) : Bool :=
  ranges.any fun (low,high) => low ≤ n && n ≤ high

/-- Characters that the final-sigma rule passes over, such as the full stop and combining marks. -/
def isCaseIgnorable (c : Char) : Bool :=
  let n := c.toNat
  if n < 128 then n==0x27 || n==0x2e || n==0x3a || n==0x5e || n==0x60
  else inRanges caseIgnorableRanges n

def isCased (c : Char) : Bool :=
  if c.toNat < 128 then c.isAlpha else inRanges casedRanges c.toNat

/-- The character under the first run that covers it; one that none covers stays. -/
def shift (runs : List CaseRun) (c : Char) : Char :=
  match runs.find? (CaseRun.covers · c.toNat) with
  | some run => Char.ofNat (c.toNat+run.shift).toNat
  | none => c

/-- The lower case of a character that has a single one. -/
def lowerChar (c : Char) : Char :=
  if c.toNat < 128 then c.toLower else shift lowerRuns c

/-- The lower case of a character in its place: `afterCased` tells whether the last character
before it that is not passed over is cased, and `rest` is what follows. -/
def lowerAt (afterCased : Bool) (c : Char) (rest : Text) : Text :=
  if c = '\u03a3' then
    let beforeCased := (rest.dropWhile isCaseIgnorable).head?.any isCased
    if afterCased && !beforeCased then ['\u03c2'] else ['\u03c3']
  else if c = '\u0130' then ['i','\u0307']
  else [lowerChar c]

def lowerFrom (afterCased : Bool) : Text → Text
  | [] => []
  | c::r =>
    lowerAt afterCased c r++lowerFrom (if isCaseIgnorable c then afterCased else isCased c) r

/-- The text in lower case. -/
def lower (t : Text) : Text := lowerFrom false t

/-- The upper case of one character, which may be longer than one. -/
def upperChar (c : Char) : Text :=
  if c.toNat < 128 then [c.toUpper]
  else match upperExpansions.lookup c.toNat with
    | some ns => ns.map Char.ofNat
    | none => [shift upperRuns c]

/-- The text in upper case. -/
def upper (t : Text) : Text := t.flatMap upperChar

end BundleManifest.Text
