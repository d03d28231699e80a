import BundleManifest.Text.Casing
import BundleManifest.Version.Basic

namespace BundleManifest.Platform

def osAliases : List (Text × Text) := [
  ("linux".toList,"linux".toList),
  ("mac os x".toList,"macosx".toList),
  ("macosx".toList,"macosx".toList),
  ("macos".toList,"macosx".toList),
  ("darwin".toList,"macosx".toList),
  ("sunos".toList,"solaris".toList),
  ("solaris".toList,"solaris".toList),
  ("freebsd".toList,"freebsd".toList),
  ("netbsd".toList,"netbsd".toList),
  ("openbsd".toList,"openbsd".toList),
  ("aix".toList,"aix".toList),
  ("hp-ux".toList,"hpux".toList),
  ("hpux".toList,"hpux".toList),
  ("os/2".toList,"os2".toList),
  ("os2".toList,"os2".toList),
  ("qnx".toList,"qnx".toList),
  ("procnto".toList,"qnx".toList)]

def processorAliases : List (Text × Text) := [
  ("x86-64".toList,"x86-64".toList),
  ("x86_64".toList,"x86-64".toList),
  ("amd64".toList,"x86-64".toList),
  ("em64t".toList,"x86-64".toList),
  ("x86".toList,"x86".toList),
  ("pentium".toList,"x86".toList),
  ("i386".toList,"x86".toList),
  ("i486".toList,"x86".toList),
  ("i586".toList,"x86".toList),
  ("i686".toList,"x86".toList),
  ("aarch64".toList,"aarch64".toList),
  ("arm64".toList,"aarch64".toList),
  ("arm".toList,"arm".toList),
  ("armv7l".toList,"arm".toList),
  ("armv6l".toList,"arm".toList),
  ("power".toList,"powerpc".toList),
  ("powerpc".toList,"powerpc".toList),
  ("ppc".toList,"powerpc".toList),
  ("ppc64".toList,"ppc64".toList),
  ("ppc64le".toList,"ppc64le".toList),
  ("sparc".toList,"sparc".toList),
  ("mips".toList,"mips".toList),
  ("s390x".toList,"s390x".toList),
  ("riscv64".toList,"riscv64".toList)]

/-- The text trimmed and in lower case. -/
def fold (t : Text) : Text := Text.lower (Text.trim t)

/-- The normal name of an operating system; everything that starts like Windows is one system. -/
def normalOsName (name : Text) : Text :=
  let n := fold name
  if "win".toList.isPrefixOf n then "win32".toList else (osAliases.lookup n).getD n

/-- The normal name of a processor. -/
def normalProcessor (name : Text) : Text :=
  let n := fold name
  (processorAliases.lookup n).getD n

/-- A run of digits of any script at the start of a text, and what follows. -/
def digitRun (t : Text) : Text × Text :=
  (t.takeWhile Text.isDecimalDigit,t.dropWhile Text.isDecimalDigit)

/-- Further runs of digits, at most `n`, each behind a dot. -/
def dottedRuns : Nat → Text → List Text
  | 0,_ => []
  | n+1,'.'::r =>
    let (run,rest) := digitRun r
    if run=[] then [] else run::dottedRuns n rest
  | _+1,_ => []

/-- The number that a run of digits of any script stands for. -/
def runValue (run : Text) : Outcome Nat :=
  match Decimal.numeral? (run.map Text.toAsciiDigit) with
  | some n => .ok n
  | none => .error .numeralTooLong

/-- The version that a release text starts with: up to three numbers joined by dots, and 0.0.0
when it does not start with a number. -/
def releaseVersion (release : Text) : Outcome Version := do
  let (run,rest) := digitRun (Text.trimLeft release)
  if run=[] then return {}
  let numbers ← (run::dottedRuns 2 rest).mapM runValue
  return ⟨numbers.getD 0 0,numbers.getD 1 0,numbers.getD 2 0,[]⟩

end BundleManifest.Platform
