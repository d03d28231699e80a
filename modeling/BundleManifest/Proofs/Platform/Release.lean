import BundleManifest.Platform.Environment
import BundleManifest.Proofs.Platform.Matcher
import BundleManifest.Proofs.Version.Canonical

namespace BundleManifest

namespace Text

theorem digitValue?_le {c : Char} {d : Nat} (h : digitValue? c=some d) : d ≤ 9 := by
  obtain ⟨first,found,rfl⟩ := Option.map_eq_some_iff.mp h
  have within := List.find?_some found
  simp only [Bool.and_eq_true,decide_eq_true_eq] at within
  omega

/-- A digit of any script becomes one of ASCII. -/
theorem isDigit_toAsciiDigit {c : Char} (h : isDecimalDigit c) : (toAsciiDigit c).isDigit := by
  obtain ⟨d,hd⟩ := Option.isSome_iff_exists.mp h
  have small : d < 10 := Nat.lt_succ_of_le (digitValue?_le hd)
  have digits : ∀ d < 10, (Char.ofNat (48+d)).isDigit := by decide
  simpa only [toAsciiDigit,hd] using digits d small

theorem decimalDigit_of_isDigit {c : Char} (h : c.isDigit) :
    isDecimalDigit c ∧ toAsciiDigit c=c := by
  have last : c.val ≤ '9'.val := of_decide_eq_true (Bool.and_eq_true_iff.mp h).2
  have ascii : c.toNat < 128 := Nat.lt_of_le_of_lt (UInt32.le_iff_toNat_le.mp last) (by decide)
  revert h
  refine ascii_induction ?_ c ascii
  decide +kernel

theorem toAsciiDigits_of_isDigit {digits : Text} (h : ∀ c∈digits, c.isDigit) :
    digits.map toAsciiDigit=digits := by
  rw [List.map_congr_left fun c hc => (decimalDigit_of_isDigit (h c hc)).2,List.map_id']

end Text

namespace Platform

open Decimal (digitLimit natText)

/-- No decimal digit stands at the start of the text. -/
def Undigited (t : Text) : Prop := ∀ c∈t.head?, Text.isDecimalDigit c=false

theorem digitRun_append {run rest : Text} (digits : ∀ c∈run, Text.isDecimalDigit c)
    (stop : Undigited rest) : digitRun (run++rest)=(run,rest) := by
  have front : rest.takeWhile Text.isDecimalDigit=[] ∧ rest.dropWhile Text.isDecimalDigit=rest := by
    cases rest with
    | nil => exact ⟨rfl,rfl⟩
    | cons c r => simp [stop c rfl]
  rw [digitRun,List.takeWhile_append_of_pos digits,List.dropWhile_append_of_pos digits,front.1,
    front.2,List.append_nil]

theorem undigited_nil : Undigited [] := nofun

theorem undigited_dot (t : Text) : Undigited ('.'::t) := by
  intro c first
  cases first
  decide

theorem dottedRuns_append {n : Nat} {run rest : Text} (nonempty : run≠[])
    (digits : ∀ c∈run, Text.isDecimalDigit c) (stop : Undigited rest) :
    dottedRuns (n+1) ('.'::(run++rest))=run::dottedRuns n rest := by
  simp only [dottedRuns,digitRun_append digits stop,if_neg nonempty]

/-- The runs that a release text is read from; a text without a number has none. -/
def runs (release : Text) : List Text :=
  let (run,rest) := digitRun (Text.trimLeft release)
  if run=[] then [] else run::dottedRuns 2 rest

/-- The version with these numbers. -/
def ofNumbers (numbers : List Nat) : Version :=
  ⟨numbers.getD 0 0,numbers.getD 1 0,numbers.getD 2 0,[]⟩

theorem releaseVersion_eq (release : Text) :
    releaseVersion release=((runs release).mapM runValue).map ofNumbers := by
  rw [releaseVersion,runs]
  dsimp only
  split_ifs
  · rfl
  · cases List.mapM runValue _ <;> rfl

theorem dottedRuns_ne_nil {n : Nat} {t : Text} : ∀ run∈dottedRuns n t, run≠[] := by
  induction n generalizing t with
  | zero => exact nofun
  | succ n ih =>
    rw [dottedRuns.eq_def]
    split
    · next heq => cases heq
    · next m r heq =>
      cases heq
      dsimp only
      split_ifs with blank
      · exact nofun
      · exact List.forall_mem_cons.mpr ⟨blank,ih⟩
    · exact nofun

theorem digits_of_mem_runs {release run : Text} (h : run∈runs release) :
    run≠[] ∧ ∀ c∈run, Text.isDecimalDigit c := by
  rw [runs] at h
  dsimp only at h
  split_ifs at h with blank
  · cases h
  · rcases List.mem_cons.mp h with rfl|h
    · exact ⟨blank,List.all_eq_true.mp (digitRun_digits _)⟩
    · exact ⟨dottedRuns_ne_nil run h,List.all_eq_true.mp (dottedRuns_within run h).2⟩

theorem runValue_eq_ok_iff {run : Text} {n : Nat} :
    runValue run=.ok n ↔
      run.length ≤ digitLimit ∧ Decimal.value (run.map Text.toAsciiDigit)=n := by
  by_cases short : run.length ≤ digitLimit <;> simp [runValue,Decimal.numeral?,short]

/-- A number that is read can be written within the limit. -/
theorem length_natText_of_runValue {run : Text} {n : Nat} (nonempty : run≠[])
    (digits : ∀ c∈run, Text.isDecimalDigit c) (h : runValue run=.ok n) :
    (natText n).length ≤ digitLimit := by
  obtain ⟨short,rfl⟩ := runValue_eq_ok_iff.mp h
  have ascii : ∀ c∈run.map Text.toAsciiDigit, c.isDigit := by
    intro c hc
    obtain ⟨d,hd,rfl⟩ := List.mem_map.mp hc
    exact Text.isDigit_toAsciiDigit (digits d hd)
  have written := Decimal.length_natText_value_le (by simpa using nonempty) ascii
  rw [List.length_map] at written
  exact written.trans short

theorem digits_natText (n : Nat) : ∀ c∈natText n, Char.isDigit c :=
  List.all_eq_true.mp (Version.numeral_natText n).all

theorem runValue_natText {n : Nat} (h : (natText n).length ≤ digitLimit) :
    runValue (natText n)=.ok n := by
  rw [runValue_eq_ok_iff,Text.toAsciiDigits_of_isDigit (digits_natText n),Decimal.value_natText]
  exact ⟨h,rfl⟩

/-- A release gives a version that can be written, and no qualifier. -/
theorem expressible_of_releaseVersion {release : Text} {v : Version}
    (h : releaseVersion release=.ok v) : v.Expressible ∧ v.qualifier=[] := by
  rw [releaseVersion_eq,Outcome.map_eq_ok_iff] at h
  obtain ⟨numbers,read,rfl⟩ := h
  have written : ∀ n∈numbers, (natText n).length ≤ digitLimit := by
    intro n hn
    obtain ⟨run,hr,value⟩ := Outcome.exists_of_mem_mapM read hn
    obtain ⟨nonempty,digits⟩ := digits_of_mem_runs hr
    exact length_natText_of_runValue nonempty digits value
  have number (i : Nat) : (natText (numbers.getD i 0)).length ≤ digitLimit := by
    rw [List.getD_eq_getElem?_getD]
    cases place : numbers[i]? with
    | none => decide
    | some n => exact written n (List.mem_of_getElem? place)
  refine ⟨⟨?_,fun nonempty => absurd rfl nonempty⟩,rfl⟩
  simpa [ofNumbers] using ⟨number 0,number 1,number 2⟩

/-- The canonical text gives its three numbers, and what is behind them is passed over. -/
theorem runs_toText {v : Version} (h : v.Expressible) :
    runs v.toText=[v.major,v.minor,v.micro].map natText := by
  have digits (n : Nat) : ∀ c∈natText n, Text.isDecimalDigit c :=
    fun c hc => (Text.decimalDigit_of_isDigit (digits_natText n c hc)).1
  have nonempty (n : Nat) : natText n≠[] := (Version.numeral_natText n).nonempty
  obtain ⟨tail,stop,whole⟩ : ∃ tail, Undigited tail ∧ v.toText=
      natText v.major ++ '.' :: (natText v.minor ++ '.' :: (natText v.micro ++ tail)) := by
    rw [Version.toText_eq_join,Version.canonicalParts]
    split_ifs
    · exact ⟨[],undigited_nil,by simp [Text.join]⟩
    · exact ⟨'.'::v.qualifier,undigited_dot _,by simp [Text.join]⟩
  have start : Text.trimLeft v.toText=v.toText := by
    apply Text.trimLeft_of_head
    rw [Version.toText_eq_join]
    exact (Version.spelled_canonicalParts h).trimmed.head
  rw [runs,start,whole,digitRun_append (digits _) (undigited_dot _)]
  dsimp only
  rw [if_neg (nonempty _),dottedRuns_append (nonempty _) (digits _) (undigited_dot _),
    dottedRuns_append (nonempty _) (digits _) stop]
  rfl

/-- As a release, the text of a version stands for the version without its qualifier. -/
theorem releaseVersion_of_expressible {v : Version} (h : v.Expressible) :
    releaseVersion v.toText=.ok {v with qualifier := []} := by
  have numbers : ([v.major,v.minor,v.micro].map natText).mapM runValue=
      .ok [v.major,v.minor,v.micro] := by
    rw [Outcome.mapM_eq_ok_iff,List.forall₂_map_left_iff,List.forall₂_same]
    exact fun n hn => runValue_natText (h.numbers n hn)
  rw [releaseVersion_eq,runs_toText h,numbers]
  rfl

/-- The release that a host goes by: on Mac OS X that of the product, if it is told. -/
def Host.releaseText (h : Host) : Text :=
  if h.system="Darwin".toList ∧ h.macVersion≠[] then h.macVersion else h.release

theorem Host.releaseText_eq (h : Host) :
    (if (if h.system.isEmpty then "unknown".toList else h.system)="Darwin".toList then
      if h.macVersion.isEmpty then h.release else h.macVersion
    else h.release)=h.releaseText := by
  rw [Host.releaseText]
  by_cases mac : h.system="Darwin".toList
  · have named : ¬h.system.isEmpty := by
      rw [mac]
      decide
    rw [if_neg named,if_pos mac]
    by_cases untold : h.macVersion=[]
    · rw [if_pos (List.isEmpty_iff.mpr untold),if_neg fun both => both.2 untold]
    · rw [if_neg (mt List.isEmpty_iff.mp untold),if_pos ⟨mac,untold⟩]
  · have other : (if h.system.isEmpty then "unknown".toList else h.system)≠"Darwin".toList := by
      split_ifs
      · decide
      · exact mac
    rw [if_neg other,if_neg fun both => mac both.1]

/-- What is kept of the release is the text of its version. -/
theorem Host.property_osVersion {h : Host} {v : Version}
    (read : releaseVersion h.releaseText=.ok v) :
    ∃ properties, h.properties=.ok properties ∧ property properties osVersionKey=v.toText := by
  rw [← Host.releaseText_eq] at read
  refine ⟨_,Outcome.bind_eq_ok_iff.mpr ⟨v,read,rfl⟩,rfl⟩

/-- The version of a release is the version of its own text, so a host can keep the text for its
release. Of a version that is read the text gives the three numbers, without the qualifier. -/
theorem releaseVersion_toText :
    (∀ release, ShortDecimals release →
      ∃ v, releaseVersion release=.ok v ∧ releaseVersion v.toText=.ok v) ∧
    (∀ t v, Version.parse t=.ok v → releaseVersion v.toText=.ok {v with qualifier := []}) ∧
    ∀ h : Host, ShortDecimals h.releaseText → ∃ properties, h.properties=.ok properties ∧
      releaseVersion (property properties osVersionKey)=releaseVersion h.releaseText := by
  have again (release : Text) (short : ShortDecimals release) :
      ∃ v, releaseVersion release=.ok v ∧ releaseVersion v.toText=.ok v := by
    obtain ⟨v,hv⟩ := exists_releaseVersion short
    obtain ⟨expressible,unqualified⟩ := expressible_of_releaseVersion hv
    refine ⟨v,hv,?_⟩
    rw [releaseVersion_of_expressible expressible,← unqualified]
  refine ⟨again,fun t v read => ?_,fun h short => ?_⟩
  · exact releaseVersion_of_expressible (Version.expressible_of_parse read)
  · obtain ⟨v,hv,same⟩ := again h.releaseText short
    obtain ⟨properties,told,kept⟩ := Host.property_osVersion hv
    exact ⟨properties,told,by rw [kept,same,hv]⟩

/-- A release with a blank, a digit of another script and leading zeros in front of a word, a version
with a qualifier, and a host whose product has a release of its own. -/
theorem releaseVersion_toText_of_other_script :
    let release : Text := " \u0666.010.x-13".toList
    let qualified : Version := ⟨1,2,3,"rc-1".toList⟩
    let host : Host := {
      system := "Darwin".toList
      release := "23".toList
      macVersion := "14.2".toList }
    releaseVersion release=.ok ⟨6,10,0,[]⟩ ∧ releaseVersion "6.10.0".toList=.ok ⟨6,10,0,[]⟩ ∧
    Version.parse "01.2.3.rc-1 ".toList=.ok qualified ∧
      releaseVersion qualified.toText=.ok ⟨1,2,3,[]⟩ ∧
    ∃ properties, host.properties=.ok properties ∧
      releaseVersion (property properties osVersionKey)=.ok ⟨14,2,0,[]⟩ := by
  intro release qualified host
  obtain ⟨again,unqualified,kept⟩ := releaseVersion_toText
  obtain ⟨v,hv,same⟩ := again release (.of_length (by decide))
  have first : releaseVersion release=.ok ⟨6,10,0,[]⟩ := by decide +kernel
  obtain rfl := Except.ok.inj (hv.symm.trans first)
  have read : Version.parse "01.2.3.rc-1 ".toList=.ok qualified := by decide +kernel
  obtain ⟨properties,told,stored⟩ := kept host (.of_length (by decide))
  have product : releaseVersion host.releaseText=.ok ⟨14,2,0,[]⟩ := by decide +kernel
  exact ⟨first,same,read,unqualified _ _ read,properties,told,stored.trans product⟩

end Platform

end BundleManifest
