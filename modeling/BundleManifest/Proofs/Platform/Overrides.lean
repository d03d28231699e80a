import BundleManifest.Platform.Environment
import BundleManifest.Proofs.Outcome
import BundleManifest.Proofs.Text.Trim
import BundleManifest.Running.Setup

namespace BundleManifest

/-- The scalar is an integer of more digits than are written. -/
def Scalar.Overlong (s : Scalar) : Prop :=
  ∃ n, s=.integer n ∧ Decimal.digitLimit < (Decimal.natText n.natAbs).length

theorem Scalar.text?_of_overlong {s : Scalar} (h : s.Overlong) : s.text?=none := by
  obtain ⟨n,rfl,long⟩ := h
  exact if_neg (Nat.not_le.mpr long)

theorem Scalar.text?_of_not_overlong {s : Scalar} (h : ¬s.Overlong) : s.text?=some s.display := by
  cases s with
  | integer n =>
    have fits : (Decimal.natText n.natAbs).length ≤ Decimal.digitLimit := by
      by_contra long
      exact h ⟨n,rfl,Nat.lt_of_not_le long⟩
    exact if_pos fits
  | _ => rfl

namespace Platform

namespace StoredFile

/-- The bytes are the characters of the text in UTF-8, up to the form of its line ends. -/
def Holds (content : ByteArray) (t : Text) : Prop :=
  ∃ cs : Text, content=cs.utf8Encode ∧ unifyLineEnds cs=t

theorem decode?_eq_some_iff {content : ByteArray} {t : Text} :
    decode? content=some t ↔ Holds content t := by
  have decoded (s : String) : String.fromUTF8? content=some s ↔ s.toByteArray=content := by
    rw [String.fromUTF8?]
    constructor
    · intro h
      split at h
      · next valid =>
        rw [← Option.some.inj h]
        rfl
      · cases h
    · intro h
      subst h
      exact dif_pos s.isValidUTF8
  rw [decode?,Option.map_eq_some_iff]
  constructor
  · intro ⟨s,hs,ht⟩
    have bytes := (decoded s).mp hs
    exact ⟨s.toList,by rw [String.utf8Encode_toList,bytes],ht⟩
  · intro ⟨cs,hc,ht⟩
    have bytes : (String.ofList cs).toByteArray=content := by rw [hc]; rfl
    refine ⟨String.ofList cs,(decoded _).mpr bytes,?_⟩
    rw [String.toList_ofList]
    exact ht

theorem decode?_eq_none_iff {content : ByteArray} :
    decode? content=none ↔ ∀ t, ¬Holds content t := by
  rw [Option.eq_none_iff_forall_ne_some]
  exact forall_congr' fun t => not_congr decode?_eq_some_iff

end StoredFile

namespace Overrides

open StoredFile (Holds)

/-- A value that would be kept is not written as text: it is an integer of too many digits, or a set
with one in it. -/
inductive TooLong : Document → Prop
  | scalar {s : Scalar} : s.Overlong → TooLong (.scalar s)
  | set {items : List Scalar} {s : Scalar} : s∈items → s.Overlong → TooLong (.set items)

/-- The entry is not written as text: its key, or its value under a key that counts, has too many
digits. -/
def Unwritable (key : Scalar) (value : Document) : Prop :=
  key.Overlong ∨ ¬Text.Blank key.display ∧ TooLong value

/-- The value is null, a list or a mapping. -/
def isNested : Document → Bool
  | .scalar .null | .list _ | .mapping _ => true
  | _ => false

theorem isWritable_iff {d : Document} (kept : isNested d=false) :
    d.isWritable=true ↔ ¬TooLong d := by
  have scalar {s : Scalar} : s.text?.isSome=true ↔ ¬s.Overlong := by
    by_cases long : s.Overlong
    · simp [Scalar.text?_of_overlong long,long]
    · simp [Scalar.text?_of_not_overlong long,long]
  cases d with
  | scalar s =>
    rw [Document.isWritable,scalar]
    exact not_congr ⟨.scalar,fun h => by cases h; assumption⟩
  | set items =>
    rw [Document.isWritable,List.all_eq_true]
    simp only [scalar]
    constructor
    · intro all long
      cases long with
      | set hs long => exact all _ hs long
    · intro none s hs long
      exact none (.set hs long)
  | list items => cases kept
  | mapping entries => cases kept

theorem trimmedText_of_tooLong {d : Document} (h : TooLong d) :
    trimmedText d=.error .numeralTooLong := by
  have kept : isNested d=false := by
    cases h with
    | scalar long =>
      obtain ⟨n,rfl,-⟩ := long
      rfl
    | set => rfl
  rw [trimmedText,if_neg (mt (isWritable_iff kept).mp (not_not.mpr h))]

theorem trimmedText_of_kept {d : Document} (kept : isNested d=false) (h : ¬TooLong d) :
    trimmedText d=.ok (Text.trim d.display) := by
  rw [trimmedText,if_pos ((isWritable_iff kept).mpr h)]

theorem trimmedText_of_overlong {s : Scalar} (h : s.Overlong) :
    trimmedText (.scalar s)=.error .numeralTooLong :=
  trimmedText_of_tooLong (.scalar h)

theorem trimmedText_of_not_overlong {s : Scalar} (h : ¬s.Overlong) :
    trimmedText (.scalar s)=.ok (Text.trim s.display) := by
  rw [trimmedText,Document.isWritable,Scalar.text?_of_not_overlong h]
  rfl

/-- What the first entry does: one with a blank key or a value that is not kept does nothing. -/
theorem outcome_ofEntries_cons {key : Scalar} (h : ¬key.Overlong) (value : Document)
    (overrides : Dictionary Text) (rest : List (Scalar × Document)) :
    (ofEntries overrides ((key,value)::rest)).outcome=
      if Text.trim key.display=[] then (ofEntries overrides rest).outcome
      else if isNested value then (ofEntries overrides rest).outcome
      else trimmedText value >>= fun t =>
        (ofEntries (overrides.insert (Text.trim key.display) t) rest).outcome := by
  simp only [ofEntries,Logged.outcome_bind,Logged.outcome_ofOutcome,trimmedText_of_not_overlong h]
  change (if Text.trim key.display=[] then _ else _ : Logged _).outcome=_
  split_ifs with blank nested
  · rfl
  · cases value with
    | scalar s => cases s <;> first | rfl | cases nested
    | set items => cases nested
    | _ => rfl
  · cases value with
    | scalar s =>
      cases s with
      | null => exact absurd rfl nested
      | _ => exact Logged.outcome_bind _ _
    | set items => exact Logged.outcome_bind _ _
    | _ => exact absurd rfl nested

theorem ofEntries_of_unwritable {key : Scalar} {value : Document} (h : Unwritable key value)
    (overrides : Dictionary Text) (rest : List (Scalar × Document)) :
    (ofEntries overrides ((key,value)::rest)).outcome=.error .numeralTooLong := by
  by_cases long : key.Overlong
  · rw [ofEntries,trimmedText_of_overlong long]
    rfl
  · obtain ⟨counts,tooLong⟩ := h.resolve_left long
    have name : Text.trim key.display≠[] := mt Text.trim_eq_nil_iff.mp counts
    have failed := trimmedText_of_tooLong tooLong
    have kept : isNested value=false := by
      cases tooLong with
      | scalar long =>
        obtain ⟨n,rfl,-⟩ := long
        rfl
      | set => rfl
    rw [outcome_ofEntries_cons long,if_neg name,if_neg (by simp [kept]),failed]
    rfl

/-- An entry that is written leaves it to the others whether there is a result. -/
theorem exists_ofEntries_cons {key : Scalar} {value : Document} (h : ¬Unwritable key value)
    (overrides : Dictionary Text) (rest : List (Scalar × Document)) :
    ∃ more, (ofEntries overrides ((key,value)::rest)).outcome=(ofEntries more rest).outcome := by
  have long : ¬key.Overlong := fun hk => h (.inl hk)
  rw [outcome_ofEntries_cons long]
  split_ifs with name nested
  · exact ⟨overrides,rfl⟩
  · exact ⟨overrides,rfl⟩
  · have written : ¬TooLong value := fun hv => h (.inr ⟨mt Text.trim_eq_nil_iff.mpr name,hv⟩)
    rw [trimmedText_of_kept (Bool.eq_false_iff.mpr nested) written]
    exact ⟨_,rfl⟩

theorem ofEntries_eq_error_iff {overrides : Dictionary Text} {entries : List (Scalar × Document)}
    {fault : Fault} :
    (ofEntries overrides entries).outcome=.error fault ↔
      fault=.numeralTooLong ∧ ∃ e∈entries, Unwritable e.1 e.2 := by
  induction entries generalizing overrides with
  | nil =>
    constructor
    · intro h
      cases h
    · intro ⟨_,e,he,_⟩
      cases he
  | cons e rest ih =>
    obtain ⟨key,value⟩ := e
    rw [List.exists_mem_cons_iff]
    by_cases first : Unwritable key value
    · rw [ofEntries_of_unwritable first,Except.error.injEq,eq_comm]
      exact ⟨fun h => ⟨h,.inl first⟩,And.left⟩
    · obtain ⟨more,same⟩ := exists_ofEntries_cons first overrides rest
      rw [same,ih]
      exact and_congr_right fun _ => ⟨.inr,fun h => h.resolve_left first⟩

variable (formats : Formats)

/-- The text is the document in JSON or, when it is none there, in YAML. -/
inductive Spells (t : Text) : Document → Prop
  | json {d : Document} : Json.read formats.nesting t=.ok d → Spells t d
  | yaml {left : Nat} {d : Document} : Json.read formats.nesting t=.error (.malformed left) →
    formats.yaml t=.ok d → Spells t d

/-- The text is no document, neither in JSON nor in YAML. -/
def Malformed (t : Text) : Prop :=
  ∃ i j, Json.read formats.nesting t=.error (.malformed i) ∧ formats.yaml t=.error (.malformed j)

/-- A reader gives up although the text does not break its format. -/
inductive BreaksOff (t : Text) : Fault → Prop
  | json {e : Document.Failure} {fault : Fault} : Json.read formats.nesting t=.error e →
    e.fault?=some fault → BreaksOff t fault
  | yaml {left : Nat} {e : Document.Failure} {fault : Fault} :
    Json.read formats.nesting t=.error (.malformed left) → formats.yaml t=.error e →
    e.fault?=some fault → BreaksOff t fault

/-- What reading a text comes to in each of the three cases. -/
def Settled (t : Text) : Outcome (Option Document) → Prop
  | .ok (some d) => Spells formats t d
  | .ok none => Malformed formats t
  | .error fault => BreaksOff formats t fault

variable {formats}

theorem Settled.readDocument_eq {t : Text} {x : Outcome (Option Document)}
    (h : Settled formats t x) : readDocument formats t=x := by
  have passed (left : Nat) : (Document.Failure.malformed left).fault?=none := rfl
  match x,h with
  | .ok (some d),.json hj => simp only [readDocument,hj]
  | .ok (some d),.yaml hj hy => simp only [readDocument,hj,hy,passed]
  | .ok none,⟨_,_,hj,hy⟩ => simp only [readDocument,hj,hy,passed]
  | .error fault,.json hj hf => simp only [readDocument,hj,hf]
  | .error fault,.yaml hj hy hf => simp only [readDocument,hj,hy,hf,passed]

theorem exists_settled (formats : Formats) (t : Text) : ∃ x, Settled formats t x := by
  have failed (e : Document.Failure) :
      (∃ left, e=.malformed left) ∨ ∃ fault, e.fault?=some fault := by
    cases e <;> simp [Document.Failure.fault?]
  cases hj : Json.read formats.nesting t with
  | ok d => exact ⟨.ok (some d),.json hj⟩
  | error e =>
    rcases failed e with ⟨left,rfl⟩|⟨fault,hf⟩
    · cases hy : formats.yaml t with
      | ok d => exact ⟨.ok (some d),.yaml hj hy⟩
      | error e =>
        rcases failed e with ⟨right,rfl⟩|⟨fault,hf⟩
        · exact ⟨.ok none,left,right,hj,hy⟩
        · exact ⟨.error fault,.yaml hj hy hf⟩
    · exact ⟨.error fault,.json hj hf⟩

theorem readDocument_eq_iff {t : Text} {x : Outcome (Option Document)} :
    readDocument formats t=x ↔ Settled formats t x := by
  constructor
  · intro h
    obtain ⟨y,hy⟩ := exists_settled formats t
    rwa [← h,hy.readDocument_eq]
  · exact Settled.readDocument_eq

/-- The file leaves no overrides; the notices tell why. -/
inductive Unusable (formats : Formats) : StoredFile → List Notice → Prop
  | absent : Unusable formats .absent []
  | directory : Unusable formats .directory [.unreadableOverrides]
  | malformed {content : ByteArray} {t : Text} : Holds content t → Malformed formats t →
    Unusable formats (.bytes content) [.malformedOverrides]
  | notFlat {content : ByteArray} {t : Text} {d : Document} : Holds content t →
    Spells formats t d → (∀ entries, d≠.mapping entries) →
    Unusable formats (.bytes content) [.overridesNotFlat d.typeName]

/-- A fault that is not looked after: the bytes are no text, the text has no value that can be read,
or an integer in the mapping cannot be written. -/
inductive Escapes (formats : Formats) : StoredFile → Fault → Prop
  | undecodable {content : ByteArray} : (∀ t, ¬Holds content t) →
    Escapes formats (.bytes content) .invalidUtf8
  | unread {content : ByteArray} {t : Text} {fault : Fault} : Holds content t →
    BreaksOff formats t fault → Escapes formats (.bytes content) fault
  | unwritten {content : ByteArray} {t : Text} {entries : List (Scalar × Document)} :
    Holds content t → Spells formats t (.mapping entries) → (∃ e∈entries, Unwritable e.1 e.2) →
    Escapes formats (.bytes content) .numeralTooLong

theorem load_bytes_of_holds {content : ByteArray} {t : Text} (h : Holds content t) :
    load formats (.bytes content)=(do
      match ← Logged.ofOutcome (readDocument formats t) with
      | some d => ofDocument d
      | none => ⟨[.malformedOverrides],.ok []⟩) := by
  have text := StoredFile.decode?_eq_some_iff.mpr h
  rw [load,text]
  rfl

theorem load_of_unusable {file : StoredFile} {notices : List Notice}
    (h : Unusable formats file notices) : load formats file=⟨notices,.ok []⟩ := by
  cases h with
  | absent => rfl
  | directory => rfl
  | malformed held bad =>
    have read : readDocument formats _=.ok none := readDocument_eq_iff.mpr bad
    rw [load_bytes_of_holds held,read]
    rfl
  | @notFlat content t d held spelled other =>
    have read : readDocument formats t=.ok (some d) := readDocument_eq_iff.mpr spelled
    rw [load_bytes_of_holds held,read]
    cases d with
    | mapping entries => exact absurd rfl (other entries)
    | _ => rfl

theorem outcome_ofDocument_mapping (entries : List (Scalar × Document)) :
    (ofDocument (.mapping entries)).outcome=(ofEntries [] entries).outcome := by
  have noted (overrides : Dictionary Text) :
      (do
        unless overrides.isEmpty do Logged.note (.loadedOverrides overrides.length)
        return overrides : Logged (Dictionary Text)).outcome=.ok overrides := by
    cases overrides.isEmpty <;> rfl
  rw [ofDocument,Logged.outcome_bind]
  simp only [noted]
  cases (ofEntries [] entries).outcome <;> rfl

theorem ofDocument_eq_error_iff {d : Document} {fault : Fault} :
    (ofDocument d).outcome=.error fault ↔ fault=.numeralTooLong ∧
      ∃ entries, d=.mapping entries ∧ ∃ e∈entries, Unwritable e.1 e.2 := by
  cases d with
  | mapping entries =>
    rw [outcome_ofDocument_mapping,ofEntries_eq_error_iff]
    simp
  | _ => simp [ofDocument]

theorem load_eq_error_iff {file : StoredFile} {fault : Fault} :
    (load formats file).outcome=.error fault ↔ Escapes formats file fault := by
  constructor
  · intro h
    cases file with
    | absent => cases h
    | directory => cases h
    | bytes content =>
      cases text : StoredFile.decode? content with
      | none =>
        have ended : load formats (.bytes content)=⟨[],.error .invalidUtf8⟩ := by
          rw [load,text]
          rfl
        rw [ended] at h
        obtain rfl := Except.error.inj h
        exact .undecodable (StoredFile.decode?_eq_none_iff.mp text)
      | some t =>
        have held : Holds content t := StoredFile.decode?_eq_some_iff.mp text
        obtain ⟨x,hx⟩ := exists_settled formats t
        rw [load_bytes_of_holds held,hx.readDocument_eq] at h
        match x,hx with
        | .ok (some d),spelled =>
          obtain ⟨rfl,entries,rfl,unwritable⟩ := ofDocument_eq_error_iff.mp h
          exact .unwritten held spelled unwritable
        | .ok none,_ => cases h
        | .error other,broken =>
          obtain rfl := Except.error.inj h
          exact .unread held broken
  · intro h
    cases h with
    | undecodable none =>
      rw [load,StoredFile.decode?_eq_none_iff.mpr none]
      rfl
    | unread held broken =>
      have read : readDocument formats _=.error fault := readDocument_eq_iff.mpr broken
      rw [load_bytes_of_holds held,read]
      rfl
    | @unwritten content t entries held spelled unwritable =>
      have read : readDocument formats t=.ok (some (.mapping entries)) :=
        readDocument_eq_iff.mpr spelled
      rw [load_bytes_of_holds held,read]
      exact ofDocument_eq_error_iff.mpr ⟨rfl,entries,rfl,unwritable⟩

end Overrides

namespace Environment

open Overrides (Escapes Unusable)

theorem properties_eq_error_iff {readers : Readers} {e : Environment} {fault : Fault} :
    (e.properties readers).outcome=.error fault ↔
      (e.baseProperties readers).outcome=.error fault ∨
      (∃ base, (e.baseProperties readers).outcome=.ok base) ∧
        Escapes readers.overrides e.overrides fault := by
  rw [properties,Logged.outcome_bind,Outcome.bind_eq_error_iff,← Overrides.load_eq_error_iff]
  simp only [Logged.outcome_bind_pure,Outcome.map_eq_error_iff,exists_and_right]

/-- Whatever state the override file is in, it is given up with a notice or its mapping is used,
unless one of the faults arises that are not looked after; those end the look for the platform. -/
theorem overrides_used_or_escape (readers : Readers) (e : Environment) :
    ((∃ overrides, (Overrides.load readers.overrides e.overrides).outcome=.ok overrides) ↔
      ∀ fault, ¬Escapes readers.overrides e.overrides fault) ∧
    (∀ fault, (Overrides.load readers.overrides e.overrides).outcome=.error fault ↔
      Escapes readers.overrides e.overrides fault) ∧
    (∀ notices, Unusable readers.overrides e.overrides notices →
      Overrides.load readers.overrides e.overrides=⟨notices,.ok []⟩) ∧
    ∀ fault, (e.properties readers).outcome=.error fault ↔
      (e.baseProperties readers).outcome=.error fault ∨
      (∃ base, (e.baseProperties readers).outcome=.ok base) ∧
        Escapes readers.overrides e.overrides fault := by
  refine ⟨?_,fun _ => Overrides.load_eq_error_iff,fun _ => Overrides.load_of_unusable,
    fun _ => properties_eq_error_iff⟩
  simp only [← Overrides.load_eq_error_iff]
  cases (Overrides.load readers.overrides e.overrides).outcome <;> simp

/-- A brace that nothing closes is a document in no format. -/
theorem overrides_used_or_escape_of_open_brace :
    let e : Environment := {overrides := .bytes (List.utf8Encode ['{'])}
    Unusable Running.formats e.overrides [.malformedOverrides] ∧
      Overrides.load Running.formats e.overrides=⟨[.malformedOverrides],.ok []⟩ ∧
      ∃ overrides, (Overrides.load Running.formats e.overrides).outcome=.ok overrides := by
  intro e
  have json : (Json.read Running.nesting ['{']).map (fun _ => ())=.error (.malformed 0) := by
    decide +kernel
  have yaml : (Running.formats.yaml ['{']).map (fun _ => ())=.error (.malformed 0) := by
    decide +kernel
  rw [Outcome.map_eq_error_iff] at json yaml
  have unusable : Unusable Running.formats e.overrides [.malformedOverrides] :=
    .malformed ⟨['{'],rfl,rfl⟩ ⟨0,0,json,yaml⟩
  obtain ⟨used,-,given,-⟩ := overrides_used_or_escape Running.readers e
  have loaded : Overrides.load Running.formats e.overrides=_ := given _ unusable
  refine ⟨unusable,loaded,[],?_⟩
  rw [loaded]

/-- A byte that begins no character, and a mark of base sixteen without digits behind it: neither
file gives a mapping, and with neither the platform of the host is found. -/
theorem overrides_escape_of_lone_byte :
    let byte : Environment := {overrides := .bytes ⟨#[0xff]⟩}
    let mark : Environment := {overrides := .bytes (List.utf8Encode "a: 0x_".toList)}
    (¬∃ overrides, (Overrides.load Running.formats byte.overrides).outcome=.ok overrides) ∧
      (byte.properties Running.readers).outcome=.error .invalidUtf8 ∧
      (¬∃ overrides, (Overrides.load Running.formats mark.overrides).outcome=.ok overrides) ∧
      (mark.properties Running.readers).outcome=.error .noSuchValue := by
  intro byte mark
  have escaped : Escapes Running.formats byte.overrides .invalidUtf8 := by
    refine .undecodable ?_
    intro t ⟨cs,bytes,_⟩
    have invalid : ¬ByteArray.IsValidUTF8 ⟨#[0xff]⟩ := by decide +kernel
    exact invalid ⟨cs,bytes⟩
  have broken : Escapes Running.formats mark.overrides .noSuchValue := by
    have json : (Json.read Running.nesting "a: 0x_".toList).map (fun _ => ())=
        .error (.malformed 6) := by decide +kernel
    have yaml : (Running.formats.yaml "a: 0x_".toList).map (fun _ => ())=.error .noSuchValue := by
      decide +kernel
    rw [Outcome.map_eq_error_iff] at json yaml
    exact .unread ⟨_,rfl,rfl⟩ (.yaml json yaml rfl)
  have byteBase : ∃ base, (byte.baseProperties Running.readers).outcome=.ok base := by
    decide +kernel
  have markBase : ∃ base, (mark.baseProperties Running.readers).outcome=.ok base := by
    decide +kernel
  have failed {e : Environment} {fault : Fault} (h : Escapes Running.formats e.overrides fault) :
      ¬∃ overrides, (Overrides.load Running.formats e.overrides).outcome=.ok overrides := by
    intro ⟨overrides,loaded⟩
    rw [Overrides.load_eq_error_iff.mpr h] at loaded
    cases loaded
  exact ⟨failed escaped,properties_eq_error_iff.mpr (.inr ⟨byteBase,escaped⟩),
    failed broken,properties_eq_error_iff.mpr (.inr ⟨markBase,broken⟩)⟩

end Environment

end Platform

end BundleManifest
