import BundleManifest.Filter.Evaluation
import BundleManifest.Proofs.Text.Order
import BundleManifest.Proofs.Version.Canonical
import BundleManifest.Running.Stacks

namespace BundleManifest

namespace Comparison

/-- The text is a literal of a number. -/
def IsNumber (t : Text) : Prop := ∃ x, Decimal.binary64? t=some x

/-- The text is that of a version. -/
def IsVersion (t : Text) : Prop := ∃ v, Version.parse t=.ok v

section

variable {β : Type} {convert : Text → Outcome β} {test : β → β → Bool} {actual expected : Text}
  {next : Outcome Bool}

theorem convertedOr_of_ok {x y : β} (hx : convert actual=.ok x) (hy : convert expected=.ok y) :
    convertedOr convert test actual expected next=.ok (test x y) := by
  rw [convertedOr,hx,hy]
  rfl

theorem convertedOr_of_error (passed : ∀ t fault, convert t=.error fault → passedOver fault)
    (h : ¬((∃ x, convert actual=.ok x) ∧ ∃ y, convert expected=.ok y)) :
    convertedOr convert test actual expected next=next := by
  rw [convertedOr]
  split
  · next b converted =>
    obtain ⟨x,hx,rest⟩ := Outcome.bind_eq_ok_iff.mp converted
    obtain ⟨y,hy,-⟩ := Outcome.map_eq_ok_iff.mp rest
    exact absurd ⟨⟨x,hx⟩,y,hy⟩ h
  · next fault failed =>
    refine if_pos ?_
    rcases Outcome.bind_eq_error_iff.mp failed with first|⟨x,-,second⟩
    · exact passed _ _ first
    · exact passed _ _ (Outcome.map_eq_error_iff.mp second)

end

theorem number_eq_ok_iff {t : Text} {x : Binary64} :
    number t=.ok x ↔ Decimal.binary64? t=some x := by
  cases h : Decimal.binary64? t <;> simp [number,h]

theorem passedOver_of_number (t : Text) (fault : Fault) (h : number t=.error fault) :
    passedOver fault := by
  rw [number] at h
  split at h <;> cases h
  rfl

/-- Reading a version fails in no other way. -/
theorem passedOver_of_parse (t : Text) (fault : Fault) (h : Version.parse t=.error fault) :
    passedOver fault := by
  rcases Version.parse_faults_among t fault h with long|⟨cause,rfl⟩
  · rw [List.mem_singleton.mp long]
    rfl
  · exact decide_eq_true (Version.kind_of_parse h)

section

variable {op : Comparison} {actual expected : Text}

theorem holdsInOrder_of_numbers {x y : Binary64} (hx : Decimal.binary64? actual=some x)
    (hy : Decimal.binary64? expected=some y) :
    op.holdsInOrder actual expected=.ok (op.ordered (y.le x) (x.le y)) := by
  rw [holdsInOrder,convertedOr_of_ok (number_eq_ok_iff.mpr hx) (number_eq_ok_iff.mpr hy)]

/-- Texts that are not both numbers are left to the next conversion. -/
theorem holdsInOrder_of_not_numbers (h : ¬(IsNumber actual ∧ IsNumber expected)) :
    op.holdsInOrder actual expected=
      convertedOr Version.parse (fun v w => op.ordered (decide (w ≤ v)) (decide (v ≤ w))) actual
        expected (.ok (op.ordered (Text.le expected actual) (Text.le actual expected))) := by
  have neither : ¬((∃ x, number actual=.ok x) ∧ ∃ y, number expected=.ok y) := by
    simpa only [number_eq_ok_iff,IsNumber] using h
  rw [holdsInOrder,convertedOr_of_error passedOver_of_number neither]

theorem holdsInOrder_of_versions {v w : Version} (h : ¬(IsNumber actual ∧ IsNumber expected))
    (hv : Version.parse actual=.ok v) (hw : Version.parse expected=.ok w) :
    op.holdsInOrder actual expected=.ok (op.ordered (decide (w ≤ v)) (decide (v ≤ w))) := by
  rw [holdsInOrder_of_not_numbers h,convertedOr_of_ok hv hw]

theorem holdsInOrder_of_texts (h : ¬(IsNumber actual ∧ IsNumber expected))
    (unread : ¬(IsVersion actual ∧ IsVersion expected)) :
    op.holdsInOrder actual expected=
      .ok (op.ordered (Text.le expected actual) (Text.le actual expected)) := by
  rw [holdsInOrder_of_not_numbers h,convertedOr_of_error passedOver_of_parse unread]

/-- Every failure of a conversion is passed over, so comparing always has an answer. -/
theorem exists_holdsInOrder_eq (op : Comparison) (actual expected : Text) :
    ∃ b, op.holdsInOrder actual expected=.ok b := by
  by_cases numbers : IsNumber actual ∧ IsNumber expected
  · obtain ⟨⟨x,hx⟩,y,hy⟩ := numbers
    exact ⟨_,holdsInOrder_of_numbers hx hy⟩
  · by_cases versions : IsVersion actual ∧ IsVersion expected
    · obtain ⟨⟨v,hv⟩,w,hw⟩ := versions
      exact ⟨_,holdsInOrder_of_versions numbers hv hw⟩
    · exact ⟨_,holdsInOrder_of_texts numbers versions⟩

theorem exists_holds_eq (op : Comparison) (actual expected : Text) :
    ∃ b, op.holds actual expected=.ok b := by
  cases op with
  | equal => exact ⟨_,rfl⟩
  | approximate => exact ⟨_,rfl⟩
  | atLeast => exact exists_holdsInOrder_eq .atLeast actual expected
  | atMost => exact exists_holdsInOrder_eq .atMost actual expected

end

end Comparison

namespace Filter

open Comparison (IsNumber IsVersion)

/-- Tests for the two directions of a linear order do not both fail, and both hold between equals only. -/
theorem directions_of_le {α : Type} [LinearOrder α] {above below : Bool} {a e : α}
    (higher : above ↔ e ≤ a) (lower : below ↔ a ≤ e) :
    (above ∧ below ↔ a=e) ∧ (above ∨ below) := by
  rw [higher,lower]
  exact ⟨and_comm.trans le_antisymm_iff.symm,le_total e a⟩

/-- The calls that comparing a property of such a value takes. -/
def EvalStack.comparing (stack : EvalStack) (op : Comparison) (expected : Text)
    (value : PropertyValue) : Nat :=
  max (stack.lookup+1) (stack.compare op expected value+1)

theorem holds_compare_of_text {properties : Properties} {key actual expected : Text}
    {op : Comparison} {b : Bool} (present : properties.value? key=some (.text actual))
    (compared : op.holds actual expected=.ok b) (stack : EvalStack) :
    holds stack properties (.compare op key expected)=
      Outcome.within stack.room (stack.comparing op expected (.text actual)) (.ok b) := by
  have passed : passes (op.holds · expected) (.text actual)=.ok b := by rw [passes,compared]
  rw [holds,evaluate,present,EvalStack.comparing,← Outcome.within_within,← passed]

/-- Of a property with a text, a filter by order tells whether the text comes no earlier or no later than
the other one: in the order of versions if both are versions, and in code-point order otherwise, if
not both are numbers. So one of the two directions holds, both hold between equals only, and no failed
conversion is left over: there is an answer wherever there is room for the calls. -/
theorem holds_by_order {properties : Properties} {key actual : Text} (expected : Text)
    (present : properties.value? key=some (.text actual))
    (h : ¬(IsNumber actual ∧ IsNumber expected)) :
    ∃ above below : Bool,
      (∀ v w, Version.parse actual=.ok v → Version.parse expected=.ok w →
        (above ↔ w ≤ v) ∧ (below ↔ v ≤ w) ∧ (above ∧ below ↔ v=w)) ∧
      (¬(IsVersion actual ∧ IsVersion expected) →
        (above ↔ expected ≤ actual) ∧ (below ↔ actual ≤ expected) ∧
          (above ∧ below ↔ actual=expected)) ∧
      (above ∨ below) ∧
      ∀ stack : EvalStack,
        holds stack properties (.compare .atLeast key expected)=
          Outcome.within stack.room (stack.comparing .atLeast expected (.text actual))
            (.ok above) ∧
        holds stack properties (.compare .atMost key expected)=
          Outcome.within stack.room (stack.comparing .atMost expected (.text actual))
            (.ok below) := by
  obtain ⟨above,up⟩ := Comparison.exists_holds_eq .atLeast actual expected
  obtain ⟨below,down⟩ := Comparison.exists_holds_eq .atMost actual expected
  have byVersion (v w : Version) (hv : Version.parse actual=.ok v)
      (hw : Version.parse expected=.ok w) : (above ↔ w ≤ v) ∧ (below ↔ v ≤ w) := by
    rw [Except.ok.inj (up.symm.trans (Comparison.holdsInOrder_of_versions h hv hw)),
      Except.ok.inj (down.symm.trans (Comparison.holdsInOrder_of_versions h hv hw))]
    exact ⟨decide_eq_true_iff,decide_eq_true_iff⟩
  have byText (unread : ¬(IsVersion actual ∧ IsVersion expected)) :
      (above ↔ expected ≤ actual) ∧ (below ↔ actual ≤ expected) := by
    rw [Except.ok.inj (up.symm.trans (Comparison.holdsInOrder_of_texts h unread)),
      Except.ok.inj (down.symm.trans (Comparison.holdsInOrder_of_texts h unread))]
    exact ⟨Text.le_iff,Text.le_iff⟩
  refine ⟨above,below,fun v w hv hw => ?_,fun unread => ?_,?_,fun stack => ⟨?_,?_⟩⟩
  · obtain ⟨higher,lower⟩ := byVersion v w hv hw
    exact ⟨higher,lower,(directions_of_le higher lower).1⟩
  · obtain ⟨higher,lower⟩ := byText unread
    exact ⟨higher,lower,(directions_of_le higher lower).1⟩
  · by_cases read : IsVersion actual ∧ IsVersion expected
    · obtain ⟨⟨v,hv⟩,w,hw⟩ := read
      obtain ⟨higher,lower⟩ := byVersion v w hv hw
      exact (directions_of_le higher lower).2
    · obtain ⟨higher,lower⟩ := byText read
      exact (directions_of_le higher lower).2
  · exact holds_compare_of_text present up stack
  · exact holds_compare_of_text present down stack

/-- The order of versions is not that of their texts, and a numeral beyond the limit is compared as a
text. -/
theorem holds_by_order_of_overlong :
    let ones : Text := List.replicate (Decimal.digitLimit+1) '1'
    let properties : Properties := [("Build".toList,some (.text "1.10.0.rc".toList)),
      ("Serial".toList,some (.text ones))]
    let build (op : Comparison) :=
      holds Running.evalStack properties (.compare op "BUILD".toList "1.9.0".toList)
    let serial (op : Comparison) :=
      holds Running.evalStack properties (.compare op "serial".toList "2.0.0".toList)
    (build .atLeast=.ok true ∧ build .atMost=.ok false ∧ "1.10.0.rc".toList < "1.9.0".toList) ∧
      serial .atLeast=.ok false ∧ serial .atMost=.ok true ∧
      Version.parse ones=.error .numeralTooLong := by
  intro ones properties build serial
  have worded {t : Text} (h : Decimal.binary64? t=none) : ¬IsNumber t := by simp [IsNumber,h]
  have release : ¬IsNumber "1.10.0.rc".toList := worded (by decide +kernel)
  have bound : ¬IsNumber "2.0.0".toList := worded (by decide +kernel)
  obtain ⟨above,below,versions,-,-,answers⟩ :=
    @holds_by_order properties "BUILD".toList _ "1.9.0".toList rfl fun both => release both.1
  obtain ⟨newer,older,-⟩ := versions ⟨1,10,0,"rc".toList⟩ ⟨1,9,0,[]⟩ (by decide) (by decide)
  obtain rfl : above=true := newer.mpr (by decide)
  obtain rfl : below=false := Bool.eq_false_iff.mpr (mt older.mp (by decide))
  obtain ⟨atLeast,atMost⟩ := answers Running.evalStack
  obtain ⟨up,down,-,texts,-,replies⟩ :=
    @holds_by_order properties "serial".toList ones "2.0.0".toList rfl fun both => bound both.2
  have numeral : Version.Numeral ones := ⟨by simp [ones],List.all_replicate.trans (by decide)⟩
  have long : Version.parse ones=.error .numeralTooLong :=
    Version.parse_eq_tooLong_iff.mpr (numeral.overlong (by simp [ones]))
  have unread : ¬(IsVersion ones ∧ IsVersion "2.0.0".toList) := by
    intro both
    obtain ⟨⟨v,hv⟩,-⟩ := both
    simp [long] at hv
  obtain ⟨later,earlier,-⟩ := texts unread
  have before : ones < "2.0.0".toList := List.Lex.rel (by decide)
  obtain rfl : up=false := Bool.eq_false_iff.mpr (mt later.mp (not_le.mpr before))
  obtain rfl : down=true := earlier.mpr before.le
  obtain ⟨no,yes⟩ := replies Running.evalStack
  exact ⟨⟨atLeast,atMost,by decide⟩,no,yes,long⟩

end Filter

end BundleManifest
