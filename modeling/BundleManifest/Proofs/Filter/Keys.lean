import BundleManifest.Filter.Evaluation
import BundleManifest.Running.Stacks
import Mathlib.Data.List.Forall2
import Mathlib.Data.List.Induction

namespace BundleManifest

/-- The keys agree in lower case. -/
abbrev SameKey (k l : Text) : Prop := Text.lower k=Text.lower l

namespace Properties

/-- The same values in the same order, under keys that agree. -/
def Recased : Properties → Properties → Prop :=
  List.Forall₂ fun e e' => SameKey e.1 e'.1 ∧ e.2=e'.2

/-- The entries for other keys. -/
def without (key : Text) (p : Properties) : Properties := p.filter fun e => ¬SameKey e.1 key

/-- The properties as a dictionary, made from the entries with their keys in lower case. -/
def lowered (p : Properties) : Dictionary (Option PropertyValue) :=
  .ofList (p.map fun e => (Text.lower e.1,e.2))

theorem value?_nil (key : Text) : value? [] key=none := rfl

/-- A further entry is looked at first. -/
theorem value?_concat (p : Properties) (e : Text × Option PropertyValue) (key : Text) :
    (p++[e]).value? key=if SameKey e.1 key then e.2 else p.value? key := by
  by_cases h : SameKey e.1 key <;> simp [value?,h]

theorem value?_of_sameKey (p : Properties) {k l : Text} (h : SameKey k l) :
    p.value? k=p.value? l := by
  rw [value?,h]
  rfl

/-- A later entry for a key in the dictionary takes the place of an earlier one. -/
theorem value?_eq_get? (p : Properties) (key : Text) :
    p.value? key=(p.lowered.get? (Text.lower key)).join := by
  induction p using List.reverseRecOn with
  | nil => rfl
  | append_singleton p e ih =>
    have step : lowered (p++[e])=(lowered p).insert (Text.lower e.1) e.2 := by
      simp [lowered,Dictionary.ofList,Dictionary.update]
    rw [value?_concat,step,Dictionary.get?_insert,ih]
    split_ifs <;> rfl

theorem Recased.lowered_eq {p q : Properties} (h : Recased p q) : q.lowered=p.lowered := by
  have entries : q.map (fun e => (Text.lower e.1,e.2))=p.map fun e => (Text.lower e.1,e.2) := by
    induction h with
    | nil => rfl
    | cons same _ ih => rw [List.map_cons,List.map_cons,ih,same.1,same.2]
  rw [lowered,lowered,entries]

theorem Recased.value?_eq {p q : Properties} (h : Recased p q) (key : Text) :
    q.value? key=p.value? key := by
  rw [value?_eq_get?,value?_eq_get?,h.lowered_eq]

/-- Entries behind hide those in front of them if they are for the key. -/
theorem value?_append (p q : Properties) (key : Text) :
    (p++q).value? key=if ∃ e∈q, SameKey e.1 key then q.value? key else p.value? key := by
  induction q using List.reverseRecOn with
  | nil => simp
  | append_singleton q e ih =>
    rw [← List.append_assoc,value?_concat,value?_concat,ih]
    by_cases last : SameKey e.1 key
    · have behind : ∃ d∈q++[e], SameKey d.1 key := ⟨e,by simp,last⟩
      rw [if_pos last,if_pos behind,if_pos last]
    · have behind : (∃ d∈q++[e], SameKey d.1 key) ↔ ∃ d∈q, SameKey d.1 key := by
        simp [List.mem_append,or_and_right,exists_or,last]
      simp only [behind,if_neg last]

theorem value?_without (p : Properties) (k key : Text) :
    (p.without k).value? key=if SameKey key k then none else p.value? key := by
  induction p using List.reverseRecOn with
  | nil => simp [without,value?_nil]
  | append_singleton p e ih =>
    have kept : without k (p++[e])=if SameKey e.1 k then without k p else without k p++[e] := by
      by_cases h : SameKey e.1 k <;> simp [without,h]
    rw [kept,value?_concat]
    by_cases same : SameKey key k
    · by_cases gone : SameKey e.1 k
      · rw [if_pos gone,ih,if_pos same,if_pos same]
      · have other : ¬SameKey e.1 key := fun h => gone (h.trans same)
        rw [if_neg gone,value?_concat,if_neg other,ih,if_pos same,if_pos same]
    · by_cases gone : SameKey e.1 k
      · have other : ¬SameKey e.1 key := fun h => same (h.symm.trans gone)
        rw [if_pos gone,ih,if_neg same,if_neg same,if_neg other]
      · rw [if_neg gone,value?_concat,ih,if_neg same,if_neg same]

/-- The last entry for a key has its value. -/
theorem value?_of_last {front back : Properties} {k key : Text} {v : Option PropertyValue}
    (last : ∀ e∈back, ¬SameKey e.1 k) (same : SameKey key k) :
    value? (front++(k,v)::back) key=v := by
  have behind : ¬∃ e∈back, SameKey e.1 key := fun ⟨e,he,h⟩ => last e he (h.trans same)
  have split : front++(k,v)::back=front++[(k,v)]++back := by simp
  rw [split,value?_append,if_neg behind,value?_concat,if_pos same.symm]

/-- An entry in front of another one for its key is not looked at. -/
theorem value?_of_hidden {front back : Properties} {k : Text} {v : Option PropertyValue}
    (hidden : ∃ e∈back, SameKey e.1 k) (key : Text) :
    value? (front++(k,v)::back) key=value? (front++back) key := by
  have split : front++(k,v)::back=front++[(k,v)]++back := by simp
  rw [split,value?_append (front++[(k,v)]) back,value?_append front back,value?_concat]
  by_cases same : SameKey k key
  · obtain ⟨e,he,agree⟩ := hidden
    have behind : ∃ e∈back, SameKey e.1 key := ⟨e,he,agree.trans same⟩
    rw [if_pos behind,if_pos behind]
  · rw [if_neg same]

end Properties

namespace Filter

open Properties (value?)

mutual

/-- The same filter, with keys that agree. -/
inductive Recased : Filter → Filter → Prop
  | all {fs gs : List Filter} : RecasedAll fs gs → Recased (.all fs) (.all gs)
  | any {fs gs : List Filter} : RecasedAll fs gs → Recased (.any fs) (.any gs)
  | not {f g : Filter} : Recased f g → Recased (.not f) (.not g)
  | compare (op : Comparison) {k l : Text} (value : Text) : SameKey k l →
    Recased (.compare op k value) (.compare op l value)
  | present {k l : Text} : SameKey k l → Recased (.present k) (.present l)
  | substring {k l : Text} (first : Text) (middle : List Text) (last : Text) : SameKey k l →
    Recased (.substring k first middle last) (.substring l first middle last)

/-- The same filters in the same order. -/
inductive RecasedAll : List Filter → List Filter → Prop
  | nil : RecasedAll [] []
  | cons {f g : Filter} {fs gs : List Filter} : Recased f g → RecasedAll fs gs →
    RecasedAll (f::fs) (g::gs)

end

/-- The filter tests the property under the key. -/
inductive Tests (key : Text) : Filter → Prop
  | compare (op : Comparison) {k : Text} (value : Text) : SameKey k key →
    Tests key (.compare op k value)
  | present {k : Text} : SameKey k key → Tests key (.present k)
  | substring {k : Text} (first : Text) (middle : List Text) (last : Text) : SameKey k key →
    Tests key (.substring k first middle last)

mutual

theorem Recased.refl : ∀ f : Filter, Recased f f
  | .all fs => .all (RecasedAll.refl fs)
  | .any fs => .any (RecasedAll.refl fs)
  | .not f => .not (Recased.refl f)
  | .compare op _ value => .compare op value rfl
  | .present _ => .present rfl
  | .substring _ first middle last => .substring first middle last rfl

theorem RecasedAll.refl : ∀ fs : List Filter, RecasedAll fs fs
  | [] => .nil
  | f::fs => .cons (Recased.refl f) (RecasedAll.refl fs)

end

section

variable {stack : EvalStack} {p q : Properties}

mutual

/-- A filter sees nothing of the properties but the values under its keys. -/
theorem Recased.evaluate_eq (agree : ∀ key, q.value? key=p.value? key) :
    ∀ {f g : Filter}, Recased f g → ∀ room, evaluate stack q room g=evaluate stack p room f
  | _,_,.all h,_ => by rw [evaluate,evaluate,(h.evaluate_eq agree _).1]
  | _,_,.any h,_ => by rw [evaluate,evaluate,(h.evaluate_eq agree _).2]
  | _,_,.not h,_ => by rw [evaluate,evaluate,h.evaluate_eq agree]
  | _,_,.compare _ _ h,_ => by rw [evaluate,evaluate,agree,p.value?_of_sameKey h]
  | _,_,.present h,_ => by rw [evaluate,evaluate,agree,p.value?_of_sameKey h]
  | _,_,.substring _ _ _ h,_ => by rw [evaluate,evaluate,agree,p.value?_of_sameKey h]

theorem RecasedAll.evaluate_eq (agree : ∀ key, q.value? key=p.value? key) :
    ∀ {fs gs : List Filter}, RecasedAll fs gs → ∀ room,
      evaluateAll stack q room gs=evaluateAll stack p room fs ∧
        evaluateAny stack q room gs=evaluateAny stack p room fs
  | _,_,.nil,_ => ⟨by rw [evaluateAll,evaluateAll],by rw [evaluateAny,evaluateAny]⟩
  | _,_,.cons h hs,room => by
    obtain ⟨all,any⟩ := hs.evaluate_eq agree room
    simp only [evaluateAll,evaluateAny,h.evaluate_eq agree,all,any,and_self]

end

/-- Without a value every test of a property fails. -/
theorem Tests.evaluate_eq {key : Text} {f : Filter} (h : Tests key f)
    (absent : p.value? key=none) (room : Nat) :
    evaluate stack p room f=Outcome.within room (stack.lookup+1) (.ok false) := by
  cases h with
  | compare op value same => rw [evaluate,p.value?_of_sameKey same,absent]
  | present same => rw [evaluate,p.value?_of_sameKey same,absent,Option.isSome_none]
  | substring first middle last same => rw [evaluate,p.value?_of_sameKey same,absent]

end

/-- The case of keys, in a filter and in properties, makes no difference. What stands under a key is what a
dictionary of the entries holds for it in lower case: the value of the last of the entries that agree.
Those in front of it can have any value or be left out. If the last one has no value, all of them can
be left out, and tests of the property fail where their negations hold. -/
theorem holds_by_last_entries (stack : EvalStack) (p : Properties) (f : Filter) :
    (∀ q g, Properties.Recased p q → Recased f g → holds stack q g=holds stack p f) ∧
    (∀ key, p.value? key=(p.lowered.get? (Text.lower key)).join) ∧
    (∀ front k v back, p=front++(k,v)::back → (∃ e∈back, SameKey e.1 k) →
      holds stack (front++back) f=holds stack p f ∧
        ∀ w, holds stack (front++(k,w)::back) f=holds stack p f) ∧
    ∀ front k v back, p=front++(k,v)::back → (∀ e∈back, ¬SameKey e.1 k) →
      (∀ key, SameKey key k → p.value? key=v) ∧
      (v=none → holds stack (p.without k) f=holds stack p f ∧
        ∀ g, Tests k g →
          holds stack p g=Outcome.within stack.room (stack.lookup+1) (.ok false) ∧
          holds stack p (.not g)=Outcome.within stack.room (stack.lookup+2) (.ok true)) := by
  have seen {q : Properties} (agree : ∀ key, q.value? key=p.value? key) :
      holds stack q f=holds stack p f := (Recased.refl f).evaluate_eq agree stack.room
  refine ⟨fun q g entries keys => keys.evaluate_eq entries.value?_eq stack.room,p.value?_eq_get?,
    fun front k v back whole hidden => ⟨?_,fun w => ?_⟩,
    fun front k v back whole last => ⟨fun key same => ?_,fun unset => ⟨?_,fun g tests => ?_⟩⟩⟩
  · subst whole
    exact seen fun key => (Properties.value?_of_hidden hidden key).symm
  · subst whole
    refine seen fun key => ?_
    rw [Properties.value?_of_hidden hidden,Properties.value?_of_hidden hidden]
  · rw [whole,Properties.value?_of_last last same]
  · refine seen fun key => ?_
    rw [Properties.value?_without]
    split_ifs with same
    · rw [whole,Properties.value?_of_last last same,unset]
    · rfl
  · have absent : p.value? k=none := by rw [whole,Properties.value?_of_last last rfl,unset]
    refine ⟨tests.evaluate_eq absent stack.room,?_⟩
    rw [holds,evaluate,tests.evaluate_eq absent]
    simp only [Outcome.within]
    split_ifs <;> first | rfl | omega

/-- A last entry without a value hides one that would end the match, in every spelling of the key. -/
theorem holds_by_last_entries_of_unset :
    let p : Properties := [("OS".toList,some (.text "linux".toList)),
      ("Cores".toList,some (.text "4".toList)),("Os".toList,none)]
    let q : Properties := [("os".toList,some (.text "linux".toList)),
      ("CORES".toList,some (.text "4".toList)),("oS".toList,none)]
    let f : Filter := .all [.not (.present "os".toList),.compare .atLeast "cores".toList "2".toList]
    let g : Filter := .all [.not (.present "OS".toList),.compare .atLeast "Cores".toList "2".toList]
    let linux : Filter := .compare .equal "oS".toList "linux".toList
    holds Running.evalStack p f=.ok true ∧ holds Running.evalStack p.dropLast f=.ok false ∧
      holds Running.evalStack q g=.ok true ∧ holds Running.evalStack p.tail f=.ok true ∧
      holds Running.evalStack (p.without "Os".toList) f=.ok true ∧ p.value? "os".toList=none ∧
      holds Running.evalStack p linux=.ok false ∧
      holds Running.evalStack p (.not linux)=.ok true := by
  intro p q f g linux
  have matched : holds Running.evalStack p f=.ok true := by decide +kernel
  obtain ⟨recased,-,hidden,last⟩ := holds_by_last_entries Running.evalStack p f
  have entries : Properties.Recased p q := by
    simp only [Properties.Recased,p,q,List.forall₂_cons,List.Forall₂.nil,and_true]
    decide
  have keys : Recased f g :=
    .all (.cons (.not (.present (by decide))) (.cons (.compare _ _ (by decide)) .nil))
  obtain ⟨shorter,-⟩ := hidden [] _ _ p.tail rfl ⟨("Os".toList,none),by simp [p],by decide⟩
  obtain ⟨unset,fails⟩ := last p.dropLast _ _ [] rfl (by simp)
  obtain ⟨without,tests⟩ := fails rfl
  obtain ⟨no,yes⟩ := tests linux (.compare _ _ (by decide))
  exact ⟨matched,by decide +kernel,(recased q g entries keys).trans matched,shorter.trans matched,
    without.trans matched,unset _ (by decide),no,yes⟩

end Filter

end BundleManifest
