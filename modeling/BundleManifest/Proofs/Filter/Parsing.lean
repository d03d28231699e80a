import BundleManifest.Proofs.Filter.Printing
import BundleManifest.Proofs.Filter.Reader
import BundleManifest.Running.Stacks

namespace BundleManifest.Filter

open Text (Blank Trimmed)

variable {stack : ReadStack}

theorem filterOf_append {a : Text} (ha : Blank a) (n : Nat) (s : Text) :
    filterOf stack n (a++s)=filterOf stack n s := by
  rw [← filterOf_trimLeft,Text.trimLeft_append ha,filterOf_trimLeft]

theorem filterOf_of_tooDeep {n : Nat} {s : Text} (h : TooDeep n s) :
    filterOf stack n s=.error .nestedTooDeep := by
  induction h with
  | spent s => exact filterOf_zero s
  | @negation n a b s ha hb _ ih =>
    have opens := Text.trimLeft_margin ha (c := '(') (by decide) (b ++ '!' :: s)
    have inside := Text.trimLeft_margin hb (c := '!') (by decide) s
    rw [List.append_assoc,List.cons_append,filterOf_open opens,bodyOf_not inside,ih]
    rfl
  | @member n op make a b s c r fs ha hb hj hs hc _ ih =>
    have opens := Text.trimLeft_margin ha (c := '(') (by decide) (b++op::(s++(c ++ '(' :: r)))
    have inside := Text.trimLeft_margin hb hj.isBlank_eq (s++(c ++ '(' :: r))
    have next := Text.trimLeft_margin hc (c := '(') (by decide) r
    have list : filtersOf stack (n-1) (s++(c ++ '(' :: r))=.error .nestedTooDeep := by
      rw [filtersOf_of_sequence hs]
      split_ifs
      · rw [filtersOf_of_open next,filterOf_append hc,ih]
        rfl
      · rfl
    simp only [List.append_assoc,List.cons_append]
    rw [filterOf_open opens,bodyOf_list hj inside,list]
    rfl

/-- A list runs out of room in the filter that its reader reaches behind those it can read. -/
theorem exists_of_filtersOf_tooDeep {n : Nat} {s : Text}
    (h : filtersOf stack n s=.error .nestedTooDeep) :
    ∃ t c r fs, s=t++c ++ '(' :: r ∧ Sequence t fs ∧ Blank c ∧
      filterOf stack n ('(' :: r)=.error .nestedTooDeep := by
  -- the filters of a list are read with the same room, so the induction is on the text left
  obtain ⟨k,hk⟩ : ∃ k, s.length=k := ⟨_,rfl⟩
  induction k using Nat.strong_induction_on generalizing s with
  | _ k ih =>
  by_cases opens : ∃ r, Text.trimLeft s = '(' :: r
  · obtain ⟨r,hr⟩ := opens
    rw [filtersOf_of_open hr] at h
    rcases Outcome.bind_eq_error_iff.mp h with here|⟨⟨f,rest⟩,read,later⟩
    · obtain ⟨c,hc,rfl⟩ := Text.margin_of_trimLeft hr
      rw [filterOf_append hc] at here
      exact ⟨[],c,r,[],rfl,.nil,hc,here⟩
    · obtain ⟨t,rfl,ht,-⟩ := filterOf_eq_ok_iff.mp read
      have shorter : rest.length < k := by
        obtain ⟨a,q,-,rfl⟩ := ht.opens
        simp only [List.length_append,List.length_cons] at hk
        omega
      obtain ⟨u,c,r,fs,rfl,hu,hc,there⟩ :=
        ih rest.length shorter (Outcome.map_eq_error_iff.mp later) rfl
      exact ⟨t++u,c,r,f::fs,by simp only [List.append_assoc],.cons ht hu,hc,there⟩
  · have none : (Text.trimLeft s).head?≠some '(' := by
      intro head
      obtain ⟨r,hr⟩ := List.head?_eq_some_iff.mp head
      exact opens ⟨r,hr⟩
    rw [filtersOf_of_head none] at h
    cases h

/-- No test and no refusal takes more than `calls`. -/
structure ReadStack.LeavesWithin (stack : ReadStack) (calls : Nat) : Prop where
  test : stack.test ≤ calls
  refusal : ∀ fault, stack.refusal fault ≤ calls

theorem ReadStack.failAt_ne_tooDeep {calls n : Nat} (leaves : stack.LeavesWithin calls)
    (hn : calls ≤ n) {α : Type} (fault : FilterFault) (rest : Text) :
    stack.failAt n fault rest≠(.error .nestedTooDeep : Except Failure α) := by
  have enough := leaves.refusal fault
  rw [failAt,failure,if_neg (by omega)]
  simp

theorem ReadStack.within_readTest_ne_tooDeep {calls n : Nat} (leaves : stack.LeavesWithin calls)
    (hn : calls ≤ n) (s : Text) : stack.within n (readTest s)≠.error .nestedTooDeep := by
  have never := readTest_ne_tooDeep s
  rcases hr : readTest s with (⟨fault,left⟩|_)|p
  · have enough := leaves.refusal fault
    rw [within,failure,if_neg (by omega)]
    simp
  · exact absurd hr never
  · have enough := leaves.test
    rw [within,if_neg (by omega)]
    simp

/-- Without the calls that tests and refusals take, the room is spent by the filters. -/
theorem tooDeep_of_filterOf {calls : Nat} (leaves : stack.LeavesWithin calls) (n : Nat) :
    ∀ {s : Text}, filterOf stack n s=.error .nestedTooDeep → TooDeep (n-calls) s := by
  induction n using Nat.strong_induction_on with
  | _ n ih =>
  intro s h
  by_cases spent : n ≤ calls
  · rw [Nat.sub_eq_zero_of_le spent]
    exact .spent s
  · obtain ⟨n,rfl⟩ := Nat.exists_eq_add_one_of_ne_zero (show n≠0 by omega)
    have room : n+1-calls=n-calls+1 := by omega
    rw [room]
    by_cases opens : ∃ r, Text.trimLeft s = '(' :: r
    · obtain ⟨r,hr⟩ := opens
      rw [filterOf_open hr] at h
      obtain ⟨a,ha,rfl⟩ := Text.margin_of_trimLeft hr
      have body : bodyOf stack n r=.error .nestedTooDeep := by
        rcases Outcome.bind_eq_error_iff.mp h with body|⟨p,-,closing⟩
        · exact body
        · unfold close at closing
          split at closing
          · cases closing
          · exact absurd closing (stack.failAt_ne_tooDeep leaves (by omega) _ _)
      rcases body_cases r with ⟨op,make,q,hj,hq⟩|⟨q,hq⟩|start
      · obtain ⟨b,hb,rfl⟩ := Text.margin_of_trimLeft hq
        rw [bodyOf_list hj hq] at body
        rcases Outcome.bind_eq_error_iff.mp body with list|⟨p,-,empty⟩
        · obtain ⟨t,c,q',fs,rfl,ht,hc,there⟩ := exists_of_filtersOf_tooDeep list
          have inner := ih (n-1) (by omega) there
          rw [Nat.sub_right_comm] at inner
          simpa using TooDeep.member ha hb hj ht hc inner
        · split_ifs at empty
          exact absurd empty (stack.failAt_ne_tooDeep leaves (by omega) _ _)
      · obtain ⟨b,hb,rfl⟩ := Text.margin_of_trimLeft hq
        rw [bodyOf_not hq,Outcome.map_eq_error_iff] at body
        simpa using TooDeep.negation ha hb (ih n (by omega) body)
      · rw [bodyOf_test start] at body
        exact absurd body (stack.within_readTest_ne_tooDeep leaves (by omega) _)
    · rw [filterOf_not_open (fun r hr => opens ⟨r,hr⟩)] at h
      exact absurd h (stack.failAt_ne_tooDeep leaves (by omega) _ _)

theorem readWhole_eq (s : Text) :
    readWhole stack s=filterOf stack stack.room s >>= fun p =>
      if Text.trimLeft p.2=[] then .ok p.1
      else stack.failAt stack.room .trailing (Text.trimLeft p.2) := by
  rw [readWhole,filterOf]
  rcases readFilter stack stack.room s with e|⟨⟨f,rest⟩,hf⟩ <;> rfl

theorem Derives.ne_nil {t : Text} {f : Filter} (h : Derives t f) : t≠[] := by
  obtain ⟨a,r,-,rfl⟩ := h.opens
  simp

theorem readWhole_eq_ok_iff {s : Text} {f : Filter} (hs : Trimmed s) :
    readWhole stack s=.ok f ↔ Derives s f ∧ f.descent stack ≤ stack.room := by
  rw [readWhole_eq]
  constructor
  · intro h
    obtain ⟨⟨g,rest⟩,read,ends⟩ := Outcome.bind_eq_ok_iff.mp h
    dsimp only at ends
    split_ifs at ends with blank
    · cases ends
      obtain ⟨t,rfl,ht,enough⟩ := filterOf_eq_ok_iff.mp read
      obtain rfl := hs.eq_nil_of_blank (List.dropWhile_eq_nil_iff.mp blank)
      rw [List.append_nil]
      exact ⟨ht,enough⟩
    · cases ends
  · rintro ⟨ht,enough⟩
    have read : filterOf stack stack.room (s++[])=_ := filterOf_of_derives ht stack.room []
    rw [List.append_nil,if_pos enough] at read
    rw [read]
    rfl

theorem readWhole_of_tooDeep {s : Text} (h : TooDeep stack.room s) :
    readWhole stack s=.error .nestedTooDeep := by
  rw [readWhole_eq,filterOf_of_tooDeep h]
  rfl

theorem tooDeep_of_readWhole {calls : Nat} (leaves : stack.LeavesWithin calls) {s : Text}
    (h : readWhole stack s=.error .nestedTooDeep) : TooDeep (stack.room-calls) s := by
  rw [readWhole_eq] at h
  rcases Outcome.bind_eq_error_iff.mp h with deep|⟨p,-,trailing⟩
  · exact tooDeep_of_filterOf leaves stack.room deep
  · split_ifs at trailing
    by_cases spent : stack.room ≤ calls
    · rw [Nat.sub_eq_zero_of_le spent]
      exact .spent s
    · exact absurd trailing (stack.failAt_ne_tooDeep leaves (by omega) _ _)

theorem parse_eq_ok_iff {t : Text} {f : Filter} :
    parse stack t=.ok f ↔ Derives (Text.trim t) f ∧ f.descent stack ≤ stack.room := by
  rw [← readWhole_eq_ok_iff (Text.trimmed_trim t),parse]
  by_cases empty : Text.trim t=[]
  · rw [if_pos empty,Outcome.within]
    constructor
    · intro h
      split_ifs at h
      cases h
    · intro h
      exact absurd empty ((readWhole_eq_ok_iff (Text.trimmed_trim t)).mp h).1.ne_nil
  · rw [if_neg empty]
    rcases readWhole stack (Text.trim t) with (⟨fault,left⟩|_)|g <;> simp [Outcome.reject]

theorem TooDeep.ne_nil {n : Nat} {s : Text} (h : TooDeep (n+1) s) : s≠[] := by
  cases h <;> simp

theorem parse_of_tooDeep {t : Text} (h : TooDeep stack.room (Text.trim t)) :
    parse stack t=.error .nestedTooDeep := by
  rw [parse]
  by_cases empty : Text.trim t=[]
  · cases room : stack.room with
    | zero => rw [if_pos empty,Outcome.within,if_pos Nat.zero_lt_one]
    | succ n =>
      rw [room] at h
      exact absurd empty h.ne_nil
  · rw [if_neg empty,readWhole_of_tooDeep h]

theorem tooDeep_of_parse {calls : Nat} (leaves : stack.LeavesWithin calls) {t : Text}
    (h : parse stack t=.error .nestedTooDeep) : TooDeep (stack.room-calls) (Text.trim t) := by
  rw [parse] at h
  split_ifs at h with empty
  · rw [Outcome.within] at h
    split_ifs at h with spent
    · have none : stack.room-calls=0 := by omega
      rw [none]
      exact .spent _
    · cases h
  · split at h
    · cases h
    · cases h
    · next deep => exact tooDeep_of_readWhole leaves deep

/-- Reading gives a filter, runs out of room, or refuses the text as malformed. -/
theorem parse_cases (stack : ReadStack) (t : Text) :
    (∃ f, parse stack t=.ok f) ∨ parse stack t=.error .nestedTooDeep ∨
      ∃ cause, parse stack t=.error (.rejected cause) ∧ cause.kind=.malformedClause := by
  rw [parse]
  split_ifs
  · rw [Outcome.within]
    split_ifs
    · exact .inr (.inl rfl)
    · exact .inr (.inr ⟨_,rfl,rfl⟩)
  · split
    · exact .inl ⟨_,rfl⟩
    · exact .inr (.inr ⟨_,rfl,rfl⟩)
    · exact .inr (.inl rfl)

/-- A filter for which there is no room is not refused. -/
theorem parse_of_derives {t : Text} {f : Filter} (h : Derives (Text.trim t) f) :
    parse stack t=if f.descent stack ≤ stack.room then .ok f else .error .nestedTooDeep := by
  split_ifs with enough
  · exact parse_eq_ok_iff.mpr ⟨h,enough⟩
  · have read : filterOf stack stack.room (Text.trim t++[])=_ :=
      filterOf_of_derives h stack.room []
    rw [List.append_nil,if_neg enough] at read
    rw [parse,if_neg h.ne_nil,readWhole_eq,read]
    rfl

/-- A text is none of two filters. -/
theorem Derives.eq {t : Text} {f g : Filter} (hf : Derives t f) (hg : Derives t g) : f=g := by
  let stack : ReadStack := ⟨0,0,fun _ => 0⟩
  let n := max (f.descent stack) (g.descent stack)
  have first : filterOf stack n (t++[])=.ok (f,[]) :=
    (filterOf_of_derives hf n []).trans (if_pos (Nat.le_max_left ..))
  have second : filterOf stack n (t++[])=.ok (g,[]) :=
    (filterOf_of_derives hg n []).trans (if_pos (Nat.le_max_right ..))
  exact (Prod.mk.inj (Except.ok.inj (first.symm.trans second))).1

/-- A text is read as the filter that it derives in the grammar, if there is room for that. One that
goes deeper than there is room is given up, and none is that does not go deeper than the room less
the calls that a test or a refusal takes; every other is refused. -/
theorem parse_by_grammar {calls : Nat} (leaves : stack.LeavesWithin calls) (t : Text) :
    (∀ f, parse stack t=.ok f ↔ Derives (Text.trim t) f ∧ f.descent stack ≤ stack.room) ∧
      (∀ f, Derives (Text.trim t) f → stack.room < f.descent stack →
        parse stack t=.error .nestedTooDeep) ∧
      (TooDeep stack.room (Text.trim t) → parse stack t=.error .nestedTooDeep) ∧
      (parse stack t=.error .nestedTooDeep → TooDeep (stack.room-calls) (Text.trim t)) ∧
      ((∃ cause, parse stack t=.error (.rejected cause) ∧ cause.kind=.malformedClause) ↔
        (∀ f, ¬Derives (Text.trim t) f) ∧ parse stack t≠.error .nestedTooDeep) := by
  refine ⟨fun _ => parse_eq_ok_iff,?_,parse_of_tooDeep,tooDeep_of_parse leaves,?_⟩
  · intro f hf more
    rw [parse_of_derives hf,if_neg (by omega)]
  · constructor
    · rintro ⟨cause,refused,-⟩
      refine ⟨?_,by rw [refused]; simp⟩
      intro f hf
      rw [parse_of_derives hf] at refused
      split_ifs at refused
      cases refused
    · rintro ⟨underivable,shallow⟩
      rcases parse_cases stack t with ⟨f,read⟩|deep|refused
      · exact absurd (parse_eq_ok_iff.mp read).1 (underivable f)
      · exact absurd deep shallow
      · exact refused

theorem exists_derives_iterate {around : Filter → Filter}
    (step : ∀ {u f}, Derives u f → ∃ v, Derives v (around f)) {t : Text} {f : Filter}
    (h : Derives t f) (n : Nat) : ∃ u, Derives u (around^[n] f) := by
  induction n with
  | zero => exact ⟨t,h⟩
  | succ n ih =>
    obtain ⟨u,hu⟩ := ih
    rw [Function.iterate_succ_apply']
    exact step hu

theorem exists_derives_not {u : Text} {f : Filter} (h : Derives u f) : ∃ v, Derives v (.not f) :=
  ⟨_,.group Text.blank_nil Text.blank_nil (.not h) Text.blank_nil⟩

theorem exists_derives_all {u : Text} {f : Filter} (h : Derives u f) :
    ∃ v, Derives v (.all [f]) :=
  ⟨_,.group Text.blank_nil Text.blank_nil (.join .all (List.cons_ne_nil f []) (.cons h .nil))
    Text.blank_nil⟩

theorem descent_all (stack : ReadStack) (f : Filter) :
    (Filter.all [f]).descent stack=f.descent stack+2 := by
  rw [Joins.all.descent_eq,deepest_cons,deepest_nil,Nat.max_zero]

/-- Any number of filters around a test of one letter derives from its own text. -/
theorem derives_iterate {around : Filter → Filter}
    (step : ∀ {u f}, Derives u f → ∃ v, Derives v (around f)) (n : Nat) :
    Derives (Text.trim (around^[n] (.compare .equal ['a'] ['b'])).toText)
      (around^[n] (.compare .equal ['a'] ['b'])) := by
  have read : parse Running.readStack "(a=b)".toList=.ok (.compare .equal ['a'] ['b']) := by
    decide +kernel
  obtain ⟨u,hu⟩ := exists_derives_iterate step (parse_eq_ok_iff.mp read).1 n
  rw [Text.trim_of_trimmed (trimmed_toText _)]
  exact hu.printed

/-- A text of the grammar that is not read. -/
theorem parse_of_deep_negations :
    Derives (Text.trim (Filter.not^[3000] (.compare .equal ['a'] ['b'])).toText)
        (Filter.not^[3000] (.compare .equal ['a'] ['b'])) ∧
      parse Running.readStack (Filter.not^[3000] (.compare .equal ['a'] ['b'])).toText=
        .error .nestedTooDeep := by
  have derived := derives_iterate exists_derives_not 3000
  have deep := measure_iterate (@descent_not Running.readStack) (.compare .equal ['a'] ['b']) 3000
  have more : Running.readStack.room < 3000 := by decide
  exact ⟨derived,by rw [parse_of_derives derived,if_neg (by omega)]⟩

/-- A key without an operator is refused behind any negations. -/
theorem parse_by_grammar_of_missing_operator :
    Running.readStack.LeavesWithin 6 ∧
      Derives "(!(a=b))".toList (.not (.compare .equal ['a'] ['b'])) ∧
      ∀ f, ¬Derives "(!(a))".toList f := by
  have leaves : Running.readStack.LeavesWithin 6 := ⟨by decide,fun _ => Nat.le_refl 6⟩
  have read : parse Running.readStack "(!(a=b))".toList=.ok (.not (.compare .equal ['a'] ['b'])) :=
    by decide +kernel
  have refused : parse Running.readStack "(!(a))".toList=
      Outcome.reject (.invalidFilter "(!(a))".toList .missingOperator 4) := by decide +kernel
  obtain ⟨accepted,-⟩ := parse_by_grammar leaves "(!(a=b))".toList
  obtain ⟨-,-,-,-,malformed⟩ := parse_by_grammar leaves "(!(a))".toList
  exact ⟨leaves,((accepted _).mp read).1,(malformed.mp ⟨_,refused,rfl⟩).1⟩

/-- A filter that was read from some text is printed where there is room for that, and read from
what is printed again. -/
theorem parse_print {reading : ReadStack} {t : Text} {f : Filter} (h : parse reading t=.ok f)
    (printing : PrintStack) (again : ReadStack) :
    print printing f=(if f.height printing ≤ printing.room then .ok f.toText
        else .error .nestedTooDeep) ∧
      parse again f.toText=(if f.descent again ≤ again.room then .ok f
        else .error .nestedTooDeep) ∧
      parse reading f.toText=.ok f := by
  obtain ⟨derived,enough⟩ := parse_eq_ok_iff.mp h
  have printed := derived.printed
  rw [← Text.trim_of_trimmed (trimmed_toText f)] at printed
  exact ⟨print_eq f,parse_of_derives printed,parse_eq_ok_iff.mpr ⟨printed,enough⟩⟩

/-- Blanks within a key, escapes, empty pieces and a value of blanks are kept. -/
theorem parse_print_nested :
    parse Running.readStack " ( & (os name~=a\\)b)( ! (x=*)) (| (y=a**\\*b)(z= )) ) ".toList=
        .ok (.all [.compare .approximate "os name".toList "a)b".toList,.not (.present ['x']),
          .any [.substring ['y'] ['a'] [[]] "*b".toList,.compare .equal ['z'] [' ']]]) ∧
      ∃ u, print Running.printStack
          (.all [.compare .approximate "os name".toList "a)b".toList,.not (.present ['x']),
            .any [.substring ['y'] ['a'] [[]] "*b".toList,.compare .equal ['z'] [' ']]])=.ok u ∧
        parse Running.readStack u=
          .ok (.all [.compare .approximate "os name".toList "a)b".toList,.not (.present ['x']),
            .any [.substring ['y'] ['a'] [[]] "*b".toList,.compare .equal ['z'] [' ']]]) := by
  have read : parse Running.readStack
      " ( & (os name~=a\\)b)( ! (x=*)) (| (y=a**\\*b)(z= )) ) ".toList=
      .ok (.all [.compare .approximate "os name".toList "a)b".toList,.not (.present ['x']),
        .any [.substring ['y'] ['a'] [[]] "*b".toList,.compare .equal ['z'] [' ']]]) := by
    decide +kernel
  obtain ⟨printed,-,again⟩ := parse_print read Running.printStack Running.readStack
  rw [if_pos (by decide +kernel)] at printed
  exact ⟨read,_,printed,again⟩

/-- A text that is read and whose filter is not printed. -/
theorem print_of_deep_negations :
    parse Running.readStack (Filter.not^[300] (.compare .equal ['a'] ['b'])).toText=
        .ok (Filter.not^[300] (.compare .equal ['a'] ['b'])) ∧
      print Running.printStack (Filter.not^[300] (.compare .equal ['a'] ['b']))=
        .error .nestedTooDeep := by
  constructor
  · have derived := derives_iterate exists_derives_not 300
    have shallow := measure_iterate (@descent_not Running.readStack)
      (.compare .equal ['a'] ['b']) 300
    have test : descent Running.readStack (.compare .equal ['a'] ['b'])=5 := by decide +kernel
    have enough : 305 ≤ Running.readStack.room := by decide
    rw [parse_of_derives derived,if_pos (by omega)]
  · have deep := measure_iterate (height_not Running.printStack) (.compare .equal ['a'] ['b']) 300
    have more : Running.printStack.room < 300*(Running.printStack.parts+1) := by decide
    rw [print_eq,if_neg (by omega)]

end BundleManifest.Filter
