import BundleManifest.Proofs.Filter.Test

namespace BundleManifest.Filter

open Text (Blank Trimmed)

section

variable (stack : ReadStack)

/-- Reads a filter, without the proof that the rest is shorter. -/
def filterOf (room : Nat) (s : Text) : Except Failure (Filter × Text) :=
  (readFilter stack room s).map Subtype.val

def bodyOf (room : Nat) (s : Text) : Except Failure (Filter × Text) :=
  (readBody stack room s).map Subtype.val

def filtersOf (room : Nat) (s : Text) : Except Failure (List Filter × Text) :=
  (readFilters stack room s).map Subtype.val

/-- Takes the closing parenthesis behind what was read. -/
def close (room : Nat) (p : Filter × Text) : Except Failure (Filter × Text) :=
  match Text.trimLeft p.2 with
  | ')' :: tail => .ok (p.1,tail)
  | tail => stack.failAt room (.expected ')') tail

end

variable {stack : ReadStack}

theorem filterOf_zero (s : Text) : filterOf stack 0 s=.error .nestedTooDeep := by
  rw [filterOf,readFilter]
  rfl

theorem filterOf_open {n : Nat} {s r : Text} (h : Text.trimLeft s = '(' :: r) :
    filterOf stack (n+1) s=bodyOf stack n r >>= close stack n := by
  rw [filterOf,readFilter,if_neg n.succ_ne_zero]
  split
  · next q hq =>
    obtain rfl : q=r := by simpa [h] using hq.symm
    rw [bodyOf,Nat.add_sub_cancel]
    rcases readBody stack n q with e|⟨⟨f,rest⟩,hf⟩
    · rfl
    · simp only [bind,Except.bind,Except.map.eq_2,close]
      split
      · next hc =>
        simp only [hc]
        rfl
      · next hc =>
        split
        · next hd => exact absurd hd (hc _)
        · rfl
  · next hq => exact absurd h (hq r)

theorem filterOf_not_open {n : Nat} {s : Text} (h : ∀ r, Text.trimLeft s ≠ '(' :: r) :
    filterOf stack (n+1) s=stack.failAt n (.expected '(') (Text.trimLeft s) := by
  rw [filterOf,readFilter,if_neg n.succ_ne_zero]
  split
  · next r hr => exact absurd hr (h r)
  · rfl

theorem bodyOf_list {n : Nat} {s r : Text} {op : Char} {make : List Filter → Filter}
    (hj : Joins op make) (h : Text.trimLeft s=op::r) :
    bodyOf stack n s=filtersOf stack (n-1) r >>= fun p =>
      if p.1=[] then stack.failAt n (.noOperands op) p.2 else .ok (make p.1,p.2) := by
  have taken : ∀ q, Text.trimLeft s=op::q → q=r := by
    intro q hq
    simpa [h] using hq.symm
  rw [bodyOf,readBody,filtersOf]
  cases hj with
  | all =>
    split
    · next q hq =>
      obtain rfl := taken q hq
      rcases readFilters stack (n-1) q with e|⟨⟨fs,rest⟩,hf⟩
      · rfl
      · by_cases empty : fs=[] <;>
          simp [empty,ReadStack.failAt,bind,Except.bind,Except.map,pure,Except.pure]
    all_goals simp_all
  | any =>
    split
    · simp_all
    · next q hq =>
      obtain rfl := taken q hq
      rcases readFilters stack (n-1) q with e|⟨⟨fs,rest⟩,hf⟩
      · rfl
      · by_cases empty : fs=[] <;>
          simp [empty,ReadStack.failAt,bind,Except.bind,Except.map,pure,Except.pure]
    all_goals simp_all

theorem bodyOf_not {n : Nat} {s r : Text} (h : Text.trimLeft s = '!' :: r) :
    bodyOf stack n s=(filterOf stack n r).map fun p => (.not p.1,p.2) := by
  rw [bodyOf,readBody,filterOf]
  split
  · simp_all
  · simp_all
  · next q hq =>
    obtain rfl : q=r := by simpa [h] using hq.symm
    rcases readFilter stack n q with e|⟨⟨f,rest⟩,hf⟩ <;> rfl
  · next hq => exact absurd h (hq r)

theorem bodyOf_test {n : Nat} {s : Text}
    (h : ∀ c∈(Text.trimLeft s).head?, c∉['&','|','!']) :
    bodyOf stack n s=stack.within n (readTest (Text.trimLeft s)) := by
  rw [bodyOf,readBody]
  split
  · simp_all
  · simp_all
  · simp_all
  · split
    · next e he => exact he.symm
    · next p hp => exact hp.symm

theorem filtersOf_eq (n : Nat) (s : Text) :
    filtersOf stack n s=
      if (Text.trimLeft s).head?=some '(' then
        filterOf stack n (Text.trimLeft s) >>= fun p =>
          (filtersOf stack n p.2).map fun q => (p.1::q.1,q.2)
      else .ok ([],Text.trimLeft s) := by
  rw [filtersOf,readFilters]
  dsimp only
  split_ifs
  · rw [filterOf]
    rcases readFilter stack n (Text.trimLeft s) with e|⟨⟨f,rest⟩,hf⟩
    · rfl
    · simp only [bind,Except.bind,Except.map,filtersOf]
      rcases readFilters stack n rest with e|q <;> rfl
  · rfl

theorem filterOf_trimLeft (n : Nat) (s : Text) :
    filterOf stack n (Text.trimLeft s)=filterOf stack n s := by
  cases n with
  | zero => rw [filterOf_zero,filterOf_zero]
  | succ n =>
    by_cases h : ∃ r, Text.trimLeft s = '(' :: r
    · obtain ⟨r,hr⟩ := h
      rw [filterOf_open hr,filterOf_open ((Text.trimLeft_trimLeft s).trans hr)]
    · have hs : ∀ r, Text.trimLeft s ≠ '(' :: r := fun r hr => h ⟨r,hr⟩
      have ht : ∀ r, Text.trimLeft (Text.trimLeft s) ≠ '(' :: r := by rwa [Text.trimLeft_trimLeft]
      rw [filterOf_not_open hs,filterOf_not_open ht,Text.trimLeft_trimLeft]

theorem filtersOf_of_head {n : Nat} {s : Text} (h : (Text.trimLeft s).head?≠some '(') :
    filtersOf stack n s=.ok ([],Text.trimLeft s) := by
  rw [filtersOf_eq,if_neg h]

theorem filtersOf_of_open {n : Nat} {s r : Text} (h : Text.trimLeft s = '(' :: r) :
    filtersOf stack n s=filterOf stack n s >>= fun p =>
      (filtersOf stack n p.2).map fun q => (p.1::q.1,q.2) := by
  have head : (Text.trimLeft s).head?=some '(' := by rw [h,List.head?_cons]
  rw [filtersOf_eq,if_pos head,filterOf_trimLeft]

theorem close_of_trimLeft {n : Nat} {f : Filter} {r tail : Text}
    (h : Text.trimLeft r = ')' :: tail) : close stack n (f,r)=.ok (f,tail) := by
  simp only [close,h]

theorem close_eq_ok {n : Nat} {f g : Filter} {r tail : Text}
    (h : close stack n (f,r)=.ok (g,tail)) : g=f ∧ Text.trimLeft r = ')' :: tail := by
  unfold close at h
  split at h
  · next q hq =>
    obtain ⟨rfl,rfl⟩ := by simpa using h
    exact ⟨rfl,hq⟩
  · cases h

theorem Derives.opens {t : Text} {f : Filter} (h : Derives t f) :
    ∃ a r, Blank a ∧ t=a ++ '(' :: r := by
  cases h with
  | @group a b s c _ ha _ _ _ => exact ⟨a,b++s++c++[')'],ha,by simp⟩
  | @test a b s _ ha _ _ => exact ⟨a,b++s++[')'],ha,by simp⟩

/-- A test starts with its key. -/
theorem Test.start {s : Text} {f : Filter} (h : Test s f) (rest : Text) :
    ∀ c∈(s++rest).head?, Text.isBlank c=false ∧ c∉['&','|','!'] := by
  have first : ∀ {key r : Text}, IsKey key → s=key++r →
      ∀ c∈(s++rest).head?, Text.isBlank c=false ∧ c∉['&','|','!'] := by
    intro key r hk hs c hc
    cases key with
    | nil => exact absurd rfl hk.nonempty
    | cons d q =>
      subst hs
      obtain rfl : d=c := by simpa using hc
      exact ⟨hk.trimmed.head d rfl,hk.start d rfl⟩
  cases h with
  | compare op hk hb hs => exact first hk (by rw [List.append_assoc,List.append_assoc])
  | present hk hb hs => exact first hk (by rw [List.append_assoc,List.append_assoc])
  | substring hk hb hs wild => exact first hk (by rw [List.append_assoc,List.append_assoc])

mutual

theorem filterOf_of_derives : ∀ {t : Text} {f : Filter}, Derives t f → ∀ (n : Nat) (rest : Text),
    filterOf stack n (t++rest)=if f.descent stack ≤ n then .ok (f,rest) else .error .nestedTooDeep
  | _,f,_,0,rest => by
    have pos := descent_pos stack f
    rw [filterOf_zero,if_neg (by omega)]
  | _,f,@Derives.group a b s c _ ha hb hg hc,n+1,rest => by
    have opens : Text.trimLeft (a ++ '(' :: b++s++c++[')']++rest) =
        '(' :: (b++(s++(c ++ ')' :: rest))) := by
      simp only [List.append_assoc,List.cons_append,List.nil_append]
      exact Text.trimLeft_margin ha (by decide) _
    rw [filterOf_open opens]
    exact bodyOf_of_group hg hb n (Text.trimLeft_margin hc (by decide) rest)
  | _,f,@Derives.test a b s _ ha hb ht,n+1,rest => by
    have opens : Text.trimLeft (a ++ '(' :: b++s++[')']++rest) =
        '(' :: (b++(s ++ ')' :: rest)) := by
      simp only [List.append_assoc,List.cons_append,List.nil_append]
      exact Text.trimLeft_margin ha (by decide) _
    have start := ht.start (')' :: rest)
    have inside : Text.trimLeft (b++(s ++ ')' :: rest)) = s ++ ')' :: rest := by
      rw [Text.trimLeft_append hb]
      exact Text.trimLeft_of_head fun c hc => (start c hc).1
    rw [filterOf_open opens,bodyOf_test (by rw [inside]; exact fun c hc => (start c hc).2),inside,
      readTest_of_test ht,ReadStack.within,ht.descent_eq]
    by_cases enough : n < stack.test
    · rw [if_pos enough,if_neg (by omega)]
      rfl
    · have closes : close stack n (f,')' :: rest)=.ok (f,rest) :=
        close_of_trimLeft (Text.trimLeft_cons (by decide) rest)
      rw [if_neg enough,if_pos (by omega)]
      exact closes

theorem bodyOf_of_group : ∀ {s : Text} {f : Filter}, Group s f → ∀ {b : Text}, Blank b →
    ∀ (n : Nat) {x rest : Text}, Text.trimLeft x = ')' :: rest →
    (bodyOf stack n (b++(s++x)) >>= close stack n) =
      if f.descent stack ≤ n+1 then .ok (f,rest) else .error .nestedTooDeep
  | _,_,@Group.join op make s fs hj nonempty hs,b,hb,n,x,rest,closes => by
    have inside : Text.trimLeft (b++(op::s++x))=op::(s++x) :=
      Text.trimLeft_margin hb hj.isBlank_eq (s++x)
    have none : (Text.trimLeft x).head?≠some '(' := by simp [closes]
    have pos := deepest_pos stack nonempty
    rw [bodyOf_list hj inside,filtersOf_of_sequence hs,filtersOf_of_head none,hj.descent_eq,closes]
    by_cases enough : deepest stack fs ≤ n-1
    · have rest' : close stack n (make fs,')' :: rest)=.ok (make fs,rest) :=
        close_of_trimLeft (Text.trimLeft_cons (by decide) rest)
      rw [if_pos enough,if_pos (by omega)]
      simp [nonempty,rest',bind,Except.bind,Except.map]
    · rw [if_neg enough,if_neg (by omega)]
      rfl
  | _,_,@Group.not s f hd,b,hb,n,x,rest,closes => by
    have inside : Text.trimLeft (b++('!' :: s++x)) = '!' :: (s++x) :=
      Text.trimLeft_margin hb (by decide) (s++x)
    rw [bodyOf_not inside,filterOf_of_derives hd n x,descent_not]
    by_cases enough : f.descent stack ≤ n
    · rw [if_pos enough,if_pos (by omega)]
      exact close_of_trimLeft closes
    · rw [if_neg enough,if_neg (by omega)]
      rfl

/-- Filters in front of a text are read before it. -/
theorem filtersOf_of_sequence : ∀ {s : Text} {fs : List Filter}, Sequence s fs →
    ∀ (n : Nat) (x : Text), filtersOf stack n (s++x)=
      if deepest stack fs ≤ n then (filtersOf stack n x).map fun p => (fs++p.1,p.2)
      else .error .nestedTooDeep
  | _,_,.nil,n,x => by
    rw [deepest_nil,if_pos n.zero_le,List.nil_append]
    cases filtersOf stack n x <;> rfl
  | _,_,@Sequence.cons s r f fs hd hs,n,x => by
    obtain ⟨a,q,ha,hq⟩ := hd.opens
    have opens : Text.trimLeft (s++r++x) = '(' :: (q++(r++x)) := by
      rw [hq,List.append_assoc,List.append_assoc]
      exact Text.trimLeft_margin ha (by decide) (q++(r++x))
    rw [filtersOf_of_open opens,List.append_assoc,filterOf_of_derives hd n (r++x),deepest_cons]
    by_cases first : f.descent stack ≤ n
    · by_cases others : deepest stack fs ≤ n
      · rw [if_pos first,if_pos (by omega)]
        simp only [bind,Except.bind]
        rw [filtersOf_of_sequence hs n x,if_pos others]
        cases filtersOf stack n x <;> rfl
      · rw [if_pos first,if_neg (by omega)]
        simp only [bind,Except.bind]
        rw [filtersOf_of_sequence hs n x,if_neg others]
        rfl
    · rw [if_neg first,if_neg (by omega)]
      rfl

end

/-- The filters of a list were read one after the other, with blanks behind them. -/
theorem sequence_of_filtersOf {n : Nat}
    (derived : ∀ {s rest : Text} {f : Filter}, filterOf stack n s=.ok (f,rest) →
      ∃ t, s=t++rest ∧ Derives t f) {s rest : Text} {fs : List Filter}
    (h : filtersOf stack n s=.ok (fs,rest)) :
    ∃ t b, s=t++b++rest ∧ Sequence t fs ∧ Blank b := by
  induction fs generalizing s with
  | nil =>
    obtain ⟨b,hb,hs⟩ := Text.exists_margin_trimLeft s
    by_cases head : (Text.trimLeft s).head?=some '('
    · rw [filtersOf_eq,if_pos head] at h
      obtain ⟨p,-,hp⟩ := Outcome.bind_eq_ok_iff.mp h
      obtain ⟨q,-,hq⟩ := Outcome.map_eq_ok_iff.mp hp
      cases hq
    · rw [filtersOf_of_head head] at h
      cases h
      exact ⟨[],b,hs,.nil,hb⟩
  | cons f fs ih =>
    by_cases head : (Text.trimLeft s).head?=some '('
    · rw [filtersOf_eq,if_pos head,filterOf_trimLeft] at h
      obtain ⟨⟨g,q⟩,hg,hp⟩ := Outcome.bind_eq_ok_iff.mp h
      obtain ⟨⟨gs,q'⟩,hgs,same⟩ := Outcome.map_eq_ok_iff.mp hp
      cases same
      obtain ⟨t,rfl,ht⟩ := derived hg
      obtain ⟨r,b,rfl,hr,hb⟩ := ih hgs
      exact ⟨t++r,b,by simp only [List.append_assoc],.cons ht hr,hb⟩
    · rw [filtersOf_of_head head] at h
      cases h

/-- The start of a text decides how a body is read. -/
theorem body_cases (s : Text) :
    (∃ op make r, Joins op make ∧ Text.trimLeft s=op::r) ∨ (∃ r, Text.trimLeft s = '!' :: r) ∨
      ∀ c∈(Text.trimLeft s).head?, c∉['&','|','!'] := by
  cases h : Text.trimLeft s with
  | nil => exact .inr (.inr nofun)
  | cons c r =>
    by_cases hc : c∈['&','|','!']
    · simp only [List.mem_cons,List.not_mem_nil,or_false] at hc
      rcases hc with rfl|rfl|rfl
      · exact .inl ⟨_,_,r,.all,rfl⟩
      · exact .inl ⟨_,_,r,.any,rfl⟩
      · exact .inr (.inl ⟨r,rfl⟩)
    · refine .inr (.inr ?_)
      intro d hd
      obtain rfl : c=d := by simpa using hd
      exact hc

/-- A body and the parenthesis behind it derive a filter, once every filter inside of it does. -/
theorem derives_of_bodyOf {n : Nat}
    (derived : ∀ m ≤ n, ∀ {s rest : Text} {f : Filter}, filterOf stack m s=.ok (f,rest) →
      ∃ t, s=t++rest ∧ Derives t f) {a s q rest : Text} {f : Filter} (ha : Blank a)
    (h : bodyOf stack n s=.ok (f,q)) (closes : Text.trimLeft q = ')' :: rest) :
    ∃ t, a ++ '(' :: s=t++rest ∧ Derives t f := by
  rcases body_cases s with ⟨op,make,r,hj,hr⟩|⟨r,hr⟩|start
  · rw [bodyOf_list hj hr] at h
    obtain ⟨⟨fs,q'⟩,hfs,made⟩ := Outcome.bind_eq_ok_iff.mp h
    dsimp only at made
    split_ifs at made with empty
    · cases made
    · obtain ⟨rfl,rfl⟩ := by simpa using made
      obtain ⟨t,d,rfl,ht,hd⟩ := sequence_of_filtersOf (derived (n-1) (by omega)) hfs
      obtain ⟨b,hb,rfl⟩ := Text.margin_of_trimLeft hr
      obtain ⟨c,hc,rfl⟩ := Text.margin_of_trimLeft closes
      exact ⟨a ++ '(' :: b++(op::t)++(d++c)++[')'],by simp,
        .group ha hb (.join hj empty ht) (hd.append hc)⟩
  · rw [bodyOf_not hr] at h
    obtain ⟨⟨g,q'⟩,hg,made⟩ := Outcome.map_eq_ok_iff.mp h
    cases made
    obtain ⟨t,rfl,ht⟩ := derived n (by omega) hg
    obtain ⟨b,hb,rfl⟩ := Text.margin_of_trimLeft hr
    obtain ⟨c,hc,rfl⟩ := Text.margin_of_trimLeft closes
    exact ⟨a ++ '(' :: b++('!' :: t)++c++[')'],by simp,.group ha hb (.not ht) hc⟩
  · rw [bodyOf_test start] at h
    obtain ⟨t,tail,ht,rfl,test⟩ := test_of_readTest (Text.head_trimLeft s) start
      (stack.eq_of_within h)
    obtain ⟨b,hb,hs⟩ := Text.exists_margin_trimLeft s
    rw [Text.trimLeft_cons (by decide)] at closes
    obtain rfl : tail=rest := by simpa using closes
    rw [ht] at hs
    exact ⟨a ++ '(' :: b++t++[')'],by simp [hs],.test ha hb test⟩

/-- Each call into a filter leaves room for fewer, which is the induction. -/
theorem derives_of_filterOf (n : Nat) : ∀ {s rest : Text} {f : Filter},
    filterOf stack n s=.ok (f,rest) → ∃ t, s=t++rest ∧ Derives t f := by
  induction n using Nat.strong_induction_on with
  | _ n ih =>
  intro s rest f h
  cases n with
  | zero =>
    rw [filterOf_zero] at h
    cases h
  | succ n =>
    -- a negation leaves room for `n` calls to the filter in it, a list for one fewer
    by_cases opens : ∃ r, Text.trimLeft s = '(' :: r
    · obtain ⟨r,hr⟩ := opens
      rw [filterOf_open hr] at h
      obtain ⟨⟨g,q⟩,body,closing⟩ := Outcome.bind_eq_ok_iff.mp h
      obtain ⟨rfl,closes⟩ := close_eq_ok closing
      obtain ⟨a,ha,rfl⟩ := Text.margin_of_trimLeft hr
      exact derives_of_bodyOf (fun m hm => ih m (by omega)) ha body closes
    · rw [filterOf_not_open (fun r hr => opens ⟨r,hr⟩)] at h
      cases h

/-- Reading succeeds exactly on texts that start with a filter for which there is room. -/
theorem filterOf_eq_ok_iff {n : Nat} {s rest : Text} {f : Filter} :
    filterOf stack n s=.ok (f,rest) ↔ ∃ t, s=t++rest ∧ Derives t f ∧ f.descent stack ≤ n := by
  constructor
  · intro h
    obtain ⟨t,rfl,ht⟩ := derives_of_filterOf n h
    refine ⟨t,rfl,ht,?_⟩
    by_contra tooMany
    rw [filterOf_of_derives ht,if_neg tooMany] at h
    cases h
  · rintro ⟨t,rfl,ht,enough⟩
    rw [filterOf_of_derives ht,if_pos enough]

end BundleManifest.Filter
