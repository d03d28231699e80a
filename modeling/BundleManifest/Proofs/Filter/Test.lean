import BundleManifest.Filter.Reader
import BundleManifest.Proofs.Filter.Grammar
import BundleManifest.Proofs.Outcome

namespace BundleManifest.Filter

open Text (Blank Trimmed)

theorem readValue_literal {c : Char} (h : c∉['(',')','*','\\']) (r : Text) :
    readValue (c::r)=(readValue r).map fun p => ((c::p.1.1,p.1.2),p.2) := by
  simp only [List.mem_cons,List.not_mem_nil,or_false,not_or] at h
  obtain ⟨opens,closes,star,slash⟩ := h
  rw [readValue.eq_def]
  split
  · simp_all
  · simp_all
  · simp_all
  · next d q _ _ heq =>
    obtain ⟨rfl,rfl⟩ := List.cons.inj heq
    rw [if_neg closes,if_neg opens]
    rcases readValue r with e|⟨⟨piece,pieces⟩,rest⟩
    · rfl
    · simp [star,bind,Except.bind,Except.map,pure,Except.pure]

theorem readValue_wildcard (r : Text) :
    readValue ('*' :: r)=(readValue r).map fun p => (([],p.1.1::p.1.2),p.2) := by
  rw [readValue]
  · rcases readValue r with e|⟨⟨piece,pieces⟩,rest⟩ <;> rfl
  all_goals simp

theorem readValue_escaped (c : Char) (r : Text) :
    readValue ('\\' :: c :: r)=(readValue r).map fun p => ((c::p.1.1,p.1.2),p.2) := by
  rw [readValue]
  rcases readValue r with e|⟨⟨piece,pieces⟩,rest⟩ <;> rfl

theorem readValue_close (r : Text) : readValue (')' :: r)=.ok (([],[]),')' :: r) := by
  rw [readValue] <;> simp

theorem readValue_open (r : Text) : readValue ('(' :: r)=failAt .openParenthesis ('(' :: r) := by
  rw [readValue] <;> simp

theorem readValue_of_spells {s piece : Text} {pieces : List Text} (h : Spells s piece pieces)
    (rest : Text) : readValue (s ++ ')' :: rest)=.ok ((piece,pieces),')' :: rest) := by
  induction h with
  | done => exact readValue_close rest
  | literal hc _ ih =>
    rw [List.cons_append,readValue_literal hc,ih]
    rfl
  | escaped _ ih =>
    rw [List.cons_append,List.cons_append,readValue_escaped,ih]
    rfl
  | wildcard _ ih =>
    rw [List.cons_append,readValue_wildcard,ih]
    rfl

/-- Induction on a text from the left, where a backslash goes with the character behind it. -/
theorem value_induction {P : Text → Prop} (nil : P []) (slash : P ['\\'])
    (escaped : ∀ c r, P r → P ('\\' :: c :: r)) (close : ∀ r, P (')' :: r))
    (opens : ∀ r, P ('(' :: r)) (wildcard : ∀ r, P r → P ('*' :: r))
    (literal : ∀ c r, c∉['(',')','*','\\'] → P r → P (c::r)) (s : Text) : P s := by
  induction s using readValue.induct with
  | case1 => exact nil
  | case2 => exact slash
  | case3 c r ih => exact escaped c r ih
  | case4 r => exact close r
  | case5 r => exact opens r
  | case6 c r lone pair closes' opens' ih =>
    by_cases star : c = '*'
    · subst star
      exact wildcard r ih
    · have plain : c ≠ '\\' := by
        intro hc
        cases r with
        | nil => exact lone hc rfl
        | cons d q => exact pair d q hc rfl
      exact literal c r (by simp [closes',opens',star,plain]) ih

theorem spells_of_readValue {s piece rest : Text} {pieces : List Text}
    (h : readValue s=.ok ((piece,pieces),rest)) :
    ∃ t tail, s=t++rest ∧ rest = ')' :: tail ∧ Spells t piece pieces := by
  induction s using value_induction generalizing piece pieces rest with
  | nil => simp [readValue,failAt] at h
  | slash => simp [readValue,failAt] at h
  | escaped c r ih =>
    rw [readValue_escaped,Outcome.map_eq_ok_iff] at h
    obtain ⟨⟨⟨p,ps⟩,q⟩,hr,same⟩ := h
    obtain ⟨⟨rfl,rfl⟩,rfl⟩ := by simpa using same
    obtain ⟨t,tail,rfl,ht,spells⟩ := ih hr
    exact ⟨_,tail,rfl,ht,.escaped spells⟩
  | close r =>
    rw [readValue_close] at h
    obtain ⟨⟨rfl,rfl⟩,rfl⟩ := by simpa using h
    exact ⟨[],r,rfl,rfl,.done⟩
  | opens r =>
    rw [readValue_open] at h
    cases h
  | wildcard r ih =>
    rw [readValue_wildcard,Outcome.map_eq_ok_iff] at h
    obtain ⟨⟨⟨p,ps⟩,q⟩,hr,same⟩ := h
    obtain ⟨⟨rfl,rfl⟩,rfl⟩ := by simpa using same
    obtain ⟨t,tail,rfl,ht,spells⟩ := ih hr
    exact ⟨_,tail,rfl,ht,.wildcard spells⟩
  | literal c r hc ih =>
    rw [readValue_literal hc,Outcome.map_eq_ok_iff] at h
    obtain ⟨⟨⟨p,ps⟩,q⟩,hr,same⟩ := h
    obtain ⟨⟨rfl,rfl⟩,rfl⟩ := by simpa using same
    obtain ⟨t,tail,rfl,ht,spells⟩ := ih hr
    exact ⟨_,tail,rfl,ht,.literal hc spells⟩

theorem readValue_ne_tooDeep (s : Text) : readValue s≠.error .nestedTooDeep := by
  induction s using value_induction with
  | nil => simp [readValue,failAt]
  | slash => simp [readValue,failAt]
  | escaped c r ih => rwa [readValue_escaped,ne_eq,Outcome.map_eq_error_iff]
  | close r => simp [readValue_close]
  | opens r => simp [readValue_open,failAt]
  | wildcard r ih => rwa [readValue_wildcard,ne_eq,Outcome.map_eq_error_iff]
  | literal c r hc ih => rwa [readValue_literal hc,ne_eq,Outcome.map_eq_error_iff]

theorem endsKey_eq_false_iff {c : Char} :
    endsKey c=false ↔ c∉['=','<','>','~','(',')'] := by
  simp [endsKey,and_assoc]

theorem endsKey_of_blank {c : Char} (h : Text.isBlank c) : endsKey c=false := by
  rw [endsKey_eq_false_iff]
  intro hc
  simp only [List.mem_cons,List.not_mem_nil,or_false] at hc
  rcases hc with rfl|rfl|rfl|rfl|rfl|rfl <;> exact absurd h (by decide)

theorem comparison?_symbol (op : Comparison) (r : Text) :
    comparison? (op.symbol++r)=some (op,r) := by
  cases op <;> rfl

theorem eq_of_comparison? {s r : Text} {op : Comparison} (h : comparison? s=some (op,r)) :
    s=op.symbol++r := by
  unfold comparison? at h
  split at h
  all_goals
    try cases h
    try rfl

/-- The part of a text before an operator is the key with a margin behind it. -/
theorem span_key {key b : Text} (hk : IsKey key) (hb : Blank b) (op : Comparison) (r : Text) :
    ((key++b++op.symbol++r).takeWhile fun c => !endsKey c)=key++b ∧
      ((key++b++op.symbol++r).dropWhile fun c => !endsKey c)=op.symbol++r := by
  have inside : ∀ c∈key++b, (!endsKey c)=true := by
    intro c hc
    rcases List.mem_append.mp hc with hc|hc
    · simp [endsKey_eq_false_iff.mpr (hk.unbroken c hc)]
    · simp [endsKey_of_blank (hb c hc)]
  have stop : (op.symbol++r).takeWhile (fun c => !endsKey c)=[] ∧
      (op.symbol++r).dropWhile (fun c => !endsKey c)=op.symbol++r := by
    cases op <;> exact ⟨rfl,rfl⟩
  rw [List.append_assoc,List.takeWhile_append_of_pos inside,List.dropWhile_append_of_pos inside,
    stop.1,stop.2,List.append_nil]
  exact ⟨rfl,rfl⟩

theorem readTest_of_parts {key b s piece : Text} {pieces : List Text} {op : Comparison}
    {f : Filter} (hk : IsKey key) (hb : Blank b) (hs : Spells s piece pieces)
    (ht : test key op piece pieces=.ok f) (rest : Text) :
    readTest (key++b++op.symbol++s ++ ')' :: rest)=.ok (f,')' :: rest) := by
  have value := readValue_of_spells hs rest
  obtain ⟨before,behind⟩ := span_key hk hb op (s ++ ')' :: rest)
  have name : Text.trim (key++b)=key := by
    have margins := Text.trim_append Text.blank_nil hb key
    exact margins.trans (Text.trim_of_trimmed hk.trimmed)
  rw [List.append_assoc _ s,readTest]
  simp only [before,behind,name,comparison?_symbol,value,if_neg hk.nonempty,bind,Except.bind,
    ht]

theorem test_present (key : Text) : test key .equal [] [[]]=.ok (.present key) := rfl

theorem test_substring {key first last : Text} {middle : List Text}
    (wild : ¬(first=[] ∧ middle=[] ∧ last=[])) :
    test key .equal first (middle++[last])=.ok (.substring key first middle last) := by
  have several : ¬((first=[] && middle++[last]=[[]])=true) := by
    intro h
    simp only [Bool.and_eq_true,decide_eq_true_eq] at h
    obtain ⟨rfl,h⟩ := h
    obtain ⟨rfl,same⟩ := List.append_eq_singleton_iff.mp h |>.resolve_right (by simp)
    exact wild ⟨rfl,rfl,by simpa using same⟩
  cases hp : middle++[last] with
  | nil => simp at hp
  | cons p ps =>
    rw [hp] at several
    simp only [test,if_neg several]
    simp [← hp]

/-- A test that can be made is one of the grammar. -/
theorem test_of_eq_ok {key b s piece : Text} {pieces : List Text} {op : Comparison} {f : Filter}
    (hk : IsKey key) (hb : Blank b) (hs : Spells s piece pieces)
    (h : test key op piece pieces=.ok f) : Test (key++b++op.symbol++s) f := by
  rcases List.eq_nil_or_concat' pieces with rfl|⟨middle,last,rfl⟩
  · cases op <;> cases h <;> exact .compare _ hk hb hs
  · cases op with
    | equal =>
      by_cases plain : piece=[] ∧ middle=[] ∧ last=[]
      · obtain ⟨rfl,rfl,rfl⟩ := plain
        cases h
        exact .present hk hb hs
      · rw [test_substring plain] at h
        cases h
        exact .substring hk hb hs plain
    | _ => cases middle <;> cases h

theorem readTest_of_test {s : Text} {f : Filter} (h : Test s f) (rest : Text) :
    readTest (s ++ ')' :: rest)=.ok (f,')' :: rest) := by
  cases h with
  | compare op hk hb hs => exact readTest_of_parts hk hb hs (by cases op <;> rfl) rest
  | present hk hb hs => exact readTest_of_parts hk hb hs (test_present _) rest
  | substring hk hb hs wild => exact readTest_of_parts hk hb hs (test_substring wild) rest

/-- A text that starts as a key does and that nothing ends is a key with a margin behind it. -/
theorem isKey_trim {k : Text} (blank : ∀ c∈k.head?, Text.isBlank c=false)
    (start : ∀ c∈k.head?, c∉['&','|','!']) (unbroken : ∀ c∈k, endsKey c=false)
    (h : Text.trim k≠[]) : IsKey (Text.trim k) ∧ ∃ b, Blank b ∧ k=Text.trim k++b := by
  have left : Text.trim k=Text.trimRight k := by rw [Text.trim,Text.trimLeft_of_head blank]
  obtain ⟨b,hb,margin⟩ := Text.exists_margin_trimRight k
  rw [← left] at margin
  refine ⟨⟨h,Text.trimmed_trim k,?_,?_⟩,b,hb,margin⟩
  · intro c hc
    apply endsKey_eq_false_iff.mp
    apply unbroken c
    rw [margin]
    exact List.mem_append_left b hc
  · intro c hc
    apply start c
    rw [margin]
    exact List.mem_head?_append_of_mem_head? hc

theorem test_of_readTest {s rest : Text} {f : Filter}
    (blank : ∀ c∈s.head?, Text.isBlank c=false) (start : ∀ c∈s.head?, c∉['&','|','!'])
    (h : readTest s=.ok (f,rest)) :
    ∃ t tail, s=t++rest ∧ rest = ')' :: tail ∧ Test t f := by
  -- `k` is the key with the margin behind it, `r` starts with the operator
  obtain ⟨k,hk⟩ : ∃ k, (s.takeWhile fun c => !endsKey c)=k := ⟨_,rfl⟩
  obtain ⟨r,hr⟩ : ∃ r, (s.dropWhile fun c => !endsKey c)=r := ⟨_,rfl⟩
  have parts : s=k++r := by
    rw [← hk,← hr]
    exact List.takeWhile_append_dropWhile.symm
  have first : ∀ c∈k.head?, c∈s.head? := by
    intro c hc
    rw [parts]
    exact List.mem_head?_append_of_mem_head? hc
  have unbroken : ∀ c∈k, endsKey c=false := by
    intro c hc
    rw [← hk] at hc
    simpa using List.mem_takeWhile_imp hc
  rw [readTest] at h
  simp only [hk,hr] at h
  split_ifs at h with missing
  · cases h
  obtain ⟨key,b,hb,margin⟩ := isKey_trim (fun c hc => blank c (first c hc))
    (fun c hc => start c (first c hc)) unbroken missing
  cases hc : comparison? r with
  | none =>
    rw [hc] at h
    cases h
  | some found =>
    obtain ⟨op,q⟩ := found
    rw [hc] at h
    obtain ⟨⟨⟨piece,pieces⟩,left⟩,hv,made⟩ := Outcome.bind_eq_ok_iff.mp h
    obtain ⟨t,tail,rfl,hleft,spells⟩ := spells_of_readValue hv
    dsimp only at made
    cases ht : test (Text.trim k) op piece pieces with
    | error fault =>
      rw [ht] at made
      cases made
    | ok g =>
      rw [ht] at made
      obtain ⟨rfl,rfl⟩ := by simpa using made
      refine ⟨_,tail,?_,hleft,test_of_eq_ok key hb spells ht⟩
      calc
        s = k++r := parts
        _ = Text.trim k++b++(op.symbol++(t++left)) := by
          rw [← margin,← eq_of_comparison? hc]
        _ = Text.trim k++b++op.symbol++t++left := by simp only [List.append_assoc]

theorem readTest_ne_tooDeep (s : Text) : readTest s≠.error .nestedTooDeep := by
  intro h
  rw [readTest] at h
  dsimp only at h
  split_ifs at h
  · cases h
  · split at h
    · cases h
    · next op r hc =>
      rcases Outcome.bind_eq_error_iff.mp h with h|⟨⟨⟨piece,pieces⟩,q⟩,-,h⟩
      · exact readValue_ne_tooDeep r h
      · dsimp only at h
        split at h <;> cases h

end BundleManifest.Filter
