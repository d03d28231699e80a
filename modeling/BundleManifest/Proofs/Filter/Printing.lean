import BundleManifest.Filter.Printer
import BundleManifest.Proofs.Filter.Grammar

namespace BundleManifest.Filter

open Text (Blank Trimmed)

theorem spells_escape {s piece : Text} {pieces : List Text} (h : Spells s piece pieces)
    (value : Text) : Spells (escape value++s) (value++piece) pieces := by
  induction value with
  | nil => exact h
  | cons c r ih =>
    have one : escape (c::r)=(if isSpecial c then ['\\',c] else [c])++escape r := List.flatMap_cons
    rw [one]
    by_cases special : isSpecial c
    · rw [if_pos special]
      exact .escaped ih
    · rw [if_neg special]
      have plain : c∉['(',')','*','\\'] := by
        simpa [isSpecial,and_assoc] using special
      exact .literal plain ih

/-- Escaped pieces between stars spell the pieces. -/
theorem spells_join (piece : Text) (pieces : List Text) :
    Spells (Text.join ['*'] ((piece::pieces).map escape)) piece pieces := by
  induction pieces generalizing piece with
  | nil =>
    have h := spells_escape .done piece
    simpa [Text.join] using h
  | cons p ps ih =>
    have h := spells_escape (.wildcard (ih p)) piece
    simpa [Text.join,List.intercalate_cons_cons] using h

theorem Test.printed {s : Text} {f : Filter} (h : Test s f) :
    ∃ u, f.toText = '(' :: u++[')'] ∧ Test u f := by
  cases h with
  | @compare op key _ _ value hk _ _ =>
    have spelled := spells_escape .done value
    rw [List.append_nil,List.append_nil] at spelled
    refine ⟨key++[]++op.symbol++escape value,?_,.compare op hk Text.blank_nil spelled⟩
    rw [toText,List.append_nil]
    rfl
  | @present key _ _ hk _ _ =>
    refine ⟨key++[]++Comparison.equal.symbol++['*'],?_,.present hk Text.blank_nil (.wildcard .done)⟩
    simp [toText,Comparison.symbol]
  | @substring key _ _ first last middle hk _ _ wild =>
    refine ⟨_,?_,.substring hk Text.blank_nil (spells_join first (middle++[last])) wild⟩
    simp [toText,Comparison.symbol]

mutual

theorem Derives.printed : ∀ {t : Text} {f : Filter}, Derives t f → Derives f.toText f
  | _,f,.group _ _ hg _ => by
    obtain ⟨u,hu,hg⟩ := hg.printed
    have bare := Derives.group Text.blank_nil Text.blank_nil hg Text.blank_nil
    rw [hu]
    simpa using bare
  | _,f,.test _ _ ht => by
    obtain ⟨u,hu,ht⟩ := ht.printed
    have bare := Derives.test Text.blank_nil Text.blank_nil ht
    rw [hu]
    simpa using bare

theorem Group.printed : ∀ {s : Text} {f : Filter}, Group s f →
    ∃ u, f.toText = '(' :: u++[')'] ∧ Group u f
  | _,_,@Group.join _ make _ fs hj nonempty hs => by
    refine ⟨_,?_,.join hj nonempty hs.printed⟩
    cases hj <;> rw [toText]
  | _,_,.not hd => by
    refine ⟨_,?_,.not hd.printed⟩
    rw [toText]

theorem Sequence.printed : ∀ {s : Text} {fs : List Filter}, Sequence s fs →
    Sequence (toTexts fs) fs
  | _,_,.nil => by
    rw [toTexts]
    exact .nil
  | _,_,.cons hd hs => by
    rw [toTexts]
    exact .cons hd.printed hs.printed

end

/-- The calls that printing a filter goes down: each one over others takes one for itself and those
between it and its parts. -/
def height (stack : PrintStack) : Filter → Nat :=
  depth (stack.parts+1) (stack.parts+1) fun f => stack.test f+1

section

variable {stack : PrintStack}

/-- Parts that are printed or run out of room, with what is put around them. -/
theorem within_printed {α β : Type} {room calls more : Nat} {x : Outcome α} {a : α} (wrap : α → β)
    (h : x=Outcome.within (room-calls) more (.ok a)) :
    Outcome.within room calls (x >>= fun a => pure (wrap a))=
      Outcome.within room (more+calls) (.ok (wrap a)) := by
  subst h
  simp only [Outcome.within]
  by_cases enough : room < more+calls
  · rw [if_pos enough]
    split_ifs
    · rfl
    · rfl
    · omega
  · rw [if_neg enough,if_neg (by omega),if_neg (by omega)]
    rfl

mutual

theorem printIn_eq : ∀ (f : Filter) (room : Nat),
    printIn stack room f=Outcome.within room (f.height stack) (.ok f.toText)
  | .all fs,room => by
    rw [printIn,toText,height,depth]
    exact within_printed (fun t => '(' :: '&' :: t++[')']) (printAll_eq fs _)
  | .any fs,room => by
    rw [printIn,toText,height,depth]
    exact within_printed (fun t => '(' :: '|' :: t++[')']) (printAll_eq fs _)
  | .not f,room => by
    rw [printIn,toText,height,depth]
    exact within_printed (fun t => '(' :: '!' :: t++[')']) (printIn_eq f _)
  | .compare .., _ | .present _, _ | .substring .., _ => by
    rw [printIn,height,depth] <;> nofun

theorem printAll_eq : ∀ (fs : List Filter) (room : Nat), printAll stack room fs=
    Outcome.within room (depths (stack.parts+1) (stack.parts+1) (fun f => stack.test f+1) fs)
      (.ok (toTexts fs))
  | [],room => by
    rw [printAll,toTexts,depths]
    rfl
  | f::fs,room => by
    rw [printAll,printIn_eq f room,printAll_eq fs room,toTexts,depths,height]
    simp only [Outcome.within]
    by_cases first : room < depth (stack.parts+1) (stack.parts+1) (fun f => stack.test f+1) f
    · rw [if_pos first]
      exact (if_pos (by omega)).symm
    · rw [if_neg first]
      split_ifs <;> first | rfl | omega

end

theorem print_eq (f : Filter) :
    print stack f=if f.height stack ≤ stack.room then .ok f.toText else .error .nestedTooDeep := by
  rw [print,printIn_eq,Outcome.within]
  split_ifs <;> first | rfl | omega

theorem height_not (stack : PrintStack) (f : Filter) :
    (Filter.not f).height stack=f.height stack+(stack.parts+1) := by
  rw [height,depth]

end

theorem toText_parenthesized (f : Filter) : ∃ u, f.toText = '(' :: u++[')'] := by
  cases f with
  | present key => exact ⟨key++['=','*'],by simp [toText]⟩
  | _ =>
    rw [toText]
    exact ⟨_,rfl⟩

theorem trimmed_toText (f : Filter) : Trimmed f.toText := by
  obtain ⟨u,hu⟩ := toText_parenthesized f
  rw [hu]
  constructor
  · intro c hc
    obtain rfl : '(' = c := by simpa using hc
    decide
  · intro c hc
    rw [List.getLast?_concat] at hc
    obtain rfl : ')' = c := by simpa using hc
    decide

end BundleManifest.Filter
