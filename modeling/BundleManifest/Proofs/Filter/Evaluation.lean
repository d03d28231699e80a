import BundleManifest.Proofs.Filter.Depth
import BundleManifest.Proofs.Filter.Order

namespace BundleManifest.Filter

/-- The outcome is the value, or there is not room for so many calls. -/
def Answers {α : Type} (room calls : Nat) (a : α) (x : Outcome α) : Prop :=
  x=.ok a ∨ (x=.error .nestedTooDeep ∧ room < calls)

theorem answers_within {α : Type} (room calls : Nat) (a : α) :
    Answers room calls a (Outcome.within room calls (.ok a)) := by
  rw [Outcome.within]
  split_ifs with short
  · exact .inr ⟨rfl,short⟩
  · exact .inl rfl

/-- A call of so many frames around another one. -/
theorem Answers.within {α : Type} {room calls more : Nat} {a : α} {x : Outcome α}
    (h : Answers (room-more) calls a x) :
    Answers room (calls+more) a (Outcome.within room more x) := by
  rw [Outcome.within]
  split_ifs with short
  · exact .inr ⟨rfl,by omega⟩
  · rcases h with h|⟨h,less⟩
    · exact .inl h
    · exact .inr ⟨h,by omega⟩

theorem Answers.map {α β : Type} {room calls : Nat} {a : α} {x : Outcome α} (g : α → β)
    (h : Answers room calls a x) : Answers room calls (g a) (x.map g) := by
  rcases h with rfl|⟨rfl,short⟩
  · exact .inl rfl
  · exact .inr ⟨rfl,short⟩

/-- Where the first answer decides between two outcomes, the room for both is enough. -/
theorem Answers.ite {room m n : Nat} {a b c : Bool} {x y z : Outcome Bool}
    (first : Answers room m a x) (yes : Answers room n b y) (no : Answers room n c z) :
    Answers room (max m n) (if a then b else c) (x >>= fun t => if t then y else z) := by
  rcases first with rfl|⟨rfl,short⟩
  · cases a
    · exact no.imp_right fun h => ⟨h.1,by omega⟩
    · exact yes.imp_right fun h => ⟨h.1,by omega⟩
  · exact .inr ⟨rfl,by omega⟩

mutual

theorem exists_passes_eq {test : Text → Outcome Bool} (total : ∀ t, ∃ b, test t=.ok b) :
    ∀ v : PropertyValue, ∃ b, passes test v=.ok b
  | .text t => by
    rw [passes]
    exact total t
  | .many vs => by
    rw [passes]
    exact exists_passesAny_eq total vs

theorem exists_passesAny_eq {test : Text → Outcome Bool} (total : ∀ t, ∃ b, test t=.ok b) :
    ∀ vs : List PropertyValue, ∃ b, passesAny test vs=.ok b
  | [] => ⟨false,by rw [passesAny]⟩
  | v::vs => by
    obtain ⟨a,ha⟩ := exists_passes_eq total v
    obtain ⟨b,hb⟩ := exists_passesAny_eq total vs
    cases a
    · exact ⟨b,by rw [passesAny,ha]; exact hb⟩
    · exact ⟨true,by rw [passesAny,ha]; rfl⟩

end

/-- The calls that evaluating a test goes down. -/
def EvalStack.testing (stack : EvalStack) (p : Properties) : Filter → Nat
  | .compare op key value =>
    ((p.value? key).map (stack.comparing op value)).getD (stack.lookup+1)
  | .substring key .. =>
    ((p.value? key).map fun v => max (stack.lookup+1) (stack.search v+1)).getD (stack.lookup+1)
  | _ => stack.lookup+1

/-- The calls that evaluating a filter goes down, if none of its parts is passed over. -/
def reach (stack : EvalStack) (p : Properties) : Filter → Nat :=
  depth 1 (stack.list+1) (stack.testing p)

mutual

/-- A filter has an answer wherever there is room for it, and it is the same everywhere. -/
theorem exists_evaluate_eq (p : Properties) : ∀ f : Filter, ∃ b, ∀ (stack : EvalStack) (room : Nat),
    Answers room (f.reach stack p) b (evaluate stack p room f)
  | .all fs => by
    obtain ⟨b,hb⟩ := exists_evaluateAll_eq p fs
    refine ⟨b,fun stack room => ?_⟩
    rw [evaluate,reach,depth]
    exact (hb stack _).within
  | .any fs => by
    obtain ⟨b,hb⟩ := exists_evaluateAny_eq p fs
    refine ⟨b,fun stack room => ?_⟩
    rw [evaluate,reach,depth]
    exact (hb stack _).within
  | .not f => by
    obtain ⟨b,hb⟩ := exists_evaluate_eq p f
    refine ⟨!b,fun stack room => ?_⟩
    rw [evaluate,reach,depth]
    exact ((hb stack _).map _).within
  | .compare op key value => by
    cases present : p.value? key with
    | none =>
      refine ⟨false,fun stack room => ?_⟩
      rw [evaluate,reach,depth,EvalStack.testing,present]
      exact answers_within _ _ _
    | some v =>
      obtain ⟨b,hb⟩ := exists_passes_eq (op.exists_holds_eq · value) v
      refine ⟨b,fun stack room => ?_⟩
      rw [evaluate,reach,depth,EvalStack.testing,present]
      simp only [hb,Outcome.within_within]
      exact answers_within _ _ _
  | .present key => by
    refine ⟨(p.value? key).isSome,fun stack room => ?_⟩
    rw [evaluate,reach,depth,EvalStack.testing]
    · exact answers_within _ _ _
    all_goals nofun
  | .substring key first middle last => by
    cases present : p.value? key with
    | none =>
      refine ⟨false,fun stack room => ?_⟩
      rw [evaluate,reach,depth,EvalStack.testing,present]
      exact answers_within _ _ _
    | some v =>
      obtain ⟨b,hb⟩ := exists_passes_eq (fun t => ⟨matchesPieces first middle last t,rfl⟩) v
      refine ⟨b,fun stack room => ?_⟩
      rw [evaluate,reach,depth,EvalStack.testing,present]
      simp only [hb,Outcome.within_within]
      exact answers_within _ _ _

theorem exists_evaluateAll_eq (p : Properties) : ∀ fs : List Filter, ∃ b,
    ∀ (stack : EvalStack) (room : Nat),
      Answers room (depths 1 (stack.list+1) (stack.testing p) fs) b (evaluateAll stack p room fs)
  | [] => ⟨true,fun stack room => by rw [evaluateAll]; exact .inl rfl⟩
  | f::fs => by
    obtain ⟨a,ha⟩ := exists_evaluate_eq p f
    obtain ⟨b,hb⟩ := exists_evaluateAll_eq p fs
    refine ⟨if a then b else false,fun stack room => ?_⟩
    rw [evaluateAll,depths]
    exact (ha stack room).ite (hb stack room) (.inl rfl)

theorem exists_evaluateAny_eq (p : Properties) : ∀ fs : List Filter, ∃ b,
    ∀ (stack : EvalStack) (room : Nat),
      Answers room (depths 1 (stack.list+1) (stack.testing p) fs) b (evaluateAny stack p room fs)
  | [] => ⟨false,fun stack room => by rw [evaluateAny]; exact .inl rfl⟩
  | f::fs => by
    obtain ⟨a,ha⟩ := exists_evaluate_eq p f
    obtain ⟨b,hb⟩ := exists_evaluateAny_eq p fs
    refine ⟨if a then true else b,fun stack room => ?_⟩
    rw [evaluateAny,depths]
    exact (ha stack room).ite (.inl rfl) (hb stack room)

end

theorem holds_cases (stack : EvalStack) (p : Properties) (f : Filter) :
    (∃ b, holds stack p f=.ok b) ∨
      holds stack p f=.error .nestedTooDeep ∧ stack.room < f.reach stack p := by
  obtain ⟨b,hb⟩ := exists_evaluate_eq p f
  exact (hb stack stack.room).imp_left fun h => ⟨b,h⟩

/-- Lists around a filter take their room before anything is tested. -/
theorem evaluate_of_deep_lists {stack : EvalStack} {p : Properties} (f : Filter) {n room : Nat}
    (h : room < n*(stack.list+1)) :
    evaluate stack p room ((fun f => .all [f])^[n] f)=.error .nestedTooDeep := by
  induction n generalizing room with
  | zero => omega
  | succ n ih =>
    rw [Function.iterate_succ_apply',evaluate,Outcome.within]
    split_ifs with short
    · rfl
    · have inner : room-(stack.list+1) < n*(stack.list+1) := by
        rw [Nat.succ_mul] at h
        omega
      rw [evaluateAll,ih inner]
      rfl

/-- The properties satisfy the filter wherever there is room to find out. -/
def Satisfied (p : Properties) (f : Filter) : Prop := ∃ stack, holds stack p f=.ok true

theorem satisfied_iff {stack : EvalStack} {p : Properties} {f : Filter} {b : Bool}
    (h : holds stack p f=.ok b) : b=true ↔ f.Satisfied p := by
  obtain ⟨same,answers⟩ := exists_evaluate_eq p f
  have only {other : EvalStack} {c : Bool} (hc : holds other p f=.ok c) : same=c := by
    rcases answers other other.room with answer|⟨deep,-⟩
    · exact Except.ok.inj (answer.symm.trans hc)
    · exact nomatch deep.symm.trans hc
  constructor
  · rintro rfl
    exact ⟨stack,h⟩
  · rintro ⟨other,yes⟩
    rw [← only h,only yes]

end BundleManifest.Filter
