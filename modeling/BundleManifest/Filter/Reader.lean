import BundleManifest.Filter.Basic
import BundleManifest.Rejection

namespace BundleManifest.Filter

/-- Why a text holds no filter. -/
inductive Failure where
  /-- There is a fault with so many characters behind the place where it was found. -/
  | faulty (fault : FilterFault) (left : Nat)
  /-- There is no room for the calls that it takes. -/
  | nestedTooDeep
  deriving DecidableEq, Repr

/-- What is left of the stack where a filter is read. -/
structure ReadStack where
  /-- The calls that reading may go down. A filter takes one, and a list of filters one more. -/
  room : Nat
  /-- The calls that a test takes. -/
  test : Nat
  /-- The calls that it takes to refuse a text. -/
  refusal : FilterFault → Nat

/-- Fails in front of `rest`. -/
def failAt {α : Type} (fault : FilterFault) (rest : Text) : Except Failure α :=
  .error (.faulty fault rest.length)

namespace ReadStack

/-- What a fault with so many characters behind it comes to where there is so much room. -/
def failure (stack : ReadStack) (room : Nat) (fault : FilterFault) (left : Nat) : Failure :=
  if room < stack.refusal fault then .nestedTooDeep else .faulty fault left

/-- Fails in front of `rest`. -/
def failAt {α : Type} (stack : ReadStack) (room : Nat) (fault : FilterFault) (rest : Text) :
    Except Failure α :=
  .error (stack.failure room fault rest.length)

/-- What reading a test comes to where there is so much room. -/
def within {α : Type} (stack : ReadStack) (room : Nat) : Except Failure α → Except Failure α
  | .ok a => if room < stack.test then .error .nestedTooDeep else .ok a
  | .error (.faulty fault left) => .error (stack.failure room fault left)
  | .error .nestedTooDeep => .error .nestedTooDeep

end ReadStack

/-- Characters that end the name of a property. -/
def endsKey (c : Char) : Bool :=
  c = '=' || c = '<' || c = '>' || c = '~' || c = '(' || c = ')'

/-- Takes a comparison off the front. -/
def comparison? : Text → Option (Comparison × Text)
  | '~' :: '=' :: r => some (.approximate,r)
  | '>' :: '=' :: r => some (.atLeast,r)
  | '<' :: '=' :: r => some (.atMost,r)
  | '='::r => some (.equal,r)
  | _ => none

/-- The pieces of a value between its wildcards, up to the closing parenthesis, which is left in
place; a backslash makes the next character literal. -/
def readValue : Text → Except Failure ((Text × List Text) × Text)
  | [] => failAt .unterminated []
  | ['\\'] => failAt .danglingEscape []
  | '\\'::c::r => do
    let ((piece,pieces),rest) ← readValue r
    return ((c::piece,pieces),rest)
  | c::r =>
    if c = ')' then .ok (([],[]),c::r)
    else if c = '(' then failAt .openParenthesis (c::r)
    else do
      let ((piece,pieces),rest) ← readValue r
      if c = '*' then return (([],piece::pieces),rest)
      else return ((c::piece,pieces),rest)

/-- The test that a key, a comparison and the pieces of a value make up; only equality takes
wildcards. -/
def test (key : Text) (op : Comparison) (piece : Text) (pieces : List Text) :
    Except FilterFault Filter :=
  match op,pieces with
  | op,[] => .ok (.compare op key piece)
  | .equal,p::ps =>
    if piece=[] && p::ps=[[]] then .ok (.present key)
    else .ok (.substring key piece (p::ps).dropLast ((p::ps).getLast (by simp)))
  | op,_ => .error (.wildcard op.symbol)

/-- Reads a test up to its closing parenthesis. -/
def readTest (s : Text) : Except Failure (Filter × Text) := do
  let key := Text.trim (s.takeWhile fun c => !endsKey c)
  let afterKey := s.dropWhile fun c => !endsKey c
  if key=[] then failAt .missingKey afterKey
  match comparison? afterKey with
  | none => failAt .missingOperator afterKey
  | some (op,r) =>
    let ((piece,pieces),rest) ← readValue r
    match test key op piece pieces with
    | .error fault => failAt fault rest
    | .ok f => .ok (f,rest)

theorem comparison?_length {s r : Text} {op : Comparison} (h : comparison? s=some (op,r)) :
    r.length < s.length := by
  unfold comparison? at h
  split at h <;> simp only [Option.some.injEq,Prod.mk.injEq,reduceCtorEq] at h <;>
    obtain ⟨-,rfl⟩ := h <;> simp only [List.length_cons] <;> omega

theorem readValue_length {s rest : Text} {v : Text × List Text} (h : readValue s=.ok (v,rest)) :
    rest.length ≤ s.length := by
  fun_induction readValue s generalizing v rest with
  | case1 => simp [failAt] at h
  | case2 => simp [failAt] at h
  | case3 c r ih =>
    cases hr : readValue r with
    | error e => rw [hr] at h; cases h
    | ok p =>
      obtain ⟨⟨piece,pieces⟩,rest'⟩ := p
      rw [hr] at h
      cases h
      have := ih hr
      simp only [List.length_cons]
      omega
  | case4 => cases h; exact Nat.le_refl _
  | case5 => simp [failAt] at h
  | case6 c r _ _ _ _ ih =>
    cases hr : readValue r with
    | error e => rw [hr] at h; cases h
    | ok p =>
      obtain ⟨⟨piece,pieces⟩,rest'⟩ := p
      rw [hr] at h
      have le := ih hr
      simp only [bind,Except.bind] at h
      split at h <;> cases h <;> simp only [List.length_cons] <;> omega

theorem ReadStack.eq_of_within (stack : ReadStack) {α : Type} {room : Nat} {x : Except Failure α}
    {a : α} (h : stack.within room x=.ok a) : x=.ok a := by
  rcases x with (⟨fault,left⟩|_)|b
  · cases h
  · cases h
  · rw [within] at h
    split at h
    · cases h
    · exact h

theorem readTest_length {s rest : Text} {f : Filter} (h : readTest s=.ok (f,rest)) :
    rest.length < s.length := by
  simp only [readTest,bind,Except.bind] at h
  split at h
  · cases h
  · split at h
    · cases h
    · next op r hc =>
      split at h
      · cases h
      · next v hv =>
        split at h
        · cases h
        · cases h
          have h1 := comparison?_length hc
          have h2 := readValue_length hv
          have h3 := (List.dropWhile_sublist (l := s) fun c => !endsKey c).length_le
          omega

variable (stack : ReadStack)

mutual

/-- Reads one filter with the blanks before it. -/
def readFilter (room : Nat) (s : Text) :
    Except Failure { p : Filter × Text // p.2.length < s.length } :=
  if room=0 then .error .nestedTooDeep
  else match h : Text.trimLeft s with
  | '('::r => do
    have hr := Text.length_lt_of_trimLeft_eq_cons h
    let ⟨(f,rest),hf⟩ ← readBody (room-1) r
    match hc : Text.trimLeft rest with
    | ')'::tail => .ok ⟨(f,tail),by
        have := Text.length_lt_of_trimLeft_eq_cons hc
        simp only at hf ⊢
        omega⟩
    | tail => stack.failAt (room-1) (.expected ')') tail
  | r => stack.failAt (room-1) (.expected '(') r
termination_by 2*s.length

/-- Reads what stands between the parentheses of a filter. -/
def readBody (room : Nat) (s : Text) :
    Except Failure { p : Filter × Text // p.2.length ≤ s.length } :=
  match h : Text.trimLeft s with
  | '&'::r => do
    have hr := Text.length_lt_of_trimLeft_eq_cons h
    let ⟨(fs,rest),hf⟩ ← readFilters (room-1) r
    if fs=[] then stack.failAt room (.noOperands '&') rest
    return ⟨(.all fs,rest),by simp only at hf ⊢; omega⟩
  | '|'::r => do
    have hr := Text.length_lt_of_trimLeft_eq_cons h
    let ⟨(fs,rest),hf⟩ ← readFilters (room-1) r
    if fs=[] then stack.failAt room (.noOperands '|') rest
    return ⟨(.any fs,rest),by simp only at hf ⊢; omega⟩
  | '!'::r => do
    have hr := Text.length_lt_of_trimLeft_eq_cons h
    let ⟨(f,rest),hf⟩ ← readFilter room r
    return ⟨(.not f,rest),by simp only at hf ⊢; omega⟩
  | r =>
    match ht : stack.within room (readTest r) with
    | .error e => .error e
    | .ok p => .ok ⟨p,by
        have := Text.trimLeft_length_le s
        have := readTest_length (stack.eq_of_within ht)
        rw [h] at *
        omega⟩
termination_by 2*s.length

/-- Reads filters for as long as another one opens, and the blanks behind them. -/
def readFilters (room : Nat) (s : Text) :
    Except Failure { p : List Filter × Text // p.2.length ≤ s.length } :=
  have hs := Text.trimLeft_length_le s
  if (Text.trimLeft s).head?=some '(' then do
    let ⟨(f,rest),hf⟩ ← readFilter room (Text.trimLeft s)
    have hr : rest.length < s.length := by simp only at hf; omega
    let ⟨(fs,rest'),hfs⟩ ← readFilters room rest
    return ⟨(f::fs,rest'),by simp only at hfs ⊢; omega⟩
  else .ok ⟨([],Text.trimLeft s),hs⟩
termination_by 2*s.length+1

end

/-- Reads a whole filter; nothing but blanks may follow it. -/
def readWhole (s : Text) : Except Failure Filter := do
  let ⟨(f,rest),_⟩ ← readFilter stack stack.room s
  let tail := Text.trimLeft rest
  if tail=[] then return f else stack.failAt stack.room .trailing tail

/-- Reads a selection filter. Faults are placed by their position in the trimmed text; running out
of room is no fault of the filter. -/
def parse (filter : Text) : Outcome Filter :=
  let body := Text.trim filter
  if body=[] then Outcome.within stack.room 1 (Outcome.reject (.emptyFilter (some filter)))
  else match readWhole stack body with
    | .ok f => .ok f
    | .error (.faulty fault left) =>
      Outcome.reject (.invalidFilter body fault (body.length-left))
    | .error .nestedTooDeep => .error .nestedTooDeep

/-- Reads a filter that may be missing; a missing one is empty. -/
def parse? : Option Text → Outcome Filter
  | none => Outcome.within stack.room 1 (Outcome.reject (.emptyFilter none))
  | some t => parse stack t

end BundleManifest.Filter
