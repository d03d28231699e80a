import BundleManifest.Proofs.Service.Keys
import BundleManifest.Proofs.Service.Sums
import Mathlib.Data.List.DropRight

namespace BundleManifest.Service

open Dictionary (count total addAll)

/-- What is done to the counters. -/
inductive Call where
  | request (method path : Text) (status : Option Int)
  | parse (version : Option Text) (result : Text)
  | named (name : Text) (value : Document)
  | reset

namespace Counters

/-- The method that a request is counted under. -/
def methodName (method : Text) : Text :=
  Text.upper (if method.isEmpty then "UNKNOWN".toList else method)

/-- The path that a request is counted under. -/
def pathName (path : Text) : Text := if path.isEmpty then ['/'] else path

/-- What one request adds. -/
def requestAmounts (method path : Text) (status : Option Int) : List (Text × Int) :=
  [(totalKey,1),(methodKey (methodName method),1),(pathKey (pathName path) status,1)]

end Counters

namespace Call

open Counters

def isRequest : Call → Bool
  | .request .. => true
  | _ => false

/-- Whether a request with that path and status is counted. -/
def requests (path : Text) (status : Option Int) : Call → Bool
  | .request _ p s => pathName p=path && s=status
  | _ => false

def isParse : Call → Bool
  | .parse .. => true
  | _ => false

/-- Whether a parse with that result is counted. -/
def parses (result : Text) : Call → Bool
  | .parse _ r => r=result
  | _ => false

def isReset : Call → Bool
  | .reset => true
  | _ => false

/-- A named counter has no name that the parses are counted under. -/
def Unreserved : Call → Prop
  | .named name _ => name≠parsesKey ∧ resultMark.isPrefixOf name=false
  | _ => True

instance (call : Call) : Decidable call.Unreserved :=
  match call with
  | .named name _ => inferInstanceAs (Decidable (name≠parsesKey ∧ resultMark.isPrefixOf name=false))
  | .request .. | .parse .. | .reset => isTrue trivial

/-- What the call adds to the counts of requests. -/
def requestAmounts : Call → List (Text × Int)
  | .request method path status => Counters.requestAmounts method path status
  | _ => []

/-- What the call adds to the named counts; a value that is no number adds nothing. -/
def namedAmounts : Call → List (Text × Int)
  | .parse _ result => [(parsesKey,1),(resultKey result,1)]
  | .named name value =>
    if name.isEmpty then [] else
      match countOf value with
      | .ok n => [(name,n)]
      | .error _ => []
  | _ => []

end Call

namespace Counters

/-- The counters after one call; a value that is no number leaves them as they are. -/
def apply (c : Counters) : Call → Counters
  | .request method path status => c.countRequest method path status
  | .parse version result => c.countParse version result
  | .named name value => (c.countValue name value).toOption.getD c
  | .reset => c.reset

/-- The counters after a run of calls that starts with all counts at zero. -/
def run (calls : List Call) : Counters := calls.foldl apply {}

/-- The calls since the last reset. -/
def sinceReset (calls : List Call) : List Call := calls.rtakeWhile fun call => !call.isReset

theorem countRequest_requests (c : Counters) (method path : Text) (status : Option Int) :
    (c.countRequest method path status).requests=
      c.requests.addAll (requestAmounts method path status) := rfl

theorem countNamed_requests (name : Text) (amount : Int) (c : Counters) :
    (c.countNamed name amount).requests=c.requests := by
  rw [countNamed]
  split <;> rfl

theorem countParse_requests (version : Option Text) (result : Text) (c : Counters) :
    (c.countParse version result).requests=c.requests := by
  simp only [countParse,countNamed_requests]

theorem apply_requests (c : Counters) {call : Call} (h : call.isReset=false) :
    (c.apply call).requests=c.requests.addAll call.requestAmounts := by
  cases call with
  | request method path status => exact countRequest_requests c method path status
  | parse version result => exact countParse_requests version result c
  | named name value =>
    rw [apply,countValue]
    split
    · rfl
    · cases countOf value with
      | error _ => rfl
      | ok n => exact countNamed_requests name n c
  | reset => cases h

theorem countNamed_named {name : Text} (h : name≠[]) (amount : Int) (c : Counters) :
    (c.countNamed name amount).named=c.named.add name amount := by
  rw [countNamed,if_neg (by simpa using h)]

theorem apply_named (c : Counters) {call : Call} (h : call.isReset=false) :
    (c.apply call).named=c.named.addAll call.namedAmounts := by
  cases call with
  | request method path status => rfl
  | parse version result =>
    have later : resultKey result≠[] := List.cons_ne_nil _ _
    rw [apply,countParse]
    simp only [countNamed_named (by decide : parsesKey≠[]),countNamed_named later]
    rfl
  | named name value =>
    rw [apply,countValue,Call.namedAmounts]
    split
    · rfl
    · next nonempty =>
      cases countOf value with
      | error _ => rfl
      | ok n => exact countNamed_named (by simpa using nonempty) n c
  | reset => cases h

theorem sinceReset_append (calls : List Call) (call : Call) :
    sinceReset (calls++[call])=if call.isReset then [] else sinceReset calls++[call] := by
  rw [sinceReset,List.rtakeWhile_concat]
  cases call.isReset <;> rfl

/-- The counts are made of what was added since the last reset. -/
theorem run_counts (calls : List Call) :
    (run calls).requests=addAll [] ((sinceReset calls).flatMap Call.requestAmounts) ∧
      (run calls).named=addAll [] ((sinceReset calls).flatMap Call.namedAmounts) := by
  induction calls using List.reverseRecOn with
  | nil => exact ⟨rfl,rfl⟩
  | append_singleton calls call ih =>
    have last : run (calls++[call])=(run calls).apply call := by simp [run]
    rw [last,sinceReset_append]
    cases h : call.isReset with
    | true =>
      cases call <;> cases h
      exact ⟨rfl,rfl⟩
    | false =>
      rw [apply_requests _ h,apply_named _ h,ih.1,ih.2]
      simp [List.flatMap_append,Dictionary.addAll_append]

/-- Whether requests are counted by method under the key. -/
def isMethodKey (key : Text) : Bool := methodMark.isPrefixOf key && key≠totalKey

/-- Whether requests are counted by path and status under the key. -/
def isPathKey (key : Text) : Bool := pathMark.isPrefixOf key

/-- The counts of requests say how many there are: in total, by method, and by path and status, where
each path with a status has its own count. -/
structure CountsRequests (requests : Dictionary Int) (calls : List Call) : Prop where
  all : count totalKey requests=calls.countP Call.isRequest
  methods : total isMethodKey requests=calls.countP Call.isRequest
  paths : total isPathKey requests=calls.countP Call.isRequest
  path : ∀ path status,
    count (pathKey path status) requests=calls.countP (Call.requests path status)
  pathKeys : ∀ key∈requests.keys, isPathKey key → ∃ path status, key=pathKey path status
  apart : ∀ path status path' status', pathKey path status=pathKey path' status' →
    path=path' ∧ status=status'

theorem methodName_ne_total (method : Text) : methodKey (methodName method)≠totalKey :=
  methodKey_upper_ne_total _

theorem total_requestAmounts (call : Call) :
    total (· = totalKey) call.requestAmounts=if call.isRequest then 1 else 0 := by
  cases call with
  | request method path status =>
    simp [Call.requestAmounts,requestAmounts,methodName_ne_total,pathKey_ne_total,Call.isRequest]
  | _ => rfl

theorem methods_requestAmounts (call : Call) :
    total isMethodKey call.requestAmounts=if call.isRequest then 1 else 0 := by
  cases call with
  | request method path status =>
    simp [Call.requestAmounts,requestAmounts,isMethodKey,marked_methodKey,methodMark_pathKey,
      methodName_ne_total,Call.isRequest]
  | _ => rfl

theorem paths_requestAmounts (call : Call) :
    total isPathKey call.requestAmounts=if call.isRequest then 1 else 0 := by
  cases call with
  | request method path status =>
    simp [Call.requestAmounts,requestAmounts,isPathKey,marked_pathKey,pathMark_methodKey,
      pathMark_total,Call.isRequest]
  | _ => rfl

theorem path_requestAmounts (path : Text) (status : Option Int) (call : Call) :
    total (· = pathKey path status) call.requestAmounts=
      if call.requests path status then 1 else 0 := by
  cases call with
  | request method p s =>
    have first : totalKey≠pathKey path status := (pathKey_ne_total path status).symm
    have second : methodKey (methodName method)≠pathKey path status :=
      (pathKey_ne_methodKey path status _).symm
    simp [Call.requestAmounts,requestAmounts,first,second,pathKey_inj,Call.requests]
  | _ => rfl

theorem eq_pathKey_of_requestAmounts {call : Call} {key : Text} (marked : isPathKey key)
    (h : key∈call.requestAmounts.map Prod.fst) : ∃ path status, key=pathKey path status := by
  cases call with
  | request method path status =>
    simp only [Call.requestAmounts,requestAmounts,List.map_cons,List.map_nil,List.mem_cons,
      List.not_mem_nil,or_false] at h
    rcases h with rfl|rfl|rfl
    · exact absurd marked (by decide)
    · rw [isPathKey,pathMark_methodKey] at marked
      cases marked
    · exact ⟨_,_,rfl⟩
  | _ => cases h

theorem countsRequests_run (calls : List Call) :
    CountsRequests (run calls).requests (sinceReset calls) := by
  rw [(run_counts calls).1]
  constructor
  · exact Dictionary.count_counted fun call _ => total_requestAmounts call
  · exact Dictionary.total_counted fun call _ => methods_requestAmounts call
  · exact Dictionary.total_counted fun call _ => paths_requestAmounts call
  · intro path status
    exact Dictionary.count_counted fun call _ => path_requestAmounts path status call
  · intro key known marked
    obtain ⟨e,he,rfl⟩ := List.mem_map.mp ((Dictionary.mem_keys_addAll.mp known).resolve_left
      List.not_mem_nil)
    obtain ⟨call,-,hc⟩ := List.mem_flatMap.mp he
    exact eq_pathKey_of_requestAmounts marked (List.mem_map_of_mem hc)
  · exact fun _ _ _ _ => pathKey_inj.mp

/-- The named counts say how many parses there are: in total, and by result in the group of the
snapshot, which has an entry for each result there was. -/
structure CountsParses (named group : Dictionary Int) (calls : List Call) : Prop where
  all : count parsesKey named=calls.countP Call.isParse
  sum : total (fun _ => true) group=calls.countP Call.isParse
  result : ∀ result n, group.get? result=some n ↔ 0 < n ∧ n=calls.countP (Call.parses result)

theorem unreserved_of_mem_namedAmounts {call : Call} (h : call.Unreserved)
    (other : call.isParse=false) :
    ∀ e∈call.namedAmounts, e.1≠parsesKey ∧ resultMark.isPrefixOf e.1=false := by
  intro e he
  cases call with
  | parse version result => cases other
  | named name value =>
    rw [Call.namedAmounts] at he
    split at he
    · cases he
    · split at he
      · rw [List.mem_singleton.mp he]
        exact h
      · cases he
  | _ => cases he

theorem all_namedAmounts {call : Call} (h : call.Unreserved) :
    total (· = parsesKey) call.namedAmounts=if call.isParse then 1 else 0 := by
  cases parse : call.isParse with
  | true =>
    cases call <;> cases parse
    simp [Call.namedAmounts,resultKey_ne_parses]
  | false =>
    apply Dictionary.total_eq_zero
    intro e he
    exact decide_eq_false (unreserved_of_mem_namedAmounts h parse e he).1

theorem results_namedAmounts {call : Call} (h : call.Unreserved) :
    total resultMark.isPrefixOf call.namedAmounts=if call.isParse then 1 else 0 := by
  cases parse : call.isParse with
  | true =>
    cases call <;> cases parse
    simp [Call.namedAmounts,marked_resultKey,resultMark_parses]
  | false =>
    apply Dictionary.total_eq_zero
    intro e he
    exact (unreserved_of_mem_namedAmounts h parse e he).2

theorem result_namedAmounts {call : Call} (h : call.Unreserved) (result : Text) :
    total (· = resultKey result) call.namedAmounts=if call.parses result then 1 else 0 := by
  cases call with
  | parse version r =>
    have first : parsesKey≠resultKey result := (resultKey_ne_parses result).symm
    simp [Call.namedAmounts,first,resultKey_inj,Call.parses]
  | request | reset => rfl
  | named name value =>
    apply Dictionary.total_eq_zero
    intro e he
    have unmarked := (unreserved_of_mem_namedAmounts h rfl e he).2
    refine decide_eq_false fun same => ?_
    rw [same,marked_resultKey] at unmarked
    cases unmarked

/-- A result has a key among the named counts exactly when it was counted. -/
theorem mem_namedAmounts_iff {calls : List Call} (h : ∀ call∈calls, call.Unreserved)
    (result : Text) :
    resultKey result∈(calls.flatMap Call.namedAmounts).map Prod.fst ↔
      0 < calls.countP (Call.parses result) := by
  rw [List.countP_pos_iff]
  constructor
  · intro known
    obtain ⟨e,he,key⟩ := List.mem_map.mp known
    obtain ⟨call,hc,added⟩ := List.mem_flatMap.mp he
    refine ⟨call,hc,?_⟩
    cases parse : call.isParse with
    | true =>
      cases call <;> cases parse
      simp only [Call.namedAmounts,List.mem_cons,List.not_mem_nil,or_false] at added
      rcases added with rfl|rfl
      · exact absurd key.symm (resultKey_ne_parses result)
      · exact decide_eq_true (resultKey_inj.mp key)
    | false =>
      have unmarked := (unreserved_of_mem_namedAmounts (h call hc) parse e added).2
      rw [key,marked_resultKey] at unmarked
      cases unmarked
  · rintro ⟨call,hc,counted⟩
    cases call with
    | parse version r =>
      have same : r=result := of_decide_eq_true counted
      refine List.mem_map.mpr ⟨(resultKey result,1),List.mem_flatMap.mpr ⟨_,hc,?_⟩,rfl⟩
      simp [Call.namedAmounts,same]
    | _ => cases counted

theorem exists_result_iff {key : Text} :
    resultMark.isPrefixOf key=true ↔ ∃ result, key=resultKey result := by
  constructor
  · intro marked
    obtain ⟨result,rfl⟩ := List.isPrefixOf_iff_prefix.mp marked
    exact ⟨result,rfl⟩
  · rintro ⟨result,rfl⟩
    exact marked_resultKey result

theorem drop_resultKey (result : Text) : (resultKey result).drop resultMark.length=result :=
  List.drop_left

/-- The named counts of parse results, by result. -/
def resultEntries (named : Dictionary Int) : Dictionary Int :=
  (named.filter fun e => resultMark.isPrefixOf e.1).map fun e => (e.1.drop resultMark.length,e.2)

/-- Results that differ have keys that differ, so none of them takes the place of another. -/
theorem parseResults_eq {named : Dictionary Int} (h : named.keys.Nodup) :
    parseResults named=resultEntries named := by
  apply Dictionary.ofList_of_nodup
  have results : (resultEntries named).map Prod.fst=
      (named.keys.filter fun key => resultMark.isPrefixOf key).map
        fun key => key.drop resultMark.length := by
    simp [resultEntries,Dictionary.keys,List.filter_map,Function.comp_def]
  rw [resultEntries] at results
  rw [results]
  refine List.Nodup.map_on ?_ (h.filter _)
  intro key hk other ho same
  obtain ⟨result,rfl⟩ := exists_result_iff.mp (List.mem_filter.mp hk).2
  obtain ⟨result',rfl⟩ := exists_result_iff.mp (List.mem_filter.mp ho).2
  rw [drop_resultKey,drop_resultKey] at same
  rw [same]

theorem get?_resultEntries (named : Dictionary Int) (result : Text) :
    (resultEntries named).get? result=named.get? (resultKey result) := by
  induction named with
  | nil => rfl
  | cons e r ih =>
    obtain ⟨key,n⟩ := e
    cases marked : resultMark.isPrefixOf key with
    | true =>
      obtain ⟨other,rfl⟩ := exists_result_iff.mp marked
      have first : resultEntries ((resultKey other,n)::r)=(other,n)::resultEntries r := by
        simp [resultEntries,marked,drop_resultKey]
      rw [first,Dictionary.get?,Dictionary.get?,ih]
      simp only [resultKey_inj]
    | false =>
      have passed : resultEntries ((key,n)::r)=resultEntries r := by
        simp [resultEntries,marked]
      have apart : key≠resultKey result := by
        rintro rfl
        rw [marked_resultKey] at marked
        cases marked
      rw [passed,ih,Dictionary.get?,if_neg apart]

theorem total_resultEntries (named : Dictionary Int) :
    total (fun _ => true) (resultEntries named)=total resultMark.isPrefixOf named := by
  simp [total,resultEntries,Function.comp_def]

theorem get?_snapshot_results (c : Counters) :
    c.snapshot.get? "manifest_parses".toList=some (.counts (parseResults c.named)) := by
  have other : totalKey≠"manifest_parses".toList := by decide
  rw [snapshot]
  split
  · rw [Dictionary.get?_insert,if_neg other,Dictionary.get?_insert,if_pos rfl]
  · rw [Dictionary.get?_insert,if_pos rfl]

theorem get?_snapshot_total {c : Counters} {n : Int} (h : c.requests.get? totalKey=some n) :
    c.snapshot.get? totalKey=some (.count n) := by
  rw [snapshot,h,Dictionary.get?_insert,if_pos rfl]

theorem countsParses_run {calls : List Call} (h : ∀ call∈sinceReset calls, call.Unreserved) :
    CountsParses (run calls).named (parseResults (run calls).named) (sinceReset calls) := by
  rw [(run_counts calls).2]
  have distinct : (addAll [] ((sinceReset calls).flatMap Call.namedAmounts)).keys.Nodup :=
    Dictionary.nodup_keys_addAll List.nodup_nil
  rw [parseResults_eq distinct]
  constructor
  · exact Dictionary.count_counted fun call hc => all_namedAmounts (h call hc)
  · rw [total_resultEntries]
    exact Dictionary.total_counted fun call hc => results_namedAmounts (h call hc)
  · intro result n
    have amount := Dictionary.total_flatMap_eq_countP
      fun call hc => result_namedAmounts (h call hc) result
    rw [get?_resultEntries,Dictionary.get?_addAll_eq_some_iff,amount,mem_namedAmounts_iff h]
    constructor
    · rintro ⟨counted,rfl⟩
      exact ⟨Int.natCast_pos.mpr counted,rfl⟩
    · rintro ⟨counted,rfl⟩
      exact ⟨Int.natCast_pos.mp counted,rfl⟩

theorem get?_total_run {calls : List Call} (h : (sinceReset calls).any Call.isRequest) :
    (run calls).requests.get? totalKey=some ((sinceReset calls).countP Call.isRequest : Int) := by
  rw [(run_counts calls).1,Dictionary.get?_addAll_eq_some_iff,
    Dictionary.total_flatMap_eq_countP fun call _ => total_requestAmounts call]
  obtain ⟨call,hc,request⟩ := List.any_eq_true.mp h
  refine ⟨List.mem_map.mpr ⟨(totalKey,1),List.mem_flatMap.mpr ⟨call,hc,?_⟩,rfl⟩,rfl⟩
  cases call with
  | request method path status => exact List.mem_cons_self
  | _ => cases request

/-- After any calls, among them no named count with a name of the parses, the counts are those of the
calls since the last reset. -/
theorem counted_since_reset (calls : List Call) (unreserved : ∀ call∈calls, call.Unreserved) :
    let recent := sinceReset calls
    CountsRequests (run calls).requests recent ∧
    (recent.any Call.isRequest →
      (run calls).snapshot.get? totalKey=some (.count (recent.countP Call.isRequest))) ∧
    ∃ group, (run calls).snapshot.get? "manifest_parses".toList=some (.counts group) ∧
      CountsParses (run calls).named group recent := by
  intro recent
  refine ⟨countsRequests_run calls,fun asked => get?_snapshot_total (get?_total_run asked),
    _,get?_snapshot_results _,countsParses_run fun call hc => ?_⟩
  exact unreserved call ((List.rtakeWhile_suffix _ calls).subset hc)

/-- A method, a path and names that look like keys of other counts, and a value that is no number, with
one request before the reset. -/
theorem counted_since_reset_of_lookalikes :
    let calls : List Call := [
      .request "get".toList [] none,.reset,.request "total".toList "/a|200".toList (some 7),
      .named "requests_total".toList (.ofInt 5),.request [] "/a".toList (some 200),
      .parse none "ok".toList,.named "manifest_parses".toList (.ofInt 3),
      .named "manifest".toList (.ofText "x".toList),.request "get".toList "/a|200".toList (some 7),
      .parse (some "2".toList) "ok".toList]
    (∀ call∈calls, call.Unreserved) ∧
    count totalKey (run calls).requests=3 ∧ total isMethodKey (run calls).requests=3 ∧
    count (pathKey "/a|200".toList (some 7)) (run calls).requests=2 ∧
    (run calls).snapshot.get? totalKey=some (.count 3) ∧
    ∃ group, (run calls).snapshot.get? "manifest_parses".toList=some (.counts group) ∧
      group.get? "ok".toList=some 2 ∧ group.get? "2".toList=none := by
  intro calls
  have unreserved : ∀ call∈calls, call.Unreserved := by decide
  obtain ⟨requests,shown,group,grouped,parses⟩ := counted_since_reset calls unreserved
  refine ⟨unreserved,requests.all,requests.methods,requests.path _ _,shown (by decide),group,
    grouped,(parses.result _ _).mpr ⟨by decide,by decide⟩,?_⟩
  refine Option.eq_none_iff_forall_ne_some.mpr fun n found => ?_
  obtain ⟨positive,same⟩ := (parses.result _ _).mp found
  rw [same] at positive
  exact absurd positive (by decide)

end Counters

end BundleManifest.Service
