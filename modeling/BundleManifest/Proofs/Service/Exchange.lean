import BundleManifest.Proofs.Service.Counters
import BundleManifest.Proofs.Service.PathLabel
import BundleManifest.Running.Setup
import BundleManifest.Service.Exchange

namespace BundleManifest.Service

open Dictionary (count total)
open Counters (totalKey methodKey pathKey methodName pathName)

namespace Request

def methodLabel (r : Request) : Text := Text.upper r.method

/-- What the request is counted under once the path of its URL and its status are known. -/
def label (r : Request) (path : Text) (status : Nat) : RequestLabel :=
  ⟨r.methodLabel,PathLabel.ofPath path,status⟩

/-- The counters that an answer with that status adds one to: of all requests, of the method, and of
the path with the status. -/
def counterKeys (r : Request) (path : Text) (status : Nat) : List Text :=
  [totalKey,methodKey (methodName r.methodLabel),pathKey (PathLabel.ofPath path) (some status)]

/-- The request has an id that is not empty. -/
def Identified (r : Request) (id : Text) : Prop := r.requestId=some id ∧ id≠[]

instance (r : Request) (id : Text) : Decidable (r.Identified id) :=
  inferInstanceAs (Decidable (_ ∧ _))

end Request

/-- What becomes of a request whose handler answers and whose URL has that path: its response
carries its id, and each of its counters is one more than the handler left it. -/
structure Counted (r : Request) (path : Text) (left : Counters) (before after : State)
    (response : Response) : Prop where
  identified : response.requestId=r.requestId
  counters : ∀ key, count key after.counters.requests=
    count key left.requests+if key∈r.counterKeys path response.status then 1 else 0
  labels : ∀ label, after.answered.count label=
    before.answered.count label+if r.label path response.status=label then 1 else 0

/-- The response has no id in its header, and no counter of requests changes behind the handler. -/
structure Passed (left : Counters) (before after : State) (response : Response) : Prop where
  unidentified : response.requestId=none
  counters : after.counters=left
  labels : after.answered=before.answered

/-- What becomes of a request whose handler ends in a fault: its response says so, with its id in
the body. -/
structure Uncounted (fault : Fault) (id : Text) (left : Counters) (before after : State)
    (response : Response) : Prop extends Passed left before after response where
  status : response.status=match fault with
    | .rejected _ => 422
    | _ => 500
  told : ∃ fields, response.reply=.document (.object (fields++[("request_id".toList,.ofText id)]))

/-- What becomes of a request whose URL cannot be taken apart, whatever its handler came to: its
response is the plain one, with its id nowhere. -/
structure Lost (left : Counters) (before after : State) (response : Response) : Prop
    extends Passed left before after response where
  plain : response=plainFault

variable {urlPath : UrlPath} {handler : Handler} {s : State} {r : Request} {left : Counters}

theorem pathName_ofPath (path : Text) : pathName (PathLabel.ofPath path)=PathLabel.ofPath path := by
  have nonempty : PathLabel.ofPath path≠[] := (PathLabel.isLabel_ofPath path).nonempty
  rw [pathName,if_neg (by simpa using nonempty)]

theorem nodup_counterKeys (r : Request) (path : Text) (status : Nat) :
    (r.counterKeys path status).Nodup := by
  have first : totalKey≠methodKey (methodName r.methodLabel) :=
    (Counters.methodName_ne_total _).symm
  have second : totalKey≠pathKey (PathLabel.ofPath path) (some status) :=
    (Counters.pathKey_ne_total _ _).symm
  have third : methodKey (methodName r.methodLabel)≠pathKey (PathLabel.ofPath path) (some status) :=
    (Counters.pathKey_ne_methodKey _ _ _).symm
  simp [Request.counterKeys,first,second,third]

theorem total_counterKeys (r : Request) (path : Text) (status : Nat) (key : Text) :
    total (· = key) (Counters.requestAmounts r.methodLabel (PathLabel.ofPath path) (some status))=
      if key∈r.counterKeys path status then 1 else 0 := by
  have amounts : Counters.requestAmounts r.methodLabel (PathLabel.ofPath path) (some status)=
      (r.counterKeys path status).map fun k => (k,1) := by
    rw [Counters.requestAmounts,pathName_ofPath]
    rfl
  rw [amounts,Dictionary.total_ones (nodup_counterKeys r path status)]

theorem exchange_of_ok {path : Text} {a : Answer} (url : urlPath r.host r.path=some path)
    (h : handler r s.counters=(left,.ok a)) :
    exchange urlPath handler s r=(
      { counters := left.countRequest r.methodLabel (PathLabel.ofPath path) (some a.status)
        answered := s.answered.mark (r.label path a.status) },
      ⟨a.status,a.reply,r.requestId⟩) := by
  rw [exchange,h]
  simp only [url]
  rfl

theorem exchange_of_error {path : Text} {fault : Fault} (url : urlPath r.host r.path=some path)
    (h : handler r s.counters=(left,.error fault)) :
    exchange urlPath handler s r=({s with counters := left},
      ⟨(shapeFault r.requestId fault).status,(shapeFault r.requestId fault).reply,none⟩) := by
  rw [exchange,h]
  simp only [url]

theorem exchange_of_none {x : Except Fault Answer} (url : urlPath r.host r.path=none)
    (h : handler r s.counters=(left,x)) :
    exchange urlPath handler s r=({s with counters := left},plainFault) := by
  rw [exchange,h]
  simp only [url]

theorem counted_of_ok {path : Text} {a : Answer} (url : urlPath r.host r.path=some path)
    (h : handler r s.counters=(left,.ok a)) :
    Counted r path left s (exchange urlPath handler s r).1 (exchange urlPath handler s r).2 := by
  rw [exchange_of_ok url h]
  refine ⟨rfl,fun key => ?_,fun label => Tally.count_mark _ _ _⟩
  rw [Counters.countRequest_requests,Dictionary.count_addAll,total_counterKeys]

theorem uncounted_of_error {path : Text} {fault : Fault} {id : Text}
    (url : urlPath r.host r.path=some path) (h : handler r s.counters=(left,.error fault))
    (identified : r.Identified id) :
    Uncounted fault id left s (exchange urlPath handler s r).1
      (exchange urlPath handler s r).2 := by
  obtain ⟨given,nonempty⟩ := identified
  obtain ⟨c,t,rfl⟩ := List.exists_cons_of_ne_nil nonempty
  rw [exchange_of_error url h,given]
  cases fault <;> exact ⟨⟨rfl,rfl,rfl⟩,rfl,⟨_,rfl⟩⟩

theorem lost_of_none {x : Except Fault Answer} (url : urlPath r.host r.path=none)
    (h : handler r s.counters=(left,x)) :
    Lost left s (exchange urlPath handler s r).1 (exchange urlPath handler s r).2 := by
  rw [exchange_of_none url h]
  exact ⟨⟨rfl,rfl,rfl⟩,rfl⟩

theorem exchangeAll_cons (urlPath : UrlPath) (handler : Handler) (s : State) (r : Request)
    (rs : List Request) :
    exchangeAll urlPath handler s (r::rs)=
      let step := exchange urlPath handler s r
      let later := exchangeAll urlPath handler step.1 rs
      (later.1,step.2::later.2) := rfl

theorem exchangeAll_append (urlPath : UrlPath) (handler : Handler) (s : State)
    (front back : List Request) :
    exchangeAll urlPath handler s (front++back)=
      let first := exchangeAll urlPath handler s front
      let later := exchangeAll urlPath handler first.1 back
      (later.1,first.2++later.2) := by
  induction front generalizing s with
  | nil => rfl
  | cons r front ih => simp only [List.cons_append,exchangeAll_cons,ih]

theorem length_exchangeAll (urlPath : UrlPath) (handler : Handler) (s : State)
    (rs : List Request) : (exchangeAll urlPath handler s rs).2.length=rs.length := by
  induction rs generalizing s with
  | nil => rfl
  | cons r rs ih => exact congrArg Nat.succ (ih (exchange urlPath handler s r).1)

/-- The response at a place of a run is the one to the request there, in the state that the requests
before it lead to. -/
theorem getElem?_exchangeAll (urlPath : UrlPath) (handler : Handler) (s : State)
    (front back : List Request) (r : Request) :
    (exchangeAll urlPath handler s (front++r::back)).2[front.length]?=
      some (exchange urlPath handler (exchangeAll urlPath handler s front).1 r).2 := by
  rw [exchangeAll_append,← length_exchangeAll urlPath handler s front,
    List.getElem?_append_right (le_refl _),Nat.sub_self]
  rfl

theorem exchangeAll_concat (urlPath : UrlPath) (handler : Handler) (s : State)
    (front : List Request) (r : Request) :
    (exchangeAll urlPath handler s (front++[r])).1=
      (exchange urlPath handler (exchangeAll urlPath handler s front).1 r).1 := by
  rw [exchangeAll_append]
  rfl

/-- The handler counts no requests itself. -/
def Handler.KeepsRequests (handler : Handler) : Prop :=
  ∀ r c, (handler r c).1.requests=c.requests

/-- The response carries an id, and its request is counted with that label. -/
def answeredAs (urlPath : UrlPath) (label : RequestLabel) (e : Request × Response) : Bool :=
  e.2.requestId.isSome && (urlPath e.1.host e.1.path).any (e.1.label · e.2.status=label)

/-- The response carries an id, and its request is counted under that key. -/
def answeredUnder (urlPath : UrlPath) (key : Text) (e : Request × Response) : Bool :=
  e.2.requestId.isSome && (urlPath e.1.host e.1.path).any (key∈e.1.counterKeys · e.2.status)

/-- Every request with an id is counted behind its handler, under the path of its URL, or passed. -/
theorem exchange_cases (urlPath : UrlPath) {id : Text} (identified : r.Identified id)
    (h : (handler r s.counters).1=left) :
    (∃ path, urlPath r.host r.path=some path ∧
      Counted r path left s (exchange urlPath handler s r).1 (exchange urlPath handler s r).2) ∨
    Passed left s (exchange urlPath handler s r).1 (exchange urlPath handler s r).2 := by
  subst h
  cases url : urlPath r.host r.path with
  | none => exact .inr (lost_of_none url rfl).toPassed
  | some path =>
    cases answer : (handler r s.counters).2 with
    | error fault =>
      exact .inr (uncounted_of_error url (Prod.ext rfl answer) identified).toPassed
    | ok a => exact .inl ⟨path,rfl,counted_of_ok url (Prod.ext rfl answer)⟩

theorem exchange_answered {id : Text} (identified : r.Identified id) (label : RequestLabel) :
    (exchange urlPath handler s r).1.answered.count label=s.answered.count label+
      if answeredAs urlPath label (r,(exchange urlPath handler s r).2) then 1 else 0 := by
  obtain ⟨path,url,counted⟩|passed := exchange_cases urlPath identified rfl
  · rw [counted.labels,answeredAs,counted.identified,identified.1,url]
    simp
  · rw [passed.labels,answeredAs,passed.unidentified]
    simp

theorem exchange_counters (keeps : handler.KeepsRequests) {id : Text}
    (identified : r.Identified id) (key : Text) :
    count key (exchange urlPath handler s r).1.counters.requests=count key s.counters.requests+
      if answeredUnder urlPath key (r,(exchange urlPath handler s r).2) then 1 else 0 := by
  obtain ⟨path,url,counted⟩|passed := exchange_cases urlPath identified rfl
  · rw [counted.counters,keeps,answeredUnder,counted.identified,identified.1,url]
    simp
  · rw [passed.counters,keeps,answeredUnder,passed.unidentified]
    simp

/-- What grows by one at each of certain exchanges grows by their number over a run. -/
theorem exchangeAll_grows (measure : State → Int) (adds : Request × Response → Bool)
    {rs : List Request}
    (step : ∀ s, ∀ r∈rs, measure (exchange urlPath handler s r).1=
      measure s+if adds (r,(exchange urlPath handler s r).2) then 1 else 0) (s : State) :
    measure (exchangeAll urlPath handler s rs).1=
      measure s+(rs.zip (exchangeAll urlPath handler s rs).2).countP adds := by
  induction rs generalizing s with
  | nil => exact (Int.add_zero _).symm
  | cons r rs ih =>
    have first := step s r List.mem_cons_self
    have later := ih (fun s q hq => step s q (List.mem_cons_of_mem r hq))
      (exchange urlPath handler s r).1
    rw [exchangeAll_cons,later,first,List.zip_cons_cons,List.countP_cons]
    split_ifs <;> omega

theorem exchangeAll_answered {rs : List Request}
    (identified : ∀ r∈rs, ∃ id, r.Identified id) (label : RequestLabel) :
    (exchangeAll urlPath handler s rs).1.answered.count label=s.answered.count label+
      (rs.zip (exchangeAll urlPath handler s rs).2).countP (answeredAs urlPath label) := by
  apply Int.ofNat_inj.mp
  apply exchangeAll_grows fun s => (s.answered.count label : Int)
  intro s r hr
  obtain ⟨id,given⟩ := identified r hr
  rw [exchange_answered given]
  split_ifs <;> rfl

theorem exchangeAll_counters (keeps : handler.KeepsRequests) {rs : List Request}
    (identified : ∀ r∈rs, ∃ id, r.Identified id) (key : Text) :
    count key (exchangeAll urlPath handler s rs).1.counters.requests=
      count key s.counters.requests+
        (rs.zip (exchangeAll urlPath handler s rs).2).countP (answeredUnder urlPath key) := by
  apply exchangeAll_grows (fun s => count key s.counters.requests)
  intro s r hr
  obtain ⟨id,given⟩ := identified r hr
  exact exchange_counters keeps given key

theorem handleParse_requests (setup : Setup) (body : Body) (c : Counters) :
    (handleParse setup body c).1.requests=c.requests := by
  rw [handleParse]
  split
  · rfl
  · rfl
  · split
    · rfl
    · rfl
    · dsimp only
      split
      · exact Counters.countParse_requests _ _ c
      · exact Counters.countParse_requests _ _ c
      · rfl

theorem handle_keepsRequests (setup : Setup) :
    (handle setup).KeepsRequests := by
  intro r c
  rw [handle]
  split
  · rfl
  · next route _ =>
    split
    · cases route with
      | live => exact Counters.countNamed_requests _ _ c
      | ready => exact Counters.countNamed_requests _ _ c
      | parse => exact handleParse_requests setup r.body c
      | snapshot | profiles | profile => rfl
    · rfl

/-- Whatever the handler does and however URLs are taken apart, each request of a run whose handler
answers and whose URL has a path has its id in the header of its response and is counted once, by
that path, and each other one is not counted: it is answered with its id in the body when the
handler ends in a fault, and without an id where the URL has no path. Over the whole run the counts
grow by the number of responses with an id. -/
theorem counted_where_answered (urlPath : UrlPath) (handler : Handler) (s : State)
    (rs : List Request) (identified : ∀ r∈rs, ∃ id, r.Identified id) :
    (∀ front r back id, rs=front++r::back → r.Identified id →
      let before := (exchangeAll urlPath handler s front).1
      let after := (exchangeAll urlPath handler s (front++[r])).1
      ∃ response, (exchangeAll urlPath handler s rs).2[front.length]?=some response ∧
        match urlPath r.host r.path,handler r before.counters with
        | some path,(left,.ok a) => response.status=a.status ∧ response.requestId=some id ∧
          Counted r path left before after response
        | some _,(left,.error fault) => Uncounted fault id left before after response
        | none,(left,_) => Lost left before after response) ∧
    (exchangeAll urlPath handler s rs).2.length=rs.length ∧
    (∀ label, (exchangeAll urlPath handler s rs).1.answered.count label=s.answered.count label+
      (rs.zip (exchangeAll urlPath handler s rs).2).countP (answeredAs urlPath label)) ∧
    (handler.KeepsRequests → ∀ key,
      count key (exchangeAll urlPath handler s rs).1.counters.requests=
        count key s.counters.requests+
          (rs.zip (exchangeAll urlPath handler s rs).2).countP (answeredUnder urlPath key)) := by
  refine ⟨fun front r back id same given => ?_,length_exchangeAll urlPath handler s rs,
    exchangeAll_answered identified,fun keeps => exchangeAll_counters keeps identified⟩
  intro before after
  have next : after=(exchange urlPath handler before r).1 :=
    exchangeAll_concat urlPath handler s front r
  refine ⟨_,same▸getElem?_exchangeAll urlPath handler s front back r,?_⟩
  rw [next]
  rcases url : urlPath r.host r.path with _|path <;>
    rcases handled : handler r before.counters with ⟨left,fault|a⟩
  · exact lost_of_none url handled
  · exact lost_of_none url handled
  · exact uncounted_of_error url handled given
  · have done := counted_of_ok url handled
    refine ⟨?_,done.identified.trans given.1,done⟩
    rw [exchange_of_ok url handled]

/-- A request that is answered, one that ends in a fault, one with a method that is not the route's
and one whose host is an open bracket. -/
theorem counted_where_answered_of_four :
    let handler := handle (Running.setup {})
    let live : Request := { path := "/health/live".toList, requestId := some "a".toList }
    let broken : Request := {
      method := "POST".toList
      path := "/api/v1/manifest/parse".toList
      requestId := some "b".toList
      body := .raw "NaN".toList }
    let refused : Request := {
      method := "put".toList
      path := "/health/live".toList
      requestId := some "c".toList }
    let unplaced : Request := {
      path := "/health/live".toList
      host := some "[".toList
      requestId := some "d".toList }
    let after := exchangeAll Running.urlPath handler {} [live,broken,refused,unplaced]
    (∃ response, after.2[1]?=some response ∧ response.requestId=none) ∧
    (∃ response, after.2[2]?=some response ∧ response.requestId=some "c".toList) ∧
    after.2[3]?=some plainFault ∧
    after.1.answered.count (refused.label refused.path 405)=1 ∧
    count totalKey after.1.counters.requests=2 := by
  intro handler live broken refused unplaced after
  let answered : Answer := .ok (.object [("status".toList,.ofText "ok".toList)])
  have known (c : Counters) (r : Request) (h : r=live ∨ r=unplaced) :
      handler r c=(c.countNamed "health_live".toList 1,.ok answered) := by
    rcases h with rfl|rfl <;> with_unfolding_all rfl
  have second (c : Counters) : handler broken c=(c,.error .notFinite) := by with_unfolding_all rfl
  have third (c : Counters) : handler refused c=
      (c,.ok (.detailText 405 "Method Not Allowed".toList)) := by with_unfolding_all rfl
  have placed (r : Request) (h : r=live ∨ r=broken ∨ r=refused) :
      Running.urlPath r.host r.path=some r.path := by
    rcases h with rfl|rfl|rfl <;> decide +kernel
  have missing : Running.urlPath unplaced.host unplaced.path=none := by decide +kernel
  have ids : broken.Identified "b".toList ∧ refused.Identified "c".toList ∧
      unplaced.Identified "d".toList := by decide
  have identified : ∀ r∈[live,broken,refused,unplaced], ∃ id, r.Identified id := by
    intro r hr
    simp only [List.mem_cons,List.not_mem_nil,or_false] at hr
    rcases hr with rfl|rfl|rfl|rfl
    · exact ⟨"a".toList,by decide⟩
    · exact ⟨_,ids.1⟩
    · exact ⟨_,ids.2.1⟩
    · exact ⟨_,ids.2.2⟩
  obtain ⟨a,b,c,responses⟩ : ∃ a b c, after.2=
      [⟨200,a,some "a".toList⟩,⟨500,b,none⟩,⟨405,c,some "c".toList⟩,plainFault] := by
    simp only [after,exchangeAll_cons]
    rw [exchange_of_ok (placed live (.inl rfl)) (known _ live (.inl rfl)),
      exchange_of_error (placed broken (.inr (.inl rfl))) (second _),
      exchange_of_ok (placed refused (.inr (.inr rfl))) (third _),
      exchange_of_none missing (known _ unplaced (.inr rfl))]
    exact ⟨_,_,_,rfl⟩
  obtain ⟨places,-,labels,totals⟩ :=
    counted_where_answered Running.urlPath handler {} _ identified
  obtain ⟨response,found,faulty⟩ := places [live] broken [refused,unplaced] _ rfl ids.1
  obtain ⟨response',found',answered'⟩ := places [live,broken] refused [unplaced] _ rfl ids.2.1
  obtain ⟨response'',found'',lost⟩ := places [live,broken,refused] unplaced [] _ rfl ids.2.2
  rw [placed broken (.inr (.inl rfl)),second] at faulty
  rw [placed refused (.inr (.inr rfl)),third] at answered'
  rw [missing] at lost
  refine ⟨⟨response,found,faulty.unidentified⟩,⟨response',found',answered'.2.1⟩,?_,?_,?_⟩
  · exact found''.trans (congrArg some lost.plain)
  · rw [labels,responses]
    rfl
  · rw [totals (handle_keepsRequests _),responses]
    rfl

/-- A request body with an undefined number, which no answer can show, ends in a fault: the response
has no id in its header, and nothing is counted. -/
theorem unidentified_of_undefined_number :
    let request : Request := {
      method := "POST".toList
      path := "/api/v1/manifest/parse".toList
      requestId := some "r0".toList
      body := .raw "NaN".toList }
    let after := exchangeAll Running.urlPath (handle (Running.setup {})) {} [request]
    request.Identified "r0".toList ∧
    (after.2.map fun response => (response.status,response.requestId))=[(500,none)] ∧
    count totalKey after.1.counters.requests=0 ∧
    after.1.answered.count (request.label request.path 500)=0 := by
  intro request after
  have url : Running.urlPath request.host request.path=some request.path := by decide +kernel
  have handled : handle (Running.setup {}) request {}=({},.error .notFinite) := by
    with_unfolding_all rfl
  have step : after=exchangeAll Running.urlPath (handle (Running.setup {})) {} [request] := rfl
  rw [exchangeAll_cons,exchange_of_error url handled] at step
  rw [step]
  exact ⟨⟨rfl,by decide⟩,rfl,rfl,rfl⟩

end BundleManifest.Service
