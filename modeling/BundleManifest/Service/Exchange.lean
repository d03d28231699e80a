import BundleManifest.Manifest.Descriptor
import BundleManifest.Platform.Environment
import BundleManifest.Service.Counters
import BundleManifest.Service.Issue
import BundleManifest.Service.PathLabel
import BundleManifest.Service.Target

namespace BundleManifest.Service

/-- The body of a request. -/
inductive Body where
  | empty
  | document (value : Document)
  /-- Characters, sent as UTF-8. -/
  | raw (text : Text)

/-- The body that a document is sent in: null is no body, and a number that is not finite cannot be
sent. -/
def Body.ofDocument (d : Document) : Outcome Body :=
  match d with
  | .scalar .null => .ok .empty
  | d => if d.isFinite then .ok (.document d) else .error .notFinite

structure Request where
  method : Text := "GET".toList
  /-- The decoded path. -/
  path : Text
  /-- The Host header. -/
  host : Option Text := none
  requestId : Option Text := none
  body : Body := .empty

/-- A request id as a header carries it, in ASCII. -/
def headerId (requestId : Option Text) : Outcome (Option Text) :=
  if (requestId.getD []).all fun c => c.toNat < 128 then .ok requestId else .error .notAscii

/-- The request that is sent to a target. -/
def Request.ofTarget (method target : Text) (requestId : Option Text) (body : Outcome Body) :
    Outcome Request := do
  let path ← match Target.path? target with
    | some path => .ok path
    | none => .error .invalidTarget
  return {method,path,requestId := ← headerId requestId,body := ← body}

/-- The body of an answer: a document, the issues of a request body that was refused, or plain text. -/
inductive Reply where
  | document (value : Document)
  | issues (issues : List Issue)
  | text (words : Text)

structure Response where
  status : Nat
  reply : Reply
  /-- The request id in the header of the answer. -/
  requestId : Option Text

/-- A request as the counts tell it apart. -/
structure RequestLabel where
  method : Text
  path : Text
  status : Nat
  deriving DecidableEq, Repr

structure State where
  counters : Counters := {}
  /-- Answered requests, counted from the start. -/
  answered : Tally RequestLabel := []

inductive Route where
  | live
  | ready
  | snapshot
  | parse
  | profiles
  | profile (name : Text)
  deriving DecidableEq, Repr

namespace Route

/-- The text without a line end at its very end. -/
def dropLineEnd (t : Text) : Text := if t.getLast?=some '\n' then t.dropLast else t

/-- The route of a path; a line end at its end is passed over, except in the name of a profile. -/
def ofPath (path : Text) : Option Route :=
  let fixed := dropLineEnd path
  if fixed="/health/live".toList || fixed="/api/v1/health/live".toList then some .live
  else if fixed="/api/v1/health/ready".toList then some .ready
  else if fixed="/api/v1/metrics/snapshot".toList then some .snapshot
  else if fixed="/api/v1/manifest/parse".toList then some .parse
  else if fixed=PathLabel.profilesPath++['/'] then some .profiles
  else (PathLabel.profileName? path).map .profile

def method : Route → Text
  | .parse => "POST".toList
  | _ => "GET".toList

end Route

/-- An answer before the request id is put on it. -/
structure Answer where
  status : Nat
  reply : Reply

namespace Answer

def ok (value : Document) : Answer := ⟨200,.document value⟩

/-- An answer that only says why there is nothing else to say. -/
def detail (status : Nat) (value : Document) : Answer :=
  ⟨status,.document (.object [("detail".toList,value)])⟩

def detailText (status : Nat) (words : Text) : Answer := detail status (.ofText words)

end Answer

/-- What a request asks to be parsed. -/
structure ParseRequest where
  headers : Dictionary Text
  revision : Option Text
  profile : Option Text
  properties : Dictionary Text
  deriving DecidableEq, Repr

/-- Why a request body is refused. -/
inductive BodyFault where
  | issues (issues : List Issue)
  /-- The body could not be read to its end. -/
  | unreadable

/-- What a handler comes to: it changes the counters and either answers or ends in a fault; what it
counted before the fault stays counted. -/
abbrev Handling := Counters × Except Fault Answer

abbrev Handler := Request → Counters → Handling

/-- What the handlers work with. -/
structure Setup where
  environment : Platform.Environment
  readers : Platform.Readers
  /-- The stack where a manifest is read. -/
  reading : Filter.ReadStack
  /-- The stack where its clauses are matched. -/
  matching : Platform.MatchStack
  /-- Reads the body of a request to parse. -/
  body : Body → Except BodyFault ParseRequest

namespace Setup

variable (setup : Setup)

def catalogue : Outcome Platform.Catalogue := setup.environment.catalogue setup.readers

def properties : Outcome (Dictionary Text) :=
  (setup.environment.properties setup.readers).outcome

/-- The properties to match against: those of the named profile with the given ones on top, else
the given ones if there are any, else those of the environment. `none` means that the profile is
not known. -/
def requestedProperties (r : ParseRequest) : Outcome (Option (Dictionary Text)) :=
  match r.profile.getD [],r.properties with
  | [],[] => setup.properties.map some
  | [],properties => .ok (some properties)
  | name,properties => do
    return ((← setup.catalogue).get? name).map fun p => p.withOverrides properties

/-- Reads and describes the manifest for a platform. -/
def describeFor (properties : Dictionary Text) (headers : Dictionary Text) : Outcome Document := do
  let m ← (Manifest.read setup.reading (headers.map fun e => (e.1,some e.2))).outcome
  let files ← (m.libraryFiles (pure (Platform.accepts setup.matching properties))).outcome
  return .object (Descriptor.entries .null m.describe++[Descriptor.librariesEntry files])

end Setup

/-- The answer to a body that was refused. It shows what was found, and so there is none when that
holds a number that is not finite. -/
def refusal (issues : List Issue) : Outcome Answer :=
  if issues.all (·.found.isFinite) then .ok ⟨422,.issues issues⟩ else .error .notFinite

/-- Parses a manifest and counts how that ended. -/
def handleParse (setup : Setup) (body : Body) (c : Counters) : Handling :=
  match setup.body body with
  | .error (.issues issues) => (c,refusal issues)
  | .error .unreadable =>
    (c,.ok (.detailText 400 "There was an error parsing the body".toList))
  | .ok r =>
    match setup.requestedProperties r with
    | .error fault => (c,.error fault)
    | .ok none => (c,.ok (.detailText 404 "platform_profile_not_found".toList))
    | .ok (some properties) =>
      let version := (r.headers.get? Headers.manifestVersion).getD Edition.legacy.toText
      match setup.describeFor properties r.headers with
      | .ok d => (c.countParse (some version) "ok".toList,.ok (.ok d))
      | .error (.rejected cause) =>
        (c.countParse (some version) cause.kind.code,.ok (.detail 422 cause.report.document))
      | .error fault => (c,.error fault)

/-- Tells whether profiles load and the platform of the environment can be told. -/
def ready (setup : Setup) : Outcome Answer := do
  let catalogue ← setup.catalogue
  let properties ← setup.properties
  return .ok (.object [("status".toList,.ofText "ready".toList),
    ("platform_profiles".toList,.ofInt catalogue.length),
    ("platform".toList,.object [
      ("os_name".toList,.ofText? (properties.get? Platform.osNameKey)),
      ("processor".toList,.ofText? (properties.get? Platform.processorKey))])])

def handleRoute (setup : Setup) (body : Body) (c : Counters) : Route → Handling
  | .live =>
    (c.countNamed "health_live".toList 1,
      .ok (.ok (.object [("status".toList,.ofText "ok".toList)])))
  | .ready => (c.countNamed "health_ready".toList 1,ready setup)
  | .snapshot => (c,.ok (.ok (.object (c.snapshot.map fun e => (e.1,e.2.document)))))
  | .parse => handleParse setup body c
  | .profiles =>
    (c,setup.catalogue.map fun catalogue =>
      .ok (.object [("profiles".toList,.ofTexts catalogue.names)]))
  | .profile name =>
    (c,setup.catalogue.map fun catalogue =>
      match catalogue.get? name with
      | some p => .ok p.document
      | none => .detailText 404 "Platform profile not found".toList)

/-- Finds the route of a request and lets it answer. -/
def handle (setup : Setup) : Handler := fun request c =>
  match Route.ofPath request.path with
  | none => (c,.ok (.detailText 404 "Not Found".toList))
  | some route =>
    if Text.upper request.method=route.method then handleRoute setup request.body c route
    else (c,.ok (.detailText 405 "Method Not Allowed".toList))

/-- Appends the request id, if there is one. -/
def withRequestId (requestId : Option Text) (fields : Dictionary Document) : Document :=
  .object (fields++match requestId with
    | some (c::r) => [("request_id".toList,.ofText (c::r))]
    | _ => [])

/-- The answer to a rejection that no handler dealt with. -/
def reportAnswer (report : Report) (requestId : Option Text) : Answer :=
  ⟨422,.document (withRequestId requestId [("detail".toList,report.document)])⟩

/-- The answer to a rejection with data of any sort; what is not finite cannot be sent. -/
def reportOutcome (report : Report) (requestId : Option Text) : Outcome Answer :=
  if (Document.object report.data).isFinite then .ok (reportAnswer report requestId)
  else .error .notFinite

/-- The answer to an unexpected fault, which says nothing about it. -/
def faultAnswer (requestId : Option Text) : Answer :=
  ⟨500,.document (withRequestId requestId
    [("detail".toList,.ofText "Internal Server Error".toList)])⟩

/-- The answer to a fault. -/
def shapeFault (requestId : Option Text) : Fault → Answer
  | .rejected cause => reportAnswer cause.report requestId
  | _ => faultAnswer requestId

/-- The path of the URL that a Host header and a decoded path make up, if it is one. -/
abbrev UrlPath := Option Text → Text → Option Text

/-- The answer where not even a fault could be shaped. -/
def plainFault : Response := ⟨500,.text "Internal Server Error".toList,none⟩

/-- Answers one request. The request id goes into the header, and the request is counted, only when
the handler answered. Both ways the path of the URL is asked for afterwards, and without one the
answer is lost. -/
def exchange (urlPath : UrlPath) (handler : Handler) (s : State) (request : Request) :
    State × Response :=
  let (counters,answer) := handler request s.counters
  match urlPath request.host request.path,answer with
  | some path,.ok a =>
    let method := Text.upper request.method
    let label := PathLabel.ofPath path
    ({ counters := counters.countRequest method label (some a.status)
       answered := s.answered.mark ⟨method,label,a.status⟩ },
      ⟨a.status,a.reply,request.requestId⟩)
  | some _,.error fault =>
    let a := shapeFault request.requestId fault
    ({s with counters},⟨a.status,a.reply,none⟩)
  | none,_ => ({s with counters},plainFault)

/-- Answers requests one after the other. -/
def exchangeAll (urlPath : UrlPath) (handler : Handler) (s : State) :
    List Request → State × List Response
  | [] => (s,[])
  | r::rs =>
    let (s,response) := exchange urlPath handler s r
    let (s,responses) := exchangeAll urlPath handler s rs
    (s,response::responses)

end BundleManifest.Service
