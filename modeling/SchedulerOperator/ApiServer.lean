import SchedulerOperator.ApiServer.Message
import SchedulerOperator.Json.Printer

namespace SchedulerOperator.ApiServer

def collection (api : ApiResource) (ns : Option String) : String :=
  (if api.group.isEmpty then "/api/" else "/apis/") ++ api.apiVersion ++ "/" ++
    (match ns with
     | some ns => "namespaces/" ++ ns ++ "/"
     | none => "") ++ api.plural

def rootApi : ApiResource where
  group := InferenceScheduler.group
  version := InferenceScheduler.version
  apiVersion := InferenceScheduler.apiVersion
  kind := InferenceScheduler.kind
  plural := InferenceScheduler.plural

/-- Status fields that a merge patch has to clear by name when they are absent. -/
def clearable : List String := ["observedGeneration", "phase", "prerequisiteMessage"]

def orElse (k : String) (fallback v : Json) : Json :=
  match v.get? k with
  | some _ => v
  | none => v.set k fallback

/-- The merge patch that leaves exactly this status. -/
def statusUpdate (s : SchedulerStatus) : Json :=
  let cleared := clearable.foldl (fun v k => orElse k .null v) s.toJson
  .obj [("status", orElse "conditions" (.arr []) cleared)]

def finalizerPatch (root : InferenceScheduler) (finalizers : List String) : Json :=
  .obj [("metadata", .obj
    [("finalizers", .texts finalizers),
     ("resourceVersion", .ofOption .str root.metadata.resourceVersion)])]

def unbuildable (why : String) : StoreError :=
  .unavailable ("Failed to build request: " ++ why)

def objectUri (api : ApiResource) (ns : Option String) (name rest : String) :
    Except StoreError String :=
  if name.isEmpty then
    .error (unbuildable "failed to validate request: A non-empty name is required")
  else .ok (collection api ns ++ "/" ++ name ++ rest)

def json : String := "application/json"

def mergePatch (uri : String) (body : Json) : HttpRequest where
  method := "PATCH"
  uri := uri
  accept := some json
  contentType := some "application/merge-patch+json"
  body := some body.compact

def encode (object : Json) : Except StoreError Json :=
  match DynamicObject.decoder.ofJson object with
  | .ok o => .ok o.toJson
  | .error e => .error (.undecodable e.message)

def deletionOptions : Json := .obj [("propagationPolicy", .str "Background")]

def limitQuery : Option Nat → String
  | some n => "&limit=" ++ toString n
  | none => ""

def draft : StoreCall → Except StoreError HttpRequest
  | .getRoot ns name => do
    let uri ← objectUri rootApi (some ns) name ""
    return { method := "GET", uri := uri }
  | .setFinalizers root finalizers => do
    let uri ← objectUri rootApi (some (root.namespaceOr "default")) root.name "?"
    return mergePatch uri (finalizerPatch root finalizers)
  | .writeStatus ns name status => do
    let uri ← objectUri rootApi (some ns) name "/status?"
    return mergePatch uri (statusUpdate status)
  | .get api ns name => do
    let uri ← objectUri api ns name ""
    return { method := "GET", uri := uri }
  | .create api ns object => do
    let body ← encode object
    return { method := "POST", uri := collection api ns ++ "?", contentType := some json,
             body := some body.compact }
  | .replace api ns name object => do
    let body ← encode object
    let uri ← objectUri api ns name "?"
    return { method := "PUT", uri := uri, contentType := some json,
             body := some body.compact }
  | .delete api ns name => do
    let uri ← objectUri api ns name "?"
    return { method := "DELETE", uri := uri, contentType := some json,
             body := some deletionOptions.compact }
  | .listNames api ns limit =>
    .ok { method := "GET", uri := collection api ns ++ "?" ++ limitQuery limit }

def request (c : StoreCall) : Except StoreError HttpRequest := do
  let r ← draft c
  match HttpUri.normalize r.uri with
  | .ok uri => return { r with uri := uri }
  | .error fault => .error (unbuildable ("failed to build request: " ++ fault.message))

def parse (dec : Decoder α) (text : String) : Except StoreError α :=
  (dec.ofText text).mapError fun e => .undecodable e.message

def isFailure (status : Nat) : Bool := 400 ≤ status && status < 600

def account (r : HttpResponse) : ErrorResponse :=
  match parse ErrorResponse.decoder r.text with
  | .ok e => e
  | .error _ => ⟨toString r.status, Text.quoted r.text, "Failed to parse error data", r.status⟩

def body : Exchange → Except (ErrorResponse ⊕ String) String
  | .failure message => .error (.inr ("ServiceError: " ++ message))
  | .response r => if isFailure r.status then .error (.inl (account r)) else .ok r.text

def toError : ErrorResponse ⊕ String → StoreError
  | .inl r => r.toStoreError
  | .inr message => .unavailable message

def received (dec : Decoder α) (x : Exchange) : Except StoreError α :=
  match body x with
  | .ok text => parse dec text
  | .error e => .error (toError e)

def receivedIfAny (dec : Decoder α) (x : Exchange) : Except StoreError (Option α) :=
  match body x with
  | .ok text => (parse dec text).map some
  | .error (.inl r) => if r.reason = "NotFound" then .ok none else .error r.toStoreError
  | .error e => .error (toError e)

/-- A collection that is not found is a type that is not served. -/
def ofCollection (api : ApiResource) (r : Except StoreError α) : Except StoreError α :=
  r.mapError fun e => if e.isNotFound then api.missing else e

/-- The answer to a deletion is a status, if it says so, or else the object. -/
def receivedDeletion (x : Exchange) : Except StoreError Unit := do
  let v ← received Decode.anything x
  match v.sorted.get "kind" with
  | .str "Status" => received DeletionStatus.decoder x
  | _ => received (DynamicObject.decoder.map fun _ => ()) x

def reply (x : Exchange) : (c : StoreCall) → c.Reply
  | .getRoot .. => receivedIfAny InferenceScheduler.decoder x
  | .setFinalizers .. => (received InferenceScheduler.decoder x).map fun _ => ()
  | .writeStatus .. => (received InferenceScheduler.decoder x).map fun _ => ()
  | .get .. => (receivedIfAny DynamicObject.decoder x).map (·.map DynamicObject.toJson)
  | .create api .. =>
    (ofCollection api (received DynamicObject.decoder x)).map DynamicObject.toJson
  | .replace .. => (received DynamicObject.decoder x).map DynamicObject.toJson
  | .delete .. => receivedDeletion x
  | .listNames api .. =>
    (ofCollection api (received ObjectList.decoder x)).map (·.map fun o => o.metadata.anyName)

/-- The store behind a way of sending requests. There is no exchange if the client stops
waiting for it. -/
def store (send : HttpRequest → σ → Option Exchange × σ) (time : σ → String) : Store σ where
  answer c state :=
    match request c with
    | .error e => (.error e, state)
    | .ok r =>
      match send r state with
      | (some x, state) => (reply x c, state)
      | (none, state) => (.error .cancelled, state)
  time := time

end SchedulerOperator.ApiServer
