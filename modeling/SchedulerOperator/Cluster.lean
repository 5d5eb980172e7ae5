import SchedulerOperator.Store.Pass

/-!
An object store in memory with the rules of an API server: types have to be installed,
replacing honours the resource version and keeps the status, a Service keeps its address,
and a root that is being deleted goes with its last finalizer and takes what it owns along.
-/
namespace SchedulerOperator

structure RootKey where
  namespace_ : String
  name : String
  deriving DecidableEq, Repr

structure ObjectKey where
  apiVersion : String
  kind : String
  namespace_ : String
  name : String
  deriving DecidableEq, Repr

def precedes : List String → List String → Bool
  | a :: as, b :: bs => if a = b then precedes as bs else decide (a < b)
  | _, _ => false

def RootKey.parts (k : RootKey) : List String := [k.namespace_, k.name]
def ObjectKey.parts (k : ObjectKey) : List String := [k.apiVersion, k.kind, k.namespace_, k.name]

instance : LT RootKey := ⟨fun a b => precedes a.parts b.parts = true⟩
instance : DecidableLT RootKey := fun a b =>
  inferInstanceAs (Decidable (precedes a.parts b.parts = true))
instance : LT ObjectKey := ⟨fun a b => precedes a.parts b.parts = true⟩
instance : DecidableLT ObjectKey := fun a b =>
  inferInstanceAs (Decidable (precedes a.parts b.parts = true))

structure LoggedWrite where
  op : StoreOp
  kind : String
  namespace_ : Option String
  name : String
  /-- False where the stored object was left as it was. -/
  changed : Bool
  deriving DecidableEq, Repr

structure ArrangedFailure where
  op : StoreOp
  kind : String
  error : StoreError
  deriving DecidableEq, Repr

structure TypeKey where
  apiVersion : String
  kind : String
  deriving DecidableEq, Repr

def ApiResource.typeKey (api : ApiResource) : TypeKey := ⟨api.apiVersion, api.kind⟩

def ApiResource.objectKey (api : ApiResource) (ns : Option String) (name : String) : ObjectKey :=
  ⟨api.apiVersion, api.kind, ns.getD "", name⟩

structure Cluster where
  types : List TypeKey := []
  roots : List (RootKey × InferenceScheduler) := []
  objects : List (ObjectKey × Json) := []
  version : Nat := 0
  uids : Nat := 0
  addresses : Nat := 0
  autoReady : Bool := false
  failures : List ArrangedFailure := []
  writes : List LoggedWrite := []

namespace Cluster

def root? (s : Cluster) (ns name : String) : Option InferenceScheduler :=
  Assoc.get? ⟨ns, name⟩ s.roots

def object? (s : Cluster) (api : ApiResource) (ns : Option String) (name : String) :
    Option Json :=
  Assoc.get? (api.objectKey ns name) s.objects

/-! State changes that all operations share. -/

def bump (s : Cluster) : String × Cluster :=
  (toString (s.version + 1), { s with version := s.version + 1 })

def logged (op : StoreOp) (kind : String) (ns : Option String) (name : String) (changed : Bool)
    (s : Cluster) : Cluster :=
  { s with writes := ⟨op, kind, ns, name, changed⟩ :: s.writes }

def putRoot (k : RootKey) (r : InferenceScheduler) (s : Cluster) : Cluster :=
  { s with roots := Assoc.set k r s.roots }

def putObject (k : ObjectKey) (v : Json) (s : Cluster) : Cluster :=
  { s with objects := Assoc.set k v s.objects }

def isOwnedBy (uid : String) (v : Json) : Bool :=
  match ((v.get "metadata").get "ownerReferences").arr? with
  | some refs => refs.any fun r => (r.get "uid").str? == some uid
  | none => false

def dropOwnedBy (uid : String) (s : Cluster) : Cluster :=
  { s with objects := s.objects.filter fun e => !isOwnedBy uid e.2 }

/-- A root that is gone takes the objects it owns along. -/
def dropRoot (k : RootKey) (r : InferenceScheduler) (s : Cluster) : Cluster :=
  dropOwnedBy (r.metadata.uid.getD "") { s with roots := Assoc.erase k s.roots }

def hasType (s : Cluster) (api : ApiResource) : Bool := s.types.contains api.typeKey

def failure? (s : Cluster) (op : StoreOp) (kind : String) : Option StoreError :=
  (s.failures.find? fun f => f.op = op ∧ f.kind = kind).map ArrangedFailure.error

def setMetadata (key : String) (v : Json) (object : Json) : Json :=
  object.modify "metadata" (·.set key v)

def placeIn (ns : Option String) (object : Json) : Json :=
  match ns with
  | some ns => setMetadata "namespace" (.str ns) object
  | none => object

def resourceVersion (object : Json) : Json := (object.get "metadata").get "resourceVersion"

def address (n : Nat) : String :=
  "10.96." ++ toString (n / 250) ++ "." ++ toString (n % 250 + 1)

def assignAddress (kind : String) (object : Json) (s : Cluster) : Json × Cluster :=
  if kind = "Service" ∧ ((object.get "spec").get "clusterIP").isNull then
    let ip := Json.str (address (s.addresses + 1))
    (object.modify "spec" fun spec => (spec.set "clusterIP" ip).set "clusterIPs" (.arr [ip]),
      { s with addresses := s.addresses + 1 })
  else (object, s)

def requestedReplicas (object : Json) : Int :=
  match (object.get "spec").get "replicas" with
  | .int n => if n < (twoTo 63 : Int) then n else 1
  | _ => 1

/-- With `autoReady` on, all replicas of a Deployment are ready at once. -/
def reportReady (kind : String) (autoReady : Bool) (object : Json) : Json :=
  if kind = "Deployment" ∧ autoReady then
    let n := Json.int (requestedReplicas object)
    object.set "status" (.obj [("readyReplicas", n), ("replicas", n)])
  else object

def simulate (kind : String) (object : Json) (s : Cluster) : Json × Cluster :=
  let (object, s) := assignAddress kind object s
  (reportReady kind s.autoReady object, s)

/-- What a replace compares: neither the resource version nor the status. -/
def content (object : Json) : Json :=
  (object.modifyPresent "metadata" (·.erase "resourceVersion")).erase "status"

def rootMissing (ns name : String) : StoreError :=
  .notFound (InferenceScheduler.kind ++ " " ++ ns ++ "/" ++ name)

/-! Operations of the store's clients. -/

def setFinalizers (root : InferenceScheduler) (finalizers : List String) (s : Cluster) :
    Except StoreError Unit × Cluster :=
  let ns := root.namespaceOr ""
  let (version, s) := s.bump
  match s.root? ns root.name with
  | none => (.error (rootMissing ns root.name), s)
  | some stored =>
    if stored.metadata.resourceVersion ≠ root.metadata.resourceVersion then
      (.error (.conflict (InferenceScheduler.kind ++ " " ++ ns ++ "/" ++ root.name ++
        " has been modified")), s)
    else
      let changed := stored.finalizers != finalizers
      let metadata := { stored.metadata with
        finalizers := if finalizers.isEmpty then none else some finalizers
        resourceVersion := some version }
      let stored := { stored with metadata := metadata }
      let key : RootKey := ⟨ns, root.name⟩
      let s := logged .setFinalizers InferenceScheduler.kind (some ns) root.name changed s
      let released := metadata.deletionTimestamp.isSome && finalizers.isEmpty
      (.ok (), if released then dropRoot key stored s else putRoot key stored s)

def writeStatus (ns name : String) (status : SchedulerStatus) (s : Cluster) :
    Except StoreError Unit × Cluster :=
  let (version, s) := s.bump
  match s.root? ns name with
  | none => (.error (rootMissing ns name), s)
  | some stored =>
    let changed := stored.status != some status
    let s := logged .writeStatus InferenceScheduler.kind (some ns) name changed s
    if changed then
      let metadata := { stored.metadata with resourceVersion := some version }
      (.ok (), putRoot ⟨ns, name⟩ { stored with metadata := metadata, status := some status } s)
    else (.ok (), s)

def create (api : ApiResource) (ns : Option String) (object : Json) (s : Cluster) :
    Except StoreError Json × Cluster :=
  if !s.hasType api then (.error api.missing, s)
  else match ((object.get "metadata").get "name").str? with
  | none => (.error (.rejected "metadata.name is required"), s)
  | some name =>
    let key := api.objectKey ns name
    if Assoc.contains key s.objects then
      (.error (.conflict (api.describe ns name ++ " already exists")), s)
    else
      let (version, s) := s.bump
      let object := setMetadata "resourceVersion" (.str version) (placeIn ns object)
      let (object, s) := simulate api.kind object s
      (.ok object, logged .create api.kind ns name true (putObject key object s))

/-- The address that a Service has cannot be changed by replacing it. -/
def clearsAddress (kind : String) (existing object : Json) : Bool :=
  let old := (existing.get "spec").get "clusterIP"
  kind == "Service" && !old.isNull && !((object.get "spec").get "clusterIP").same old

def keepStatus (existing object : Json) : Json :=
  match existing.get? "status" with
  | some status => object.set "status" status
  | none => object

def replace (api : ApiResource) (ns : Option String) (name : String) (object : Json)
    (s : Cluster) : Except StoreError Json × Cluster :=
  if !s.hasType api then (.error api.missing, s)
  else match s.object? api ns name with
  | none => (.error (.notFound (api.describe ns name)), s)
  | some existing =>
    let wanted := resourceVersion object
    if !wanted.isNull && !wanted.same (resourceVersion existing) then
      (.error (.conflict (api.describe ns name ++ " has been modified")), s)
    else if clearsAddress api.kind existing object then
      (.error (.rejected (api.describe ns name ++ ": spec.clusterIP: field is immutable")), s)
    else
      let object := keepStatus existing (placeIn ns object)
      let changed := !(content existing).same (content object)
      let (version, s) := if changed then (s.bump.1 |> Json.str, s.bump.2)
        else (resourceVersion existing, s)
      let (object, s) := simulate api.kind (setMetadata "resourceVersion" version object) s
      let s := putObject (api.objectKey ns name) object s
      (.ok object, logged .replace api.kind ns name changed s)

def delete (api : ApiResource) (ns : Option String) (name : String) (s : Cluster) :
    Except StoreError Unit × Cluster :=
  if !s.hasType api then (.error api.missing, s)
  else if Assoc.contains (api.objectKey ns name) s.objects then
    (.ok (), logged .delete api.kind ns name true
      { s with objects := Assoc.erase (api.objectKey ns name) s.objects })
  else (.error (.notFound (api.describe ns name)), s)

def isListed (api : ApiResource) (ns : Option String) (k : ObjectKey) : Bool :=
  k.apiVersion == api.apiVersion && k.kind == api.kind &&
    (match ns with
     | some ns => k.namespace_ == ns
     | none => true)

def listNames (api : ApiResource) (ns : Option String) (limit : Option Nat) (s : Cluster) :
    Except StoreError (List String) :=
  if !s.hasType api then .error api.missing
  else
    let names := (s.objects.filter fun e => isListed api ns e.1).map fun e => e.1.name
    .ok (match limit with
      | some n => names.take n
      | none => names)

def perform : (c : StoreCall) → Cluster → c.Reply × Cluster
  | .getRoot ns name, s => (.ok (s.root? ns name), s)
  | .setFinalizers root finalizers, s => setFinalizers root finalizers s
  | .writeStatus ns name status, s => writeStatus ns name status s
  | .get api ns name, s => (.ok (s.object? api ns name), s)
  | .create api ns object, s => create api ns object s
  | .replace api ns name object, s => replace api ns name object s
  | .delete api ns name, s => delete api ns name s
  | .listNames api ns limit, s => (listNames api ns limit s, s)

/-- An injected failure for this kind of call comes first and changes nothing. -/
def answer (c : StoreCall) (s : Cluster) : c.Reply × Cluster :=
  match s.failure? c.op c.kind with
  | some e => (.error e, s)
  | none => perform c s

/-- The store under a clock that stands still. -/
def asStore (now : String) : Store Cluster where
  answer := answer
  time _ := now

/-! What users, administrators and the cluster itself do to a store. -/

def install (api : ApiResource) (s : Cluster) : Cluster :=
  if s.hasType api then s else { s with types := api.typeKey :: s.types }

def uninstall (api : ApiResource) (s : Cluster) : Cluster :=
  { s with types := s.types.filter fun k => k ≠ api.typeKey }

def setAutoReady (on : Bool) (s : Cluster) : Cluster := { s with autoReady := on }

def failOn (f : ArrangedFailure) (s : Cluster) : Cluster :=
  { s with failures := s.failures ++ [f] }

def clearFailures (s : Cluster) : Cluster := { s with failures := [] }

def clearWrites (s : Cluster) : Cluster := { s with writes := [] }

def uidText (n : Nat) : String := "uid-" ++ String.ofList (padded 4 n)

def insertRoot (r : InferenceScheduler) (s : Cluster) : InferenceScheduler × Cluster :=
  let ns := r.namespaceOr "default"
  let (uid, s) := match r.metadata.uid with
    | some uid => (uid, s)
    | none => (uidText (s.uids + 1), { s with uids := s.uids + 1 })
  let (version, s) := s.bump
  let metadata := { r.metadata with
    namespace_ := some ns
    uid := some uid
    generation := some (r.metadata.generation.getD 1)
    resourceVersion := some version }
  let r := { r with metadata := metadata }
  (r, putRoot ⟨ns, r.name⟩ r s)

/-- The generation wraps around where there is no greater one. -/
def updateSpec (ns name : String) (edit : SchedulerSpec → SchedulerSpec) (s : Cluster) :
    Except StoreError Unit × Cluster :=
  let (version, s) := s.bump
  match s.root? ns name with
  | none => (.error (rootMissing ns name), s)
  | some r =>
    let metadata := { r.metadata with
      generation := some (r.metadata.generation.getD 0 + 1)
      resourceVersion := some version }
    (.ok (), putRoot ⟨ns, name⟩ { r with metadata := metadata, spec := edit r.spec } s)

/-- Marks a root as being deleted; without finalizers it is gone at once. -/
def requestDeletion (now ns name : String) (s : Cluster) :
    Except StoreError Unit × Cluster :=
  let (version, s) := s.bump
  match s.root? ns name with
  | none => (.error (rootMissing ns name), s)
  | some r =>
    let metadata := { r.metadata with
      deletionTimestamp := some (r.metadata.deletionTimestamp.getD now)
      resourceVersion := some version }
    let r := { r with metadata := metadata }
    let key : RootKey := ⟨ns, name⟩
    (.ok (), if r.finalizers.isEmpty then dropRoot key r s else putRoot key r s)

/-- Puts an object in place without a check and without a record. -/
def insertObject (api : ApiResource) (ns : Option String) (object : Json) (s : Cluster) :
    Cluster :=
  let name := ((object.get "metadata").get "name").str?.getD ""
  let (version, s) := s.bump
  let object := (object.set "apiVersion" (.str api.apiVersion)).set "kind" (.str api.kind)
  let object := setMetadata "resourceVersion" (.str version) (placeIn ns object)
  putObject (api.objectKey ns name) object s

def setReadyReplicas (api : ApiResource) (ns name : String) (ready : Int) (s : Cluster) :
    Except StoreError Unit × Cluster :=
  let (version, s) := s.bump
  match s.object? api (some ns) name with
  | none => (.error (.notFound (api.describe (some ns) name)), s)
  | some object =>
    let object := object.modify "status" (·.set "readyReplicas" (.int ready))
    let object := setMetadata "resourceVersion" (.str version) object
    (.ok (), putObject (api.objectKey (some ns) name) object s)

def ofTypes (apis : List ApiResource) : Cluster :=
  apis.foldl (fun s api => install api s) {}

end Cluster
end SchedulerOperator
