import SchedulerOperator.Engine.ChildWrite
import SchedulerOperator.Proofs.Children
import SchedulerOperator.Proofs.Operations

/-!
How a child reads once it was written over whatever was there. What it reads as determines it, so a
child that is written once more stays as it is.
-/
namespace SchedulerOperator

/-- What of a stored child is not its payload's. -/
structure Carried where
  version : Option Json := none
  owners : Option Json := none
  address : Option Json := none
  addresses : Option Json := none
  status : Option Json := none

def Carried.assign (c : Carried) (field : String) (v : Option Json) : Carried :=
  if field = "clusterIP" then { c with address := v } else { c with addresses := v }

namespace ChildObject
variable {d : ChildObject} {c : Carried} {e old : Json}

def inMetadata (d : ChildObject) (c : Carried) (k : String) : Option Json :=
  if k = "ownerReferences" then c.owners
  else if k = "resourceVersion" then c.version
  else (d.payload.get "metadata").get? k

def inSpec (d : ChildObject) (c : Carried) (k : String) : Option Json :=
  if k = "clusterIP" then c.address
  else if k = "clusterIPs" then c.addresses
  else (d.payload.get "spec").get? k

structure Reads (d : ChildObject) (c : Carried) (e : Json) : Prop where
  ordered : e.Ordered
  outside : ∀ k, k ≠ "metadata" → k ≠ "spec" → k ≠ "status" → e.get? k = d.payload.get? k
  metadata : (e.get "metadata").Ordered
  inMetadata : ∀ k, (e.get "metadata").get? k = d.inMetadata c k
  hasSpec : (e.get? "spec").isSome = (d.payload.get? "spec").isSome
  spec : ∀ spec, e.get? "spec" = some spec → spec.Ordered ∧ ∀ k, spec.get? k = d.inSpec c k
  status : e.get? "status" = c.status

theorem get?_of_ordered {v : Json} {k : String} (ordered : (v.get k).Ordered) :
    v.get? k = some (v.get k) := by
  obtain ⟨ms, object, _⟩ := ordered
  unfold Json.get at object ⊢
  cases found : v.get? k with
  | none => simp [found] at object
  | some w => rfl

theorem Reads.unique {e' : Json} (reads : d.Reads c e) (reads' : d.Reads c e') : e = e' := by
  refine reads.ordered.ext reads'.ordered fun k => ?_
  by_cases metadata : k = "metadata"
  · have alike : e.get "metadata" = e'.get "metadata" := by
      refine reads.metadata.ext reads'.metadata fun l => ?_
      rw [reads.inMetadata, reads'.inMetadata]
    rw [metadata, get?_of_ordered reads.metadata, get?_of_ordered reads'.metadata, alike]
  · by_cases spec : k = "spec"
    · rw [spec]
      have both := reads.hasSpec.trans reads'.hasSpec.symm
      cases found : e.get? "spec" with
      | none =>
        cases found' : e'.get? "spec" with
        | none => rfl
        | some w' =>
          rw [found, found'] at both
          cases both
      | some w =>
        rw [found, Option.isSome_some] at both
        obtain ⟨w', found'⟩ := Option.isSome_iff_exists.mp both.symm
        obtain ⟨ordered, entries⟩ := reads.spec w found
        obtain ⟨ordered', entries'⟩ := reads'.spec w' found'
        have alike : w = w' := ordered.ext ordered' fun l => by rw [entries, entries']
        rw [found', alike]
    · by_cases status : k = "status"
      · rw [status, reads.status, reads'.status]
      · rw [reads.outside k metadata spec status, reads'.outside k metadata spec status]

theorem Tidy.reads (tidy : d.Tidy) : d.Reads {} d.payload where
  ordered := tidy.ordered
  outside _ _ _ _ := rfl
  metadata := tidy.metadata
  inMetadata k := by
    unfold ChildObject.inMetadata
    split
    · rename_i same
      rw [same, tidy.unowned]
    · split
      · rename_i same
        rw [same, tidy.unversioned]
      · rfl
  hasSpec := rfl
  spec spec found := by
    obtain ⟨ordered, address, addresses⟩ := tidy.spec spec found
    refine ⟨ordered, fun k => ?_⟩
    have whole : d.payload.get "spec" = spec := by rw [Json.get, found]; rfl
    unfold inSpec
    split
    · rename_i same
      rw [same, address]
    · split
      · rename_i same
        rw [same, addresses]
      · rw [whole]
  status := tidy.unreported

theorem Reads.setMetadata (reads : d.Reads c e) {c' : Carried} {key : String} {v : Json}
    (entry : ∀ k, d.inMetadata c' k = if k = key then some v else d.inMetadata c k)
    (spec : d.inSpec c' = d.inSpec c) (status : c'.status = c.status) :
    d.Reads c' (e.modify "metadata" (·.set key v)) where
  ordered := reads.ordered.modify _ _
  outside k metadata spec status := by
    rw [Json.get?_modify, if_neg metadata, reads.outside k metadata spec status]
  metadata := by
    rw [Json.get_modify_self]
    exact reads.metadata.set _ _
  inMetadata k := by
    rw [Json.get_modify_self, Json.get?_set, entry, reads.inMetadata]
  hasSpec := by
    rw [Json.get?_modify, if_neg (by decide), reads.hasSpec]
  spec := by
    intro w found
    rw [Json.get?_modify, if_neg (by decide)] at found
    rw [spec]
    exact reads.spec w found
  status := by
    rw [Json.get?_modify, if_neg (by decide), reads.status, status]

theorem Reads.modifySpec (reads : d.Reads c e) {c' : Carried} {f : Json → Json}
    (present : (d.payload.get? "spec").isSome)
    (written : ∀ spec, spec.Ordered → (∀ k, spec.get? k = d.inSpec c k) →
      (f spec).Ordered ∧ ∀ k, (f spec).get? k = d.inSpec c' k)
    (metadata : d.inMetadata c' = d.inMetadata c) (status : c'.status = c.status) :
    d.Reads c' (e.modify "spec" f) where
  ordered := reads.ordered.modify _ _
  outside k metadata spec status := by
    rw [Json.get?_modify, if_neg spec, reads.outside k metadata spec status]
  metadata := by
    rw [Json.get_modify_other _ _ (by decide)]
    exact reads.metadata
  inMetadata k := by
    rw [Json.get_modify_other _ _ (by decide), reads.inMetadata, metadata]
  hasSpec := by
    rw [Json.get?_modify, if_pos rfl, present]
    rfl
  spec := by
    intro w found
    rw [Json.get?_modify, if_pos rfl, Option.some.injEq] at found
    obtain ⟨old, there⟩ := Option.isSome_iff_exists.mp (reads.hasSpec.trans present)
    obtain ⟨ordered, entries⟩ := reads.spec old there
    have whole : e.get "spec" = old := by rw [Json.get, there]; rfl
    rw [← found, whole]
    exact written old ordered entries
  status := by
    rw [Json.get?_modify, if_neg (by decide), reads.status, status]

theorem Reads.setStatus (reads : d.Reads c e) (v : Json) :
    d.Reads { c with status := some v } (e.set "status" v) where
  ordered := reads.ordered.set _ _
  outside k metadata spec status := by
    rw [Json.get?_set, if_neg status, reads.outside k metadata spec status]
  metadata := by
    rw [Json.get_set_other _ _ (by decide)]
    exact reads.metadata
  inMetadata k := by
    rw [Json.get_set_other _ _ (by decide), reads.inMetadata]
    rfl
  hasSpec := by rw [Json.get?_set, if_neg (by decide), reads.hasSpec]
  spec := by
    intro w found
    rw [Json.get?_set, if_neg (by decide)] at found
    exact reads.spec w found
  status := by rw [Json.get?_set, if_pos rfl]

theorem Reads.setVersion (reads : d.Reads c e) (v : Json) :
    d.Reads { c with version := some v } (Cluster.setMetadata "resourceVersion" v e) := by
  refine reads.setMetadata (fun k => ?_) rfl rfl
  unfold ChildObject.inMetadata
  by_cases version : k = "resourceVersion"
  · simp [version]
  · simp [version]

theorem Reads.setOwners (reads : d.Reads c e) (owners : List Json) :
    d.Reads { c with owners := some (.arr owners) } (withOwners owners e) := by
  refine reads.setMetadata (fun k => ?_) rfl rfl
  unfold ChildObject.inMetadata
  by_cases owned : k = "ownerReferences"
  · simp [owned]
  · simp [owned]

theorem Reads.place (tidy : d.Tidy) (reads : d.Reads c e) :
    d.Reads c (Cluster.placeIn (d.resource.within d.namespace_) e) := by
  rw [ResourceType.within, if_pos tidy.namespaced]
  refine reads.setMetadata (fun k => ?_) rfl rfl
  unfold ChildObject.inMetadata
  by_cases inNamespace : k = "namespace"
  · simp [inNamespace, tidy.placed]
  · simp [inNamespace]

theorem inSpec_assign {field : String} (assigned : field ∈ assignedFields) (v : Option Json)
    (k : String) : d.inSpec (c.assign field v) k = if k = field then v else d.inSpec c k := by
  simp only [assignedFields, List.mem_cons, List.not_mem_nil, or_false] at assigned
  rcases assigned with rfl | rfl
  · by_cases here : k = "clusterIP" <;> simp [inSpec, Carried.assign, here]
  · by_cases here : k = "clusterIPs" <;> simp [inSpec, Carried.assign, here]

theorem Reads.assign (reads : d.Reads c e) (present : (d.payload.get? "spec").isSome)
    {field : String} (assigned : field ∈ assignedFields) (v : Json) :
    d.Reads (c.assign field (some v)) (e.modify "spec" (·.set field v)) := by
  refine reads.modifySpec present (fun spec ordered entries => ⟨ordered.set _ _, fun k => ?_⟩) ?_ ?_
  · rw [Json.get?_set, entries, inSpec_assign assigned]
  · unfold Carried.assign
    split <;> rfl
  · unfold Carried.assign
    split <;> rfl

theorem Reads.get_spec (reads : d.Reads c e) (present : (d.payload.get? "spec").isSome)
    (k : String) : (e.get "spec").get k = (d.inSpec c k).getD .null := by
  obtain ⟨w, there⟩ := Option.isSome_iff_exists.mp (reads.hasSpec.trans present)
  have whole : e.get "spec" = w := by rw [Json.get, there]; rfl
  rw [whole, Json.get, (reads.spec w there).2]

theorem Reads.version (reads : d.Reads c e) : Cluster.resourceVersion e = c.version.getD .null := by
  rw [Cluster.resourceVersion, Json.get, reads.inMetadata]
  rfl

def kept (old : Json) (field : String) : Option Json :=
  let v := (old.get "spec").get field
  if v.isNull then none else some v

def ownersOver (d : ChildObject) (old : Json) : List Json :=
  mergeOwners d.owner.toJson (((old.get "metadata").get "ownerReferences").arr?.getD [])

theorem Reads.keepField (reads : d.Reads c e) (present : (d.payload.get? "spec").isSome)
    {field : String} (assigned : field ∈ assignedFields) (unset : c.assign field none = c) (old : Json) :
    d.Reads (c.assign field (kept old field))
      (if !((old.get "spec").get field).isNull && ((e.get "spec").get field).isNull
        then e.modify "spec" (·.set field ((old.get "spec").get field)) else e) := by
  have free : ((e.get "spec").get field).isNull = true := by
    rw [reads.get_spec present, ← unset, inSpec_assign assigned, if_pos rfl]
    rfl
  rw [free, Bool.and_true, kept]
  cases null : ((old.get "spec").get field).isNull with
  | true =>
    rw [if_pos rfl, unset]
    exact reads
  | false => exact reads.assign present assigned _

def sentOver (d : ChildObject) (old : Json) : Carried where
  version := some (Cluster.resourceVersion old)
  owners := some (.arr (d.ownersOver old))
  address := if d.resource = .service then kept old "clusterIP" else none
  addresses := if d.resource = .service then kept old "clusterIPs" else none

theorem sentOver_null (d : ChildObject) : d.sentOver .null =
    { version := some .null, owners := some (.arr [d.owner.toJson]) } := by
  have unassigned : ∀ field, kept .null field = none := fun _ => rfl
  simp only [sentOver, unassigned, ite_self]
  rfl

theorem Tidy.replacement (tidy : d.Tidy) (old : Json) :
    d.Reads (d.sentOver old) (d.replacement old) := by
  have base := (tidy.reads.setVersion (Cluster.resourceVersion old)).setOwners (d.ownersOver old)
  unfold ChildObject.replacement sentOver
  by_cases service : d.resource = .service
  · have present := tidy.service service
    simp only [if_pos service]
    have address : "clusterIP" ∈ assignedFields := List.mem_cons_self
    have addresses : "clusterIPs" ∈ assignedFields := List.mem_cons_of_mem _ List.mem_cons_self
    exact (base.keepField present address rfl old).keepField present addresses rfl old
  · simp only [if_neg service]
    exact base

theorem Reads.keepStatus (reads : d.Reads c e) (unset : c.status = none) (old : Json) :
    d.Reads { c with status := old.get? "status" } (Cluster.keepStatus old e) := by
  unfold Cluster.keepStatus
  cases found : old.get? "status" with
  | none =>
    have same : ({ c with status := none } : Carried) = c := by rw [← unset]
    rw [same]
    exact reads
  | some status => exact reads.setStatus status

theorem kind_service {t : ResourceType} : t.builtinApi.kind = "Service" ↔ t = .service := by
  cases t <;> decide

theorem kind_deployment {t : ResourceType} :
    t.builtinApi.kind = "Deployment" ↔ t = .deployment := by
  cases t <;> decide

def withAddress (d : ChildObject) (fresh : Json) (c : Carried) : Carried :=
  if d.resource = .service ∧ (c.address.getD .null).isNull then
    { c with address := some fresh, addresses := some (.arr [fresh]) }
  else c

theorem Reads.assignAddress (tidy : d.Tidy) (reads : d.Reads c e) (s : Cluster) :
    d.Reads (d.withAddress (.str (Cluster.address (s.addresses + 1))) c)
      (s.assignAddress d.resource.builtinApi.kind e).1 := by
  unfold Cluster.assignAddress withAddress
  by_cases service : d.resource = .service
  · have present := tidy.service service
    have current : (e.get "spec").get "clusterIP" = c.address.getD .null := by
      rw [reads.get_spec present, inSpec, if_pos rfl]
    rw [current]
    simp only [kind_service, service, true_and]
    split
    · dsimp only
      refine reads.modifySpec present (fun spec ordered entries => ?_) rfl rfl
      refine ⟨(ordered.set _ _).set _ _, fun k => ?_⟩
      rw [Json.get?_set, Json.get?_set, entries]
      unfold inSpec
      by_cases address : k = "clusterIP"
      · simp [address]
      · by_cases addresses : k = "clusterIPs"
        · simp [addresses]
        · simp [address, addresses]
    · exact reads
  · rw [if_neg fun both => service both.1, if_neg fun both => service (kind_service.mp both.1)]
    exact reads

def readyStatus (n : Int) : Json := .obj [("readyReplicas", .int n), ("replicas", .int n)]

def withReady (d : ChildObject) (autoReady : Bool) (c : Carried) : Carried :=
  if d.resource = .deployment ∧ autoReady then
    { c with status := some (readyStatus (Cluster.requestedReplicas d.payload)) }
  else c

theorem Reads.requestedReplicas (reads : d.Reads c e) :
    Cluster.requestedReplicas e = Cluster.requestedReplicas d.payload := by
  have same : (e.get "spec").get "replicas" = (d.payload.get "spec").get "replicas" := by
    cases present : (d.payload.get? "spec").isSome with
    | true =>
      rw [reads.get_spec present, inSpec, if_neg (by decide), if_neg (by decide)]
      rfl
    | false =>
      have absent := reads.hasSpec.trans present
      rw [Option.isSome_eq_false_iff, Option.isNone_iff_eq_none] at present absent
      simp only [Json.get, present, absent]
  unfold Cluster.requestedReplicas
  rw [same]

theorem Reads.reportReady (reads : d.Reads c e) (autoReady : Bool) :
    d.Reads (d.withReady autoReady c)
      (Cluster.reportReady d.resource.builtinApi.kind autoReady e) := by
  unfold Cluster.reportReady withReady
  simp only [kind_deployment, reads.requestedReplicas]
  split
  · exact reads.setStatus _
  · exact reads

/-- What a child reads as once it was written over `old`, which is `null` where there was
nothing. -/
def storedOver (d : ChildObject) (old version fresh : Json) (autoReady : Bool) : Carried :=
  d.withReady autoReady <| d.withAddress fresh
    { d.sentOver old with version := some version, status := old.get? "status" }

/-- What the server has nothing to add to. -/
structure Settled (d : ChildObject) (autoReady : Bool) (c : Carried) : Prop where
  version : c.version.isSome
  owners : ∃ os, c.owners = some (.arr os) ∧ mergeOwners d.owner.toJson os = os
  address : d.resource = .service → (c.address.getD .null).isNull = false
  addresses : ∀ v, c.addresses = some v → v.isNull = false
  unaddressed : d.resource ≠ .service → c.address = none ∧ c.addresses = none
  ready : d.resource = .deployment ∧ autoReady →
    c.status = some (readyStatus (Cluster.requestedReplicas d.payload))

theorem mergeOwners_again {owner : Json} (same : (owner.get "uid").same (owner.get "uid") = true)
    (refs : List Json) : mergeOwners owner (mergeOwners owner refs) = mergeOwners owner refs := by
  induction refs with
  | nil => simp [mergeOwners, same]
  | cons r rest ih =>
    by_cases ours : (r.get "uid").same (owner.get "uid") = true
    · simp [mergeOwners, ours, same]
    · simp [mergeOwners, ours, ih]

theorem owner_uid (owner : OwnerReference) : owner.toJson.get "uid" = .str owner.uid := by
  cases block : owner.blockOwnerDeletion <;> cases control : owner.controller <;>
    simp [OwnerReference.toJson, Json.present, Json.get, Json.get?, Json.members, Assoc.get?,
      block, control]

theorem ownersOver_again (d : ChildObject) (old : Json) :
    mergeOwners d.owner.toJson (d.ownersOver old) = d.ownersOver old := by
  refine mergeOwners_again ?_ _
  rw [owner_uid]
  exact Json.same_refl (Json.finite_str _)

theorem kept_not_null {field : String} {v : Json} (there : kept old field = some v) :
    v.isNull = false := by
  simp only [kept] at there
  split at there
  · cases there
  · rename_i some_
    cases there
    exact Bool.eq_false_iff.mpr some_

theorem storedOver_eq (d : ChildObject) (old version fresh : Json) (autoReady : Bool) :
    d.storedOver old version fresh autoReady =
      { version := some version
        owners := some (.arr (d.ownersOver old))
        address :=
          if d.resource = .service then some ((kept old "clusterIP").getD fresh) else none
        addresses :=
          if d.resource = .service then
            if (kept old "clusterIP").isNone then some (.arr [fresh]) else kept old "clusterIPs"
          else none
        status :=
          if d.resource = .deployment ∧ autoReady then
            some (readyStatus (Cluster.requestedReplicas d.payload))
          else old.get? "status" } := by
  unfold storedOver withReady withAddress sentOver
  by_cases service : d.resource = .service
  · cases there : kept old "clusterIP" with
    | none => simp [service, Json.isNull]
    | some v => simp [service, kept_not_null there]
  · by_cases ready : d.resource = .deployment ∧ autoReady = true
    · simp [ready]
    · simp [service, ready]

theorem storedOver_settled (d : ChildObject) (old version : Json) (ip : String)
    (autoReady : Bool) : d.Settled autoReady (d.storedOver old version (.str ip) autoReady) := by
  rw [storedOver_eq]
  refine ⟨rfl, ⟨_, rfl, d.ownersOver_again old⟩, ?_, ?_, ?_, ?_⟩
  · intro service
    simp only [if_pos service, Option.getD_some]
    cases there : kept old "clusterIP" with
    | none => rfl
    | some v => exact kept_not_null there
  · intro v there
    simp only at there
    split at there
    · split at there
      · cases there
        rfl
      · exact kept_not_null there
    · cases there
  · intro other
    exact ⟨if_neg other, if_neg other⟩
  · intro ready
    exact if_pos ready

theorem Settled.sentOver {autoReady : Bool} (settled : d.Settled autoReady c)
    (reads : d.Reads c e) (tidy : d.Tidy) :
    ({ d.sentOver e with status := e.get? "status" } : Carried) = c := by
  obtain ⟨os, owners, merged⟩ := settled.owners
  obtain ⟨version, versioned⟩ := Option.isSome_iff_exists.mp settled.version
  have listed : ((e.get "metadata").get "ownerReferences").arr?.getD [] = os := by
    rw [Json.get, reads.inMetadata, ChildObject.inMetadata, if_pos rfl, owners]
    rfl
  have field : d.resource = .service → kept e "clusterIP" = c.address ∧
      kept e "clusterIPs" = c.addresses := by
    intro service
    have present := tidy.service service
    have address := settled.address service
    simp only [kept, reads.get_spec present, inSpec, if_pos, if_neg (show ¬ "clusterIPs" = "clusterIP" by decide)]
    constructor
    · cases there : c.address with
      | none => simp [there, Json.isNull] at address
      | some v => simp [there] at address; simp [address]
    · cases there : c.addresses with
      | none => simp [Json.isNull]
      | some v => simp [settled.addresses v there]
  obtain ⟨_, _, _, _, _⟩ := c
  by_cases service : d.resource = .service
  · obtain ⟨address, addresses⟩ := field service
    simp only [ChildObject.sentOver, if_pos service, address, addresses, ownersOver, listed, merged,
      reads.version, reads.status]
    simp_all
  · obtain ⟨address, addresses⟩ := settled.unaddressed service
    simp only [ChildObject.sentOver, if_neg service, ownersOver, listed, merged, reads.version,
      reads.status]
    simp_all

def api (d : ChildObject) : ApiResource := d.resource.builtinApi

def place (d : ChildObject) : Option String := d.resource.within d.namespace_

def key (d : ChildObject) : ObjectKey := d.api.objectKey d.place d.name

theorem Settled.simulate {s : Cluster} (settled : d.Settled s.autoReady c) (tidy : d.Tidy)
    (reads : d.Reads c e) : s.simulate d.api.kind e = (e, s) := by
  have unmoved : s.assignAddress d.api.kind e = (e, s) := by
    unfold Cluster.assignAddress
    refine if_neg fun both => ?_
    have service := ChildObject.kind_service.mp both.1
    have current := both.2
    rw [reads.get_spec (tidy.service service), ChildObject.inSpec, if_pos rfl,
      settled.address service] at current
    cases current
  have reported : Cluster.reportReady d.api.kind s.autoReady e = e := by
    have again := reads.reportReady s.autoReady
    have same : d.withReady s.autoReady c = c := by
      unfold ChildObject.withReady
      split
      · rename_i ready
        rw [← settled.ready ready]
      · rfl
    rw [same] at again
    exact again.unique reads
  simp only [Cluster.simulate, unmoved, reported]

end ChildObject

namespace Cluster
variable {s : Cluster} {d : ChildObject} {c : Carried} {e old : Json}

structure Put (k : ObjectKey) (e : Json) (s t : Cluster) : Prop where
  objects : t.objects = Assoc.set k e s.objects
  roots : t.roots = s.roots
  types : t.types = s.types
  autoReady : t.autoReady = s.autoReady
  failures : t.failures = s.failures
  addresses : s.addresses ≤ t.addresses

theorem reads_simulated (tidy : d.Tidy) {version v : Json} {t : Cluster} (reads : d.Reads c e)
    (versioned : ({ c with version := some version } : Carried) =
      { d.sentOver old with version := some version, status := old.get? "status" })
    (simulated : s.simulate d.api.kind (setMetadata "resourceVersion" version e) = (v, t)) :
    d.Reads (d.storedOver old version (.str (address (s.addresses + 1))) s.autoReady) v := by
  have stamped := reads.setVersion version
  rw [versioned] at stamped
  have addressed := stamped.assignAddress tidy s
  have auto : (s.assignAddress d.api.kind (setMetadata "resourceVersion" version e)).2.autoReady =
      s.autoReady := by
    unfold Cluster.assignAddress
    split <;> rfl
  have reported := addressed.reportReady s.autoReady
  rw [← auto] at reported
  obtain rfl := congrArg Prod.fst simulated
  exact auto ▸ reported

theorem create_child (tidy : d.Tidy) (installed : s.hasType d.api = true)
    (absent : Assoc.get? d.key s.objects = none) :
    ∃ e text, (s.create d.api d.place (ChildObject.withOwners [d.owner.toJson] d.payload)).1 = .ok e ∧
      d.Reads (d.storedOver .null (.str text) (.str (address (s.addresses + 1))) s.autoReady) e ∧
      Put d.key e s
        (s.create d.api d.place (ChildObject.withOwners [d.owner.toJson] d.payload)).2 := by
  have named : (((ChildObject.withOwners [d.owner.toJson] d.payload).get "metadata").get "name").str? =
      some d.name := by
    rw [ChildObject.withOwners, Json.get_modify_self, Json.get_set_other _ _ (by decide), tidy.named]
    rfl
  cases s.create_outcome d.api d.place (ChildObject.withOwners [d.owner.toJson] d.payload) with
  | refused why =>
    cases why with
    | uninstalled lacking => exact nomatch installed.symm.trans lacking
    | unnamed nameless => exact nomatch named.symm.trans nameless
    | taken named' found =>
      obtain rfl := Option.some.inj (named.symm.trans named')
      exact nomatch absent.symm.trans found
  | stored named' _ simulated out =>
    obtain rfl := Option.some.inj (named.symm.trans named')
    have placed := (tidy.reads.setOwners [d.owner.toJson]).place tidy
    have merged : ∀ version, ({ owners := some (.arr [d.owner.toJson]), version := version } : Carried) =
        { d.sentOver .null with version := version, status := Json.null.get? "status" } := by
      rw [d.sentOver_null]
      exact fun _ => rfl
    rw [out]
    exact ⟨_, _, rfl, reads_simulated tidy placed (merged _) simulated, rfl, rfl, rfl, rfl, rfl,
      s.le_of_simulate simulated⟩

theorem replacement_accepted (tidy : d.Tidy) (kept : Kept old) :
    Replaces (d.replacement old) old ∧ clearsAddress d.api.kind old (d.replacement old) = false := by
  have reads := tidy.replacement old
  constructor
  · refine .inr ?_
    rw [reads.version]
    exact Json.same_refl ((kept.finite.get "metadata").get "resourceVersion")
  · unfold clearsAddress
    by_cases service : d.resource = .service
    · have present := tidy.service service
      simp only [reads.get_spec present, ChildObject.inSpec, if_pos, ChildObject.sentOver, service,
        ChildObject.kept]
      cases null : ((old.get "spec").get "clusterIP").isNull with
      | true => simp
      | false => simp [Json.same_refl ((kept.finite.get "spec").get "clusterIP")]
    · have other : (d.api.kind == "Service") = false := by
        rw [beq_eq_false_iff_ne]
        exact fun same => service (ChildObject.kind_service.mp same)
      simp only [other, Bool.false_and]

theorem replacement_unrefused {e : StoreError} (tidy : d.Tidy) (installed : s.hasType d.api = true)
    (found : Assoc.get? d.key s.objects = some old) (kept : Kept old) :
    ¬ s.ReplaceRefusal d.api d.place d.name (d.replacement old) e := by
  obtain ⟨accepted, addressed⟩ := replacement_accepted tidy kept
  rintro (lacking | absent | ⟨found', other⟩ | ⟨found', _, cleared⟩)
  · exact nomatch installed.symm.trans lacking
  · exact nomatch found.symm.trans absent
  · obtain rfl := Option.some.inj (found.symm.trans found')
    exact other accepted
  · obtain rfl := Option.some.inj (found.symm.trans found')
    exact nomatch addressed.symm.trans cleared

theorem replace_child (tidy : d.Tidy) (installed : s.hasType d.api = true)
    (found : Assoc.get? d.key s.objects = some old) (kept : Kept old) :
    ∃ e text, (s.replace d.api d.place d.name (d.replacement old)).1 = .ok e ∧
      d.Reads (d.storedOver old (.str text) (.str (address (s.addresses + 1))) s.autoReady) e ∧
      Put d.key e s (s.replace d.api d.place d.name (d.replacement old)).2 := by
  have placed := ((tidy.replacement old).place tidy).keepStatus rfl old
  cases s.replace_outcome d.api d.place d.name (d.replacement old) with
  | refused why => exact absurd why (replacement_unrefused tidy installed found kept)
  | changed found' _ _ simulated out =>
    obtain rfl := Option.some.inj (found.symm.trans found')
    rw [out]
    exact ⟨_, _, rfl, reads_simulated tidy placed rfl simulated, rfl, rfl, rfl, rfl, rfl,
      s.le_of_simulate simulated⟩
  | unchanged found' _ _ simulated out =>
    obtain rfl := Option.some.inj (found.symm.trans found')
    obtain ⟨text, version⟩ := kept.version
    rw [version] at simulated
    rw [out]
    exact ⟨_, _, rfl, reads_simulated tidy placed rfl simulated, rfl, rfl, rfl, rfl, rfl,
      s.le_of_simulate simulated⟩

theorem replace_settled (tidy : d.Tidy) (installed : s.hasType d.api = true)
    (found : Assoc.get? d.key s.objects = some e) (kept : Kept e) (reads : d.Reads c e)
    (settled : d.Settled s.autoReady c) :
    s.replace d.api d.place d.name (d.replacement e) =
      (.ok e, s.logged .replace d.api.kind d.place d.name false) := by
  -- What is compared, and then stored, is what is there.
  have sent : keepStatus e (placeIn d.place (d.replacement e)) = e := by
    have placed := ((tidy.replacement e).place tidy).keepStatus rfl e
    rw [settled.sentOver reads tidy] at placed
    exact placed.unique reads
  have stamped : setMetadata "resourceVersion" (resourceVersion e) e = e := by
    have again := reads.setVersion (resourceVersion e)
    obtain ⟨version, versioned⟩ := Option.isSome_iff_exists.mp settled.version
    have same : ({ c with version := some (resourceVersion e) } : Carried) = c := by
      rw [reads.version, versioned, Option.getD_some, ← versioned]
    rw [same] at again
    exact again.unique reads
  have unchanged : (content e).same (content e) = true := by
    refine Json.same_refl (Json.Finite.erase ?_ _)
    unfold Json.modifyPresent
    split
    · rename_i w present
      exact kept.finite.set _ ((kept.finite.get? present).erase _)
    · exact kept.finite
  cases s.replace_outcome d.api d.place d.name (d.replacement e) with
  | refused why => exact absurd why (replacement_unrefused tidy installed found kept)
  | changed found' _ compared =>
    obtain rfl := Option.some.inj (found.symm.trans found')
    rw [sent] at compared
    exact nomatch unchanged.symm.trans compared
  | unchanged found' _ _ simulated out =>
    obtain rfl := Option.some.inj (found.symm.trans found')
    rw [sent, stamped, settled.simulate tidy reads] at simulated
    obtain ⟨rfl, same⟩ := Prod.mk.inj simulated
    obtain rfl : s.addresses = _ := congrArg Cluster.addresses same
    rw [out, putObject, show d.api.objectKey d.place d.name = d.key from rfl, Assoc.set_of_get? found]
    rfl

end Cluster
end SchedulerOperator
