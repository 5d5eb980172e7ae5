import SchedulerOperator.Proofs.Additions
import SchedulerOperator.Proofs.ChildEffects

/-!
Nothing is left to be changed by writing a child again, because what is sent over the stored child
is the stored child itself.
-/
namespace SchedulerOperator

namespace Json
variable {v w : Json} {k : String}

theorem set_of_get? (found : v.get? k = some w) : v.set k w = v := by
  cases v with
  | obj ms => exact congrArg obj (Assoc.set_of_get? found)
  | _ => cases found

end Json

namespace ChildObject
variable {d : ChildObject} {old payload sent e : Json} {k : String}

/-- A child that can be written: an object with metadata that names it, and if it is a Service
with a spec that leaves the address to the server. -/
structure Sendable (d : ChildObject) : Prop where
  finite : d.payload.Finite
  ordered : d.payload.Ordered
  metadata : (d.payload.get "metadata").Ordered
  named : (d.payload.get "metadata").get "name" = .str d.name
  spec : d.resource = .service → (d.payload.get "spec").Ordered ∧
    ∀ field ∈ assignedFields, ((d.payload.get "spec").get field).isNull = true

/-- The owner takes the place of the first reference with its uid, or comes last. -/
inductive Merged (owner : Json) : List Json → List Json → Prop where
  | inPlace {front back : List Json} {r : Json}
      (others : ∀ q ∈ front, (q.get "uid").same (owner.get "uid") = false)
      (ours : (r.get "uid").same (owner.get "uid") = true) :
      Merged owner (front ++ r :: back) (front ++ owner :: back)
  | atEnd {refs : List Json} (others : ∀ q ∈ refs, (q.get "uid").same (owner.get "uid") = false) :
      Merged owner refs (refs ++ [owner])

theorem mergeOwners_merged (owner : Json) (refs : List Json) :
    Merged owner refs (mergeOwners owner refs) := by
  induction refs with
  | nil => exact .atEnd (by simp)
  | cons r rest ih =>
    unfold mergeOwners
    cases ours : (r.get "uid").same (owner.get "uid") with
    | true =>
      rw [if_pos rfl]
      exact @Merged.inPlace owner [] rest r (by simp) ours
    | false =>
      have first : ∀ {q front}, (∀ q ∈ front, (q.get "uid").same (owner.get "uid") = false) →
          q ∈ r :: front → (q.get "uid").same (owner.get "uid") = false := by
        intro q front others mem
        rcases List.mem_cons.mp mem with rfl | later
        · exact ours
        · exact others q later
      simp only [Bool.false_eq_true, if_false]
      generalize mergeOwners owner rest = merged at ih ⊢
      cases ih with
      | @inPlace front back r' others ours' =>
        exact @Merged.inPlace owner (r :: front) back r' (fun q mem => first others mem) ours'
      | atEnd others => exact @Merged.atEnd owner (r :: rest) fun q mem => first others mem

section
variable {owner : Json} {refs new : List Json}

theorem Merged.others (merged : Merged owner refs new)
    (own : (owner.get "uid").same (owner.get "uid") = true) :
    new.filter (fun q => !(q.get "uid").same (owner.get "uid")) =
      refs.filter (fun q => !(q.get "uid").same (owner.get "uid")) := by
  cases merged with
  | inPlace others ours => simp [List.filter_append, own, ours]
  | atEnd others => simp [List.filter_append, own]

theorem Merged.counted (merged : Merged owner refs new)
    (own : (owner.get "uid").same (owner.get "uid") = true) :
    new.countP (fun q => (q.get "uid").same (owner.get "uid")) =
      max 1 (refs.countP (fun q => (q.get "uid").same (owner.get "uid"))) := by
  cases merged with
  | inPlace others ours =>
    simp only [List.countP_append, List.countP_cons, own, ours, if_true]
    omega
  | atEnd others =>
    have none : refs.countP (fun q => (q.get "uid").same (owner.get "uid")) = 0 := by
      rw [List.countP_eq_zero]
      intro q mem
      rw [others q mem]
      exact Bool.false_ne_true
    rw [List.countP_append, none]
    simp [own]

end

theorem keepAssigned_ordered (fields : List String) (ordered : payload.Ordered)
    (spec : (payload.get "spec").Ordered) :
    (keepAssigned old payload fields).Ordered ∧
      ((keepAssigned old payload fields).get "spec").Ordered := by
  induction fields generalizing payload with
  | nil => exact ⟨ordered, spec⟩
  | cons field rest ih =>
    rw [keepAssigned]
    split
    · refine ih (ordered.modify _ _) ?_
      rw [Json.get_modify_self]
      exact spec.set _ _
    · exact ih ordered spec

theorem keepAssigned_spec (fields : List String) (distinct : fields.Nodup)
    (free : ∀ field ∈ fields, ((payload.get "spec").get field).isNull = true) :
    ((keepAssigned old payload fields).get "spec").get? k =
      if k ∈ fields then (kept old k).or ((payload.get "spec").get? k)
      else (payload.get "spec").get? k := by
  induction fields generalizing payload with
  | nil => rfl
  | cons field rest ih =>
    obtain ⟨fresh, distinct⟩ := List.nodup_cons.mp distinct
    rw [keepAssigned, free field List.mem_cons_self, Bool.and_true]
    cases null : ((old.get "spec").get field).isNull with
    | true =>
      have nothing : kept old field = none := by
        unfold kept
        exact if_pos null
      rw [Bool.not_true, if_neg Bool.false_ne_true,
        ih distinct fun f mem => free f (List.mem_cons_of_mem _ mem)]
      by_cases here : k = field
      · subst here
        rw [if_neg fresh, if_pos List.mem_cons_self, nothing, Option.none_or]
      · simp only [List.mem_cons, here, false_or]
    | false =>
      have current : kept old field = some ((old.get "spec").get field) := by
        unfold kept
        exact if_neg (by rw [null]; exact Bool.false_ne_true)
      rw [Bool.not_false, if_pos rfl, ih distinct]
      · rw [Json.get_modify_self, Json.get?_set]
        by_cases here : k = field
        · subst here
          rw [if_neg fresh, if_pos List.mem_cons_self, if_pos rfl, current, Option.some_or]
        · simp only [List.mem_cons, here, false_or, if_false]
      · intro f mem
        have other : f ≠ field := by
          rintro rfl
          exact fresh mem
        rw [Json.get_modify_self, Json.get_set_other _ _ other]
        exact free f (List.mem_cons_of_mem _ mem)

structure Sent (d : ChildObject) (old sent : Json) : Prop where
  ordered : sent.Ordered
  metadataOrdered : (sent.get "metadata").Ordered
  other : ∀ k, k ≠ "metadata" → k ≠ "spec" → sent.get? k = d.payload.get? k
  metadata : ∀ k, k ≠ "resourceVersion" → k ≠ "ownerReferences" →
    (sent.get "metadata").get? k = (d.payload.get "metadata").get? k
  owners : (sent.get "metadata").get? "ownerReferences" = some (.arr (d.ownersOver old))
  plain : d.resource ≠ .service → sent.get? "spec" = d.payload.get? "spec"
  service : d.resource = .service → (sent.get "spec").Ordered ∧
    ∀ k, (sent.get "spec").get? k =
      if k ∈ assignedFields then (kept old k).or ((d.payload.get "spec").get? k)
      else (d.payload.get "spec").get? k

theorem withOwners_other {owners : List Json} (other : k ≠ "metadata") :
    (withOwners owners payload).get? k = payload.get? k := Json.get?_set_other _ _ other

theorem withOwners_metadata {owners : List Json} :
    (withOwners owners payload).get "metadata" =
      (payload.get "metadata").set "ownerReferences" (.arr owners) := Json.get_modify_self _ _ _

theorem Sendable.first (sendable : d.Sendable) :
    d.Sent .null (withOwners [d.owner.toJson] d.payload) := by
  have spec : (withOwners [d.owner.toJson] d.payload).get? "spec" = d.payload.get? "spec" :=
    withOwners_other (by decide)
  refine ⟨sendable.ordered.modify _ _, ?_, fun k other _ => withOwners_other other, ?_, ?_,
    fun _ => spec, fun service => ?_⟩
  · rw [withOwners_metadata]
    exact sendable.metadata.set _ _
  · intro k _ other
    rw [withOwners_metadata, Json.get?_set_other _ _ other]
  · rw [withOwners_metadata, Json.get?_set_self]
    rfl
  · have whole : (withOwners [d.owner.toJson] d.payload).get "spec" = d.payload.get "spec" := by
      rw [Json.get, spec, Json.get]
    rw [whole]
    refine ⟨(sendable.spec service).1, fun k => ?_⟩
    have nothing : kept .null k = none := rfl
    rw [nothing, Option.none_or, ite_self]

theorem Sendable.over (sendable : d.Sendable) (old : Json) : d.Sent old (d.replacement old) := by
  let base := withOwners (d.ownersOver old)
    (Cluster.setMetadata "resourceVersion" (Cluster.resourceVersion old) d.payload)
  have other : ∀ {k}, k ≠ "metadata" → base.get? k = d.payload.get? k := by
    intro k other
    rw [withOwners_other other]
    exact Json.get?_set_other _ _ other
  have spec : base.get "spec" = d.payload.get "spec" := by
    rw [Json.get, other (by decide), Json.get]
  have metadata : base.get "metadata" = ((d.payload.get "metadata").set "resourceVersion"
      (Cluster.resourceVersion old)).set "ownerReferences" (.arr (d.ownersOver old)) := by
    rw [withOwners_metadata, Cluster.setMetadata, Json.get_modify_self]
  have ordered : base.Ordered := (sendable.ordered.modify _ _).modify _ _
  have whole : d.replacement old =
      if d.resource = .service then keepAssigned old base assignedFields else base := rfl
  have kept : (d.replacement old).get "metadata" = base.get "metadata" := metadata_replacement old
  refine ⟨?_, ?_, ?_, ?_, ?_, ?_, ?_⟩
  · rw [whole]
    split
    · rename_i service
      exact (keepAssigned_ordered _ ordered (spec ▸ (sendable.spec service).1)).1
    · exact ordered
  · rw [kept, metadata]
    exact (sendable.metadata.set _ _).set _ _
  · intro k metadata spec
    rw [whole]
    split
    · rw [keepAssigned_other spec, other metadata]
    · exact other metadata
  · intro k version owners
    rw [kept, metadata, Json.get?_set_other _ _ owners, Json.get?_set_other _ _ version]
  · rw [kept, metadata, Json.get?_set_self]
  · intro plain
    rw [whole, if_neg plain]
    exact other (by decide)
  · intro service
    obtain ⟨sorted, free⟩ := sendable.spec service
    rw [whole, if_pos service]
    refine ⟨(keepAssigned_ordered _ ordered (spec ▸ sorted)).2, fun k => ?_⟩
    rw [keepAssigned_spec assignedFields (by decide) (spec ▸ free), spec]

/-- How a child reads that was written over `old`, which is `null` where nothing was stored. -/
structure Written (d : ChildObject) (autoReady : Bool) (old e : Json) : Prop where
  ordered : e.Ordered
  metadataOrdered : (e.get "metadata").Ordered
  /-- The object is the payload, but for its status, metadata and a Service's spec. -/
  other : ∀ k, k ≠ "metadata" → k ≠ "spec" → k ≠ "status" → e.get? k = d.payload.get? k
  plain : d.resource ≠ .service → e.get? "spec" = d.payload.get? "spec"
  metadata : ∀ k, k ≠ "namespace" → k ≠ "resourceVersion" → k ≠ "ownerReferences" →
    (e.get "metadata").get? k = (d.payload.get "metadata").get? k
  placed : (e.get "metadata").get? "namespace" =
    (d.place.map Json.str).or ((d.payload.get "metadata").get? "namespace")
  owners : (e.get "metadata").get? "ownerReferences" = some (.arr (d.ownersOver old))
  /-- The spec of a Service is the payload's, but for the address. -/
  service : d.resource = .service → e.get? "spec" = some (e.get "spec") ∧ (e.get "spec").Ordered ∧
    ∀ k, k ∉ assignedFields → (e.get "spec").get? k = (d.payload.get "spec").get? k
  addressed : d.resource = .service → ((e.get "spec").get "clusterIP").isNull = false
  /-- What a Service had of an address stays. -/
  keeps : d.resource = .service → ((old.get "spec").get "clusterIP").isNull = false →
    ∀ field ∈ assignedFields, ((old.get "spec").get field).isNull = false →
      (e.get "spec").get field = (old.get "spec").get field
  /-- What it lacks of one is as the payload has it. -/
  lacks : d.resource = .service → ∀ field ∈ assignedFields, ((e.get "spec").get field).isNull = true →
    (e.get "spec").get? field = (d.payload.get "spec").get? field
  status : e.get? "status" =
    if d.resource = .deployment ∧ autoReady then
      some (readyStatus (Cluster.requestedReplicas d.payload))
    else (old.get? "status").or (d.payload.get? "status")

theorem kept_of_some {field : String} (there : ((old.get "spec").get field).isNull = false) :
    kept old field = some ((old.get "spec").get field) :=
  if_neg (by rw [there]; exact Bool.false_ne_true)

theorem Sent.spec_cases (sent_ : d.Sent old sent) (service : d.resource = .service) (s : Cluster)
    (version : Json) :
    (∃ ip, (s.furnished d.api d.place old sent version).get? "spec" =
        some (((sent.get "spec").set "clusterIP" (.str ip)).set "clusterIPs" (.arr [.str ip])) ∧
      ((old.get "spec").get "clusterIP").isNull = true) ∨
    ((s.furnished d.api d.place old sent version).get? "spec" = some (sent.get "spec") ∧
      ((sent.get "spec").get "clusterIP").isNull = false) := by
  obtain ⟨ordered, entries⟩ := sent_.service service
  have kind : d.api.kind = "Service" := kind_service.mpr service
  cases null : ((sent.get "spec").get "clusterIP").isNull with
  | true =>
    refine .inl ⟨_, Cluster.furnished_bare ⟨kind, null⟩, ?_⟩
    by_contra there
    rw [Bool.not_eq_true] at there
    have taken := entries "clusterIP"
    rw [if_pos (by decide), kept_of_some there, Option.some_or] at taken
    rw [Json.get_of_get? taken, there] at null
    cases null
  | false =>
    refine .inr ⟨?_, rfl⟩
    have addressed : ¬ Cluster.Addressless d.api.kind sent :=
      fun bare => Bool.false_ne_true (null.symm.trans bare.2)
    rw [Cluster.furnished_spec addressed, get?_of_ordered ordered]

section
variable (sent_ : d.Sent old sent) (service : d.resource = .service) (s : Cluster) (version : Json)
include sent_ service

theorem Sent.service_spec :
    let e := s.furnished d.api d.place old sent version
    e.get? "spec" = some (e.get "spec") ∧ (e.get "spec").Ordered ∧
      ∀ k, k ∉ assignedFields → (e.get "spec").get? k = (d.payload.get "spec").get? k := by
  intro e
  obtain ⟨ordered, entries⟩ := sent_.service service
  rcases sent_.spec_cases service s version with ⟨ip, spec, _⟩ | ⟨spec, _⟩
  · rw [Json.get_of_get? spec]
    refine ⟨spec, (ordered.set _ _).set _ _, fun k other => ?_⟩
    have address : k ≠ "clusterIP" := by
      rintro rfl
      exact other (by decide)
    have addresses : k ≠ "clusterIPs" := by
      rintro rfl
      exact other (by decide)
    rw [Json.get?_set_other _ _ addresses, Json.get?_set_other _ _ address, entries, if_neg other]
  · rw [Json.get_of_get? spec]
    refine ⟨spec, ordered, fun k other => ?_⟩
    rw [entries, if_neg other]

theorem Sent.addressed :
    (((s.furnished d.api d.place old sent version).get "spec").get "clusterIP").isNull = false := by
  rcases sent_.spec_cases service s version with ⟨ip, spec, _⟩ | ⟨spec, there⟩
  · rw [Json.get_of_get? spec, Json.get_set_other _ _ (by decide), Json.get_set_self]
    rfl
  · rw [Json.get_of_get? spec]
    exact there

theorem Sent.keeps (had : ((old.get "spec").get "clusterIP").isNull = false) {field : String}
    (mem : field ∈ assignedFields) (there : ((old.get "spec").get field).isNull = false) :
    ((s.furnished d.api d.place old sent version).get "spec").get field =
      (old.get "spec").get field := by
  rcases sent_.spec_cases service s version with ⟨ip, spec, lacked⟩ | ⟨spec, _⟩
  · cases had.symm.trans lacked
  · have entry := (sent_.service service).2 field
    rw [if_pos mem, kept_of_some there, Option.some_or] at entry
    rw [Json.get_of_get? spec, Json.get_of_get? entry]

theorem Sent.lacks {field : String} (mem : field ∈ assignedFields)
    (null : (((s.furnished d.api d.place old sent version).get "spec").get field).isNull = true) :
    ((s.furnished d.api d.place old sent version).get "spec").get? field =
      (d.payload.get "spec").get? field := by
  rcases sent_.spec_cases service s version with ⟨ip, spec, _⟩ | ⟨spec, _⟩
  · -- The server has set both fields, so neither is missing.
    have assigned : field = "clusterIP" ∨ field = "clusterIPs" := by
      simpa [assignedFields] using mem
    rw [Json.get_of_get? spec] at null
    rcases assigned with rfl | rfl
    · rw [Json.get_set_other _ _ (by decide), Json.get_set_self] at null
      cases null
    · rw [Json.get_set_self] at null
      cases null
  · rw [Json.get_of_get? spec] at null ⊢
    have entry := (sent_.service service).2 field
    rw [if_pos mem] at entry
    cases there : kept old field with
    | none => rw [entry, there, Option.none_or]
    | some v =>
      rw [there, Option.some_or] at entry
      rw [Json.get_of_get? entry, kept_not_null there] at null
      cases null

end

theorem Sent.written (sent_ : d.Sent old sent) (s : Cluster) (version : Json) :
    d.Written s.autoReady old (s.furnished d.api d.place old sent version) := by
  have metadata : ∀ k, ((s.furnished d.api d.place old sent version).get "metadata").get? k =
      if k = "resourceVersion" then some version
      else if k = "namespace" then (d.place.map Json.str).or ((sent.get "metadata").get? k)
      else (sent.get "metadata").get? k := by
    intro k
    rw [Cluster.furnished_metadata, Json.get?_set, Cluster.placeIn_metadata]
  refine {
    ordered := Cluster.furnished_ordered sent_.ordered
    metadataOrdered := Cluster.furnished_metadata_ordered sent_.metadataOrdered
    other := ?_, plain := ?_, metadata := ?_, placed := ?_, owners := ?_
    service := fun service => sent_.service_spec service s version
    addressed := fun service => sent_.addressed service s version
    keeps := fun service had _ mem there => sent_.keeps service s version had mem there
    lacks := fun service _ mem null => sent_.lacks service s version mem null
    status := ?_ }
  · intro k metadata spec status
    rw [Cluster.furnished_other metadata spec status, sent_.other k metadata spec]
  · intro plain
    have addressed : ¬ Cluster.Addressless d.api.kind sent :=
      fun bare => plain (kind_service.mp bare.1)
    rw [Cluster.furnished_spec addressed, sent_.plain plain]
  · intro k namespace_ version owners
    rw [metadata, if_neg version, if_neg namespace_, sent_.metadata k version owners]
  · rw [metadata, if_neg (by decide), if_pos rfl, sent_.metadata _ (by decide) (by decide)]
  · rw [metadata, if_neg (by decide), if_neg (by decide), sent_.owners]
  · rw [Cluster.furnished_status, sent_.other "status" (by decide) (by decide)]
    by_cases ready : d.resource = .deployment ∧ s.autoReady = true
    · have plain : d.resource ≠ .service := by
        rw [ready.1]
        decide
      rw [if_pos ready, if_pos ⟨kind_deployment.mpr ready.1, ready.2⟩,
        Cluster.requestedReplicas_congr (sent_.plain plain)]
    · rw [if_neg ready, if_neg fun both => ready ⟨kind_deployment.mp both.1, both.2⟩]

section
variable {autoReady : Bool}

theorem Written.ownersOver (written : d.Written autoReady old e) :
    d.ownersOver e = d.ownersOver old := by
  rw [ChildObject.ownersOver, Json.get_of_get? written.owners]
  exact d.ownersOver_again old

theorem Written.metadata_again (written : d.Written autoReady old e) (sendable : d.Sendable)
    (version : (Cluster.resourceVersion e).isNull = false) :
    (Cluster.placeIn d.place (d.replacement e)).get "metadata" = e.get "metadata" := by
  have again := sendable.over e
  refine (Cluster.placeIn_metadata_ordered again.metadataOrdered).ext written.metadataOrdered ?_
  intro k
  rw [Cluster.placeIn_metadata]
  by_cases namespace_ : k = "namespace"
  · subst namespace_
    rw [if_pos rfl, again.metadata _ (by decide) (by decide), written.placed]
  · rw [if_neg namespace_]
    by_cases stamped : k = "resourceVersion"
    · subst stamped
      have same : ((d.replacement e).get "metadata").get "resourceVersion" =
          (e.get "metadata").get "resourceVersion" := replacement_version e
      rw [Json.get?_of_get version, Json.get?_of_get (by rw [same]; exact version), same]
    · by_cases owned : k = "ownerReferences"
      · subst owned
        rw [again.owners, written.owners, written.ownersOver]
      · rw [again.metadata k stamped owned, written.metadata k namespace_ stamped owned]

theorem Written.spec_again (written : d.Written autoReady old e) (sendable : d.Sendable) :
    (d.replacement e).get? "spec" = e.get? "spec" := by
  have again := sendable.over e
  by_cases service : d.resource = .service
  · obtain ⟨ordered, entries⟩ := again.service service
    obtain ⟨present, ordered', entries'⟩ := written.service service
    rw [get?_of_ordered ordered, present]
    refine congrArg some (ordered.ext ordered' fun k => ?_)
    rw [entries]
    by_cases field : k ∈ assignedFields
    · rw [if_pos field]
      cases null : ((e.get "spec").get k).isNull with
      | true =>
        have nothing : kept e k = none := if_pos null
        rw [nothing, Option.none_or, written.lacks service k field null]
      | false => rw [kept_of_some null, Option.some_or, Json.get?_of_get null]
    · rw [if_neg field, entries' k field]
  · rw [again.plain service, written.plain service]

theorem Written.unreported (written : d.Written autoReady old e) (missing : e.get? "status" = none) :
    d.payload.get? "status" = none := by
  have reported := written.status
  rw [missing] at reported
  split at reported
  · cases reported
  · exact (Option.or_eq_none_iff.mp reported.symm).2

/-- What is sent over a child that was written is, in its place, the child. -/
theorem Written.sent_again (written : d.Written autoReady old e) (sendable : d.Sendable)
    (version : (Cluster.resourceVersion e).isNull = false) :
    Cluster.keepStatus e (Cluster.placeIn d.place (d.replacement e)) = e := by
  have again := sendable.over e
  have metadata : (Cluster.keepStatus e (Cluster.placeIn d.place (d.replacement e))).get "metadata" =
      e.get "metadata" := by
    rw [Cluster.metadata_keepStatus, written.metadata_again sendable version]
  refine (Cluster.keepStatus_ordered (Cluster.placeIn_ordered again.ordered)).ext written.ordered ?_
  intro k
  by_cases inMetadata : k = "metadata"
  · subst inMetadata
    rw [get?_of_ordered written.metadataOrdered, ← metadata]
    exact get?_of_ordered (metadata ▸ written.metadataOrdered)
  · rw [Cluster.get?_keepStatus, Cluster.placeIn_other inMetadata]
    by_cases status : k = "status"
    · subst status
      rw [if_pos rfl, again.other _ (by decide) (by decide)]
      cases missing : e.get? "status" with
      | none => rw [Option.none_or, written.unreported missing]
      | some v => rfl
    · rw [if_neg status]
      by_cases inSpec : k = "spec"
      · subst inSpec
        exact written.spec_again sendable
      · rw [again.other k inMetadata inSpec, written.other k inMetadata inSpec status]

theorem Written.simulate_again (written : d.Written autoReady old e) (s : Cluster)
    (ready : s.autoReady = autoReady) : (s.simulate d.api.kind e).1 = e := by
  have addressed : ¬ Cluster.Addressless d.api.kind e := by
    intro bare
    have there := written.addressed (kind_service.mp bare.1)
    exact Bool.false_ne_true (there.symm.trans bare.2)
  have reported : Cluster.reportReady d.api.kind s.autoReady e = e := by
    unfold Cluster.reportReady
    split
    · rename_i auto
      have deployment := kind_deployment.mp auto.1
      have plain : d.resource ≠ .service := by
        rw [deployment]
        decide
      refine Json.set_of_get? ?_
      rw [written.status, if_pos ⟨deployment, ready ▸ auto.2⟩,
        Cluster.requestedReplicas_congr (written.plain plain)]
      rfl
    · rfl
  unfold Cluster.simulate
  rw [Cluster.assignAddress_addressed addressed]
  exact reported

theorem restamped (version : (Cluster.resourceVersion e).isNull = false)
    (metadata : (e.get "metadata").Ordered) :
    Cluster.setMetadata "resourceVersion" (Cluster.resourceVersion e) e = e := by
  have stamped : (e.get "metadata").set "resourceVersion" (Cluster.resourceVersion e) =
      e.get "metadata" := Json.set_of_get? (Json.get?_of_get version)
  change e.set "metadata" ((e.get "metadata").set "resourceVersion" (Cluster.resourceVersion e)) = e
  rw [stamped]
  exact Json.set_of_get? (get?_of_ordered metadata)

end

theorem finite_first (sendable : d.Sendable) :
    (withOwners [d.owner.toJson] d.payload).Finite :=
  finite_withOwners (d.finite_owners (show Json.null.Finite from trivial)) sendable.finite

theorem finite_over (sendable : d.Sendable) (finite : old.Finite) : (d.replacement old).Finite := by
  have base : (withOwners (d.ownersOver old)
      (Cluster.setMetadata "resourceVersion" (Cluster.resourceVersion old) d.payload)).Finite :=
    finite_withOwners (d.finite_owners finite)
      (Cluster.finite_setMetadata _ sendable.finite ((finite.get _).get _))
  unfold replacement
  simp only
  split
  · exact finite_keepAssigned finite _ base
  · exact base

end ChildObject

theorem Attempt.run_request_ok {σ α : Type} {store : Store σ} {c : StoreCall} {x y : σ} {a b : α}
    (done : (request c >>= fun _ => pure a).run.run store x = (.ok b, y)) :
    b = a ∧ ∃ e, store.answer c x = (.ok e, y) := by
  rcases answered : store.answer c x with ⟨reply, z⟩
  cases reply with
  | error why =>
    rw [run_bind_error answered] at done
    cases done
  | ok e =>
    rw [run_bind_ok answered] at done
    cases done
    exact ⟨rfl, e, rfl⟩

namespace Cluster
open ChildObject
variable {s t : Cluster} {d : ChildObject} {now : String} {w : ChildWrite}

theorem write_done (done : (d.write .builtin).run.run (asStore now) s = (.ok w, t)) :
    (s.object? d.api d.place d.name = none ∧ w = .created ∧
      ∃ e, s.answer (.create d.api d.place (withOwners [d.owner.toJson] d.payload)) = (.ok e, t)) ∨
    ∃ old, s.object? d.api d.place d.name = some old ∧ w = .replaced ∧
      ∃ e, s.answer (.replace d.api d.place d.name (d.replacement old)) = (.ok e, t) := by
  rcases answer_cases (s := s) (.get d.api d.place d.name) with ⟨why, failed⟩ | performed
  · have looked : (asStore now).answer (.get d.api d.place d.name) s = (.error why, s) := failed
    have run : (d.write .builtin).run.run (asStore now) s = (.error why, s) :=
      Attempt.run_bind_error looked
    rw [run] at done
    cases done
  · cases seen : s.object? d.api d.place d.name with
    | none =>
      have looked : (asStore now).answer (.get d.api d.place d.name) s = (.ok none, s) := by
        rw [← seen]
        exact performed
      have run := (Attempt.run_bind_ok looked).symm.trans done
      obtain ⟨rfl, e, made⟩ := Attempt.run_request_ok run
      exact .inl ⟨rfl, rfl, e, made⟩
    | some old =>
      have looked : (asStore now).answer (.get d.api d.place d.name) s = (.ok (some old), s) := by
        rw [← seen]
        exact performed
      have run := (Attempt.run_bind_ok looked).symm.trans done
      obtain ⟨rfl, e, made⟩ := Attempt.run_request_ok run
      exact .inr ⟨old, rfl, rfl, e, made⟩

theorem finite_content {v : Json} (finite : v.Finite) : (content v).Finite := by
  refine Json.Finite.erase ?_ _
  unfold Json.modifyPresent
  split
  · rename_i metadata there
    exact finite.set _ ((finite.get? there).erase _)
  · exact finite

theorem write_stores_written (sendable : d.Sendable) (reached : s.Reachable)
    (done : (d.write .builtin).run.run (asStore now) s = (.ok w, t)) :
    ∃ e, t.object? d.api d.place d.name = some e ∧ t.Reachable ∧
      d.Written t.autoReady ((s.object? d.api d.place d.name).getD .null) e := by
  rcases write_done done with ⟨absent, -, e, made⟩ | ⟨old, found, -, e, made⟩
  · have performed := (answer_ok (congrArg Prod.fst made)).symm.trans made
    obtain ⟨name, created⟩ := create_done performed
    have first := sendable.first
    have named : name = d.name := by
      have given := created.named
      rw [Json.get, first.metadata "name" (by decide) (by decide), ← Json.get, sendable.named] at given
      exact (Option.some.inj given).symm
    subst named
    refine ⟨e, ?_, ?_, ?_⟩
    · rw [object?, created.objects, Assoc.get?_set_self]
    · have after := reached.next (.call (.create d.api d.place (withOwners [d.owner.toJson] d.payload)))
        (finite_first sendable)
      rw [Operation.apply, made] at after
      exact after
    · rw [absent, created.autoReady, created.stored]
      exact first.written s _
  · have performed := (answer_ok (congrArg Prod.fst made)).symm.trans made
    obtain ⟨old', changed, replaced⟩ := replace_done performed
    obtain rfl := Option.some.inj (found.symm.trans replaced.found)
    have kept := reached.sound.object found
    refine ⟨e, ?_, ?_, ?_⟩
    · rw [object?, replaced.objects, Assoc.get?_set_self]
    · have after := reached.next (.call (.replace d.api d.place d.name (d.replacement old)))
        (finite_over sendable kept.finite)
      rw [Operation.apply, made] at after
      exact after
    · rw [found, replaced.autoReady, replaced.stored]
      exact (sendable.over old).written s _

theorem write_written {old e : Json} (sendable : d.Sendable) (reached : s.Reachable)
    (found : s.object? d.api d.place d.name = some e) (written : d.Written s.autoReady old e)
    (done : (d.write .builtin).run.run (asStore now) s = (.ok w, t)) :
    w = .replaced ∧ t.objects = s.objects ∧
      t.writes = ⟨.replace, d.api.kind, d.place, d.name, false⟩ :: s.writes := by
  rcases write_done done with ⟨absent, _⟩ | ⟨e', found', rfl, e'', made⟩
  · cases found.symm.trans absent
  · obtain rfl := Option.some.inj (found.symm.trans found')
    have performed := (answer_ok (congrArg Prod.fst made)).symm.trans made
    obtain ⟨old', changed, replaced⟩ := replace_done performed
    obtain rfl := Option.some.inj (found.symm.trans replaced.found)
    have kept := reached.sound.object found
    obtain ⟨text, stamp⟩ := kept.version
    have version : (resourceVersion e).isNull = false := by
      rw [stamp]
      rfl
    have sent := written.sent_again sendable version
    have unchanged : changed = false := by
      have compared := replaced.compared
      rw [sent, Json.same_refl (finite_content kept.finite)] at compared
      cases changed with
      | false => rfl
      | true => cases compared
    subst unchanged
    have stored : e'' = e := by
      rw [replaced.stored, furnished, sent, if_neg Bool.false_ne_true,
        restamped version written.metadataOrdered]
      exact written.simulate_again s rfl
    refine ⟨rfl, ?_, replaced.writes⟩
    rw [replaced.objects, stored]
    exact Assoc.set_of_get? found

def ownersOf (v : Json) : List Json := ((v.get "metadata").get "ownerReferences").arr?.getD []

/-- A child that could be written is stored as its payload says, except for its namespace,
version and status, its owners and the address of a Service. Its owner is merged into the
references that were there, none of which is lost or moved. To write it at once again replaces it
by itself, if that succeeds. -/
theorem written_child_stays (sendable : d.Sendable) (reached : s.Reachable)
    (done : (d.write .builtin).run.run (asStore now) s = (.ok w, t)) :
    let old := (s.object? d.api d.place d.name).getD .null
    let ours := fun r : Json => (r.get "uid").same (d.owner.toJson.get "uid")
    ∃ e, t.object? d.api d.place d.name = some e ∧ d.Written t.autoReady old e ∧
      Merged d.owner.toJson (ownersOf old) (ownersOf e) ∧
      (ownersOf e).filter (fun r => !ours r) = (ownersOf old).filter (fun r => !ours r) ∧
      (ownersOf e).countP ours = max 1 ((ownersOf old).countP ours) ∧
      ∀ now w' t', (d.write .builtin).run.run (asStore now) t = (.ok w', t') →
        w' = .replaced ∧ t'.objects = t.objects ∧
          t'.writes = ⟨.replace, d.api.kind, d.place, d.name, false⟩ :: t.writes := by
  intro old ours
  obtain ⟨e, found, reached', written⟩ := write_stores_written sendable reached done
  have own : (d.owner.toJson.get "uid").same (d.owner.toJson.get "uid") = true := by
    rw [owner_uid]
    exact Json.same_refl (Json.finite_str _)
  have merged : Merged d.owner.toJson (ownersOf old) (ownersOf e) := by
    have stored : ownersOf e = d.ownersOver old := by
      rw [ownersOf, Json.get_of_get? written.owners]
      rfl
    rw [stored]
    exact mergeOwners_merged _ _
  refine ⟨e, found, written, merged, merged.others own, merged.counted own, ?_⟩
  intro now w' t' again
  exact write_written sendable reached' found written again

def demoService : ChildObject where
  resource := .service
  name := "svc"
  namespace_ := "ns"
  owner := {
    apiVersion := "v1", blockOwnerDeletion := none, controller := none, kind := "Owner"
    name := "demo", uid := "u1" }
  payload := .obj [("metadata", .obj [("name", .str "svc")]), ("spec", .obj [("type", .str "ClusterIP")])]

theorem demoService_sendable : demoService.Sendable where
  finite := ⟨⟨trivial, trivial⟩, ⟨trivial, trivial⟩, trivial⟩
  ordered := Payload.ordered_obj ["metadata", "spec"] rfl (by decide)
  metadata := Payload.ordered_obj ["name"] rfl (by decide)
  named := rfl
  spec _ := by
    refine ⟨Payload.ordered_obj ["type"] rfl (by decide), ?_⟩
    decide

def foreignService : List Operation :=
  [.install ResourceType.service.builtinApi,
    .insertObject ResourceType.service.builtinApi (some "ns")
      (.obj [("metadata", .obj [("name", .str "svc"),
          ("ownerReferences", .arr [.obj [("uid", .str "other")]])]),
        ("spec", .obj [("clusterIP", .str "10.0.0.9")])])]

theorem foreignService_reachable : (Operation.applyAll foreignService {}).Reachable := by
  refine Reachable.empty.foldl _ fun o mem => ?_
  simp only [foreignService, List.mem_cons, List.not_mem_nil, or_false] at mem
  rcases mem with rfl | rfl
  · trivial
  · exact ⟨⟨trivial, ⟨⟨trivial, trivial⟩, trivial⟩, trivial⟩, ⟨trivial, trivial⟩, trivial⟩

def writeService (s : Cluster) : Except StoreError ChildWrite × Cluster :=
  (demoService.write .builtin).run.run (asStore "") s

theorem foreign_service_is_taken_over :
    let t := (writeService (Operation.applyAll foreignService {})).2
    ∃ e, t.object? demoService.api demoService.place demoService.name = some e ∧
      (e.get "spec").get "clusterIP" = .str "10.0.0.9" ∧
      ownersOf e = [.obj [("uid", .str "other")], demoService.owner.toJson] ∧
      (writeService t).1 = .ok .replaced ∧ (writeService t).2.objects = t.objects := by
  intro t
  have done : (writeService (Operation.applyAll foreignService {})).1 = .ok .replaced := by
    decide +kernel
  have again : (writeService t).1 = .ok .replaced := by decide +kernel
  obtain ⟨e, found, written, _, _, _, stays⟩ := written_child_stays demoService_sendable
    foreignService_reachable (Prod.ext done rfl)
  have address := written.keeps rfl rfl "clusterIP" (by decide) rfl
  have owners : ownersOf e = [.obj [("uid", .str "other")], demoService.owner.toJson] := by
    rw [ownersOf, Json.get_of_get? written.owners]
    rfl
  exact ⟨e, found, address, owners, again, (stays "" _ _ (Prod.ext again rfl)).2.1⟩

end Cluster
end SchedulerOperator
