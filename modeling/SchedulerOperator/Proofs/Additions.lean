import SchedulerOperator.Proofs.StaleWrites

namespace SchedulerOperator

namespace Json
variable {v w : Json} {k : String}

theorem get_of_get? (found : v.get? k = some w) : v.get k = w := by
  rw [get, found]
  rfl

theorem get?_of_get (there : (v.get k).isNull = false) : v.get? k = some (v.get k) := by
  unfold get at there ⊢
  cases found : v.get? k with
  | none =>
    rw [found] at there
    cases there
  | some w => rfl

end Json

namespace Cluster
open ChildObject
variable {s t : Cluster} {api : ApiResource} {ns : Option String} {name kind k : String}
  {old object version v e : Json}

/-- What is stored when an object is sent, where `old` was there before. -/
def furnished (s : Cluster) (api : ApiResource) (ns : Option String) (old object version : Json) :
    Json :=
  (s.simulate api.kind (setMetadata "resourceVersion" version (keepStatus old (placeIn ns object)))).1

def Addressless (kind : String) (v : Json) : Prop :=
  kind = "Service" ∧ ((v.get "spec").get "clusterIP").isNull = true

theorem placeIn_other (other : k ≠ "metadata") : (placeIn ns object).get? k = object.get? k := by
  cases ns with
  | none => rfl
  | some ns => exact Json.get?_set_other _ _ other

theorem placeIn_metadata : ((placeIn ns object).get "metadata").get? k =
    if k = "namespace" then (ns.map Json.str).or ((object.get "metadata").get? k)
    else (object.get "metadata").get? k := by
  cases ns with
  | none => simp [placeIn]
  | some ns =>
    simp only [placeIn, setMetadata, Json.get_modify_self, Json.get?_set]
    split <;> simp

theorem get?_keepStatus : (keepStatus old v).get? k =
    if k = "status" then (old.get? k).or (v.get? k) else v.get? k := by
  unfold keepStatus
  by_cases here : k = "status"
  · subst here
    cases old.get? "status" <;> simp [Json.get?_set_self]
  · cases old.get? "status" <;> simp [here, Json.get?_set_other]

theorem metadata_keepStatus : (keepStatus old v).get "metadata" = v.get "metadata" := by
  rw [Json.get, get?_keepStatus, if_neg (by decide), Json.get]

theorem assignAddress_other (other : k ≠ "spec") :
    (s.assignAddress kind v).1.get? k = v.get? k := by
  unfold assignAddress
  split
  · exact Json.get?_set_other _ _ other
  · rfl

theorem assignAddress_bare (bare : Addressless kind v) : (s.assignAddress kind v).1.get? "spec" =
    some (((v.get "spec").set "clusterIP" (.str (address (s.addresses + 1)))).set "clusterIPs"
      (.arr [.str (address (s.addresses + 1))])) := by
  unfold assignAddress
  split
  · exact Json.get?_set_self _ _ _
  · exact absurd bare ‹_›

theorem assignAddress_addressed (addressed : ¬ Addressless kind v) :
    s.assignAddress kind v = (v, s) := by
  unfold assignAddress
  exact if_neg addressed

theorem assignAddress_autoReady : (s.assignAddress kind v).2.autoReady = s.autoReady := by
  unfold assignAddress
  split <;> rfl

theorem reportReady_other {autoReady : Bool} (other : k ≠ "status") :
    (reportReady kind autoReady v).get? k = v.get? k := by
  unfold reportReady
  split
  · exact Json.get?_set_other _ _ other
  · rfl

theorem reportReady_status {autoReady : Bool} : (reportReady kind autoReady v).get? "status" =
    if kind = "Deployment" ∧ autoReady then some (readyStatus (requestedReplicas v))
    else v.get? "status" := by
  unfold reportReady
  split
  · exact Json.get?_set_self _ _ _
  · rfl

theorem requestedReplicas_congr {w : Json} (spec : v.get? "spec" = w.get? "spec") :
    requestedReplicas v = requestedReplicas w := by
  unfold requestedReplicas Json.get
  rw [spec]

theorem stamped_other (other : k ≠ "metadata") (status : k ≠ "status") :
    (setMetadata "resourceVersion" version (keepStatus old (placeIn ns object))).get? k =
      object.get? k := by
  rw [setMetadata, Json.get?_modify, if_neg other, get?_keepStatus, if_neg status,
    placeIn_other other]

theorem stamped_status :
    (setMetadata "resourceVersion" version (keepStatus old (placeIn ns object))).get? "status" =
      (old.get? "status").or (object.get? "status") := by
  rw [setMetadata, Json.get?_modify, if_neg (by decide), get?_keepStatus, if_pos rfl,
    placeIn_other (by decide)]

theorem stamped_addressless :
    Addressless kind (setMetadata "resourceVersion" version (keepStatus old (placeIn ns object))) ↔
      Addressless kind object := by
  unfold Addressless Json.get
  rw [stamped_other (by decide) (by decide)]

theorem furnished_other (metadata : k ≠ "metadata") (spec : k ≠ "spec") (status : k ≠ "status") :
    (s.furnished api ns old object version).get? k = object.get? k := by
  unfold furnished simulate
  simp only
  rw [reportReady_other status, assignAddress_other spec, stamped_other metadata status]

theorem furnished_spec (addressed : ¬ Addressless api.kind object) :
    (s.furnished api ns old object version).get? "spec" = object.get? "spec" := by
  unfold furnished simulate
  simp only
  rw [reportReady_other (by decide), assignAddress_addressed (stamped_addressless.not.mpr addressed),
    stamped_other (by decide) (by decide)]

theorem furnished_bare (bare : Addressless api.kind object) :
    (s.furnished api ns old object version).get? "spec" =
      some (((object.get "spec").set "clusterIP" (.str (address (s.addresses + 1)))).set "clusterIPs"
        (.arr [.str (address (s.addresses + 1))])) := by
  unfold furnished simulate
  simp only
  rw [reportReady_other (by decide), assignAddress_bare (stamped_addressless.mpr bare), Json.get,
    stamped_other (by decide) (by decide)]
  rfl

theorem furnished_status : (s.furnished api ns old object version).get? "status" =
    if api.kind = "Deployment" ∧ s.autoReady then some (readyStatus (requestedReplicas object))
    else (old.get? "status").or (object.get? "status") := by
  unfold furnished simulate
  simp only
  rw [reportReady_status, assignAddress_autoReady, assignAddress_other (by decide), stamped_status]
  by_cases ready : api.kind = "Deployment" ∧ s.autoReady
  · have addressed : ¬ Addressless api.kind object := by
      intro bare
      rw [ready.1] at bare
      exact absurd bare.1 (by decide)
    rw [if_pos ready, if_pos ready, assignAddress_addressed (stamped_addressless.not.mpr addressed)]
    rw [requestedReplicas_congr (stamped_other (by decide) (by decide))]
  · rw [if_neg ready, if_neg ready]

theorem furnished_metadata : (s.furnished api ns old object version).get "metadata" =
    ((placeIn ns object).get "metadata").set "resourceVersion" version := by
  unfold furnished
  rw [metadata_simulate, setMetadata, Json.get_modify_self, metadata_keepStatus]

theorem furnished_version : resourceVersion (s.furnished api ns old object version) = version := by
  rw [resourceVersion, furnished_metadata, Json.get_set_self]

theorem setMetadata_ordered (ordered : object.Ordered) : (setMetadata k v object).Ordered :=
  Json.Ordered.set ordered "metadata" _

theorem placeIn_ordered (ordered : object.Ordered) : (placeIn ns object).Ordered := by
  cases ns with
  | none => exact ordered
  | some ns => exact setMetadata_ordered ordered

theorem placeIn_metadata_ordered (ordered : (object.get "metadata").Ordered) :
    ((placeIn ns object).get "metadata").Ordered := by
  cases ns with
  | none => exact ordered
  | some ns =>
    rw [placeIn, setMetadata, Json.get_modify_self]
    exact ordered.set _ _

theorem keepStatus_ordered (ordered : object.Ordered) : (keepStatus old object).Ordered := by
  unfold keepStatus
  split
  · exact ordered.set _ _
  · exact ordered

theorem furnished_ordered (ordered : object.Ordered) :
    (s.furnished api ns old object version).Ordered := by
  have kept : (keepStatus old (placeIn ns object)).Ordered :=
    keepStatus_ordered (placeIn_ordered ordered)
  have addressed : (s.assignAddress api.kind (setMetadata "resourceVersion" version
      (keepStatus old (placeIn ns object)))).1.Ordered := by
    unfold assignAddress
    split
    · exact Json.Ordered.set (setMetadata_ordered kept) "spec" _
    · exact setMetadata_ordered kept
  unfold furnished simulate reportReady
  simp only
  split
  · exact addressed.set _ _
  · exact addressed

theorem furnished_metadata_ordered (ordered : (object.get "metadata").Ordered) :
    ((s.furnished api ns old object version).get "metadata").Ordered := by
  rw [furnished_metadata]
  exact (placeIn_metadata_ordered ordered).set _ _

structure Created (s : Cluster) (api : ApiResource) (ns : Option String) (name : String)
    (object e : Json) (t : Cluster) : Prop where
  named : ((object.get "metadata").get "name").str? = some name
  absent : s.object? api ns name = none
  stored : e = s.furnished api ns .null object (.str (toString (s.version + 1)))
  objects : t.objects = Assoc.set (api.objectKey ns name) e s.objects
  version : t.version = s.version + 1
  autoReady : t.autoReady = s.autoReady

/-- What a replace makes of a cluster. -/
structure Replaced (s : Cluster) (api : ApiResource) (ns : Option String) (name : String)
    (object old e : Json) (changed : Bool) (t : Cluster) : Prop where
  found : s.object? api ns name = some old
  compared : (content old).same (content (keepStatus old (placeIn ns object))) = !changed
  stored : e = s.furnished api ns old object
    (if changed then .str (toString (s.version + 1)) else resourceVersion old)
  objects : t.objects = Assoc.set (api.objectKey ns name) e s.objects
  writes : t.writes = ⟨.replace, api.kind, ns, name, changed⟩ :: s.writes
  version : t.version = if changed then s.version + 1 else s.version
  autoReady : t.autoReady = s.autoReady

theorem create_done (done : s.create api ns object = (.ok e, t)) :
    ∃ name, Created s api ns name object e t := by
  cases s.create_outcome api ns object with
  | refused _ out => exact nomatch congrArg Prod.fst (out.symm.trans done)
  | @stored name _ _ named absent simulated out =>
    obtain ⟨⟨⟩, ⟨⟩⟩ := out.symm.trans done
    exact ⟨name, named, absent, (congrArg Prod.fst simulated).symm, rfl, rfl, rfl⟩

theorem replace_done (done : s.replace api ns name object = (.ok e, t)) :
    ∃ old changed, Replaced s api ns name object old e changed t := by
  cases s.replace_outcome api ns name object with
  | refused _ out => exact nomatch congrArg Prod.fst (out.symm.trans done)
  | @changed old _ _ found _ compared simulated out =>
    obtain ⟨⟨⟩, ⟨⟩⟩ := out.symm.trans done
    exact ⟨old, true, found, compared, (congrArg Prod.fst simulated).symm, rfl, rfl, rfl, rfl⟩
  | @unchanged old _ _ found _ compared simulated out =>
    obtain ⟨⟨⟩, ⟨⟩⟩ := out.symm.trans done
    exact ⟨old, false, found, compared, (congrArg Prod.fst simulated).symm, rfl, rfl, rfl, rfl⟩

theorem replace_refused {why : StoreError} (refused : (s.replace api ns name object).1 = .error why) :
    (s.replace api ns name object).2 = s := by
  cases s.replace_outcome api ns name object with
  | refused _ out => rw [out]
  | changed _ _ _ _ out | unchanged _ _ _ _ out => exact nomatch refused.symm.trans (congrArg Prod.fst out)

end Cluster
end SchedulerOperator
