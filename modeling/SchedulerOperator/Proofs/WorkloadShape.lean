import SchedulerOperator.Engine.Replicas
import SchedulerOperator.Proofs.StoredChild

/-!
What the builders make of a plan has the shape of a Deployment, so whether the stored one can be
read depends on the owner references that it kept, and on nothing else.
-/
namespace SchedulerOperator
variable {α β : Type}

namespace Shape

def Fits (v : Json) (s : Shape) : Prop := check v s = .ok ()

theorem fits_text (t : String) : Fits (.str t) .text := by
  unfold Fits check
  rfl

end Shape

def Decoder.Takes (dec : Decoder α) (v : Json) : Prop := ∃ a, dec.ofJson v = .ok a

namespace Decode

theorem takes_text (s : String) : text.Takes (.str s) := ⟨s, rfl⟩

theorem takes_boolean (b : Bool) : boolean.Takes (.bool b) := ⟨b, rfl⟩

theorem takes_optional {dec : Decoder α} {v : Json} (takes : dec.Takes v) :
    (optional dec).Takes v := by
  obtain ⟨a, read⟩ := takes
  cases v with
  | null => exact ⟨none, rfl⟩
  | _ => exact ⟨some a, by simp only [optional, read]; rfl⟩

theorem takes_list {dec : Decoder α} {items : List Json} (each : ∀ v ∈ items, dec.Takes v) :
    (list dec).Takes (.arr items) := by
  change ∃ as, itemsOf dec items = .ok as
  induction items with
  | nil => exact ⟨[], rfl⟩
  | cons v rest ih =>
    obtain ⟨a, read⟩ := each v List.mem_cons_self
    obtain ⟨more, readMore⟩ := ih fun v mem => each v (List.mem_cons_of_mem _ mem)
    exact ⟨a :: more, by simp only [itemsOf, read, readMore]; rfl⟩

theorem takes_map {dec : Decoder α} {members : List (String × Json)}
    (each : ∀ m ∈ members, dec.Takes m.2) : (map dec).Takes (.obj members) := by
  have entries : ∃ as, entriesOf dec members = .ok as := by
    induction members with
    | nil => exact ⟨[], rfl⟩
    | cons m rest ih =>
      obtain ⟨a, read⟩ := each m List.mem_cons_self
      obtain ⟨more, readMore⟩ := ih fun m mem => each m (List.mem_cons_of_mem _ mem)
      exact ⟨(m.1, a) :: more, by simp only [entriesOf, read, readMore]; rfl⟩
  obtain ⟨as, read⟩ := entries
  exact ⟨Assoc.ofList as, by simp only [map, read]; rfl⟩

theorem takes_textMap (m : List (String × String)) : (map text).Takes (Json.textMap m) := by
  refine takes_map fun e mem => ?_
  obtain ⟨f, _, rfl⟩ := List.mem_map.mp mem
  exact takes_text f.2

end Decode

theorem Decoder.takes_map {dec : Decoder α} {v : Json} {f : α → β} :
    (dec.map f).Takes v ↔ dec.Takes v := by
  unfold Takes Decoder.map
  cases read : dec.ofJson v with
  | ok a => simp [read, Except.map]
  | error e => simp [read, Except.map]

namespace Fields

def Readable (f : Fields α) (ms : List (String × Json)) : Prop :=
  ∀ k dec v, (k, dec) ∈ f.known → Assoc.get? k ms = some v → dec.Takes v

/-- Fields that are never missed. -/
def Lenient (f : Fields α) : Prop :=
  ∀ ms, f.Readable ms → ∃ a, f.ofMembers ms = .ok a

theorem lenient_constant (a : α) : (constant a).Lenient := fun _ _ => ⟨a, rfl⟩

theorem lenient_apply {f : Fields (α → β)} {x : Fields α} (first : f.Lenient)
    (second : x.Lenient) : (f.apply x).Lenient := by
  intro ms readable
  obtain ⟨g, readG⟩ := first ms fun k dec v mem => readable k dec v (List.mem_append_left _ mem)
  obtain ⟨a, readA⟩ := second ms fun k dec v mem => readable k dec v (List.mem_append_right _ mem)
  exact ⟨g a, by simp only [apply, readG, readA]; rfl⟩

theorem lenient_defaulted (name : String) (dec : Decoder α) (a : α) :
    (defaulted name dec a).Lenient := by
  intro ms readable
  simp only [defaulted, field]
  cases found : Assoc.get? name ms with
  | none => exact ⟨a, rfl⟩
  | some v =>
    have takes := readable name (dec.map fun _ => ()) v List.mem_cons_self found
    exact Decoder.takes_map.mp takes

theorem checkMembers_ok {known : List (String × Decoder Unit)} {ms : List (String × Json)}
    (each : ∀ m ∈ ms, ∀ dec, Assoc.get? m.1 known = some dec → dec.Takes m.2) :
    checkMembers known ms = .ok () := by
  induction ms with
  | nil => rfl
  | cons m rest ih =>
    have tail := ih fun m mem => each m (List.mem_cons_of_mem _ mem)
    unfold checkMembers
    cases found : Assoc.get? m.1 known with
    | none =>
      exact tail
    | some dec =>
      obtain ⟨_, read⟩ := each m List.mem_cons_self dec found
      simp only [read, tail]
      rfl

theorem takes_readObject {name : String} {f : Fields α} {v : Json} (lenient : f.Lenient)
    (ordered : v.Ordered)
    (each : ∀ k dec w, (k, dec) ∈ f.known → v.get? k = some w → dec.Takes w) :
    (readObject name f).Takes v := by
  obtain ⟨ms, rfl, ascending⟩ := ordered
  obtain ⟨a, read⟩ := lenient ms each
  refine ⟨a, ?_⟩
  have checked : checkMembers f.known ms = .ok () := by
    refine checkMembers_ok fun m mem dec found => ?_
    exact each m.1 dec m.2 (Assoc.mem_of_get? found) (ascending.get?_of_mem mem)
  simp only [readObject, checked, read]
  rfl

end Fields

open Fields

theorem OwnerReference.lenient : OwnerReference.fields.Lenient := by
  unfold OwnerReference.fields
  refine lenient_apply (lenient_apply (lenient_apply (lenient_apply (lenient_apply
    (lenient_apply (lenient_constant _) ?_) ?_) ?_) ?_) ?_) ?_
  all_goals exact lenient_defaulted _ _ _

theorem OwnerReference.takes_toJson (r : OwnerReference) :
    OwnerReference.decoder.Takes r.toJson := by
  have order : Assoc.Ascending
      [("apiVersion", some (Json.str r.apiVersion)),
       ("blockOwnerDeletion", r.blockOwnerDeletion.map Json.bool),
       ("controller", r.controller.map Json.bool), ("kind", some (Json.str r.kind)),
       ("name", some (Json.str r.name)), ("uid", some (Json.str r.uid))] := by
    change List.Pairwise (· < ·)
      ["apiVersion", "blockOwnerDeletion", "controller", "kind", "name", "uid"]
    decide
  refine takes_readObject OwnerReference.lenient (Json.present_ordered order) ?_
  intro k dec w known found
  rw [OwnerReference.toJson, Json.get?_present order] at found
  change (k, dec) ∈ [_, _, _, _, _, _] at known
  simp only [List.mem_cons, List.not_mem_nil, or_false] at known
  have flag : ∀ {b : Option Bool}, (some (b.map Json.bool)).join = some w →
      ((Decode.optional Decode.boolean).map fun _ => ()).Takes w := by
    intro b there
    obtain ⟨b, _, rfl⟩ := Option.map_eq_some_iff.mp there
    exact Decoder.takes_map.mpr (Decode.takes_optional (Decode.takes_boolean b))
  have text : ∀ {s : String}, Json.str s = w →
      ((((Decode.optional Decode.text).map (·.getD "")).map fun _ => ()).Takes w) := by
    rintro s rfl
    exact Decoder.takes_map.mpr (Decoder.takes_map.mpr (Decode.takes_optional (Decode.takes_text s)))
  rcases known with same | same | same | same | same | same
  · cases same
    exact text (Option.some.inj found)
  · cases same
    exact flag found
  · cases same
    exact flag found
  · cases same
    exact text (Option.some.inj found)
  · cases same
    exact text (Option.some.inj found)
  · cases same
    exact text (Option.some.inj found)

theorem ObjectMeta.lenient : ObjectMeta.fields.Lenient := by
  unfold ObjectMeta.fields
  repeat' refine lenient_apply ?_ (lenient_defaulted _ _ _)
  exact lenient_constant _

theorem ObjectMeta.takes {v : Json} (ordered : v.Ordered)
    (labels : ∀ w, v.get? "labels" = some w → (Decode.map Decode.text).Takes w)
    (owners : ∀ w, v.get? "ownerReferences" = some w →
      (Decode.list OwnerReference.decoder).Takes w)
    (texts : ∀ k ∈ ["name", "namespace", "resourceVersion"], ∀ w, v.get? k = some w →
      Decode.text.Takes w)
    (others : ∀ k, k ∉ ["labels", "ownerReferences", "name", "namespace", "resourceVersion"] →
      v.get? k = none) : ObjectMeta.decoder.Takes v := by
  refine takes_readObject ObjectMeta.lenient ordered fun k dec w known found => ?_
  change (k, dec) ∈ [_, _, _, _, _, _, _, _, _, _, _, _, _, _, _] at known
  by_cases there : k ∈ ["labels", "ownerReferences", "name", "namespace", "resourceVersion"]
  · have nullable : ∀ {α : Type} {d : Decoder α}, d.Takes w →
        ((Decode.optional d).map fun _ => ()).Takes w :=
      fun takes => Decoder.takes_map.mpr (Decode.takes_optional takes)
    simp only [List.mem_cons, List.not_mem_nil, or_false] at there
    rcases there with rfl | rfl | rfl | rfl | rfl
    · obtain rfl : dec = (Decode.optional (Decode.map Decode.text)).map fun _ => () := by
        simpa using known
      exact nullable (labels w found)
    · obtain rfl : dec = (Decode.optional (Decode.list OwnerReference.decoder)).map fun _ => () := by
        simpa using known
      exact nullable (owners w found)
    all_goals
      obtain rfl : dec = (Decode.optional Decode.text).map fun _ => () := by simpa using known
      exact nullable (texts _ (by decide) w found)
  · rw [others k there] at found
    cases found

namespace Shape

theorem fits_int32 {n : Int} (range : -2147483648 ≤ n ∧ n ≤ 2147483647) : Fits (.int n) .int32 := by
  unfold Fits check
  simp only [Decode.int32, Decode.integer, Decode.leaf, if_pos range]
  rfl

theorem fits_constant (t : String) : Fits (.str t) (.constant t) := by
  rw [Fits, check]
  simp only [checkConstant, Decode.text, Decode.leaf, Option.getD_some]
  exact if_pos rfl

theorem fits_list {items : List Json} {s : Shape} (each : ∀ v ∈ items, Fits v s) :
    Fits (.arr items) (.list s) := by
  have all : checkItems items s = .ok () := by
    induction items with
    | nil => rw [checkItems]
    | cons v rest ih =>
      have here : check v s = .ok () := each v List.mem_cons_self
      rw [checkItems, here, ih fun v mem => each v (List.mem_cons_of_mem _ mem)]
      rfl
  rw [Fits, check]
  exact all

theorem fits_map {members : List (String × Json)} {s : Shape} (each : ∀ m ∈ members, Fits m.2 s) :
    Fits (.obj members) (.map s) := by
  have all : checkEntries members s = .ok () := by
    induction members with
    | nil => rw [checkEntries]
    | cons m rest ih =>
      have here : check m.2 s = .ok () := each m List.mem_cons_self
      rw [checkEntries, here, ih fun m mem => each m (List.mem_cons_of_mem _ mem)]
      rfl
  rw [Fits, check]
  exact all

theorem fits_record {members : List (String × Json)} {name : String}
    {fields : List (String × Shape)}
    (each : ∀ m ∈ members, ∀ s, Assoc.get? m.1 fields = some s → Fits m.2 s) :
    Fits (.obj members) (.record name fields) := by
  have all : checkFields members fields = .ok () := by
    induction members with
    | nil => rw [checkFields]
    | cons m rest ih =>
      have tail := ih fun m mem => each m (List.mem_cons_of_mem _ mem)
      rw [checkFields, tail]
      cases found : Assoc.get? m.1 fields with
      | none => rfl
      | some s =>
        have here : check m.2 s = .ok () := each m List.mem_cons_self s found
        simp only [here]
        split <;> rfl
  rw [Fits, check]
  exact all

theorem fits_nil {name : String} {fields : List (String × Shape)} :
    Fits (.obj []) (.record name fields) :=
  fits_record fun _ mem => absurd mem List.not_mem_nil

theorem fits_cons {k name : String} {v : Json} {s : Shape} {members : List (String × Json)}
    {fields : List (String × Shape)} (known : Assoc.get? k fields = some s) (here : Fits v s)
    (rest : Fits (.obj members) (.record name fields)) :
    Fits (.obj ((k, v) :: members)) (.record name fields) := by
  have first : check v s = .ok () := here
  have tail : check (.obj members) (.record name fields) = .ok () := rest
  rw [check] at tail
  rw [Fits, check, checkFields, known, tail]
  simp only [first]
  split <;> rfl

theorem fits_present {ms : List (String × Option Json)} {name : String}
    {fields : List (String × Shape)}
    (each : ∀ m ∈ ms, ∀ v, m.2 = some v → ∀ s, Assoc.get? m.1 fields = some s → Fits v s) :
    Fits (.present ms) (.record name fields) := by
  refine fits_record fun m mem s found => ?_
  obtain ⟨f, listed, made⟩ := List.mem_filterMap.mp mem
  obtain ⟨v, there, rfl⟩ := Option.map_eq_some_iff.mp made
  exact each f listed v there s found

theorem fits_texts (xs : List String) : Fits (Json.texts xs) texts := by
  refine fits_list fun v mem => ?_
  obtain ⟨x, _, rfl⟩ := List.mem_map.mp mem
  exact fits_text x

theorem fits_textMap (m : List (String × String)) : Fits (Json.textMap m) textMap := by
  refine fits_map fun e mem => ?_
  obtain ⟨f, _, rfl⟩ := List.mem_map.mp mem
  exact fits_text f.2

theorem fits_resources (r : ResourceRequirements) : Fits r.toJson resourceRequirements := by
  refine fits_present fun m mem v there s found => ?_
  simp only [List.mem_cons, List.not_mem_nil, or_false] at mem
  rcases mem with rfl | rfl | rfl
  · obtain ⟨claims, _, rfl⟩ := Option.map_eq_some_iff.mp there
    cases found
    refine fits_list fun v mem => ?_
    obtain ⟨claim, _, rfl⟩ := List.mem_map.mp mem
    refine fits_present fun m mem v there s found => ?_
    simp only [List.mem_cons, List.not_mem_nil, or_false] at mem
    rcases mem with rfl | rfl
    · cases there
      cases found
      exact fits_text claim.name
    · obtain ⟨request, _, rfl⟩ := Option.map_eq_some_iff.mp there
      cases found
      exact fits_text request
  · obtain ⟨limits, _, rfl⟩ := Option.map_eq_some_iff.mp there
    cases found
    exact fits_textMap limits
  · obtain ⟨requests, _, rfl⟩ := Option.map_eq_some_iff.mp there
    cases found
    exact fits_textMap requests

end Shape

namespace Payload
open Shape

theorem fits_containerPort {port : Int} (name : String) (range : 1 ≤ port ∧ port ≤ 65535) :
    Fits (containerPort name port) (.record "ContainerPort"
      [("containerPort", .int32), ("hostIP", .text), ("hostPort", .int32), ("name", .text),
       ("protocol", .text)]) :=
  fits_cons rfl (fits_int32 (by omega)) (fits_cons rfl (fits_text name)
    (fits_cons rfl (fits_text "TCP") fits_nil))

theorem fits_tokenVariable (secret : String) :
    Fits (Serving.tokenVariable secret) environmentVariable := by
  have selector : Fits (fields [("key", .str "token"), ("name", .str secret)])
      (keySelector "SecretKeySelector") :=
    fits_cons rfl (fits_text "token") (fits_cons rfl (fits_text secret) fits_nil)
  exact fits_cons rfl (fits_text "HF_TOKEN")
    (fits_cons rfl (fits_cons rfl selector fits_nil) fits_nil)

theorem serving_container_fits (s : ServingPlan) (port : 1 ≤ s.port ∧ s.port ≤ 65535) :
    Fits (Serving.container s) container := by
  refine fits_present fun m mem v there shape found => ?_
  simp only [List.mem_cons, List.not_mem_nil, or_false] at mem
  rcases mem with rfl | rfl | rfl | rfl | rfl | rfl
  · cases there
    cases found
    exact fits_texts _
  · cases there
    cases found
    exact fits_list (List.forall_mem_singleton.mpr (fits_tokenVariable _))
  · cases there
    cases found
    exact fits_text s.image
  · cases there
    cases found
    exact fits_text _
  · cases there
    cases found
    exact fits_list (List.forall_mem_singleton.mpr (fits_containerPort "http" port))
  · obtain ⟨resources, _, rfl⟩ := Option.map_eq_some_iff.mp there
    cases found
    exact fits_resources resources

theorem picker_container_fits (plan : Plan)
    (ports : ∀ p ∈ Picker.ports plan.endpointPicker, 1 ≤ p.2 ∧ p.2 ≤ 65535) :
    Fits (Picker.container plan) container := by
  refine fits_present fun m mem v there shape found => ?_
  simp only [List.mem_cons, List.not_mem_nil, or_false] at mem
  rcases mem with rfl | rfl | rfl | rfl | rfl | rfl
  · cases there
    cases found
    exact fits_texts _
  · cases there
    cases found
    exact fits_text plan.endpointPicker.image
  · cases there
    cases found
    exact fits_text "epp"
  · cases there
    cases found
    refine fits_list fun v mem => ?_
    obtain ⟨p, listed, rfl⟩ := List.mem_map.mp mem
    exact fits_containerPort p.1 (ports p listed)
  · obtain ⟨resources, _, rfl⟩ := Option.map_eq_some_iff.mp there
    cases found
    exact fits_resources resources
  · cases there
    cases found
    exact fits_list (List.forall_mem_singleton.mpr
      (fits_cons rfl (fits_text _) (fits_cons rfl (fits_text "config") fits_nil)))

theorem serving_pod_fits (s : ServingPlan) (port : 1 ≤ s.port ∧ s.port ≤ 65535) :
    Fits (fields [("containers", .arr [Serving.container s])]) podSpec :=
  fits_cons rfl (fits_list (List.forall_mem_singleton.mpr (serving_container_fits s port))) fits_nil

theorem picker_pod_fits (plan : Plan)
    (ports : ∀ p ∈ Picker.ports plan.endpointPicker, 1 ≤ p.2 ∧ p.2 ≤ 65535) :
    Fits (Picker.podSpec plan) podSpec := by
  have containers := fits_list (List.forall_mem_singleton.mpr (picker_container_fits plan ports))
  have file : Fits (fields [("name", .str (ChildKind.routingConfig.childName plan.name))])
      (.record "ConfigMapVolumeSource" [("defaultMode", .int32), ("items", keyToPaths),
        ("name", .text), ("optional", .boolean)]) := fits_cons rfl (fits_text _) fits_nil
  have config : Fits (fields [("configMap", fields
      [("name", .str (ChildKind.routingConfig.childName plan.name))]), ("name", .str "config")])
      volume := fits_cons rfl file (fits_cons rfl (fits_text "config") fits_nil)
  exact fits_cons rfl containers (fits_cons rfl (fits_text _)
    (fits_cons rfl (fits_list (List.forall_mem_singleton.mpr config)) fits_nil))

theorem fits_metadata {v : Json} (takes : ObjectMeta.decoder.Takes v) : Fits v .metadata := by
  obtain ⟨m, read⟩ := takes
  rw [Fits, check, read]
  rfl

theorem fits_labels (labels : Labels) :
    Fits (fields [("labels", .textMap labels)]) .metadata := by
  have other : ∀ k, k ≠ "labels" → (fields [("labels", .textMap labels)]).get? k = none := by
    intro k unlike
    exact if_neg unlike
  refine fits_metadata (ObjectMeta.takes ⟨_, rfl, List.pairwise_singleton _ _⟩ ?_ ?_ ?_ ?_)
  · intro w found
    cases found
    exact Decode.takes_textMap labels
  · intro w found
    rw [other _ (by decide)] at found
    cases found
  · intro k listed w found
    have unlike : k ≠ "labels" := by
      rintro rfl
      revert listed
      decide
    rw [other k unlike] at found
    cases found
  · intro k unlisted
    exact other k fun same => unlisted (same ▸ List.mem_cons_self)

theorem fits_deploymentSpec {replicas : Int} {podSpec : Json} (selector podLabels : Labels)
    (range : 1 ≤ replicas ∧ replicas ≤ 2147483647) (pod : Fits podSpec Shape.podSpec) :
    Fits (deploymentSpec replicas selector podLabels podSpec) Shape.deploymentSpec := by
  have template : Fits (fields [("metadata", fields [("labels", .textMap podLabels)]),
      ("spec", podSpec)]) podTemplate :=
    fits_cons rfl (fits_labels podLabels) (fits_cons rfl pod fits_nil)
  exact fits_cons rfl (fits_int32 (by omega))
    (fits_cons rfl (fits_cons rfl (fits_textMap selector) fits_nil)
      (fits_cons rfl template fits_nil))

end Payload

def Plan.workload (plan : Plan) (k : ChildKind) (replicas : Int) (selector podLabels : Labels)
    (podSpec : Json) : ChildObject :=
  Payload.child plan .deployment k <| Payload.object .deployment
    [("metadata", some (Payload.metadata plan k (some podLabels))),
     ("spec", some (Payload.deploymentSpec replicas selector podLabels podSpec))]

section
open Shape
variable {plan : Plan} {k : ChildKind} {replicas : Int} {selector podLabels : Labels}
  {podSpec e : Json} {c : Carried}

theorem workload_takes_metadata
    (reads : (plan.workload k replicas selector podLabels podSpec).Reads c e)
    (version : ∃ text, c.version = some (.str text))
    (owners : ∃ os, c.owners = some (.arr os) ∧ ∀ o ∈ os, OwnerReference.decoder.Takes o) :
    ObjectMeta.decoder.Takes (e.get "metadata") := by
  obtain ⟨text, version⟩ := version
  obtain ⟨os, owners, each⟩ := owners
  have entry : ∀ l, (e.get "metadata").get? l =
      if l = "ownerReferences" then some (.arr os)
      else if l = "resourceVersion" then some (.str text)
      else (Payload.metadata plan k (some podLabels)).get? l := by
    intro l
    rw [reads.inMetadata, ChildObject.inMetadata, owners, version]
    rfl
  refine ObjectMeta.takes reads.metadata ?_ ?_ ?_ ?_
  · intro w found
    rw [entry] at found
    cases found
    exact Decode.takes_textMap podLabels
  · intro w found
    rw [entry] at found
    cases found
    exact Decode.takes_list each
  · intro l listed w found
    rw [entry] at found
    simp only [List.mem_cons, List.not_mem_nil, or_false] at listed
    rcases listed with rfl | rfl | rfl
    · cases found
      exact Decode.takes_text _
    · cases found
      exact Decode.takes_text _
    · cases found
      exact Decode.takes_text _
  · intro l unlisted
    simp only [List.mem_cons, List.not_mem_nil, or_false, not_or] at unlisted
    obtain ⟨labels, owned, name, namespace_, versioned⟩ := unlisted
    rw [entry, if_neg owned, if_neg versioned]
    simp [Payload.metadata, Json.get?, Json.present, Json.members, Assoc.get?, labels, name,
      namespace_]

theorem workload_spec {w : Json}
    (reads : (plan.workload k replicas selector podLabels podSpec).Reads c e)
    (unaddressed : c.address = none ∧ c.addresses = none) (found : e.get? "spec" = some w) :
    w = Payload.deploymentSpec replicas selector podLabels podSpec := by
  obtain ⟨ordered, entries⟩ := reads.spec w found
  have built : (Payload.deploymentSpec replicas selector podLabels podSpec).Ordered := by
    refine ⟨_, rfl, ?_⟩
    change List.Pairwise (· < ·) ["replicas", "selector", "template"]
    decide
  refine ordered.ext built fun l => ?_
  rw [entries, ChildObject.inSpec, unaddressed.1, unaddressed.2]
  by_cases address : l = "clusterIP"
  · rw [if_pos address, address]
    rfl
  · by_cases addresses : l = "clusterIPs"
    · rw [if_neg address, if_pos addresses, addresses]
      rfl
    · rw [if_neg address, if_neg addresses]
      rfl

/-- A stored workload whose owner references can be read is read, and all its replicas are
ready. -/
theorem workload_read
    (reads : (plan.workload k replicas selector podLabels podSpec).Reads c e)
    (version : ∃ text, c.version = some (.str text))
    (owners : ∃ os, c.owners = some (.arr os) ∧ ∀ o ∈ os, OwnerReference.decoder.Takes o)
    (unaddressed : c.address = none ∧ c.addresses = none)
    (status : c.status = some (ChildObject.readyStatus replicas))
    (range : 1 ≤ replicas ∧ replicas ≤ 2147483647) (pod : Fits podSpec Shape.podSpec) :
    Replicas.ofJson e = .ok ⟨true, replicas, replicas⟩ := by
  have metadata := Payload.fits_metadata (workload_takes_metadata reads version owners)
  have spec := Payload.fits_deploymentSpec selector podLabels range pod
  have reported : Fits (ChildObject.readyStatus replicas) deploymentStatus :=
    fits_cons rfl (fits_int32 (by omega)) (fits_cons rfl (fits_int32 (by omega)) fits_nil)
  have fits : Fits e deployment := by
    obtain ⟨ms, rfl, ascending⟩ := reads.ordered
    refine fits_record fun m mem s found => ?_
    have there : (Json.obj ms).get? m.1 = some m.2 := ascending.get?_of_mem mem
    have field := Assoc.mem_of_get? found
    simp only [List.mem_cons, List.not_mem_nil, or_false, Prod.mk.injEq] at field
    obtain ⟨key, value⟩ := m
    simp only at field there
    rcases field with ⟨rfl, rfl⟩ | ⟨rfl, rfl⟩ | ⟨rfl, rfl⟩ | ⟨rfl, rfl⟩ | ⟨rfl, rfl⟩
    · rw [reads.outside _ (by decide) (by decide) (by decide)] at there
      cases there
      exact fits_constant "apps/v1"
    · rw [reads.outside _ (by decide) (by decide) (by decide)] at there
      cases there
      exact fits_constant "Deployment"
    · have here : (Json.obj ms).get "metadata" = value := by rw [Json.get, there]; rfl
      exact here ▸ metadata
    · rw [workload_spec reads unaddressed there]
      exact spec
    · rw [reads.status, status] at there
      cases there
      exact reported
  have desired : (e.get "spec").get "replicas" = .int replicas := by
    rw [reads.get_spec rfl, ChildObject.inSpec, if_neg (by decide), if_neg (by decide)]
    rfl
  have ready : e.get "status" = ChildObject.readyStatus replicas := by
    rw [Json.get, reads.status, status]
    rfl
  have checked : check e deployment = .ok () := fits
  unfold Replicas.ofJson
  rw [checked, desired, ready]
  rfl

end
end SchedulerOperator
