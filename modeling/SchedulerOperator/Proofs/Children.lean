import SchedulerOperator.Payload.Routing
import SchedulerOperator.Proofs.Members

namespace SchedulerOperator

structure ChildObject.Tidy (d : ChildObject) : Prop where
  finite : d.payload.Finite
  ordered : d.payload.Ordered
  metadata : (d.payload.get "metadata").Ordered
  named : (d.payload.get "metadata").get "name" = .str d.name
  placed : (d.payload.get "metadata").get? "namespace" = some (.str d.namespace_)
  unowned : (d.payload.get "metadata").get? "ownerReferences" = none
  unversioned : (d.payload.get "metadata").get? "resourceVersion" = none
  spec : ∀ spec, d.payload.get? "spec" = some spec →
    spec.Ordered ∧ spec.get? "clusterIP" = none ∧ spec.get? "clusterIPs" = none
  service : d.resource = .service → (d.payload.get? "spec").isSome
  unreported : d.payload.get? "status" = none
  namespaced : d.resource.namespaced = true

namespace ChildKind

theorem mem_all (k : ChildKind) : k ∈ all := by
  cases k <;> decide

theorem parts_of_split {done rest : List ChildKind} (split : done ++ rest = all) :
    ∃ i ≤ 9, done = all.take i ∧ rest = all.drop i := by
  refine ⟨done.length, ?_, ?_, ?_⟩
  · have count := congrArg List.length split
    simp only [List.length_append, all, List.length_cons, List.length_nil] at count
    omega
  · rw [← split]
    simp
  · rw [← split]
    simp

theorem place_of_split {done rest : List ChildKind} {k : ChildKind}
    (split : done ++ k :: rest = all) : ∃ i < 9, done = all.take i ∧ all[i]? = some k := by
  obtain ⟨i, _, place, behind⟩ := parts_of_split split
  have here : all[i]? = some k := by
    rw [← List.head?_drop, ← behind]
    rfl
  exact ⟨i, (List.getElem?_eq_some_iff.mp here).1, place, here⟩

theorem build_keys (plan : Plan) (k : ChildKind) :
    (k.build plan).map (fun d => (d.resource, d.name)) =
      k.resources.map fun t => (t, k.childName plan.name) := by
  cases k <;> rfl

theorem build_placed (plan : Plan) (k : ChildKind) :
    ∀ d ∈ k.build plan, d.namespace_ = plan.namespace_ ∧ d.owner = plan.owner := by
  cases k <;>
    simp [build, Payload.child, Payload.Serving.deployment, Payload.Serving.service,
      Payload.Picker.identity, Payload.PluginFile.configMap, Payload.Picker.deployment,
      Payload.Picker.service, Payload.Routing.pool, Payload.Routing.gateway,
      Payload.Routing.httpRoute]

theorem build_children {plan : Plan} {k : ChildKind} {d : ChildObject} (built : d ∈ k.build plan) :
    d ∈ plan.children := List.mem_flatMap.mpr ⟨k, k.mem_all, built⟩

theorem build_ne_nil (plan : Plan) (k : ChildKind) : k.build plan ≠ [] := by
  cases k <;> exact List.cons_ne_nil _ _

theorem childName_inj {root : String} {k l : ChildKind}
    (same : k.childName root = l.childName root) : k = l := by
  have suffixes : k.suffix = l.suffix := (String.append_right_inj _).mp same
  revert suffixes
  cases k <;> cases l <;> decide

end ChildKind

theorem ResourceType.builtin_kind_inj {t t' : ResourceType}
    (same : t.builtinApi.kind = t'.builtinApi.kind) : t = t' := by
  revert same
  cases t <;> cases t' <;> decide

namespace Payload
open Json

theorem ordered_obj {members : List (String × Json)} (keys : List String)
    (listed : members.map Prod.fst = keys) (ascending : keys.Pairwise (· < ·)) :
    (Json.obj members).Ordered :=
  ⟨members, rfl, by rw [Assoc.Ascending, listed]; exact ascending⟩

theorem metadata_ordered (plan : Plan) (k : ChildKind) (labels : Option Labels) :
    (metadata plan k labels).Ordered := by
  cases labels with
  | none => exact ordered_obj ["name", "namespace"] rfl (by decide)
  | some labels => exact ordered_obj ["labels", "name", "namespace"] rfl (by decide)

theorem metadata_finite (plan : Plan) (k : ChildKind) (labels : Option Labels) :
    (metadata plan k labels).Finite := by
  cases labels with
  | none => exact ⟨trivial, trivial, trivial⟩
  | some labels => exact ⟨finite_textMap labels, trivial, trivial, trivial⟩

theorem tidy_of {plan : Plan} {t : ResourceType} {k : ChildKind} {labels : Option Labels}
    {members : List (String × Json)} (keys : List String)
    (listed : members.map Prod.fst = keys) (ascending : keys.Pairwise (· < ·))
    (finite : (Json.obj members).Finite)
    (metadata : Assoc.get? "metadata" members = some (metadata plan k labels))
    (spec : ∀ spec, Assoc.get? "spec" members = some spec →
      spec.Ordered ∧ spec.get? "clusterIP" = none ∧ spec.get? "clusterIPs" = none)
    (service : t = .service → (Assoc.get? "spec" members).isSome)
    (unreported : Assoc.get? "status" members = none) (namespaced : t.namespaced = true) :
    (child plan t k (.obj members)).Tidy := by
  have whole : (Json.obj members).get "metadata" = Payload.metadata plan k labels := by
    rw [Json.get, Json.get?, Json.members, metadata]
    rfl
  have entry : ∀ key, ((Json.obj members).get "metadata").get? key =
      (Payload.metadata plan k labels).get? key := by
    intro key
    rw [whole]
  exact
    { finite := finite
      ordered := ordered_obj keys listed ascending
      metadata := whole ▸ metadata_ordered plan k labels
      named := by
        change ((Json.obj members).get "metadata").get "name" = _
        rw [whole]
        cases labels <;> rfl
      placed := (entry _).trans (by cases labels <;> rfl)
      unowned := (entry _).trans (by cases labels <;> rfl)
      unversioned := (entry _).trans (by cases labels <;> rfl)
      spec := spec
      service := service
      unreported := unreported
      namespaced := namespaced }

theorem tidy_object {plan : Plan} {t : ResourceType} {k : ChildKind} {labels : Option Labels}
    {spec : Json} (ordered : spec.Ordered) (finite : spec.Finite)
    (address : spec.get? "clusterIP" = none) (addresses : spec.get? "clusterIPs" = none)
    (namespaced : t.namespaced = true) :
    (child plan t k (object t
      [("metadata", some (metadata plan k labels)), ("spec", some spec)])).Tidy :=
  tidy_of ["apiVersion", "kind", "metadata", "spec"] rfl (by decide)
    ⟨trivial, trivial, metadata_finite plan k labels, finite, trivial⟩ rfl
    (fun _ same => by cases same; exact ⟨ordered, address, addresses⟩) (fun _ => rfl) rfl
    namespaced

theorem finite_resources (r : ResourceRequirements) : r.toJson.Finite := by
  refine finite_present fun m mem v there => ?_
  simp only [List.mem_cons, List.not_mem_nil, or_false] at mem
  rcases mem with rfl | rfl | rfl
  · obtain ⟨claims, _, rfl⟩ := Option.map_eq_some_iff.mp there
    refine finite_arr.mpr fun w mem => ?_
    obtain ⟨claim, _, rfl⟩ := List.mem_map.mp mem
    refine finite_present fun m mem v there => ?_
    simp only [List.mem_cons, List.not_mem_nil, or_false] at mem
    rcases mem with rfl | rfl
    · cases there
      trivial
    · obtain ⟨request, _, rfl⟩ := Option.map_eq_some_iff.mp there
      trivial
  · obtain ⟨limits, _, rfl⟩ := Option.map_eq_some_iff.mp there
    exact finite_textMap limits
  · obtain ⟨requests, _, rfl⟩ := Option.map_eq_some_iff.mp there
    exact finite_textMap requests

theorem finite_deploymentSpec {podSpec : Json} (replicas : Int) (selector podLabels : Labels)
    (finite : podSpec.Finite) : (deploymentSpec replicas selector podLabels podSpec).Finite :=
  ⟨trivial, ⟨finite_textMap selector, trivial⟩,
    ⟨⟨finite_textMap podLabels, trivial⟩, finite, trivial⟩, trivial⟩

theorem finite_serviceSpec {ports : List Json} (finite : ∀ p ∈ ports, p.Finite)
    (selector : Labels) (exposure : String) : (serviceSpec ports selector exposure).Finite :=
  ⟨finite_arr.mpr finite, finite_textMap selector, trivial, trivial⟩

theorem serving_container_finite (s : ServingPlan) : (Serving.container s).Finite := by
  refine finite_present fun m mem v there => ?_
  simp only [List.mem_cons, List.not_mem_nil, or_false] at mem
  rcases mem with rfl | rfl | rfl | rfl | rfl | rfl <;> simp only [Option.some.injEq] at there
  · rw [← there]
    exact finite_texts _
  · rw [← there]
    exact ⟨⟨trivial, ⟨⟨trivial, trivial, trivial⟩, trivial⟩, trivial⟩, trivial⟩
  · rw [← there]
    trivial
  · rw [← there]
    trivial
  · rw [← there]
    exact ⟨⟨trivial, trivial, trivial, trivial⟩, trivial⟩
  · obtain ⟨resources, _, rfl⟩ := Option.map_eq_some_iff.mp there
    exact finite_resources resources

theorem picker_container_finite (plan : Plan) : (Picker.container plan).Finite := by
  refine finite_present fun m mem v there => ?_
  simp only [List.mem_cons, List.not_mem_nil, or_false] at mem
  rcases mem with rfl | rfl | rfl | rfl | rfl | rfl <;> simp only [Option.some.injEq] at there
  · rw [← there]
    exact finite_texts _
  · rw [← there]
    trivial
  · rw [← there]
    trivial
  · rw [← there]
    refine finite_arr.mpr fun w mem => ?_
    obtain ⟨port, _, rfl⟩ := List.mem_map.mp mem
    exact ⟨trivial, trivial, trivial, trivial⟩
  · obtain ⟨resources, _, rfl⟩ := Option.map_eq_some_iff.mp there
    exact finite_resources resources
  · rw [← there]
    exact ⟨⟨trivial, trivial, trivial⟩, trivial⟩

theorem serving_tidy (plan : Plan) :
    (Serving.deployment plan).Tidy ∧ (Serving.service plan).Tidy := by
  constructor
  · refine tidy_object (ordered_obj ["replicas", "selector", "template"] rfl (by decide)) ?_ rfl rfl rfl
    exact finite_deploymentSpec _ _ _ ⟨⟨serving_container_finite _, trivial⟩, trivial⟩
  · refine tidy_object (ordered_obj ["ports", "selector", "type"] rfl (by decide)) ?_ rfl rfl rfl
    exact finite_serviceSpec (by simp [servicePort, fields, Json.Finite, FiniteMembers]) _ _

theorem identity_tidy (plan : Plan) : ∀ d ∈ Picker.identity plan, d.Tidy := by
  intro d mem
  simp only [Picker.identity, List.mem_cons, List.not_mem_nil, or_false] at mem
  rcases mem with rfl | rfl | rfl
  · exact tidy_of ["apiVersion", "kind", "metadata"] rfl (by decide)
      ⟨trivial, trivial, metadata_finite plan _ _, trivial⟩ rfl nofun nofun rfl rfl
  · refine tidy_of ["apiVersion", "kind", "metadata", "rules"] rfl (by decide)
      ⟨trivial, trivial, metadata_finite plan _ _, ?_, trivial⟩ rfl nofun nofun rfl rfl
    exact ⟨⟨finite_texts _, finite_texts _, finite_texts _, trivial⟩,
      ⟨finite_texts _, finite_texts _, finite_texts _, trivial⟩, trivial⟩
  · refine tidy_of ["apiVersion", "kind", "metadata", "roleRef", "subjects"] rfl (by decide)
      ⟨trivial, trivial, metadata_finite plan _ _, ?_, ?_, trivial⟩ rfl nofun nofun rfl rfl
    · exact ⟨trivial, trivial, trivial, trivial⟩
    · exact ⟨⟨trivial, trivial, trivial, trivial⟩, trivial⟩

theorem configMap_tidy (plan : Plan) : (PluginFile.configMap plan).Tidy :=
  tidy_of ["apiVersion", "data", "kind", "metadata"] rfl (by decide)
    ⟨trivial, ⟨trivial, trivial⟩, trivial, metadata_finite plan _ _, trivial⟩ rfl nofun nofun rfl rfl

theorem picker_tidy (plan : Plan) :
    (Picker.deployment plan).Tidy ∧ (Picker.service plan).Tidy := by
  constructor
  · refine tidy_object (ordered_obj ["replicas", "selector", "template"] rfl (by decide)) ?_ rfl rfl rfl
    refine finite_deploymentSpec _ _ _ ⟨⟨picker_container_finite plan, trivial⟩, trivial, ?_, trivial⟩
    exact ⟨⟨⟨trivial, trivial⟩, trivial, trivial⟩, trivial⟩
  · refine tidy_object (ordered_obj ["ports", "selector", "type"] rfl (by decide)) ?_ rfl rfl rfl
    refine finite_serviceSpec ?_ _ _
    intro p mem
    obtain ⟨port, _, rfl⟩ := List.mem_map.mp mem
    exact ⟨trivial, trivial, trivial, trivial, trivial⟩

theorem routing_tidy (plan : Plan) :
    (Routing.pool plan).Tidy ∧ (Routing.gateway plan).Tidy ∧ (Routing.httpRoute plan).Tidy := by
  refine ⟨?_, ?_, ?_⟩
  · refine tidy_object
      (ordered_obj ["endpointPickerRef", "selector", "targetPorts"] rfl (by decide)) ?_ rfl rfl rfl
    exact ⟨⟨trivial, trivial, ⟨trivial, trivial⟩, trivial⟩, ⟨finite_textMap _, trivial⟩,
      ⟨⟨trivial, trivial⟩, trivial⟩, trivial⟩
  · refine tidy_object (ordered_obj ["gatewayClassName", "listeners"] rfl (by decide)) ?_ rfl rfl rfl
    exact ⟨trivial, ⟨⟨⟨⟨trivial, trivial⟩, trivial⟩, trivial, trivial, trivial, trivial⟩, trivial⟩,
      trivial⟩
  · refine tidy_object (ordered_obj ["parentRefs", "rules"] rfl (by decide)) ?_ rfl rfl rfl
    exact ⟨⟨⟨trivial, trivial, trivial⟩, trivial⟩,
      ⟨⟨⟨⟨trivial, trivial, trivial, trivial, trivial⟩, trivial⟩,
        ⟨⟨⟨trivial, trivial, trivial⟩, trivial⟩, trivial⟩, trivial⟩, trivial⟩, trivial⟩

end Payload

theorem ChildKind.build_tidy (plan : Plan) (k : ChildKind) : ∀ d ∈ k.build plan, d.Tidy := by
  cases k with
  | workload => simpa [build] using (Payload.serving_tidy plan).1
  | accessPoint => simpa [build] using (Payload.serving_tidy plan).2
  | routingIdentity => exact Payload.identity_tidy plan
  | routingConfig => simpa [build] using Payload.configMap_tidy plan
  | routingWorkload => simpa [build] using (Payload.picker_tidy plan).1
  | routingAccessPoint => simpa [build] using (Payload.picker_tidy plan).2
  | pool => simpa [build] using (Payload.routing_tidy plan).1
  | gateway => simpa [build] using (Payload.routing_tidy plan).2.1
  | route => simpa [build] using (Payload.routing_tidy plan).2.2

namespace Plan

theorem children_tidy {plan : Plan} {d : ChildObject} (child : d ∈ plan.children) : d.Tidy := by
  obtain ⟨k, _, built⟩ := List.mem_flatMap.mp child
  exact k.build_tidy plan d built

theorem bind_eq_ok {ε α β : Type} {x : Except ε α} {f : α → Except ε β} {b : β} :
    x >>= f = .ok b ↔ ∃ a, x = .ok a ∧ f a = .ok b := by
  cases x with
  | error e => simp [bind, Except.bind]
  | ok a => simp [bind, Except.bind]

theorem resolve_parts {r : InferenceScheduler} {plan : Plan} (resolved : resolve r = .ok plan) :
    ∃ owner modelServer endpointPicker gateway,
      checkRoot r = .ok owner ∧ resolveServing r.spec.modelServer = .ok modelServer ∧
      resolvePicker r.spec.endpointPicker = .ok endpointPicker ∧
      resolveGateway r.spec.gateway = .ok gateway ∧
      plan = ⟨r.name, r.namespaceOr "default", owner, modelServer, endpointPicker, gateway⟩ := by
  obtain ⟨owner, root, rest⟩ := bind_eq_ok.mp resolved
  obtain ⟨modelServer, serving, rest⟩ := bind_eq_ok.mp rest
  obtain ⟨endpointPicker, picker, rest⟩ := bind_eq_ok.mp rest
  obtain ⟨gateway, listener, rest⟩ := bind_eq_ok.mp rest
  cases rest
  exact ⟨owner, modelServer, endpointPicker, gateway, root, serving, picker, listener, rfl⟩

theorem resolveServing_parts {s : ModelServerSpec} {m : ServingPlan}
    (resolved : resolveServing s = .ok m) : ∃ replicas port,
      requireReplicas "modelServer.replicas" (s.replicas.getD 2) = .ok replicas ∧
      requirePort "modelServer.port" (s.port.getD 8000) = .ok port ∧
      m = {
        serverType := s.serverType.getD .vllm
        modelName := s.modelName
        replicas := replicas
        image := s.image.getD (defaultImage (s.serverType.getD .vllm))
        resources := s.resources
        enablePrefixCaching := s.enablePrefixCaching.getD true
        gpuMemoryUtilization := s.gpuMemoryUtilization.getD defaultGpuMemoryUtilization
        hfTokenSecretName := s.hfTokenSecretName
        port := port
        extraLabels := s.labels.getD [] } := by
  simp only [resolveServing] at resolved
  split at resolved
  · cases resolved
  · split at resolved
    · cases resolved
    · split at resolved
      · cases resolved
      · obtain ⟨replicas, required, rest⟩ := bind_eq_ok.mp resolved
        obtain ⟨port, inRange, rest⟩ := bind_eq_ok.mp rest
        cases rest
        exact ⟨replicas, port, required, inRange, rfl⟩

theorem checkRoot_owner {r : InferenceScheduler} {owner : OwnerReference}
    (checked : checkRoot r = .ok owner) : r.ownerReference? = some owner := by
  unfold checkRoot at checked
  split at checked
  · cases checked
  · split at checked
    · cases checked
    · cases checked
      assumption

theorem resolve_root {r : InferenceScheduler} {plan : Plan} (resolved : resolve r = .ok plan) :
    plan.name = r.name ∧ plan.namespace_ = r.namespaceOr "default" ∧
      r.ownerReference? = some plan.owner := by
  obtain ⟨owner, modelServer, endpointPicker, gateway, checked, _, _, _, rfl⟩ :=
    resolve_parts resolved
  exact ⟨rfl, rfl, checkRoot_owner checked⟩

end Plan
end SchedulerOperator
