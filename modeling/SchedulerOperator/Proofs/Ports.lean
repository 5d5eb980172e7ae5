import SchedulerOperator.Proofs.References
import SchedulerOperator.Proofs.Selectors

namespace SchedulerOperator

namespace ChildObject

/-- No container opens a port twice, and no Service serves one twice. -/
structure PortsApart (d : ChildObject) : Prop where
  opened : ∀ container ∈ d.containers,
    ((container.get "ports").items.map fun p => p.get "containerPort").Nodup
  served : d.resource = .service → (d.ports.map fun p => p.get "port").Nodup

theorem PortsApart.none {d : ChildObject} (closed : d.containers = [])
    (other : d.resource ≠ .service) : d.PortsApart := by
  refine ⟨fun container mem => ?_, fun service => absurd service other⟩
  rw [closed] at mem
  cases mem

end ChildObject

namespace Plan
open Payload

theorem requirePort_value {field : String} {value n : Int}
    (required : requirePort field value = .ok n) : n = value := by
  unfold requirePort at required
  split at required
  · cases required
    rfl
  · cases required

theorem resolvePicker_ports {s : EndpointPickerSpec} {p : PickerPlan}
    (resolved : resolvePicker s = .ok p) :
    Picker.ports p = [("grpc", s.grpcPort.getD 9002), ("health", 9003), ("metrics", 9090)] := by
  obtain ⟨scorers, _, rest⟩ := bind_eq_ok.mp resolved
  obtain ⟨replicas, _, rest⟩ := bind_eq_ok.mp rest
  obtain ⟨port, required, rest⟩ := bind_eq_ok.mp rest
  cases rest
  rw [Picker.ports, requirePort_value required]

theorem picker_deployment_ports (plan : Plan) :
    (Picker.deployment plan).PortsApart ↔
      ((Picker.ports plan.endpointPicker).map fun p => Json.int p.2).Nodup := by
  have opened : ∀ container ∈ (Picker.deployment plan).containers,
      (container.get "ports").items.map (fun p => p.get "containerPort") =
        (Picker.ports plan.endpointPicker).map fun p => Json.int p.2 := by
    intro container mem
    rw [List.mem_singleton.mp mem]
    rfl
  constructor
  · intro apart
    have here := apart.opened _ List.mem_cons_self
    rwa [opened _ List.mem_cons_self] at here
  · intro apart
    refine ⟨fun container mem => ?_, fun service => by cases service⟩
    rw [opened container mem]
    exact apart

theorem picker_service_ports (plan : Plan) :
    (Picker.service plan).PortsApart ↔
      ((Picker.ports plan.endpointPicker).map fun p => Json.int p.2).Nodup :=
  ⟨fun apart => apart.served rfl,
    fun apart => ⟨fun _ mem => absurd mem List.not_mem_nil, fun _ => apart⟩⟩

def pickerObjects (plan : Plan) : List ChildObject := [Picker.deployment plan, Picker.service plan]

theorem others_ports {plan : Plan} {d : ChildObject} (child : d ∈ plan.children)
    (other : d ∉ plan.pickerObjects) : d.PortsApart := by
  obtain ⟨k, _, built⟩ := List.mem_flatMap.mp child
  cases k with
  | workload =>
    rw [List.mem_singleton.mp built]
    refine ⟨fun container mem => ?_, fun service => by cases service⟩
    rw [List.mem_singleton.mp mem]
    exact List.nodup_singleton _
  | accessPoint =>
    rw [List.mem_singleton.mp built]
    exact ⟨fun _ mem => absurd mem List.not_mem_nil, fun _ => List.nodup_singleton _⟩
  | routingIdentity =>
    simp only [ChildKind.build, Picker.identity, List.mem_cons, List.not_mem_nil, or_false] at built
    rcases built with rfl | rfl | rfl <;> exact .none rfl fun service => by cases service
  | routingWorkload =>
    rw [List.mem_singleton.mp built] at other
    exact absurd List.mem_cons_self other
  | routingAccessPoint =>
    rw [List.mem_singleton.mp built] at other
    exact absurd (List.mem_cons_of_mem _ List.mem_cons_self) other
  | routingConfig | pool | gateway | route =>
    rw [List.mem_singleton.mp built]
    exact .none rfl fun service => by cases service

/-- Every object opens ports of different numbers, but for the Deployment and the Service of the
picker. These do so exactly if the port that the user chooses is none of the two fixed ones. -/
theorem ports_differ_unless_fixed_one_is_chosen {r : InferenceScheduler} {plan : Plan}
    (resolved : resolve r = .ok plan) :
    (∀ d ∈ plan.children, d ∉ plan.pickerObjects → d.PortsApart) ∧
    ∀ d ∈ plan.pickerObjects, d ∈ plan.children ∧
      (d.PortsApart ↔ r.spec.endpointPicker.grpcPort.getD 9002 ∉ ([9003, 9090] : List Int)) := by
  obtain ⟨_, _, endpointPicker, _, _, _, picker, _, rfl⟩ := resolve_parts resolved
  have numbers : ((Picker.ports endpointPicker).map fun p => Json.int p.2).Nodup ↔
      r.spec.endpointPicker.grpcPort.getD 9002 ∉ ([9003, 9090] : List Int) := by
    rw [resolvePicker_ports picker]
    simp
  refine ⟨fun d => others_ports, fun d mem => ?_⟩
  simp only [pickerObjects, List.mem_cons, List.not_mem_nil, or_false] at mem
  rcases mem with rfl | rfl
  · exact ⟨ChildKind.routingWorkload.build_children List.mem_cons_self,
      (picker_deployment_ports _).trans numbers⟩
  · exact ⟨ChildKind.routingAccessPoint.build_children List.mem_cons_self,
      (picker_service_ports _).trans numbers⟩

def rootPickedAt (port : Int) : InferenceScheduler :=
  { rootServing "m" with
    spec :=
      { modelServer := { modelName := "m", hfTokenSecretName := "s" }
        endpointPicker := { grpcPort := some port } } }

theorem ports_differ_at_next_number : ∃ plan, resolve (rootPickedAt 9004) = .ok plan ∧
    ∀ d ∈ plan.children, d.PortsApart := by
  obtain ⟨plan, resolved⟩ : ∃ plan, resolve (rootPickedAt 9004) = .ok plan :=
    resolves_of_isOk (by decide +kernel)
  obtain ⟨others, picker⟩ := ports_differ_unless_fixed_one_is_chosen resolved
  refine ⟨plan, resolved, fun d child => ?_⟩
  by_cases opens : d ∈ plan.pickerObjects
  · exact (picker d opens).2.mpr (by decide)
  · exact others d child opens

/-- Not all roots that resolve get ports of different numbers: the port of the health checks may be
chosen for the requests as well. -/
theorem health_port_opened_twice :
    ¬ ∀ (r : InferenceScheduler) (plan : Plan), resolve r = .ok plan →
      ∀ d ∈ plan.children, d.PortsApart := by
  intro apart
  obtain ⟨plan, resolved⟩ : ∃ plan, resolve (rootPickedAt 9003) = .ok plan :=
    resolves_of_isOk (by decide +kernel)
  obtain ⟨_, _, endpointPicker, _, _, _, picker, _, rfl⟩ := resolve_parts resolved
  have served := (picker_service_ports _).mp
    (apart _ _ resolved _ (ChildKind.routingAccessPoint.build_children List.mem_cons_self))
  rw [resolvePicker_ports picker] at served
  simp [rootPickedAt] at served

end Plan
end SchedulerOperator
