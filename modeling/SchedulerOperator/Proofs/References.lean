import SchedulerOperator.Proofs.Coordinates
import SchedulerOperator.Proofs.Prerequisites

namespace SchedulerOperator
open Pass Payload

namespace Json

def dig (v : Json) (path : List String) : Json := path.foldl Json.get v

def Passes (container : Json) (flag value : String) : Prop :=
  ∀ other, .str (flag ++ "=" ++ other) ∈ (container.get "args").items ↔ other = value

theorem passes_texts {container : Json} {args : List String}
    (listed : container.get "args" = .texts args) {flag value : String}
    (once : ∀ other, flag ++ "=" ++ other ∈ args ↔ other = value) :
    container.Passes flag value := by
  intro other
  rw [listed, ← once other]
  change Json.str _ ∈ args.map Json.str ↔ _
  simp

end Json

namespace ChildObject

structure Called (t : ResourceType) (ns name : Json) (d : ChildObject) : Prop where
  names : d.payload.Names t.builtinApi
  placed : d.payload.dig ["metadata", "namespace"] = ns
  named : d.payload.dig ["metadata", "name"] = name

def containers (d : ChildObject) : List Json :=
  (d.payload.dig ["spec", "template", "spec", "containers"]).items

def volumes (d : ChildObject) : List Json :=
  (d.payload.dig ["spec", "template", "spec", "volumes"]).items

def ports (d : ChildObject) : List Json := (d.payload.dig ["spec", "ports"]).items

end ChildObject

namespace Plan
variable {plan : Plan} {k : ChildKind} {d : ChildObject}

def Refers (plan : Plan) (t : ResourceType) (ns name : Json) (d : ChildObject) : Prop :=
  d ∈ plan.children ∧ ∀ e ∈ plan.children, e.Called t ns name ↔ e = d

theorem eq_of_built {e : ChildObject} (built : d ∈ k.build plan) (built' : e ∈ k.build plan)
    (same : e.resource = d.resource) : e = d := by
  cases k with
  | routingIdentity =>
    simp only [ChildKind.build, Picker.identity, List.mem_cons, List.not_mem_nil, or_false]
      at built built'
    rcases built with rfl | rfl | rfl <;> rcases built' with rfl | rfl | rfl <;>
      first | rfl | cases same
  | _ => rw [List.mem_singleton.mp built, List.mem_singleton.mp built']

theorem name_of_built (built : d ∈ k.build plan) : d.name = k.childName plan.name := by
  have key : (d.resource, d.name) ∈ k.resources.map fun t => (t, k.childName plan.name) :=
    k.build_keys plan ▸ List.mem_map_of_mem built
  obtain ⟨t, _, same⟩ := List.mem_map.mp key
  exact (Prod.mk.inj same).2.symm

theorem called_of_child (child : d ∈ plan.children) :
    d.Called d.resource (.str d.namespace_) (.str d.name) where
  names := (ChildObject.namesBuiltin child).names
  placed := congrArg (fun member => member.getD .null) (children_tidy child).placed
  named := (children_tidy child).named

theorem refers_built (built : d ∈ k.build plan) :
    plan.Refers d.resource (.str plan.namespace_) (.str (k.childName plan.name)) d := by
  have child : d ∈ plan.children := ChildKind.build_children built
  refine ⟨child, fun e child' => ⟨fun called => ?_, ?_⟩⟩
  · have itself := called_of_child child'
    have kind : some e.resource.builtinApi.kind = some d.resource.builtinApi.kind :=
      itself.names.2.symm.trans called.names.2
    have name : Json.str e.name = .str (k.childName plan.name) :=
      itself.named.symm.trans called.named
    obtain ⟨l, _, built'⟩ := List.mem_flatMap.mp child'
    rw [name_of_built built', Json.str.injEq] at name
    obtain rfl := ChildKind.childName_inj name
    exact eq_of_built built built' (ResourceType.builtin_kind_inj (Option.some.inj kind))
  · rintro rfl
    have itself := called_of_child child
    rwa [name_of_built built, (k.build_placed plan e built).1] at itself

/-- The pool leads to the Service of the picker, by one of its ports. -/
structure PoolLeadsToPicker (plan : Plan) : Prop where
  service : plan.Refers .service (.str plan.namespace_)
    ((Routing.pool plan).payload.dig ["spec", "endpointPickerRef", "name"]) (Picker.service plan)
  port : ∃ p ∈ (Picker.service plan).ports,
    p.get "port" = (Routing.pool plan).payload.dig ["spec", "endpointPickerRef", "port", "number"]

/-- The one container of the picker opens the ports that are asked of it, and is told them, the
pool and its file. -/
structure PickerServes (plan : Plan) (container : Json) : Prop where
  only : (Picker.deployment plan).containers = [container]
  targets : ∀ p ∈ (Picker.service plan).ports, ∃ o ∈ (container.get "ports").items,
    o.get "containerPort" = p.get "targetPort"
  grpc : ∃ n : Int, container.Passes "--grpc-port" (toString n) ∧
    (Routing.pool plan).payload.dig ["spec", "endpointPickerRef", "port", "number"] = .int n ∧
    ∃ p ∈ (Picker.service plan).ports,
      p.get "name" = .str "grpc" ∧ p.get "port" = .int n ∧ p.get "targetPort" = .int n
  health : ∃ n : Int, container.Passes "--grpc-health-port" (toString n) ∧
    ∃ p ∈ (Picker.service plan).ports, p.get "name" = .str "health" ∧ p.get "targetPort" = .int n
  pool : ∃ name ns, container.Passes "--pool-name" name ∧ container.Passes "--pool-namespace" ns ∧
    plan.Refers .inferencePool (.str ns) (.str name) (Routing.pool plan)
  mounted : ∀ m ∈ (container.get "volumeMounts").items,
    ∃ v ∈ (Picker.deployment plan).volumes, v.get "name" = m.get "name"
  volumes : ∀ v ∈ (Picker.deployment plan).volumes, plan.Refers .configMap (.str plan.namespace_)
    (v.dig ["configMap", "name"]) (PluginFile.configMap plan)
  file : ∃ m ∈ (container.get "volumeMounts").items, ∃ path key,
    m.get "mountPath" = .str path ∧ container.Passes "--config-file" (path ++ "/" ++ key) ∧
    (((PluginFile.configMap plan).payload.get "data").get? key).isSome

def account (plan : Plan) : ChildObject :=
  child plan .serviceAccount .routingIdentity (Picker.serviceAccount plan)

def role (plan : Plan) : ChildObject := child plan .role .routingIdentity (Picker.role plan)

def binding (plan : Plan) : ChildObject :=
  child plan .roleBinding .routingIdentity (Picker.roleBinding plan)

/-- The picker runs under an account, and that account alone is bound to the Role. -/
structure IdentityBound (plan : Plan) : Prop where
  account : plan.Refers .serviceAccount (.str plan.namespace_)
    ((Picker.deployment plan).payload.dig ["spec", "template", "spec", "serviceAccountName"])
    (account plan)
  subjects : ∃ subject, (plan.binding.payload.get "subjects").items = [subject] ∧
    subject.get "kind" = .str ResourceType.serviceAccount.builtinApi.kind ∧
    plan.Refers .serviceAccount (subject.get "namespace") (subject.get "name") (Plan.account plan)
  group : plan.binding.payload.dig ["roleRef", "apiGroup"] = .str ResourceType.role.builtinApi.group
  kind : plan.binding.payload.dig ["roleRef", "kind"] = .str ResourceType.role.builtinApi.kind
  role : plan.Refers .role (.str plan.namespace_) (plan.binding.payload.dig ["roleRef", "name"])
    (Plan.role plan)

structure RouteJoins (plan : Plan) (port : Int) : Prop where
  parent : ∃ p, ((Routing.httpRoute plan).payload.dig ["spec", "parentRefs"]).items = [p] ∧
    plan.Refers .gateway (p.get "namespace") (p.get "name") (Routing.gateway plan)
  backend : ∃ rule b, ((Routing.httpRoute plan).payload.dig ["spec", "rules"]).items = [rule] ∧
    (rule.get "backendRefs").items = [b] ∧
    b.get "group" = .str ResourceType.inferencePool.builtinApi.group ∧
    b.get "kind" = .str ResourceType.inferencePool.builtinApi.kind ∧
    plan.Refers .inferencePool (.str plan.namespace_) (b.get "name") (Routing.pool plan) ∧
    b.get "port" = .int port

/-- The pool, the Service and the model server agree on this port, and the pool and the Service on
the pods behind it. -/
structure ModelServes (plan : Plan) (port : Int) : Prop where
  target : ((Routing.pool plan).payload.dig ["spec", "targetPorts"]).items.map (·.get "number") =
    [.int port]
  service : (Serving.service plan).ports.map (fun p => (p.get "port", p.get "targetPort")) =
    [(.int port, .int port)]
  container : ∃ c, (Serving.deployment plan).containers = [c] ∧
    (c.get "ports").items.map (·.get "containerPort") = [.int port] ∧
    c.Passes "--port" (toString port)
  selector : (Routing.pool plan).payload.dig ["spec", "selector", "matchLabels"] =
    (Serving.service plan).payload.dig ["spec", "selector"]

theorem leads_to_picker (plan : Plan) : plan.PoolLeadsToPicker where
  service := refers_built (k := .routingAccessPoint) (d := Picker.service plan) List.mem_cons_self
  port := ⟨_, List.mem_cons_self, rfl⟩

theorem identity_bound (plan : Plan) : plan.IdentityBound where
  account := refers_built (k := .routingIdentity) (d := account plan) List.mem_cons_self
  subjects := ⟨_, rfl, rfl,
    refers_built (k := .routingIdentity) (d := account plan) List.mem_cons_self⟩
  group := rfl
  kind := rfl
  role := refers_built (k := .routingIdentity) (d := role plan)
    (List.mem_cons_of_mem _ List.mem_cons_self)

theorem route_joins (plan : Plan) : plan.RouteJoins plan.modelServer.port where
  parent := ⟨_, rfl, refers_built (k := .gateway) (d := Routing.gateway plan) List.mem_cons_self⟩
  backend := ⟨_, _, rfl, rfl, rfl, rfl,
    refers_built (k := .pool) (d := Routing.pool plan) List.mem_cons_self, rfl⟩

theorem serving_port (s : ServingPlan) (other : String) :
    "--port" ++ "=" ++ other ∈ Serving.args s ↔ other = toString s.port := by
  cases type : s.serverType <;> cases caching : s.enablePrefixCaching <;>
    simp [Serving.args, type, caching, ← String.toList_inj]

theorem model_serves (plan : Plan) : plan.ModelServes plan.modelServer.port where
  target := rfl
  service := rfl
  container := ⟨_, rfl, rfl, Json.passes_texts rfl (serving_port plan.modelServer)⟩
  selector := rfl

theorem picker_passes {flag value : String}
    (once : ∀ other, flag ++ "=" ++ other ∈ Picker.args plan ↔ other = value) :
    (Picker.container plan).Passes flag value := Json.passes_texts rfl once

theorem picker_mounts (plan : Plan) : (Picker.container plan).get "volumeMounts" =
    .arr [fields [("mountPath", .str PluginFile.mountPath), ("name", .str "config")]] := by
  unfold Picker.container
  cases plan.endpointPicker.resources <;> rfl

theorem picker_serves (plan : Plan) : plan.PickerServes (Picker.container plan) where
  only := rfl
  targets := by
    intro p mem
    obtain ⟨port, listed, rfl⟩ := List.mem_map.mp mem
    exact ⟨_, List.mem_map_of_mem listed, rfl⟩
  grpc := by
    refine ⟨plan.endpointPicker.grpcPort, picker_passes fun other => ?_, rfl, _,
      List.mem_cons_self, rfl, rfl, rfl⟩
    simp [Picker.args, ← String.toList_inj]
  health := by
    refine ⟨plan.endpointPicker.healthPort, picker_passes fun other => ?_, _,
      List.mem_cons_of_mem _ List.mem_cons_self, rfl, rfl⟩
    simp [Picker.args, ← String.toList_inj]
  pool := by
    refine ⟨ChildKind.pool.childName plan.name, plan.namespace_, picker_passes fun other => ?_,
      picker_passes fun other => ?_,
      refers_built (k := .pool) (d := Routing.pool plan) List.mem_cons_self⟩
    · simp [Picker.args, ← String.toList_inj]
    · simp [Picker.args, ← String.toList_inj]
  mounted := by
    rw [picker_mounts]
    rintro m mem
    rw [List.mem_singleton.mp mem]
    exact ⟨_, List.mem_cons_self, rfl⟩
  volumes := by
    intro v mem
    rw [List.mem_singleton.mp mem]
    exact refers_built (k := .routingConfig) (d := PluginFile.configMap plan) List.mem_cons_self
  file := by
    rw [picker_mounts]
    refine ⟨_, List.mem_cons_self, PluginFile.mountPath, PluginFile.key, rfl,
      picker_passes fun other => ?_, rfl⟩
    simp [Picker.args, PluginFile.mountPath, PluginFile.key, ← String.toList_inj]

end Plan

namespace Preflight
variable {registry : TypeRegistry} {name : String} {before : List Turn}

theorem mem_withoutRepeats {texts seen : List String} {s : String} (mem : s ∈ texts)
    (unseen : s ∉ seen) : s ∈ withoutRepeats seen texts := by
  induction texts generalizing seen with
  | nil => cases mem
  | cons t rest ih =>
    rw [withoutRepeats]
    by_cases same : s = t
    · subst same
      rw [if_neg (by simpa using unseen)]
      exact List.mem_cons_self
    · have later : s ∈ rest := (List.mem_cons.mp mem).resolve_left same
      split
      · exact ih later unseen
      · exact List.mem_cons_of_mem _ (ih later (by simp [same, unseen]))

theorem installed_of_nothing_missing {probed : List (Capability × Bool)}
    (nothing : missingMessages [] probed = []) : ∀ p ∈ probed, p.2 = true := by
  induction probed with
  | nil => exact nofun
  | cons p rest ih =>
    obtain ⟨c, installed⟩ := p
    cases installed with
    | false => cases nothing
    | true => exact List.forall_mem_cons.mpr ⟨rfl, ih nothing⟩

def classesListed (registry : TypeRegistry) (names : List String) : Turn :=
  ⟨.listNames (registry.api .gatewayClass) none none, .ok names⟩

/-- What was found depends on whether the class of this name is there: nothing is found to be fine
without it, and where it is not among the classes it is named as missing. -/
structure AsksFor (registry : TypeRegistry) (name : String) (turns : List Turn)
    (found : Preflight) : Prop where
  there : found = .satisfied → ∃ names, classesListed registry names ∈ turns ∧ name ∈ names
  absent : ∀ names, classesListed registry names ∈ turns → name ∉ names →
    ∃ items, found = .missing items ∧ missingClass name ∈ items

theorem ofItems_satisfied {texts : List String}
    (fine : ofItems (withoutRepeats [] texts) = .satisfied) : texts = [] := by
  cases texts with
  | nil => rfl
  | cons s rest => cases fine

theorem ofItems_of_mem {texts : List String} {s : String} (mem : s ∈ texts) :
    ∃ items, ofItems (withoutRepeats [] texts) = .missing items ∧ s ∈ items := by
  have told := mem_withoutRepeats mem List.not_mem_nil
  exact ⟨_, Engine.ofItems_missing (List.ne_nil_of_mem told), told⟩

theorem check_asks_for_class (plan : Plan) :
    Conforms (fun _ _ => True)
      (fun later out => ∀ found, out = .ok found →
        AsksFor registry plan.gateway.className.name later found) []
      (ExceptT.run (check registry plan)) := by
  have probing : Conforms _ _ [] (ExceptT.run (probe registry Capability.all)) :=
    probe_conforms Capability.all
  refine conforms_attempt.mpr (Conforms.of_runs _ (probing.mono fun _ _ _ => trivial)
    (fun _ _ _ => trivial) ?_)
  intro probes out run limited
  -- Nothing that was probed is a list of all classes.
  have unlisted : ∀ names, classesListed registry names ∉ probes := by
    intro names mem
    obtain ⟨api, same⟩ := limited _ mem
    cases same
  rcases out with e | probed
  · nofun
  have listed : probed.map Prod.fst = Capability.all := probing.at_end run probed rfl
  refine conforms_attempt.mpr ?_
  split
  next typed =>
    refine conforms_attempt.mpr ⟨trivial, ?_⟩
    rintro (e | names)
    · nofun
    rintro found ⟨⟩
    constructor
    · intro fine
      refine ⟨names, List.mem_append_right _ List.mem_cons_self, ?_⟩
      have nothing := (List.append_eq_nil_iff.mp (ofItems_satisfied fine)).2
      by_contra gone
      rw [if_neg (by simpa using gone)] at nothing
      cases nothing
    · intro names' mem gone
      have same : classesListed registry names' = ⟨_, .ok names⟩ :=
        List.mem_singleton.mp ((List.mem_append.mp mem).resolve_left (unlisted names'))
      cases same
      refine ofItems_of_mem (List.mem_append_right _ ?_)
      rw [if_neg (by simpa using gone)]
      exact List.mem_cons_self
  next untyped =>
    rintro found ⟨⟩
    constructor
    · intro fine
      have nothing := (List.append_eq_nil_iff.mp (ofItems_satisfied fine)).1
      refine absurd ?_ untyped
      obtain ⟨c, known, isClass⟩ : ∃ c ∈ probed.map Prod.fst, c.resource = .gatewayClass := by
        rw [listed]
        decide
      obtain ⟨p, mem, rfl⟩ := List.mem_map.mp known
      refine List.any_eq_true.mpr ⟨p, mem, ?_⟩
      rw [isClass, installed_of_nothing_missing nothing p mem]
      rfl
    · intro names mem
      exact absurd mem (unlisted names)

end Preflight

namespace Plan

/-- The gateway is of the class that the check asks for, whatever the store replies. -/
def ClassChecked (plan : Plan) : Prop :=
  ∃ name, (Routing.gateway plan).payload.dig ["spec", "gatewayClassName"] = .str name ∧
    ∀ registry trace found, Runs (ExceptT.run (Preflight.check registry plan)) trace (.ok found) →
      Preflight.AsksFor registry name trace found

theorem class_checked (plan : Plan) : plan.ClassChecked :=
  ⟨plan.gateway.className.name, rfl, fun _ _ found run =>
    (Preflight.check_asks_for_class plan).at_end run found rfl⟩

/-- What is built for a root is complete in itself: each object lies in the root's namespace, and
what one says of another is so. -/
theorem children_refer_to_children {r : InferenceScheduler} {plan : Plan}
    (resolved : resolve r = .ok plan) :
    plan.children.length = 11 ∧
    (∀ d ∈ plan.children,
      d.payload.dig ["metadata", "namespace"] = .str (r.namespaceOr "default")) ∧
    plan.PoolLeadsToPicker ∧ (∃ container, plan.PickerServes container) ∧ plan.IdentityBound ∧
    plan.RouteJoins plan.modelServer.port ∧ plan.ModelServes plan.modelServer.port ∧
    plan.ClassChecked := by
  obtain ⟨_, placed, _⟩ := resolve_root resolved
  refine ⟨rfl, fun d child => ?_, leads_to_picker plan, ⟨_, picker_serves plan⟩,
    identity_bound plan, route_joins plan, model_serves plan, class_checked plan⟩
  obtain ⟨k, _, built⟩ := List.mem_flatMap.mp child
  rw [(called_of_child child).placed, (k.build_placed plan d built).1, placed]

def rootJoined : InferenceScheduler where
  metadata := { name := some "demo", namespace_ := some "ml", uid := some "uid-0001" }
  spec :=
    { modelServer :=
        { serverType := some .tgi, modelName := "m", hfTokenSecretName := "s", port := some 8080 }
      endpointPicker := { grpcPort := some 9100 }
      gateway := { className := some .istio } }
  status := none

theorem rootJoined_refers_to_children : ∃ plan, resolve rootJoined = .ok plan ∧
    (∀ d ∈ plan.children, d.payload.dig ["metadata", "namespace"] = .str "ml") ∧
    (∃ container, plan.PickerServes container) ∧ plan.RouteJoins 8080 ∧ plan.ModelServes 8080 ∧
    plan.ClassChecked := by
  have resolved : ∃ plan, resolve rootJoined = .ok plan := ⟨_, rfl⟩
  obtain ⟨plan, resolved⟩ := resolved
  have port : plan.modelServer.port = 8080 := by
    cases resolved
    rfl
  obtain ⟨_, placed, _, picker, _, route, model, checked⟩ := children_refer_to_children resolved
  rw [port] at route model
  exact ⟨plan, resolved, placed, picker, route, model, checked⟩

end Plan

end SchedulerOperator
