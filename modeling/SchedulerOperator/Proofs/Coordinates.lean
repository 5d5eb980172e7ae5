import SchedulerOperator.Proofs.ChildCalls
import SchedulerOperator.Proofs.StoredChild

/-!
An object is addressed by the coordinates of the registry, but it is built with the built-in ones:
it names its own type, and the group and kind of the pool, as if nothing had been replaced.
-/
namespace SchedulerOperator
open Pass

namespace TypeRegistry

def overriding (registry : TypeRegistry) (os : List (ResourceType × ApiResource)) : TypeRegistry :=
  os.foldl (fun registry o => registry.override o.1 o.2) registry

theorem overriding_api (registry : TypeRegistry) (os : List (ResourceType × ApiResource))
    (t : ResourceType) :
    (registry.overriding os).api t = (Assoc.get? t os.reverse).getD (registry.api t) := by
  induction os generalizing registry with
  | nil => rfl
  | cons o rest ih =>
    change ((registry.override o.1 o.2).overriding rest).api t = _
    rw [ih, List.reverse_cons, Assoc.get?_append]
    cases Assoc.get? t rest.reverse with
    | some api => rfl
    | none =>
      change (if t = o.1 then o.2 else registry.api t) = (if t = o.1 then some o.2 else none).getD _
      split <;> rfl

end TypeRegistry

/-- What is sent to be stored, and through which coordinates. -/
def StoreCall.sent? : StoreCall → Option (ApiResource × Json)
  | .create api _ object => some (api, object)
  | .replace api _ _ object => some (api, object)
  | _ => none

theorem StoreCall.isChildWrite_of_sent {c : StoreCall} {api : ApiResource} {object : Json}
    (sent : c.sent? = some (api, object)) : c.isChildWrite = true := by
  cases c with
  | create => rfl
  | replace => rfl
  | _ => cases sent

namespace Json
variable {v : Json} {t : ResourceType} {api api' pool : ApiResource}

def Names (api : ApiResource) (v : Json) : Prop :=
  (v.get "apiVersion").str? = some api.apiVersion ∧ (v.get "kind").str? = some api.kind

instance : Decidable (Names api v) := inferInstanceAs (Decidable (_ ∧ _))

def items (v : Json) : List Json := v.arr?.getD []

def grantedGroups (resource : String) (role : Json) : List (Option String) :=
  ((role.get "rules").items.filter fun rule =>
    ((rule.get "resources").items.map str?).contains (some resource)).flatMap fun rule =>
      (rule.get "apiGroups").items.map str?

def backends (route : Json) : List (Option String × Option String) :=
  ((route.get "spec").get "rules").items.flatMap fun rule =>
    (rule.get "backendRefs").items.map fun b => ((b.get "group").str?, (b.get "kind").str?)

/-- Where the object speaks of pools it means those of this group and kind. -/
structure RefersTo (pool : ApiResource) (v : Json) : Prop where
  granted : ∀ group ∈ v.grantedGroups "inferencepools", group = some pool.group
  routed : ∀ b ∈ v.backends, b = (some pool.group, some pool.kind)

/-- All types that the object names are the built-in ones. -/
structure NamesBuiltin (t : ResourceType) (v : Json) : Prop where
  names : v.Names t.builtinApi
  granted : v.grantedGroups "inferencepools" = if t = .role then [some inferenceApiGroup] else []
  routed : v.backends =
    if t = .httpRoute then [(some inferenceApiGroup, some "InferencePool")] else []

theorem Names.iff (names : v.Names api) :
    v.Names api' ↔ api'.apiVersion = api.apiVersion ∧ api'.kind = api.kind := by
  unfold Names
  rw [names.1, names.2]
  simp [eq_comm]

theorem NamesBuiltin.refersTo_iff (builtin : v.NamesBuiltin t) : v.RefersTo pool ↔
    (t = .role → pool.group = inferenceApiGroup) ∧
      (t = .httpRoute → pool.group = inferenceApiGroup ∧ pool.kind = "InferencePool") := by
  constructor
  · intro ⟨granted, routed⟩
    rw [builtin.granted] at granted
    rw [builtin.routed] at routed
    constructor
    · rintro rfl
      exact (Option.some.inj (granted _ List.mem_cons_self)).symm
    · rintro rfl
      obtain ⟨group, kind⟩ := Prod.mk.inj (routed _ List.mem_cons_self)
      exact ⟨(Option.some.inj group).symm, (Option.some.inj kind).symm⟩
  · intro ⟨role, route⟩
    refine ⟨?_, ?_⟩
    · rw [builtin.granted]
      split
      · rename_i isRole
        simp [role isRole]
      · nofun
    · rw [builtin.routed]
      split
      · rename_i isRoute
        simp [route isRoute]
      · nofun

end Json

namespace ChildObject
variable {d : ChildObject} {registry : TypeRegistry} {carried : Carried} {v : Json}

theorem namesBuiltin {plan : Plan} (child : d ∈ plan.children) :
    d.payload.NamesBuiltin d.resource := by
  obtain ⟨k, _, built⟩ := List.mem_flatMap.mp child
  cases k with
  | routingIdentity =>
    simp only [ChildKind.build, Payload.Picker.identity, List.mem_cons, List.not_mem_nil,
      or_false] at built
    rcases built with rfl | rfl | rfl <;> exact ⟨⟨rfl, rfl⟩, rfl, rfl⟩
  | _ =>
    rw [List.mem_singleton.mp built]
    exact ⟨⟨rfl, rfl⟩, rfl, rfl⟩

theorem Sends.reads {c : StoreCall} {api : ApiResource} (sends : d.Sends registry c) (tidy : d.Tidy)
    (sent : c.sent? = some (api, v)) :
    api = registry.api d.resource ∧ ∃ carried, d.Reads carried v := by
  cases sends with
  | creates =>
    cases sent
    exact ⟨rfl, _, tidy.reads.setOwners _⟩
  | replaces existing =>
    cases sent
    exact ⟨rfl, _, tidy.replacement existing⟩

theorem Reads.get (reads : d.Reads carried v) {k : String} (metadata : k ≠ "metadata")
    (spec : k ≠ "spec") (status : k ≠ "status") : v.get k = d.payload.get k :=
  congrArg (fun member => member.getD .null) (reads.outside k metadata spec status)

theorem Reads.get_in_spec (reads : d.Reads carried v) {k : String} (address : k ≠ "clusterIP")
    (addresses : k ≠ "clusterIPs") : (v.get "spec").get k = (d.payload.get "spec").get k := by
  cases there : d.payload.get? "spec" with
  | some spec =>
    rw [reads.get_spec (by rw [there]; rfl), inSpec, if_neg address, if_neg addresses]
    rfl
  | none =>
    have gone : v.get? "spec" = none := by
      have has := reads.hasSpec
      rw [there] at has
      exact Option.isNone_iff_eq_none.mp (by simpa using has)
    have null : ∀ {w : Json}, w.get? "spec" = none → w.get "spec" = .null := by
      intro w none
      rw [Json.get, none]
      rfl
    rw [null gone, null there]

/-- What reads like the payload names what the payload names. -/
theorem Reads.namesBuiltin {t : ResourceType} (reads : d.Reads carried v)
    (builtin : d.payload.NamesBuiltin t) : v.NamesBuiltin t where
  names := by
    unfold Json.Names
    rw [reads.get (by decide) (by decide) (by decide), reads.get (by decide) (by decide) (by decide)]
    exact builtin.names
  granted := by
    rw [Json.grantedGroups, reads.get (by decide) (by decide) (by decide)]
    exact builtin.granted
  routed := by
    rw [Json.backends, reads.get_in_spec (by decide) (by decide)]
    exact builtin.routed

end ChildObject

namespace Engine

/-- Whatever coordinates were replaced, and whatever the store replies: an object that a pass sends
through the registry's coordinates for the type of a child names the built-in ones. So it names the
coordinates that it is sent through exactly if these have the built-in API version and kind; and
what the Role and the route say about the pool is right exactly if the pool's group, and for the
route its kind, are the built-in ones. -/
theorem written_objects_name_builtin_types {os : List (ResourceType × ApiResource)}
    {settings : PassSettings} {ns name : String} {trace : List Turn}
    {result : Except ReconcileError Requeue} {t : Turn} {api : ApiResource} {object : Json}
    (run : Runs ((Engine.mk (TypeRegistry.builtin.overriding os) settings).reconcile ns name)
      trace result)
    (mem : t ∈ trace) (sent : t.call.sent? = some (api, object)) :
    let pool := (TypeRegistry.builtin.overriding os).api .inferencePool
    ∃ r plan d, ⟨.getRoot ns name, .ok (some r)⟩ ∈ trace ∧ Plan.resolve r = .ok plan ∧
      d ∈ plan.children ∧
      api = (Assoc.get? d.resource os.reverse).getD d.resource.builtinApi ∧
      object.Names d.resource.builtinApi ∧
      (object.Names api ↔ api.apiVersion = d.resource.builtinApi.apiVersion ∧
        api.kind = d.resource.builtinApi.kind) ∧
      (object.RefersTo pool ↔ (d.resource = .role → pool.group = inferenceApiGroup) ∧
        (d.resource = .httpRoute → pool.group = inferenceApiGroup ∧ pool.kind = "InferencePool")) := by
  intro pool
  obtain ⟨r, read, plan, resolved, d, child, sends⟩ :=
    writes_are_built run t mem (StoreCall.isChildWrite_of_sent sent)
  obtain ⟨through, carried, reads⟩ := sends.reads (Plan.children_tidy child) sent
  have builtin := reads.namesBuiltin (ChildObject.namesBuiltin child)
  refine ⟨r, plan, d, read, resolved, child, ?_, builtin.names, builtin.names.iff,
    builtin.refersTo_iff⟩
  rw [through, TypeRegistry.overriding_api]
  rfl

def alphaPool : ApiResource :=
  .of "inference.networking.x-k8s.io" "v1alpha2" "InferencePool" "inferencepools"

def alphaTurns : List Turn :=
  ((Engine.mk (TypeRegistry.builtin.overriding [(.inferencePool, alphaPool)]) {}).reconcile
    "default" "demo").turns (Cluster.asStore "") (Cluster.fresh.install alphaPool)

theorem alphaTurns_run : ∃ result,
    Runs ((Engine.mk (TypeRegistry.builtin.overriding [(.inferencePool, alphaPool)]) {}).reconcile
      "default" "demo") alphaTurns result := ⟨_, runs_turns _ _ _⟩

theorem alphaTurns_pool : ∃ t ∈ alphaTurns, ∃ object, t.call.sent? = some (alphaPool, object) := by
  have written : (alphaTurns.any fun t => t.call.sent?.any fun s => s.1 = alphaPool) = true := by
    decide +kernel
  obtain ⟨t, mem, sent⟩ := List.any_eq_true.mp written
  obtain ⟨⟨api, object⟩, same, isAlpha⟩ := Option.any_eq_true _ _ |>.mp sent
  cases of_decide_eq_true isAlpha
  exact ⟨t, mem, object, same⟩

theorem earlier_pool_names_builtin_type : ∃ t ∈ alphaTurns, ∃ object,
    t.call.sent? = some (alphaPool, object) ∧ ¬ object.Names alphaPool ∧
      object.Names ResourceType.inferencePool.builtinApi := by
  obtain ⟨result, run⟩ := alphaTurns_run
  obtain ⟨t, mem, object, sent⟩ := alphaTurns_pool
  obtain ⟨r, plan, d, _, _, _, through, names, honours, _⟩ :=
    written_objects_name_builtin_types run mem sent
  have isPool : d.resource = .inferencePool := by
    revert through
    cases d.resource <;> decide
  refine ⟨t, mem, object, sent, ?_, isPool ▸ names⟩
  rw [honours, isPool]
  decide

theorem overridden_registry_not_honoured :
    ¬ ∀ (os : List (ResourceType × ApiResource)) (settings : PassSettings) (ns name : String)
      (trace : List Turn) (result : Except ReconcileError Requeue),
      Runs ((Engine.mk (TypeRegistry.builtin.overriding os) settings).reconcile ns name)
        trace result →
      ∀ t ∈ trace, ∀ api object, t.call.sent? = some (api, object) →
        object.Names api ∧
          object.RefersTo ((TypeRegistry.builtin.overriding os).api .inferencePool) := by
  intro honoured
  obtain ⟨result, run⟩ := alphaTurns_run
  have unlike : (alphaTurns.any fun t => t.call.sent?.any fun s => decide ¬ s.2.Names s.1) = true := by
    decide +kernel
  obtain ⟨t, mem, sent⟩ := List.any_eq_true.mp unlike
  obtain ⟨⟨api, object⟩, same, names⟩ := Option.any_eq_true _ _ |>.mp sent
  exact of_decide_eq_true names (honoured _ _ _ _ _ _ run t mem api object same).1

end Engine
end SchedulerOperator
