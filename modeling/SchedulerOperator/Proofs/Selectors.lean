import SchedulerOperator.Proofs.ChildEffects

namespace SchedulerOperator

/-- One root, before and after an edit of its spec. -/
structure InferenceScheduler.SameRoot (r r' : InferenceScheduler) : Prop where
  name : r'.name = r.name
  namespace_ : r'.metadata.namespace_ = r.metadata.namespace_
  uid : r'.metadata.uid = r.metadata.uid

def Json.selector (v : Json) : Json := (v.get "spec").get "selector"

namespace Payload

theorem selectorOf_inj {l m : Labels} : selectorOf l = selectorOf m ↔ l = m := by
  simp only [selectorOf, fields, Json.textMap, Json.obj.injEq, List.cons.injEq, Prod.mk.injEq,
    true_and, and_true]
  refine List.map_inj_right fun e f same => ?_
  rw [Prod.mk.injEq, Json.str.injEq] at same
  exact Prod.ext same.1 same.2

theorem picker_selector_named {plan plan' : Plan} (named : plan'.name = plan.name) :
    Picker.selector plan' = Picker.selector plan := by
  rw [Picker.selector, Picker.selector, named]

theorem serverType_name_inj {t t' : ServerType} : t.name = t'.name ↔ t = t' := by
  cases t <;> cases t' <;> decide

theorem serving_selector_entries (plan : Plan) :
    Assoc.get? "app" (Serving.selector plan) = some plan.modelServer.serverType.name ∧
      Assoc.get? "model" (Serving.selector plan) =
        some (Text.labelValue plan.modelServer.modelName) := by
  have apart : "app" ≠ instanceLabel ∧ "model" ≠ instanceLabel ∧ "app" ≠ "model" := by decide
  rw [Serving.selector, Assoc.get?_set_other _ _ apart.1, Assoc.get?_set_other _ _ apart.2.1]
  simp only [Serving.modelLabels, Assoc.ofList, List.foldl_cons, List.foldl_nil]
  exact ⟨(Assoc.get?_set_other _ _ apart.2.2).trans (Assoc.get?_set_self ..),
    Assoc.get?_set_self ..⟩

theorem serving_selector_iff {plan plan' : Plan} (named : plan'.name = plan.name) :
    Serving.selector plan' = Serving.selector plan ↔
      plan'.modelServer.serverType = plan.modelServer.serverType ∧
        Text.labelValue plan'.modelServer.modelName = Text.labelValue plan.modelServer.modelName := by
  constructor
  · intro same
    obtain ⟨app, model⟩ := serving_selector_entries plan
    obtain ⟨app', model'⟩ := serving_selector_entries plan'
    rw [same, app, Option.some.injEq, serverType_name_inj] at app'
    rw [same, model, Option.some.injEq] at model'
    exact ⟨app'.symm, model'.symm⟩
  · rintro ⟨serverType, label⟩
    rw [Serving.selector, Serving.selector, Serving.modelLabels, Serving.modelLabels, named,
      serverType, label]

theorem serving_deployment_selector (plan : Plan) :
    (Serving.deployment plan).payload.selector = selectorOf (Serving.selector plan) := rfl

theorem picker_deployment_selector (plan : Plan) :
    (Picker.deployment plan).payload.selector = selectorOf (Picker.selector plan) := rfl

end Payload

namespace Plan

theorem resolveServing_model {s : ModelServerSpec} {m : ServingPlan}
    (resolved : resolveServing s = .ok m) :
    m.serverType = s.serverType.getD .vllm ∧ m.modelName = s.modelName := by
  obtain ⟨replicas, port, _, _, rfl⟩ := resolveServing_parts resolved
  exact ⟨rfl, rfl⟩

theorem resolve_model {r : InferenceScheduler} {plan : Plan} (resolved : resolve r = .ok plan) :
    plan.modelServer.serverType = r.spec.modelServer.serverType.getD .vllm ∧
      plan.modelServer.modelName = r.spec.modelServer.modelName := by
  obtain ⟨owner, modelServer, endpointPicker, gateway, _, serving, _, _, rfl⟩ :=
    resolve_parts resolved
  exact resolveServing_model serving

end Plan

namespace ChildObject
open Cluster Attempt

theorem Stored.selects {d : ChildObject} {s t : Cluster} (stored : d.Stored s t)
    (specified : (d.payload.get? "spec").isSome) :
    ∃ e, Assoc.get? d.key t.objects = some e ∧ e.selector = d.payload.selector := by
  obtain ⟨e, text, found, reads⟩ := stored.holds
  refine ⟨e, found, ?_⟩
  rw [Json.selector, reads.get_spec specified, inSpec, if_neg (by decide), if_neg (by decide)]
  obtain ⟨spec, there⟩ := Option.isSome_iff_exists.mp specified
  rw [Json.selector, Json.get, there]
  rfl

/-- Wherever nothing fails, a write leaves a Deployment that selects as it was built to. -/
def SelectsAsBuilt (d : ChildObject) : Prop :=
  ∀ s : Cluster, s.Sound → s.Calm → s.hasType d.api = true →
    ∃ w t e, (d.write .builtin).Yields s (.ok w) t ∧
      Assoc.get? d.key t.objects = some e ∧ e.selector = d.payload.selector

theorem Tidy.selectsAsBuilt {d : ChildObject} (tidy : d.Tidy)
    (specified : (d.payload.get? "spec").isSome) : d.SelectsAsBuilt := by
  intro s sound calm installed
  obtain ⟨w, t, yields, stored⟩ := write_stores tidy sound calm installed
  obtain ⟨e, found, selects⟩ := stored.selects specified
  exact ⟨w, t, e, yields, found, selects⟩

end ChildObject

namespace Plan
open Payload

theorem resolve_placed {r r' : InferenceScheduler} {plan plan' : Plan} (root : r.SameRoot r')
    (resolved : resolve r = .ok plan) (resolved' : resolve r' = .ok plan') :
    plan'.name = plan.name ∧ plan'.namespace_ = plan.namespace_ ∧ plan'.owner = plan.owner := by
  obtain ⟨name, place, owner⟩ := resolve_root resolved
  obtain ⟨name', place', owner'⟩ := resolve_root resolved'
  refine ⟨name'.trans (root.name.trans name.symm), ?_, ?_⟩
  · rw [place', place, InferenceScheduler.namespaceOr, InferenceScheduler.namespaceOr,
      root.namespace_]
  · have same : r'.ownerReference? = r.ownerReference? := by
      rw [InferenceScheduler.ownerReference?, InferenceScheduler.ownerReference?, root.uid, root.name]
    rw [owner, owner', Option.some.injEq] at same
    exact same

/-- The write of either Deployment of an edited root falls upon the one from before, and puts
the selector that is built in the place of the one that is stored. That of the endpoint picker
is the same under any two specs. That of the model server is the same exactly if the server
type and the label made of the model name are. -/
theorem selector_follows_model {r r' : InferenceScheduler} {plan plan' : Plan}
    (root : r.SameRoot r') (resolved : resolve r = .ok plan) (resolved' : resolve r' = .ok plan') :
    (∀ build ∈ [Serving.deployment, Picker.deployment],
      (build plan').key = (build plan).key ∧ (build plan').owner = (build plan).owner ∧
        (build plan).SelectsAsBuilt ∧ (build plan').SelectsAsBuilt) ∧
    (Picker.deployment plan').payload.selector = (Picker.deployment plan).payload.selector ∧
    ((Serving.deployment plan').payload.selector = (Serving.deployment plan).payload.selector ↔
      r'.spec.modelServer.serverType.getD .vllm = r.spec.modelServer.serverType.getD .vllm ∧
      Text.labelValue r'.spec.modelServer.modelName =
        Text.labelValue r.spec.modelServer.modelName) := by
  obtain ⟨named, placed, owned⟩ := resolve_placed root resolved resolved'
  refine ⟨?_, ?_, ?_⟩
  · intro build mem
    simp only [List.mem_cons, List.not_mem_nil, or_false] at mem
    rcases mem with rfl | rfl
    · refine ⟨?_, owned, (serving_tidy plan).1.selectsAsBuilt rfl,
        (serving_tidy plan').1.selectsAsBuilt rfl⟩
      simp only [ChildObject.key, ChildObject.place, ChildObject.api, Serving.deployment, child,
        named, placed]
    · refine ⟨?_, owned, (picker_tidy plan).1.selectsAsBuilt rfl,
        (picker_tidy plan').1.selectsAsBuilt rfl⟩
      simp only [ChildObject.key, ChildObject.place, ChildObject.api, Picker.deployment, child,
        named, placed]
  · rw [picker_deployment_selector, picker_deployment_selector, picker_selector_named named]
  · obtain ⟨serverType, modelName⟩ := resolve_model resolved
    obtain ⟨serverType', modelName'⟩ := resolve_model resolved'
    rw [serving_deployment_selector, serving_deployment_selector, selectorOf_inj,
      serving_selector_iff named, serverType, serverType', modelName, modelName']

def rootServing (model : String) : InferenceScheduler where
  metadata := { name := some "demo", namespace_ := some "default", uid := some "uid-0001" }
  spec := { modelServer := { modelName := model, hfTokenSecretName := "s" } }
  status := none

theorem rootServing_same (model model' : String) :
    (rootServing model).SameRoot (rootServing model') := ⟨rfl, rfl, rfl⟩

theorem resolves_of_isOk {r : InferenceScheduler} (sound : (resolve r).isOk = true) :
    ∃ plan, resolve r = .ok plan := by
  cases resolved : resolve r with
  | error e => simp [resolved, Except.isOk, Except.toBool] at sound
  | ok plan => exact ⟨plan, rfl⟩

theorem respelled_model_keeps_selectors :
    let r := rootServing "Org/Model"
    let r' := rootServing "org-model"
    ∃ plan plan', r.SameRoot r' ∧ resolve r = .ok plan ∧ resolve r' = .ok plan' ∧
      (Serving.deployment plan').key = (Serving.deployment plan).key ∧
      (Serving.deployment plan').payload.selector = (Serving.deployment plan).payload.selector ∧
      (Picker.deployment plan').payload.selector = (Picker.deployment plan).payload.selector := by
  intro r r'
  obtain ⟨plan, resolved⟩ : ∃ plan, resolve r = .ok plan := resolves_of_isOk (by decide +kernel)
  obtain ⟨plan', resolved'⟩ : ∃ plan, resolve r' = .ok plan :=
    resolves_of_isOk (by decide +kernel)
  have root := rootServing_same "Org/Model" "org-model"
  obtain ⟨written, picker, serving⟩ := selector_follows_model root resolved resolved'
  exact ⟨plan, plan', root, resolved, resolved', (written _ List.mem_cons_self).1,
    serving.mpr ⟨rfl, by decide +kernel⟩, picker⟩

/-- Not every edit that resolves keeps the selectors: to serve another model moves that of the
model server. -/
theorem another_model_moves_selector :
    ¬ ∀ (r r' : InferenceScheduler) (plan plan' : Plan),
      r.SameRoot r' → resolve r = .ok plan → resolve r' = .ok plan' →
      (Serving.deployment plan').payload.selector = (Serving.deployment plan).payload.selector ∧
      (Picker.deployment plan').payload.selector = (Picker.deployment plan).payload.selector := by
  intro immutable
  obtain ⟨plan, resolved⟩ : ∃ plan, resolve (rootServing "m1") = .ok plan :=
    resolves_of_isOk (by decide +kernel)
  obtain ⟨plan', resolved'⟩ : ∃ plan, resolve (rootServing "m2") = .ok plan :=
    resolves_of_isOk (by decide +kernel)
  have root := rootServing_same "m1" "m2"
  have same := (immutable _ _ plan plan' root resolved resolved').1
  rw [serving_deployment_selector, serving_deployment_selector, selectorOf_inj,
    serving_selector_iff (resolve_placed root resolved resolved').1,
    (resolve_model resolved).2, (resolve_model resolved').2] at same
  exact absurd same.2 (by decide +kernel)

end Plan
end SchedulerOperator
