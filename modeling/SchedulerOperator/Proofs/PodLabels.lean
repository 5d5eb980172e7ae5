import SchedulerOperator.Proofs.Selectors

namespace SchedulerOperator

namespace Json

/-- The selector asks for something, and the labels have all that it asks for. -/
def Selects (selector labels : Json) : Prop :=
  (∃ key value, selector.get? key = some value) ∧
    ∀ key value, selector.get? key = some value → labels.get? key = some value

def matchLabels (v : Json) : Json := v.selector.get "matchLabels"

def podLabels (v : Json) : Json := (((v.get "spec").get "template").get "metadata").get "labels"

theorem get?_textMap (m : Labels) (key : String) :
    (textMap m).get? key = (Assoc.get? key m).map .str := by
  change Assoc.get? key (m.map fun e => (e.1, Json.str e.2)) = _
  induction m with
  | nil => rfl
  | cons e rest ih =>
    by_cases here : key = e.1
    · simp [Assoc.get?, here]
    · simp [Assoc.get?, here, ih]

theorem get?_textMap_str {m : Labels} {key value : String} :
    (textMap m).get? key = some (.str value) ↔ Assoc.get? key m = some value := by
  rw [get?_textMap]
  simp

theorem selects_textMap {wanted labels : Labels} (unique : Assoc.Unique wanted)
    (asks : wanted ≠ []) :
    (textMap (Assoc.ofList wanted)).Selects (textMap labels) ↔
      ∀ e ∈ wanted, Assoc.get? e.1 labels = some e.2 := by
  have entry : ∀ {e : String × String}, e ∈ wanted →
      (textMap (Assoc.ofList wanted)).get? e.1 = some (.str e.2) := by
    intro e mem
    exact get?_textMap_str.mpr (unique.get?_ofList_iff.mpr mem)
  constructor
  · intro selects e mem
    exact get?_textMap_str.mp (selects.2 e.1 _ (entry mem))
  · intro has
    obtain ⟨e, mem⟩ := List.exists_mem_of_ne_nil wanted asks
    refine ⟨⟨e.1, _, entry mem⟩, ?_⟩
    intro key value found
    rw [get?_textMap] at found
    obtain ⟨text, there, rfl⟩ := Option.map_eq_some_iff.mp found
    exact get?_textMap_str.mpr (has _ (unique.get?_ofList_iff.mp there))

theorem not_selects_null (selector : Json) : ¬ selector.Selects .null := by
  rintro ⟨⟨key, value, found⟩, has⟩
  cases has key value found

end Json

/-- The user labels set no other value for what `own` holds. -/
def Labels.Respect (labels own : Labels) : Prop :=
  ∀ e ∈ own, ∀ v ∈ Assoc.get? e.1 (Assoc.ofList labels), v = e.2

instance (labels own : Labels) : Decidable (Labels.Respect labels own) :=
  inferInstanceAs (Decidable (∀ e ∈ own, ∀ v ∈ Assoc.get? e.1 (Assoc.ofList labels), v = e.2))

def InferenceScheduler.modelLabels (r : InferenceScheduler) : Labels :=
  [("app", (r.spec.modelServer.serverType.getD .vllm).name),
   ("model", Text.labelValue r.spec.modelServer.modelName)]

def InferenceScheduler.userLabels (r : InferenceScheduler) : Labels :=
  r.spec.modelServer.labels.getD []

namespace Payload
open Json

def servingLabels (plan : Plan) : Labels :=
  [("app", plan.modelServer.serverType.name),
   ("model", Text.labelValue plan.modelServer.modelName), (componentLabel, "inference"),
   (instanceLabel, plan.name), (nameLabel, "model-server")]

def pickerLabels (plan : Plan) : Labels :=
  [("app", "epp"), (instanceLabel, plan.name), (componentLabel, "routing"),
   (nameLabel, "endpoint-picker")]

theorem servingLabels_unique (plan : Plan) : Assoc.Unique (servingLabels plan) := by
  change ["app", "model", componentLabel, instanceLabel, nameLabel].Nodup
  decide

theorem pickerLabels_unique (plan : Plan) : Assoc.Unique (pickerLabels plan) := by
  change ["app", instanceLabel, componentLabel, nameLabel].Nodup
  decide

theorem serving_podLabels (plan : Plan) : (Serving.deployment plan).payload.podLabels =
    textMap (Assoc.extend (Assoc.ofList (servingLabels plan)) plan.modelServer.extraLabels) := rfl

theorem unlabelled_podLabels {plan : Plan} (unlabelled : plan.modelServer.extraLabels = []) :
    (Serving.deployment plan).payload.podLabels =
      textMap (Assoc.ofList (servingLabels plan)) := by
  rw [serving_podLabels, unlabelled]
  rfl

theorem picker_podLabels (plan : Plan) : (Picker.deployment plan).payload.podLabels =
    textMap (Assoc.ofList (pickerLabels plan)) := rfl

theorem serving_label_iff {plan : Plan} {e : String × String} (own : e ∈ servingLabels plan) :
    Assoc.get? e.1 (Assoc.extend (Assoc.ofList (servingLabels plan)) plan.modelServer.extraLabels) =
        some e.2 ↔
      ∀ v ∈ Assoc.get? e.1 (Assoc.ofList plan.modelServer.extraLabels), v = e.2 := by
  have given : Assoc.get? e.1 (Assoc.ofList (servingLabels plan)) = some e.2 :=
    (servingLabels_unique plan).get?_ofList_iff.mpr own
  rw [Assoc.get?_extend, ← Assoc.get?_ofList, given]
  cases Assoc.get? e.1 (Assoc.ofList plan.modelServer.extraLabels) with
  | none => simp
  | some v => simp

theorem selects_serving_iff {plan : Plan} {wanted : Labels}
    (own : wanted.Sublist (servingLabels plan)) (asks : wanted ≠ []) :
    (textMap (Assoc.ofList wanted)).Selects (Serving.deployment plan).payload.podLabels ↔
      Labels.Respect plan.modelServer.extraLabels wanted := by
  rw [serving_podLabels, selects_textMap ((servingLabels_unique plan).sublist own) asks]
  exact forall₂_congr fun e mem => serving_label_iff (own.subset mem)

theorem selects_picker {plan : Plan} {wanted : Labels}
    (own : wanted.Sublist (pickerLabels plan)) (asks : wanted ≠ []) :
    (textMap (Assoc.ofList wanted)).Selects (Picker.deployment plan).payload.podLabels := by
  rw [picker_podLabels, selects_textMap ((pickerLabels_unique plan).sublist own) asks]
  intro e mem
  exact (pickerLabels_unique plan).get?_ofList_iff.mpr (own.subset mem)

theorem podLabels_of_child {plan : Plan} {d : ChildObject} (child : d ∈ plan.children) :
    d.payload.podLabels = .null ∨ d = Serving.deployment plan ∨ d = Picker.deployment plan := by
  obtain ⟨k, _, built⟩ := List.mem_flatMap.mp child
  cases k with
  | workload => exact .inr (.inl (List.mem_singleton.mp built))
  | routingWorkload => exact .inr (.inr (List.mem_singleton.mp built))
  | routingIdentity =>
    left
    simp only [ChildKind.build, Picker.identity, List.mem_cons, List.not_mem_nil, or_false] at built
    rcases built with rfl | rfl | rfl <;> rfl
  | _ =>
    left
    rw [List.mem_singleton.mp built]
    rfl

end Payload

namespace Plan
open Payload

theorem resolve_labels {r : InferenceScheduler} {plan : Plan} (resolved : resolve r = .ok plan) :
    plan.modelServer.extraLabels = r.userLabels ∧
      [("app", plan.modelServer.serverType.name),
        ("model", Text.labelValue plan.modelServer.modelName)] = r.modelLabels := by
  obtain ⟨owner, modelServer, endpointPicker, gateway, _, serving, _, _, rfl⟩ :=
    resolve_parts resolved
  obtain ⟨replicas, port, _, _, rfl⟩ := resolveServing_parts serving
  exact ⟨rfl, rfl⟩

def servingSelectors (plan : Plan) : List Json :=
  [(Serving.service plan).payload.selector, (Routing.pool plan).payload.matchLabels]

theorem servingSelectors_ask {r : InferenceScheduler} {plan : Plan} (resolved : resolve r = .ok plan) :
    ∀ selector ∈ plan.servingSelectors, selector = .textMap (Assoc.ofList r.modelLabels) := by
  intro selector mem
  rw [← (resolve_labels resolved).2]
  simp only [servingSelectors, List.mem_cons, List.not_mem_nil, or_false] at mem
  rcases mem with rfl | rfl <;> rfl

theorem servingSelectors_find_iff {r : InferenceScheduler} {plan : Plan}
    (resolved : resolve r = .ok plan) : ∀ selector ∈ plan.servingSelectors,
      selector.Selects (Serving.deployment plan).payload.podLabels ↔
        Labels.Respect r.userLabels r.modelLabels := by
  intro selector mem
  obtain ⟨user, model⟩ := resolve_labels resolved
  rw [servingSelectors_ask resolved selector mem, ← user]
  refine selects_serving_iff ?_ (List.cons_ne_nil _ _)
  rw [← model]
  exact (List.prefix_append _ _).sublist

theorem deployment_finds_iff {r : InferenceScheduler} {plan : Plan}
    (resolved : resolve r = .ok plan) :
    (Serving.deployment plan).payload.matchLabels.Selects (Serving.deployment plan).payload.podLabels ↔
      Labels.Respect r.userLabels (r.modelLabels ++ [(instanceLabel, r.name)]) := by
  obtain ⟨user, model⟩ := resolve_labels resolved
  obtain ⟨named, _, _⟩ := resolve_root resolved
  have asks : (Serving.deployment plan).payload.matchLabels =
      .textMap (Assoc.ofList (r.modelLabels ++ [(instanceLabel, r.name)])) := by
    rw [← model, ← named]
    rfl
  rw [asks, ← user]
  refine selects_serving_iff ?_ (List.cons_ne_nil _ _)
  rw [← model, ← named]
  -- The component, which nothing asks for, stands in between.
  exact (((List.nil_sublist _).cons_cons _).cons _).cons_cons _ |>.cons_cons _

/-- The selectors of the endpoint picker find its pods whatever labels the user sets. Those of the
model server find its pods exactly if the user's labels, which win over the built-in ones, set no
other value for what is asked for; the Deployment asks for the root's name as well. -/
theorem selectors_find_own_pods {r : InferenceScheduler} {plan : Plan}
    (resolved : resolve r = .ok plan) :
    (∀ selector ∈ [(Serving.service plan).payload.selector, (Routing.pool plan).payload.matchLabels],
      selector.Selects (Serving.deployment plan).payload.podLabels ↔
        Labels.Respect r.userLabels r.modelLabels) ∧
    ((Serving.deployment plan).payload.matchLabels.Selects
        (Serving.deployment plan).payload.podLabels ↔
      Labels.Respect r.userLabels (r.modelLabels ++ [(instanceLabel, r.name)])) ∧
    ∀ selector ∈ [(Picker.deployment plan).payload.matchLabels,
        (Picker.service plan).payload.selector],
      selector.Selects (Picker.deployment plan).payload.podLabels := by
  refine ⟨servingSelectors_find_iff resolved, deployment_finds_iff resolved, ?_⟩
  intro selector mem
  have asks : selector = .textMap (Assoc.ofList [("app", "epp"), (instanceLabel, plan.name)]) := by
    simp only [List.mem_cons, List.not_mem_nil, or_false] at mem
    rcases mem with rfl | rfl <;> rfl
  rw [asks]
  exact selects_picker (List.prefix_append _ _).sublist (List.cons_ne_nil _ _)

def rootLabelled (labels : Labels) : InferenceScheduler :=
  { rootServing "m" with
    spec := { modelServer := { modelName := "m", hfTokenSecretName := "s", labels := some labels } } }

theorem selectors_find_labelled_pods :
    let r := rootLabelled [(componentLabel, "serving"), ("team", "ml")]
    ∃ plan, resolve r = .ok plan ∧
      (Serving.service plan).payload.selector.Selects (Serving.deployment plan).payload.podLabels ∧
      (Serving.deployment plan).payload.matchLabels.Selects
        (Serving.deployment plan).payload.podLabels ∧
      (Picker.service plan).payload.selector.Selects (Picker.deployment plan).payload.podLabels := by
  intro r
  obtain ⟨plan, resolved⟩ : ∃ plan, resolve r = .ok plan := resolves_of_isOk (by decide +kernel)
  obtain ⟨serving, deployment, picker⟩ := selectors_find_own_pods resolved
  exact ⟨plan, resolved, (serving _ List.mem_cons_self).mpr (by decide +kernel),
    deployment.mpr (by decide +kernel), picker _ (List.mem_cons_of_mem _ List.mem_cons_self)⟩

/-- Not under all labels are the pods found: another value for `app` hides those of the model
server from its own Deployment, its Service and the pool. -/
theorem overridden_label_hides_pods :
    ¬ ∀ (r : InferenceScheduler) (plan : Plan), resolve r = .ok plan →
      (∀ selector ∈ [(Serving.deployment plan).payload.matchLabels,
          (Serving.service plan).payload.selector, (Routing.pool plan).payload.matchLabels],
        selector.Selects (Serving.deployment plan).payload.podLabels) ∧
      ∀ selector ∈ [(Picker.deployment plan).payload.matchLabels,
          (Picker.service plan).payload.selector],
        selector.Selects (Picker.deployment plan).payload.podLabels := by
  intro found
  obtain ⟨plan, resolved⟩ : ∃ plan, resolve (rootLabelled [("app", "mine")]) = .ok plan :=
    resolves_of_isOk (by decide +kernel)
  have selects := (found _ plan resolved).1 (Serving.service plan).payload.selector
    (List.mem_cons_of_mem _ List.mem_cons_self)
  rw [servingSelectors_find_iff resolved _ List.mem_cons_self] at selects
  exact absurd selects (by decide +kernel)

theorem servingSelectors_find_other_iff {r r' : InferenceScheduler} {plan plan' : Plan}
    (unlabelled : r'.userLabels = []) (resolved : resolve r = .ok plan)
    (resolved' : resolve r' = .ok plan') : ∀ selector ∈ plan.servingSelectors,
      selector.Selects (Serving.deployment plan').payload.podLabels ↔
        r'.modelLabels = r.modelLabels := by
  intro selector mem
  obtain ⟨_, model⟩ := resolve_labels resolved
  obtain ⟨user', model'⟩ := resolve_labels resolved'
  have unique : Assoc.Unique r.modelLabels := by
    change ["app", "model"].Nodup
    decide
  rw [servingSelectors_ask resolved selector mem, unlabelled_podLabels (user'.trans unlabelled),
    Json.selects_textMap unique (List.cons_ne_nil _ _)]
  simp only [(servingLabels_unique plan').get?_ofList_iff]
  rw [← model, ← model']
  simp [servingLabels, componentLabel, instanceLabel, nameLabel, eq_comm]

/-- Where the user sets no labels, the Service and the pool of a root find the model server pods of
another root exactly if the two serve under the same labels. The Service of the endpoint picker
finds no pods of another root. -/
theorem selectors_tell_roots_apart {r r' : InferenceScheduler} {plan plan' : Plan}
    (apart : r'.name ≠ r.name) (unlabelled : r'.userLabels = [])
    (resolved : resolve r = .ok plan) (resolved' : resolve r' = .ok plan') :
    (∀ selector ∈ [(Serving.service plan).payload.selector, (Routing.pool plan).payload.matchLabels],
      selector.Selects (Serving.deployment plan').payload.podLabels ↔
        r'.modelLabels = r.modelLabels) ∧
    ∀ d ∈ plan'.children, ¬ (Picker.service plan).payload.selector.Selects d.payload.podLabels := by
  refine ⟨servingSelectors_find_other_iff unlabelled resolved resolved', ?_⟩
  intro d child selects
  have unique : Assoc.Unique [("app", "epp"), (instanceLabel, plan.name)] := by
    change ["app", instanceLabel].Nodup
    decide
  have asks : (Picker.service plan).payload.selector =
      .textMap (Assoc.ofList [("app", "epp"), (instanceLabel, plan.name)]) := rfl
  rw [asks] at selects
  rcases podLabels_of_child child with none | rfl | rfl
  · rw [none] at selects
    exact Json.not_selects_null _ selects
  · rw [unlabelled_podLabels ((resolve_labels resolved').1.trans unlabelled),
      Json.selects_textMap unique (List.cons_ne_nil _ _)] at selects
    have app : "epp" = plan'.modelServer.serverType.name := by
      refine (servingLabels_unique plan').value_unique ?_ List.mem_cons_self
      exact (servingLabels_unique plan').get?_ofList_iff.mp (selects _ List.mem_cons_self)
    cases served : plan'.modelServer.serverType with
    | vllm => simp [served, ServerType.name] at app
    | tgi => simp [served, ServerType.name] at app
  · rw [picker_podLabels, Json.selects_textMap unique (List.cons_ne_nil _ _)] at selects
    have name : plan.name = plan'.name := by
      refine (pickerLabels_unique plan').value_unique ?_ (List.mem_cons_of_mem _ List.mem_cons_self)
      exact (pickerLabels_unique plan').get?_ofList_iff.mp
        (selects _ (List.mem_cons_of_mem _ List.mem_cons_self))
    exact apart ((resolve_root resolved').1.symm.trans (name.symm.trans (resolve_root resolved).1))

def otherServing (model : String) : InferenceScheduler :=
  { rootServing model with
    metadata := { name := some "other", namespace_ := some "default", uid := some "uid-0002" } }

theorem other_model_is_told_apart :
    let r := rootServing "m1"
    let r' := otherServing "m2"
    ∃ plan plan', r'.name ≠ r.name ∧ r'.userLabels = [] ∧
      resolve r = .ok plan ∧ resolve r' = .ok plan' ∧
      (¬ (Serving.service plan).payload.selector.Selects
        (Serving.deployment plan').payload.podLabels) ∧
      ¬ (Picker.service plan).payload.selector.Selects (Picker.deployment plan').payload.podLabels := by
  intro r r'
  obtain ⟨plan, resolved⟩ : ∃ plan, resolve r = .ok plan := resolves_of_isOk (by decide +kernel)
  obtain ⟨plan', resolved'⟩ : ∃ plan, resolve r' = .ok plan := resolves_of_isOk (by decide +kernel)
  have apart : r'.name ≠ r.name := by decide +kernel
  obtain ⟨serving, picker⟩ := selectors_tell_roots_apart apart rfl resolved resolved'
  refine ⟨plan, plan', apart, rfl, resolved, resolved', ?_, ?_⟩
  · rw [serving _ List.mem_cons_self]
    decide +kernel
  · exact picker _ (ChildKind.routingWorkload.build_children List.mem_cons_self)

/-- Not all roots of one namespace are told apart: of two that serve one model, the Service of the
one finds the pods of the other. -/
theorem same_model_shares_pods :
    ¬ ∀ (r r' : InferenceScheduler) (plan plan' : Plan), r'.name ≠ r.name →
      r'.namespaceOr "default" = r.namespaceOr "default" →
      r.userLabels = [] → r'.userLabels = [] → resolve r = .ok plan → resolve r' = .ok plan' →
      (∀ selector ∈ [(Serving.service plan).payload.selector,
          (Routing.pool plan).payload.matchLabels],
        ¬ selector.Selects (Serving.deployment plan').payload.podLabels) ∧
      ∀ d ∈ plan'.children, ¬ (Picker.service plan).payload.selector.Selects d.payload.podLabels := by
  intro told
  obtain ⟨plan, resolved⟩ : ∃ plan, resolve (rootServing "m") = .ok plan :=
    resolves_of_isOk (by decide +kernel)
  obtain ⟨plan', resolved'⟩ : ∃ plan, resolve (otherServing "m") = .ok plan :=
    resolves_of_isOk (by decide +kernel)
  have unlike := (told (rootServing "m") (otherServing "m") plan plan' (by decide +kernel) rfl rfl
    rfl resolved resolved').1 _ List.mem_cons_self
  rw [servingSelectors_find_other_iff rfl resolved resolved' _ List.mem_cons_self] at unlike
  exact unlike rfl

end Plan
end SchedulerOperator
