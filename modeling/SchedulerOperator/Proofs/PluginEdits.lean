import SchedulerOperator.Proofs.Acceptance
import SchedulerOperator.Proofs.ScalarTexts

namespace SchedulerOperator

namespace ScorerPlan
variable {s s' : ScorerPlan}

/-- The type of a scorer and its weight. The two zeros are two weights. -/
def weighed (s : ScorerPlan) : String × Double := (s.pluginType, s.weight)

/-- The parameters of both are one map. -/
def SameParameters (s s' : ScorerPlan) : Prop :=
  ∀ k, Assoc.get? k s.parameters = Assoc.get? k s'.parameters

theorem eq_of_weighed (weighed : s.weighed = s'.weighed)
    (parameters : s.parameters = s'.parameters) : s = s' := by
  cases s
  cases s'
  cases weighed
  cases parameters
  rfl

end ScorerPlan

namespace Payload.PluginFile
open Yaml
variable {r t : List Char} {m m' : List (String × String)} {scorers scorers' : List ScorerPlan}

def entryHead (weighed : String × Double) : List Char :=
  keyStart 2 "type" ++ member 2 (.str weighed.1) ++ blockMembers 2 [("weight", .double weighed.2)]

def parameterLines (m : List (String × String)) : List Char :=
  if m.isEmpty then [] else spaces 2 ++ (keyStart 2 "parameters" ++ '\n' :: textMembers 4 m)

theorem block_entry (s : ScorerPlan) :
    block 2 (entry s) = entryHead s.weighed ++ parameterLines s.parameters := by
  unfold entry parameterLines entryHead ScorerPlan.weighed
  cases s.parameters with
  | nil => simp [Json.present, block, blockMembers]
  | cons e rest =>
    simp [Json.present, Json.textMap, block, blockMembers, member, textMembers, leafLine]

theorem items_cons (s : ScorerPlan) (rest : List ScorerPlan) :
    blockItems 0 ((s :: rest).map entry) =
      '-' :: ' ' :: (entryHead s.weighed ++
        (parameterLines s.parameters ++ blockItems 0 (rest.map entry))) := by
  simp [blockItems, block_entry, spaces]

theorem items_outdented (scorers : List ScorerPlan) :
    Outdented 1 (blockItems 0 (scorers.map entry)) := by
  cases scorers with
  | nil => exact ⟨0, Nat.one_pos, [], by simp [blockItems, spaces], fun c none => by cases none⟩
  | cons s rest =>
    refine ⟨0, Nat.one_pos, _, items_cons s rest, fun c first => ?_⟩
    cases first
    decide

theorem parameterLines_inj (outdented : Outdented 1 r) (outdented' : Outdented 1 t)
    (same : parameterLines m ++ r = parameterLines m' ++ t) : m = m' ∧ r = t := by
  have key : ∀ {e : String × String} {rest : List (String × String)} {u : List Char},
      parameterLines (e :: rest) ++ u =
        spaces 2 ++ (keyStart 2 "parameters" ++ '\n' :: (textMembers 4 (e :: rest) ++ u)) := by
    simp [parameterLines]
  cases m with
  | nil =>
    cases m' with
    | nil => exact ⟨rfl, same⟩
    | cons e rest =>
      have below : Outdented 2 r := outdented.mono (by decide)
      rw [key] at same
      exact absurd same below.ne_key
  | cons e rest =>
    cases m' with
    | nil =>
      have below : Outdented 2 t := outdented'.mono (by decide)
      rw [key] at same
      exact absurd same.symm below.ne_key
    | cons e' rest' =>
      rw [key, key] at same
      have members := (List.cons.inj (List.append_cancel_left (List.append_cancel_left same))).2
      exact textMembers_inj (outdented.mono (by decide)) (outdented'.mono (by decide)) members

theorem items_inj (shape : scorers.map ScorerPlan.weighed = scorers'.map ScorerPlan.weighed)
    (same : blockItems 0 (scorers.map entry) = blockItems 0 (scorers'.map entry)) :
    scorers = scorers' := by
  induction scorers generalizing scorers' with
  | nil => exact (List.map_eq_nil_iff.mp shape.symm).symm
  | cons s rest ih =>
    cases scorers' with
    | nil => cases shape
    | cons s' rest' =>
      -- The entries begin alike: only parameters and later entries can be written differently.
      obtain ⟨weighed, shape⟩ := List.cons.inj shape
      rw [items_cons, items_cons, weighed] at same
      have lines := List.append_cancel_left (List.cons.inj (List.cons.inj same).2).2
      obtain ⟨parameters, items⟩ :=
        parameterLines_inj (items_outdented rest) (items_outdented rest') lines
      rw [ScorerPlan.eq_of_weighed weighed parameters, ih shape items]

def fileHead : List Char :=
  keyStart 0 "apiVersion" ++ member 0 (.str "inference.networking.x-k8s.io/v1alpha1") ++
    (keyStart 0 "kind" ++ member 0 (.str "EndpointPickerConfig") ++ keyStart 0 "plugins")

theorem text_cons (s : ScorerPlan) (rest : List ScorerPlan) :
    text (s :: rest) =
      String.ofList (fileHead ++ '\n' :: blockItems 0 ((s :: rest).map entry)) := by
  simp [text, content, fields, document, block, blockMembers, blockItems, member, spaces, fileHead]

/-- Lists of scorers that agree in types and weights make one file only if they are equal. -/
theorem text_inj (shape : scorers.map ScorerPlan.weighed = scorers'.map ScorerPlan.weighed) :
    text scorers = text scorers' ↔ scorers = scorers' := by
  refine ⟨fun same => ?_, congrArg _⟩
  cases scorers with
  | nil => exact (List.map_eq_nil_iff.mp shape.symm).symm
  | cons s rest =>
    cases scorers' with
    | nil => cases shape
    | cons s' rest' =>
      rw [text_cons, text_cons, String.ofList_inj] at same
      exact items_inj shape (List.cons.inj (List.append_cancel_left same)).2

end Payload.PluginFile

def InferenceScheduler.withPlugins (r : InferenceScheduler) (plugins : Option PluginConfig) :
    InferenceScheduler :=
  { r with
    spec := { r.spec with endpointPicker := { r.spec.endpointPicker with plugins := plugins } } }

namespace Plan
open Payload
variable {r : InferenceScheduler} {plugins : Option PluginConfig} {plan plan' : Plan}

def withScorers (plan : Plan) (scorers : List ScorerPlan) : Plan :=
  { plan with endpointPicker := { plan.endpointPicker with scorers := scorers } }

theorem resolvePicker_withPlugins {s : EndpointPickerSpec} {p p' : PickerPlan}
    (resolved : resolvePicker s = .ok p)
    (resolved' : resolvePicker { s with plugins := plugins } = .ok p') :
    p' = { p with scorers := p'.scorers } := by
  obtain ⟨scorers, _, rest⟩ := bind_eq_ok.mp resolved
  obtain ⟨replicas, enough, rest⟩ := bind_eq_ok.mp rest
  obtain ⟨port, inRange, rest⟩ := bind_eq_ok.mp rest
  obtain ⟨scorers', _, rest'⟩ := bind_eq_ok.mp resolved'
  obtain ⟨replicas', enough', rest'⟩ := bind_eq_ok.mp rest'
  obtain ⟨port', inRange', rest'⟩ := bind_eq_ok.mp rest'
  cases rest
  cases rest'
  -- The other checks read what was not edited, so they gave the same twice.
  obtain rfl := Except.ok.inj (enough.symm.trans enough')
  obtain rfl := Except.ok.inj (inRange.symm.trans inRange')
  rfl

theorem resolve_withPlugins (resolved : resolve r = .ok plan)
    (resolved' : resolve (r.withPlugins plugins) = .ok plan') :
    plan' = plan.withScorers plan'.endpointPicker.scorers := by
  obtain ⟨owner, modelServer, picker, gateway, root, serving, picked, listener, rfl⟩ :=
    resolve_parts resolved
  obtain ⟨owner', modelServer', picker', gateway', root', serving', picked', listener', rfl⟩ :=
    resolve_parts resolved'
  obtain rfl := Except.ok.inj (root.symm.trans root')
  obtain rfl := Except.ok.inj (serving.symm.trans serving')
  obtain rfl := Except.ok.inj (listener.symm.trans listener')
  have edited := resolvePicker_withPlugins picked picked'
  rw [withScorers, ← edited]
  rfl

theorem build_withScorers (scorers : List ScorerPlan) {k : ChildKind} (other : k ≠ .routingConfig) :
    k.build (plan.withScorers scorers) = k.build plan := by
  cases k with
  | routingConfig => exact absurd rfl other
  | _ => rfl

def beforeConfig (plan : Plan) : List ChildObject :=
  [.workload, .accessPoint, .routingIdentity].flatMap fun k => ChildKind.build plan k

def afterConfig (plan : Plan) : List ChildObject :=
  [.routingWorkload, .routingAccessPoint, .pool, .gateway, .route].flatMap fun k =>
    ChildKind.build plan k

theorem children_around_config (plan : Plan) :
    plan.children = plan.beforeConfig ++ PluginFile.configMap plan :: plan.afterConfig := rfl

theorem around_withScorers (plan : Plan) (scorers : List ScorerPlan) :
    (plan.withScorers scorers).beforeConfig = plan.beforeConfig ∧
      (plan.withScorers scorers).afterConfig = plan.afterConfig := by
  constructor <;> refine List.flatMap_congr fun k mem => build_withScorers scorers ?_
  · rintro rfl
    exact absurd mem (by decide)
  · rintro rfl
    exact absurd mem (by decide)

theorem configMap_withScorers (scorers : List ScorerPlan) :
    PluginFile.configMap (plan.withScorers scorers) = PluginFile.configMap plan ↔
      PluginFile.text scorers = PluginFile.text plan.endpointPicker.scorers := by
  constructor
  · intro same
    have payload := congrArg (fun d => (d.payload.get "data").get PluginFile.key) same
    exact Json.str.inj payload
  · intro same
    simp only [PluginFile.configMap, withScorers, same]
    rfl

theorem ordered_of_rendered {asked : List (Scorer × ScorerPlugin)} {scorers : List ScorerPlan}
    (rendered : List.Forall₂ Scorer.Rendered asked scorers) :
    ∀ s ∈ scorers, Assoc.Ascending s.parameters := by
  induction rendered with
  | nil => exact fun s none => absurd none List.not_mem_nil
  | cons first _ ih =>
    intro s mem
    rcases List.mem_cons.mp mem with rfl | later
    · exact first.ordered
    · exact ih s later

theorem scorers_ordered (resolved : resolve r = .ok plan) :
    ∀ s ∈ plan.endpointPicker.scorers, Assoc.Ascending s.parameters :=
  ordered_of_rendered ((resolve_checks r).met plan resolved).2

theorem scorers_eq_iff {scorers scorers' : List ScorerPlan}
    (order : ∀ s ∈ scorers, Assoc.Ascending s.parameters)
    (order' : ∀ s ∈ scorers', Assoc.Ascending s.parameters)
    (shape : scorers.map ScorerPlan.weighed = scorers'.map ScorerPlan.weighed) :
    scorers = scorers' ↔ List.Forall₂ ScorerPlan.SameParameters scorers scorers' := by
  constructor
  · rintro rfl
    exact List.forall₂_same.mpr fun s _ k => rfl
  · intro alike
    induction alike with
    | nil => rfl
    | cons first _ ih =>
      obtain ⟨weighed, shape⟩ := List.cons.inj shape
      have parameters := (order _ List.mem_cons_self).ext (order' _ List.mem_cons_self) first
      rw [ScorerPlan.eq_of_weighed weighed parameters,
        ih (fun s mem => order s (List.mem_cons_of_mem _ mem))
          (fun s mem => order' s (List.mem_cons_of_mem _ mem)) shape]

/-- An edit of the plugins leaves the ten other children as they are. It always reaches the routing
config: under the scorers and weights of before, the config is that of before exactly if every
parameter is. -/
theorem plugin_edit_reaches_config_alone (resolved : resolve r = .ok plan)
    (resolved' : resolve (r.withPlugins plugins) = .ok plan') :
    (∃ before after, before.length + after.length = 10 ∧
      plan.children = before ++ PluginFile.configMap plan :: after ∧
      plan'.children = before ++ PluginFile.configMap plan' :: after) ∧
    (plan.endpointPicker.scorers.map ScorerPlan.weighed =
        plan'.endpointPicker.scorers.map ScorerPlan.weighed →
      (PluginFile.configMap plan = PluginFile.configMap plan' ↔
        List.Forall₂ ScorerPlan.SameParameters plan.endpointPicker.scorers
          plan'.endpointPicker.scorers)) := by
  have edited := resolve_withPlugins resolved resolved'
  constructor
  · obtain ⟨before, after⟩ := plan.around_withScorers plan'.endpointPicker.scorers
    rw [← edited] at before after
    refine ⟨plan.beforeConfig, plan.afterConfig, rfl, plan.children_around_config, ?_⟩
    rw [children_around_config, before, after]
  · intro shape
    rw [← scorers_eq_iff (scorers_ordered resolved) (scorers_ordered resolved') shape,
      ← PluginFile.text_inj shape, eq_comm, edited, configMap_withScorers, eq_comm]
    rfl

def pluginsNoting (note : String) : PluginConfig :=
  { loadAwareScorer := some { parameters := some [("note", note)] } }

theorem last_break_reaches_config :
    let r := rootSharing none (pluginsNoting "yes: 1\n")
    let r' := r.withPlugins (some (pluginsNoting "yes: 1\n\n"))
    ∃ plan plan', resolve r = .ok plan ∧ resolve r' = .ok plan' ∧
      (∃ before after, before.length + after.length = 10 ∧
        plan.children = before ++ PluginFile.configMap plan :: after ∧
        plan'.children = before ++ PluginFile.configMap plan' :: after) ∧
      PluginFile.configMap plan ≠ PluginFile.configMap plan' := by
  intro r r'
  have scorers : (resolve r).toOption.map (fun p => p.endpointPicker.scorers) =
      some [⟨"load-aware-scorer", .one, [("note", "yes: 1\n"), ("queueThreshold", "128")]⟩] := by
    decide +kernel
  have scorers' : (resolve r').toOption.map (fun p => p.endpointPicker.scorers) =
      some [⟨"load-aware-scorer", .one, [("note", "yes: 1\n\n"), ("queueThreshold", "128")]⟩] := by
    decide +kernel
  obtain ⟨plan, resolved⟩ : ∃ plan, resolve r = .ok plan := resolves_of_isOk (by decide +kernel)
  obtain ⟨plan', resolved'⟩ : ∃ plan, resolve r' = .ok plan := resolves_of_isOk (by decide +kernel)
  simp only [resolved, Except.toOption, Option.map_some, Option.some.injEq] at scorers
  simp only [resolved', Except.toOption, Option.map_some, Option.some.injEq] at scorers'
  obtain ⟨children, reaches⟩ := plugin_edit_reaches_config_alone resolved resolved'
  rw [scorers, scorers'] at reaches
  refine ⟨plan, plan', resolved, resolved', children, fun same => ?_⟩
  cases (reaches rfl).mp same with
  | cons alike _ => exact absurd (alike "note") (by decide)

end Plan
end SchedulerOperator
