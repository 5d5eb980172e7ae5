import SchedulerOperator.Proofs.Upkeep
import SchedulerOperator.Proofs.WorkloadShape

namespace SchedulerOperator
open Cluster Attempt Step Pass

namespace Plan

theorem requireReplicas_ok {field : String} {value n : Int}
    (required : requireReplicas field value = .ok n) : n = value ∧ 1 ≤ n := by
  unfold requireReplicas at required
  split at required
  · cases required
    exact ⟨rfl, ‹_›⟩
  · cases required

theorem requirePort_ok {field : String} {value n : Int}
    (required : requirePort field value = .ok n) : 1 ≤ n ∧ n ≤ 65535 := by
  unfold requirePort at required
  split at required
  · cases required
    exact ‹_›
  · cases required

structure InRange (plan : Plan) : Prop where
  modelServer : 1 ≤ plan.modelServer.replicas ∧ plan.modelServer.replicas ≤ 2147483647
  port : 1 ≤ plan.modelServer.port ∧ plan.modelServer.port ≤ 65535
  endpointPicker : 1 ≤ plan.endpointPicker.replicas ∧ plan.endpointPicker.replicas ≤ 2147483647
  ports : ∀ p ∈ Payload.Picker.ports plan.endpointPicker, 1 ≤ p.2 ∧ p.2 ≤ 65535

theorem resolveServing_range {s : ModelServerSpec} {m : ServingPlan}
    (resolved : resolveServing s = .ok m) :
    (m.replicas = s.replicas.getD 2 ∧ 1 ≤ m.replicas) ∧ 1 ≤ m.port ∧ m.port ≤ 65535 := by
  obtain ⟨replicas, port, required, inRange, rfl⟩ := resolveServing_parts resolved
  exact ⟨requireReplicas_ok required, requirePort_ok inRange⟩

theorem resolvePicker_range {s : EndpointPickerSpec} {p : PickerPlan}
    (resolved : resolvePicker s = .ok p) :
    (p.replicas = s.replicas.getD 1 ∧ 1 ≤ p.replicas) ∧
      ∀ q ∈ Payload.Picker.ports p, 1 ≤ q.2 ∧ q.2 ≤ 65535 := by
  obtain ⟨scorers, _, rest⟩ := bind_eq_ok.mp resolved
  obtain ⟨replicas, required, rest⟩ := bind_eq_ok.mp rest
  obtain ⟨port, inRange, rest⟩ := bind_eq_ok.mp rest
  cases rest
  refine ⟨requireReplicas_ok required, fun q mem => ?_⟩
  simp only [Payload.Picker.ports, List.mem_cons, List.not_mem_nil, or_false] at mem
  rcases mem with rfl | rfl | rfl
  · exact requirePort_ok inRange
  · decide
  · decide

theorem resolve_inRange {r : InferenceScheduler} {plan : Plan} (resolved : resolve r = .ok plan)
    (fits : r.spec.Fits) : plan.InRange := by
  obtain ⟨owner, modelServer, endpointPicker, gateway, _, serving, picker, _, rfl⟩ :=
    resolve_parts resolved
  obtain ⟨⟨servers, servers_pos⟩, port⟩ := resolveServing_range serving
  obtain ⟨⟨pickers, pickers_pos⟩, ports⟩ := resolvePicker_range picker
  refine ⟨⟨servers_pos, ?_⟩, port, ⟨pickers_pos, ?_⟩, ports⟩
  · change modelServer.replicas ≤ 2147483647
    cases given : r.spec.modelServer.replicas with
    | none =>
      rw [servers, given]
      decide
    | some n =>
      rw [servers, given]
      exact (fits n (.inl given)).2
  · change endpointPicker.replicas ≤ 2147483647
    cases given : r.spec.endpointPicker.replicas with
    | none =>
      rw [pickers, given]
      decide
    | some n =>
      rw [pickers, given]
      exact (fits n (.inr (.inr (.inl given)))).2

end Plan

namespace ChildObject
variable {d : ChildObject} {s t u : Cluster} {written : ObjectKey → Prop}

def found (d : ChildObject) (s : Cluster) : Json := (Assoc.get? d.key s.objects).getD .null

def WrittenOver (d : ChildObject) (s t : Cluster) : Prop :=
  ∃ e text n, s.addresses < n ∧ Assoc.get? d.key t.objects = some e ∧
    d.Reads (d.storedOver (d.found s) (.str text) (.str (address n)) s.autoReady) e

theorem Stored.writtenOver (stored : d.Stored s t) : d.WrittenOver s t := by
  obtain ⟨e, text, there, reads⟩ := stored.holds
  exact ⟨e, text, s.addresses + 1, Nat.lt_succ_self _, there, reads⟩

theorem WrittenOver.after (wrote : d.WrittenOver t u) (framed : Framed written s t)
    (apart : ¬ written d.key) : d.WrittenOver s u := by
  obtain ⟨e, text, n, fresh, there, reads⟩ := wrote
  have same : d.found t = d.found s := by rw [found, framed.alike.objects _ apart, found]
  rw [same, framed.alike.autoReady] at reads
  exact ⟨e, text, n, Nat.lt_of_le_of_lt framed.addresses fresh, there, reads⟩

theorem WrittenOver.before (wrote : d.WrittenOver s t) (framed : Framed written t u)
    (apart : ¬ written d.key) : d.WrittenOver s u := by
  obtain ⟨e, text, n, fresh, there, reads⟩ := wrote
  exact ⟨e, text, n, fresh, (framed.alike.objects _ apart).trans there, reads⟩

end ChildObject

namespace Engine
variable {g : Engine} {s t u : Cluster} {plan : Plan}

theorem writeAll_stores (builtin : g.registry = .builtin) (k : ChildKind) {ds : List ChildObject}
    (tidy : ∀ d ∈ ds, d.Tidy) (apart : (ds.map ChildObject.key).Nodup) (sound : s.Sound)
    (calm : s.Calm) (installed : ∀ t : ResourceType, s.hasType t.builtinApi = true) :
    ∃ t, Does (g.writeAll k ds) s (.ok ()) [] t ∧ Framed (· ∈ ds.map ChildObject.key) s t ∧
      ∀ d ∈ ds, d.WrittenOver s t := by
  induction ds generalizing s with
  | nil => exact ⟨s, does_pure (), .refl _ sound, fun d mem => absurd mem List.not_mem_nil⟩
  | cons d rest ih =>
    obtain ⟨fresh, apart⟩ := List.nodup_cons.mp apart
    obtain ⟨w, t, yields, stored⟩ :=
      d.write_stores (tidy d List.mem_cons_self) sound calm (installed d.resource)
    have typed : ∀ r : ResourceType, t.hasType r.builtinApi = true := fun r => by
      rw [stored.framed.alike.hasType, installed]
    obtain ⟨u, does, framed, written⟩ := ih (fun d mem => tidy d (List.mem_cons_of_mem _ mem)) apart
      stored.framed.sound (stored.framed.calm calm) typed
    refine ⟨u, ?_, ?_, ?_⟩
    · unfold writeAll
      rw [builtin]
      exact does_bind (does_outcome yields) does
    · refine (stored.framed.trans framed).mono fun key mem => ?_
      rcases mem with rfl | later
      · exact List.mem_cons_self
      · exact List.mem_cons_of_mem _ later
    · intro d' mem
      rcases List.mem_cons.mp mem with rfl | later
      · exact stored.writtenOver.before framed fresh
      · refine (written d' later).after stored.framed fun same => fresh ?_
        exact same ▸ List.mem_map_of_mem later

theorem workload_sampled {k : ChildKind} {replicas : Int} {selector podLabels : Labels}
    {podSpec : Json} (range : 1 ≤ replicas ∧ replicas ≤ 2147483647)
    (pod : Shape.Fits podSpec Shape.podSpec) (auto : s.autoReady = true)
    (legible : ∀ ref ∈ (plan.workload k replicas selector podLabels podSpec).ownersOver
      ((plan.workload k replicas selector podLabels podSpec).found s),
      OwnerReference.decoder.Takes ref)
    (written : (plan.workload k replicas selector podLabels podSpec).WrittenOver s t) :
    sampled t (plan.childKey .deployment k) = .ok ⟨true, replicas, replicas⟩ := by
  obtain ⟨e, text, n, _, there, reads⟩ := written
  rw [ChildObject.storedOver_eq] at reads
  have asked : requestedReplicas (plan.workload k replicas selector podLabels podSpec).payload =
      replicas := by
    change (if replicas < (twoTo 63 : Int) then replicas else 1) = replicas
    exact if_pos (by simp [twoTo]; omega)
  have read := workload_read reads ⟨text, rfl⟩ ⟨_, rfl, legible⟩ ⟨rfl, rfl⟩
    (by rw [auto, asked]; rfl) range pod
  have found : Assoc.get? (plan.childKey .deployment k) t.objects = some e := there
  rw [sampled, found]
  simp only [read]

/-- The owner references that the Deployments keep can be read as such. -/
def Legible (plan : Plan) (s : Cluster) : Prop :=
  ∀ d ∈ plan.children, d.resource = .deployment → ∀ ref ∈ d.ownersOver (d.found s),
    OwnerReference.decoder.Takes ref

def readyBehind (plan : Plan) : ChildKind → Replicas
  | .routingAccessPoint => ⟨true, plan.endpointPicker.replicas, plan.endpointPicker.replicas⟩
  | _ => ⟨true, plan.modelServer.replicas, plan.modelServer.replicas⟩

theorem behind_sampled {k : ChildKind} (gated : k = .accessPoint ∨ k = .routingAccessPoint)
    (inRange : plan.InRange) (auto : s.autoReady = true) (legible : Legible plan s)
    (written : ∀ d ∈ (behind k).build plan, d.WrittenOver s t) :
    sampled t (plan.childKey .deployment (behind k)) = .ok (readyBehind plan k) := by
  have kept : ∀ l, ∀ d ∈ ChildKind.build plan l, d.resource = .deployment →
      ∀ ref ∈ d.ownersOver (d.found s), OwnerReference.decoder.Takes ref := by
    intro l d mem
    exact legible d (l.build_children mem)
  rcases gated with rfl | rfl
  · exact workload_sampled (k := .workload) inRange.modelServer
      (Payload.serving_pod_fits plan.modelServer inRange.port) auto
      (kept .workload _ List.mem_cons_self rfl) (written _ List.mem_cons_self)
  · exact workload_sampled (k := .routingWorkload) inRange.endpointPicker
      (Payload.picker_pod_fits plan inRange.ports) auto
      (kept .routingWorkload _ List.mem_cons_self rfl) (written _ List.mem_cons_self)

theorem settled_ready {k : ChildKind} {sample : Except StoreError Replicas}
    (ready : k = .accessPoint ∨ k = .routingAccessPoint → sample = .ok (readyBehind plan k)) :
    settled k sample = (.ok true, (settled k (.ok (readyBehind plan k))).2) := by
  cases k with
  | accessPoint =>
    rw [ready (.inl rfl)]
    simp [settled, Replicas.isReady, readyBehind]
  | routingAccessPoint =>
    rw [ready (.inr rfl)]
    simp [settled, Replicas.isReady, readyBehind]
  | _ => rfl

theorem behind_done {done rest : List ChildKind} {k : ChildKind}
    (split : ChildKind.all = done ++ k :: rest)
    (gated : k = .accessPoint ∨ k = .routingAccessPoint) : behind k ∈ done := by
  obtain ⟨i, short, place, next⟩ := ChildKind.place_of_split split.symm
  subst place
  clear split
  rcases gated with rfl | rfl
  · interval_cases i <;> first | (cases next; decide) | cases next
  · interval_cases i <;> first | (cases next; decide) | cases next

def convergedNotes (plan : Plan) (kinds : List ChildKind) : List Note :=
  kinds.flatMap (fun k => (settled k (.ok (readyBehind plan k))).2) ++ [.phase .ready]

/-- A further group is written, and what was written of the others stays: groups lie apart. -/
theorem writeGroup_stores {s₀ : Cluster} (builtin : g.registry = .builtin)
    (installed : ∀ t : ResourceType, s₀.hasType t.builtinApi = true) (calm : s₀.Calm)
    {done : List ChildKind} {k : ChildKind} (fresh : k ∉ done)
    (framed : Framed (plan.Writes done) s₀ s)
    (written : ∀ l ∈ done, ∀ d ∈ l.build plan, d.WrittenOver s₀ s) :
    ∃ t, Does (g.writeAll k (k.build plan)) s (.ok ()) [] t ∧
      Framed (plan.Writes (done ++ [k])) s₀ t ∧
      ∀ l ∈ done ++ [k], ∀ d ∈ l.build plan, d.WrittenOver s₀ t := by
  have typed : ∀ r : ResourceType, s.hasType r.builtinApi = true := fun r => by
    rw [framed.alike.hasType, installed]
  obtain ⟨t, wrote, framed', stored⟩ := writeAll_stores builtin k (k.build_tidy plan)
    (plan.build_keys_nodup k) framed.sound (framed.calm calm) typed
  have apart : ∀ {l}, l ∈ done → ∀ d ∈ ChildKind.build plan l,
      d.key ∉ (k.build plan).map ChildObject.key := by
    intro l mem d built same
    obtain ⟨d', built', key⟩ := List.mem_map.mp same
    obtain ⟨r, _, here⟩ := Plan.build_key built
    obtain ⟨r', _, there⟩ := Plan.build_key built'
    exact fresh ((Plan.childKey_inj (here.symm.trans (key.symm.trans there))).2 ▸ mem)
  refine ⟨t, wrote, (framed.trans framed').mono fun key mem => ?_, fun l mem d built => ?_⟩
  · rcases mem with ⟨l, mem, r, listed, same⟩ | new
    · exact ⟨l, List.mem_append_left _ mem, r, listed, same⟩
    · obtain ⟨d, built, rfl⟩ := List.mem_map.mp new
      obtain ⟨r, listed, same⟩ := Plan.build_key built
      exact ⟨k, List.mem_append_right _ List.mem_cons_self, r, listed, same⟩
  · rcases List.mem_append.mp mem with old | new
    · exact (written l old d built).before framed' (apart old d built)
    · obtain rfl := List.mem_singleton.mp new
      refine (stored d built).after framed ?_
      rintro ⟨l', mem', r, _, same⟩
      obtain ⟨r', _, here⟩ := Plan.build_key built
      exact fresh ((Plan.childKey_inj (here.symm.trans same)).2 ▸ mem')

theorem writeChildren_converges {s₀ : Cluster} (builtin : g.registry = .builtin)
    (inRange : plan.InRange) (installed : ∀ t : ResourceType, s₀.hasType t.builtinApi = true)
    (auto : s₀.autoReady = true) (calm : s₀.Calm) (legible : Legible plan s₀)
    {done kinds : List ChildKind} (split : ChildKind.all = done ++ kinds)
    (framed : Framed (plan.Writes done) s₀ s)
    (written : ∀ k ∈ done, ∀ d ∈ k.build plan, d.WrittenOver s₀ s) :
    ∃ t, Does (g.writeChildren plan.namespace_ plan.name plan kinds) s
        (.ok (.after g.settings.timing.steady)) (convergedNotes plan kinds) t ∧
      Framed (plan.Writes ChildKind.all) s₀ t ∧
      ∀ k ∈ ChildKind.all, ∀ d ∈ k.build plan, d.WrittenOver s₀ t := by
  induction kinds generalizing done s with
  | nil =>
    rw [List.append_nil] at split
    exact ⟨s, later_does .converged, split ▸ framed, split ▸ written⟩
  | cons k rest ih =>
    have fresh : k ∉ done := by
      have distinct : (done ++ k :: rest).Nodup := split ▸ (by decide : ChildKind.all.Nodup)
      intro mem
      exact (List.nodup_append.mp distinct).2.2 k mem k List.mem_cons_self rfl
    obtain ⟨t, wrote, framed', written'⟩ :=
      writeGroup_stores builtin installed calm fresh framed written
    obtain ⟨u, does, framed'', stored⟩ :=
      ih (by rw [split, List.append_assoc]; rfl) framed' written'
    refine ⟨u, ?_, framed'', stored⟩
    have looked : Does (g.settle plan.namespace_ plan.name k) t _ _ t :=
      settle_does builtin (framed'.calm calm) k
    rw [settled_ready fun gated => behind_sampled gated inRange auto legible fun d built =>
      written' (behind k) (List.mem_append_left _ (behind_done split gated)) d built] at looked
    have followed : Does (g.followUp plan k rest) t _ _ u := does_bind looked does
    have notes : convergedNotes plan (k :: rest) =
        [] ++ ((settled k (.ok (readyBehind plan k))).2 ++ convergedNotes plan rest) := by
      simp [convergedNotes]
    rw [writeChildren_cons, notes]
    exact does_bind (f := fun _ => g.followUp plan k rest) wrote followed

theorem missingIn_satisfied (installed : ∀ t : ResourceType, s.hasType t.builtinApi = true)
    (present : plan.gateway.className.name ∈ s.classNames) : missingIn s plan = .satisfied := by
  have listed : s.classNames.contains plan.gateway.className.name = true := by
    simpa using present
  unfold missingIn
  simp only [installed, listed, if_true]
  rfl

def allNotes (plan : Plan) : List Note :=
  .condition .specValid .true_ "Valid" "spec accepted" ::
    (preflightNotes .satisfied ++ convergedNotes plan ChildKind.all)

theorem alignment_converges {r : InferenceScheduler} (builtin : g.registry = .builtin)
    (resolved : Plan.resolve r = .ok plan) (inRange : plan.InRange) (sound : s.Sound)
    (calm : s.Calm) (installed : ∀ t : ResourceType, s.hasType t.builtinApi = true)
    (auto : s.autoReady = true) (present : plan.gateway.className.name ∈ s.classNames)
    (legible : Legible plan s) :
    ∃ t, Does (g.alignment r) s (.ok (.after g.settings.timing.steady)) (allNotes plan) t ∧
      Framed (plan.Writes ChildKind.all) s t ∧
      ∀ k ∈ ChildKind.all, ∀ d ∈ k.build plan, d.WrittenOver s t := by
  obtain ⟨named, placed, _⟩ := Plan.resolve_root resolved
  have accepted : Does (g.acceptSpec r) s _ _ s := acceptSpec_does r
  have looked : Does (g.preflight plan) s _ _ s := preflight_does builtin calm plan
  rw [resolved] at accepted
  rw [missingIn_satisfied installed present] at looked
  obtain ⟨t, wrote, framed, stored⟩ := writeChildren_converges (s := s) builtin inRange installed
    auto calm legible (List.nil_append _).symm (.refl _ sound) fun k mem => absurd mem List.not_mem_nil
  rw [named, placed] at wrote
  exact ⟨t, does_bind accepted (does_bind looked wrote), framed, stored⟩

end Engine

theorem Note.Shown.condition {generation : Option Int64} {st : SchedulerStatus} {t : ConditionType}
    {status : ConditionStatus} {reason message : String}
    (shown : (Note.condition t status reason message).Shown generation st) :
    ∃ c, st.conditions.find? (fun c => c.type_ = t) = some c ∧ c.status = status ∧
      c.reason = some reason ∧ c.message = some message ∧ c.observedGeneration = generation := by
  have same : StatusBoard.putCondition generation t status reason message "" st.conditions =
      st.conditions := congrArg SchedulerStatus.conditions (shown "" none)
  generalize st.conditions = conditions at same
  induction conditions with
  | nil => simp [StatusBoard.putCondition] at same
  | cons c rest ih =>
    by_cases here : c.type_ = t
    · simp only [StatusBoard.putCondition, if_pos here, List.cons.injEq, and_true] at same
      refine ⟨c, by simp [here], ?_⟩
      rw [← same]
      exact ⟨rfl, rfl, rfl, rfl⟩
    · simp only [StatusBoard.putCondition, if_neg here, List.cons.injEq, true_and] at same
      obtain ⟨c', found, fields⟩ := ih same
      exact ⟨c', by simp [here, found], fields⟩

structure Plan.Reports (plan : Plan) (generation : Option Int64) (st : SchedulerStatus) : Prop where
  phase : st.phase = some .ready
  observedGeneration : st.observedGeneration = generation
  prerequisites : st.prerequisitesValidated = true
  prerequisiteMessage : st.prerequisiteMessage = some Engine.prerequisitesFine
  modelServer : st.modelServerReplicas = plan.modelServer.replicas
  endpointPicker : st.eppReplicas = plan.endpointPicker.replicas
  pool : st.inferencePoolReady = true
  gateway : st.gatewayReady = true
  conditions : ∀ t, t ≠ .unknown → ∃ c, st.conditions.find? (fun c => c.type_ = t) = some c ∧
    c.status = .true_ ∧ c.observedGeneration = generation

namespace Engine
variable {plan : Plan}

theorem allNotes_eq (plan : Plan) : allNotes plan =
    [.condition .specValid .true_ "Valid" "spec accepted",
     .prerequisites true (some prerequisitesFine),
     .condition .prerequisitesValidated .true_ "ValidationSucceeded"
       "all prerequisites are installed",
     .phase .deploying,
     .modelServerReplicas plan.modelServer.replicas,
     .condition .modelServerReady .true_ "Ready" (readyBehind plan .accessPoint).summary,
     .eppReplicas plan.endpointPicker.replicas,
     .condition .eppReady .true_ "Ready" (readyBehind plan .routingAccessPoint).summary,
     .inferencePoolReady,
     .condition .inferencePoolReady .true_ "Created" "InferencePool applied",
     .gatewayReady,
     .condition .gatewayReady .true_ "Created" "Gateway and HTTPRoute applied",
     .phase .ready] := by
  simp [allNotes, preflightNotes, convergedNotes, ChildKind.all, settled, readyBehind,
    replicaNotes, Replicas.isReady, ConditionStatus.ofBool]

theorem condition_noted (plan : Plan) {t : ConditionType} (known : t ≠ .unknown) :
    ∃ reason message, Note.condition t .true_ reason message ∈ allNotes plan := by
  rw [allNotes_eq]
  cases t with
  | unknown => exact absurd rfl known
  | _ => simp

theorem reports_of_entered {generation : Option Int64} {before st : SchedulerStatus}
    (observed : before.observedGeneration = generation)
    (entered : Entered generation (allNotes plan) before st) : plan.Reports generation st := by
  have separate : Note.Separate (allNotes plan) := by
    rw [allNotes_eq]
    simp [Note.Separate, Note.topic]
  have shown := Note.shown_of_entered entered separate
  have status : ∀ {n : Note}, n ∈ allNotes plan → n.put generation "" { st with phase := none } =
      { st with phase := n.nextPhase none } := fun mem => shown _ mem "" none
  have validated := status (n := .prerequisites true (some prerequisitesFine)) (by simp [allNotes_eq])
  have models := status (n := .modelServerReplicas plan.modelServer.replicas) (by simp [allNotes_eq])
  have pickers := status (n := .eppReplicas plan.endpointPicker.replicas) (by simp [allNotes_eq])
  have pool := status (n := .inferencePoolReady) (by simp [allNotes_eq])
  have gateway := status (n := .gatewayReady) (by simp [allNotes_eq])
  refine ⟨?_, entered.observedGeneration.trans observed, ?_, ?_, ?_, ?_, ?_, ?_, ?_⟩
  · rw [Note.lastPhase_of_entered entered, allNotes_eq]
    rfl
  · exact (congrArg SchedulerStatus.prerequisitesValidated validated).symm
  · exact (congrArg SchedulerStatus.prerequisiteMessage validated).symm
  · exact (congrArg SchedulerStatus.modelServerReplicas models).symm
  · exact (congrArg SchedulerStatus.eppReplicas pickers).symm
  · exact (congrArg SchedulerStatus.inferencePoolReady pool).symm
  · exact (congrArg SchedulerStatus.gatewayReady gateway).symm
  · intro t known
    obtain ⟨reason, message, mem⟩ := condition_noted plan known
    obtain ⟨c, first, value, _, _, current⟩ := (shown _ mem).condition
    exact ⟨c, first, value, current⟩

/-- A pass in a cluster that has all it takes, over a root whose spec is valid, ends well and
leaves every child of the root as it was built, but for its namespace, its version, the
references of other owners, the addresses of a Service and what is reported of it. The root
has the marker, and its status says that everything is there. -/
theorem one_pass_converges {settings : PassSettings} {ns name : String} {s t : Cluster}
    {out : Except ReconcileError Requeue} {r : InferenceScheduler} (reached : s.Reachable)
    (calm : s.failures = []) (installed : ∀ t : ResourceType, s.hasType t.builtinApi = true)
    (auto : s.autoReady = true) (found : s.root? ns name = some r)
    (alive : r.metadata.deletionTimestamp = none) (resolved : Plan.resolve r = .ok plan)
    (present : plan.gateway.className.name ∈ s.classNames) (legible : Legible plan s)
    (run : RunsOn Cluster.answer ((Engine.mk .builtin settings).reconcile ns name) s out t) :
    out = .ok (.after settings.timing.steady) ∧
      plan.children.map ChildObject.key =
        (childKeys name).map (fun k => k.1.builtinApi.objectKey (k.1.within ns) k.2) ∧
      (∀ d ∈ plan.children, ∃ e version n, s.addresses < n ∧
        Assoc.get? d.key t.objects = some e ∧
        d.Reads
          { version := some (.str version)
            owners := some (.arr (d.ownersOver (d.found s)))
            address :=
              if d.resource = .service then
                some ((ChildObject.kept (d.found s) "clusterIP").getD (.str (address n)))
              else none
            addresses :=
              if d.resource = .service then
                if (ChildObject.kept (d.found s) "clusterIP").isNone then
                  some (.arr [.str (address n)])
                else ChildObject.kept (d.found s) "clusterIPs"
              else none
            status :=
              if d.resource = .deployment then
                some (ChildObject.readyStatus (requestedReplicas d.payload))
              else (d.found s).get? "status" } e) ∧
      ∃ r' status, t.root? ns name = some r' ∧ r.Renewed r' ∧ r'.hasMarker = true ∧
        r'.status = some status ∧ plan.Reports r.metadata.generation status := by
  have sound := reached.sound
  obtain ⟨named, placed, _⟩ := Plan.resolve_root resolved
  obtain ⟨inNamespace, isNamed⟩ := root_key (sound.root found) "default"
  have after := reconcile_runs_some calm found run
  rw [if_neg (by rw [alive]; simp)] at after
  obtain ⟨r₂, before, u, holds, _, observed, aligned⟩ := upkeep_runs sound calm found alive after
  have same : ∀ d : ChildObject, d.found u = d.found s := fun d => by
    rw [ChildObject.found, holds.objects, ChildObject.found]
  have kept : Legible plan u := fun d mem deployment ref listed =>
    legible d mem deployment ref (same d ▸ listed)
  obtain ⟨v, does, framed, stored⟩ := alignment_converges (g := ⟨.builtin, settings⟩) rfl resolved
    (Plan.resolve_inRange resolved (sound.root found).fits) holds.sound (holds.calm calm)
    (fun t => by rw [hasType, holds.types]; exact installed t) (holds.autoReady.trans auto)
    (by rw [(holds.alike fun _ => True).classes]; exact present) kept
  obtain ⟨rfl, r', status, renewed, marked, reported, entered, holds'⟩ := aligned does framed
  refine ⟨rfl, ?_, ?_, r', status, holds'.root, renewed, marked, reported,
    reports_of_entered observed entered⟩
  · have keys : plan.children.map ChildObject.key = (childKeys plan.name).map fun k =>
        k.1.builtinApi.objectKey (k.1.within plan.namespace_) k.2 := rfl
    rw [keys, named, placed, inNamespace, isNamed]
  · intro d mem
    obtain ⟨k, listed, built⟩ := List.mem_flatMap.mp mem
    obtain ⟨e, version, n, fresh, there, reads⟩ := stored k listed d built
    rw [ChildObject.storedOver_eq, same, holds.autoReady, auto] at reads
    simp only [and_true] at reads
    exact ⟨e, version, n, holds.addresses ▸ fresh, holds'.objects ▸ there, reads⟩

theorem legible_of_empty (empty : ∀ d ∈ plan.children, Assoc.get? d.key s.objects = none) :
    Legible plan s := by
  intro d mem _ ref listed
  have nothing : d.found s = .null := by rw [ChildObject.found, empty d mem]; rfl
  rw [nothing] at listed
  obtain rfl : ref = d.owner.toJson := List.mem_singleton.mp listed
  exact d.owner.takes_toJson

def servable (s : Cluster) (ns name : String) : Bool :=
  match s.root? ns name with
  | none => false
  | some r =>
    match Plan.resolve r with
    | .error _ => false
    | .ok plan =>
      r.metadata.deletionTimestamp.isNone && s.classNames.contains plan.gateway.className.name

theorem servable_root {s : Cluster} {ns name : String} (there : servable s ns name = true) :
    ∃ r plan, s.root? ns name = some r ∧ r.metadata.deletionTimestamp = none ∧
      Plan.resolve r = .ok plan ∧ plan.gateway.className.name ∈ s.classNames := by
  unfold servable at there
  cases found : s.root? ns name with
  | none => simp [found] at there
  | some r =>
    cases resolved : Plan.resolve r with
    | error e => simp [found, resolved] at there
    | ok plan =>
      simp only [found, resolved, Bool.and_eq_true, Option.isNone_iff_eq_none,
        List.contains_iff_mem] at there
      exact ⟨r, plan, rfl, there.1, resolved, there.2⟩

theorem one_pass_over_fresh_root :
    let pass := ((Engine.mk .builtin {}).reconcile "default" "demo").run (Cluster.asStore "") fresh
    pass.1 = .ok (.after 300) ∧ ∃ r plan, Plan.resolve r = .ok plan ∧
      (∀ d ∈ plan.children, ∃ e, Assoc.get? d.key pass.2.objects = some e) ∧
      ∃ r' status, pass.2.root? "default" "demo" = some r' ∧ r'.hasMarker = true ∧
        r'.status = some status ∧ plan.Reports r.metadata.generation status := by
  obtain ⟨r, plan, found, alive, resolved, present⟩ :=
    servable_root (show servable fresh "default" "demo" = true by decide +kernel)
  -- The only object there is the gateway class.
  have classes : ∀ e ∈ fresh.objects, e.1.kind = "GatewayClass" := by decide +kernel
  have empty : ∀ d ∈ plan.children, Assoc.get? d.key fresh.objects = none := by
    intro d mem
    cases stored : Assoc.get? d.key fresh.objects with
    | none => rfl
    | some e =>
      exact absurd (classes _ (Assoc.mem_of_get? stored)) (key_kind (Plan.children_tidy mem))
  have installed : ∀ t : ResourceType, fresh.hasType t.builtinApi = true := by
    intro t
    cases t <;> decide +kernel
  obtain ⟨done, _, children, r', status, root, _, marked, reported, reports⟩ :=
    one_pass_converges fresh_reachable (by decide +kernel) installed
      (by decide +kernel) found alive resolved present (legible_of_empty empty)
      (runsOn_run (Cluster.asStore "") _ _)
  refine ⟨done, r, plan, resolved, fun d mem => ?_, r', status, root, marked, reported, reports⟩
  obtain ⟨e, _, _, _, there, _⟩ := children d mem
  exact ⟨e, there⟩

/-- `fresh` with a workload that names a number as its owner. -/
def misowned : Cluster :=
  fresh.insertObject ResourceType.deployment.builtinApi (some "default")
    (.obj [("metadata",
      .obj [("name", .str "demo-model-server"), ("ownerReferences", .arr [.int 1])])])

/-- The owner references of a workload are kept, so where they cannot be read the pass fails. -/
theorem unreadable_owner_stops_pass :
    misowned.Reachable ∧ misowned.failures = [] ∧
      (∀ t : ResourceType, misowned.hasType t.builtinApi = true) ∧ misowned.autoReady = true ∧
      (∃ r plan, misowned.root? "default" "demo" = some r ∧
        r.metadata.deletionTimestamp = none ∧ Plan.resolve r = .ok plan ∧
        plan.gateway.className.name ∈ misowned.classNames) ∧
      (((Engine.mk .builtin {}).reconcile "default" "demo").run (Cluster.asStore "") misowned).1 =
        .error (.store (.undecodable "invalid type: integer \x601\x60, expected OwnerReference")) := by
  refine ⟨fresh_reachable.next (.insertObject _ _ _) ?_, by decide +kernel, ?_, by decide +kernel,
    servable_root (by decide +kernel), by decide +kernel⟩
  · exact ⟨⟨trivial, ⟨trivial, trivial⟩, trivial⟩, trivial⟩
  · intro t
    cases t <;> decide +kernel

end Engine
end SchedulerOperator
