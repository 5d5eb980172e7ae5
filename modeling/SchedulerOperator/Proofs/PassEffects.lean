import Mathlib.Tactic.IntervalCases
import SchedulerOperator.Proofs.ChildEffects

/-!
Each stretch of a pass is determined by the cluster that it finds, if no one else acts on it, and
taken once more it does the same without a change.
-/
namespace SchedulerOperator
open Cluster Attempt Step

namespace Engine
variable {g : Engine} {s t u : Cluster} {plan : Plan}

def failureNotes (k : ChildKind) (message : String) : List Note :=
  [.condition (failureCondition k).1 .false_ (failureCondition k).2 message, .keepPhase]

theorem noteFailure_does (k : ChildKind) (message : String) :
    Does (g.noteFailure k message) s (.ok ()) (failureNotes k message) s :=
  does_bind does_setCondition (does_bind (does_move g .stepFailed) (does_pure ()))

theorem failed_does {α : Type} (k : ChildKind) (message : String) (e : ReconcileError) :
    Does (do g.noteFailure k message; Step.fail e : Step α) s (.error e)
      (failureNotes k message) s := by
  have whole : Does (do g.noteFailure k message; Step.fail e : Step α) s (.error e)
      (failureNotes k message ++ []) s :=
    does_bind (noteFailure_does k message) (does_fail e)
  rw [List.append_nil] at whole
  exact whole

def WroteAll (k : ChildKind) (r : Except ReconcileError Unit) (notes : List Note) : Prop :=
  (r = .ok () ∧ notes = []) ∨
    ∃ e message, r = .error (.store e) ∧ notes = failureNotes k message

theorem writeAll_repeats (builtin : g.registry = .builtin) {k : ChildKind}
    {ds : List ChildObject} (tidy : ∀ d ∈ ds, d.Tidy) (apart : (ds.map ChildObject.key).Nodup)
    (sound : s.Sound) (calm : s.Calm) :
    ∃ r notes t, WroteAll k r notes ∧
      Repeats (g.writeAll k ds) (· ∈ ds.map ChildObject.key) (· ∈ ds.map ChildObject.key)
        s r notes t := by
  induction ds generalizing s with
  | nil =>
    exact ⟨_, _, s, .inl ⟨rfl, rfl⟩, repeats_of_still sound fun u _ => does_pure ()⟩
  | cons d rest ih =>
    obtain ⟨fresh, apart⟩ := List.nodup_cons.mp apart
    have tidy' := tidy d List.mem_cons_self
    unfold writeAll
    rw [builtin]
    cases installed : s.hasType d.api with
    | false =>
      let message := d.resource.kind ++ " " ++ d.name ++ ": " ++ d.api.missing.message
      refine ⟨_, failureNotes k message, s, .inr ⟨d.api.missing, message, rfl, rfl⟩,
        repeats_of_still sound fun u alike => ?_⟩
      have missing := d.write_missing (alike.calm calm) (by rw [alike.hasType, installed])
      exact does_bind (does_outcome missing) (failed_does k _ _)
    | true =>
      obtain ⟨w, t, yields, stored⟩ := d.write_stores tidy' sound calm installed
      obtain ⟨r, notes, v, wrote, repeats⟩ := ih (fun d mem => tidy d (List.mem_cons_of_mem _ mem))
        apart stored.framed.sound (stored.framed.calm calm)
      refine ⟨r, notes, v, wrote, ?_, ?_, ?_⟩
      · exact does_bind (does_outcome yields) repeats.first
      · refine (stored.framed.trans repeats.framed).mono fun key mem => ?_
        rcases mem with rfl | later
        · exact List.mem_cons_self
        · exact List.mem_cons_of_mem _ later
      · intro u alike
        -- The others lie elsewhere, so the first is still as it was written.
        have there : Alike (· = d.key) t u := by
          refine (repeats.framed.alike.mono ?_).trans (alike.mono ?_)
          · rintro key rfl
            exact fresh
          · rintro key rfl
            exact List.mem_cons_self
        obtain ⟨x, yields', quiet⟩ := d.write_again tidy' calm installed stored there
        obtain ⟨y, does, quiet'⟩ := repeats.again x
          ((alike.mono fun key => List.mem_cons_of_mem _).trans (quiet.alike _))
        exact ⟨y, does_bind (does_outcome yields') does, quiet.trans quiet'⟩

def sampled (s : Cluster) (key : ObjectKey) : Except StoreError Replicas :=
  match Assoc.get? key s.objects with
  | none => .ok .absent
  | some v =>
    match Replicas.ofJson v with
    | .ok replicas => .ok replicas
    | .error e => .error (.undecodable e.message)

theorem probe_yields (calm : s.Calm) (k : ChildKind) :
    Yields (Replicas.probe .builtin plan.namespace_ (k.childName plan.name)) s
      (sampled s (plan.childKey .deployment k)) s := by
  have look := yields_request calm
    (.get ResourceType.deployment.builtinApi (some plan.namespace_) (k.childName plan.name))
  have there : s.object? ResourceType.deployment.builtinApi (some plan.namespace_)
      (k.childName plan.name) = Assoc.get? (plan.childKey .deployment k) s.objects := rfl
  unfold sampled
  cases found : Assoc.get? (plan.childKey .deployment k) s.objects with
  | none =>
    simp only [perform, there, found] at look
    exact yields_bind look (yields_pure _)
  | some v =>
    simp only [perform, there, found] at look
    refine yields_bind look ?_
    cases read : Replicas.ofJson v with
    | ok replicas =>
      simp only [read]
      exact yields_pure _
    | error e =>
      simp only [read]
      exact yields_throw _

theorem count_does (builtin : g.registry = .builtin) (calm : s.Calm) (k : ChildKind) :
    Does (g.count k plan.namespace_ plan.name) s
      ((sampled s (plan.childKey .deployment (behind k))).mapError .store)
      (match sampled s (plan.childKey .deployment (behind k)) with
        | .ok _ => []
        | .error e => failureNotes k e.message) s := by
  have probe : Yields (Replicas.probe .builtin plan.namespace_ ((behind k).childName plan.name))
      s _ s := probe_yields calm (behind k)
  unfold count
  rw [builtin]
  cases found : sampled s (plan.childKey .deployment (behind k)) with
  | ok replicas =>
    rw [found] at probe
    exact does_bind (does_outcome probe) (does_pure replicas)
  | error e =>
    rw [found] at probe
    exact does_bind (does_outcome probe) (failed_does k _ _)

def replicaNotes (condition : ConditionType) (replicas : Replicas) : List Note :=
  [.condition condition (.ofBool replicas.isReady)
    (if replicas.isReady then "Ready" else "NotReady") replicas.summary]

theorem mayBuildOn_does (condition : ConditionType) (replicas : Replicas) :
    Does (mayBuildOn condition replicas) s (.ok replicas.isReady)
      (replicaNotes condition replicas) s :=
  does_bind does_setCondition (does_pure _)

/-- What is noted once a group was written, given what the look at the workload behind it
found, and whether the pass goes on. -/
def settled (k : ChildKind) (sample : Except StoreError Replicas) :
    Except ReconcileError Bool × List Note :=
  match k, sample with
  | .accessPoint, .ok replicas =>
    (.ok replicas.isReady,
      .modelServerReplicas replicas.ready :: replicaNotes .modelServerReady replicas)
  | .routingAccessPoint, .ok replicas =>
    (.ok replicas.isReady, .eppReplicas replicas.ready :: replicaNotes .eppReady replicas)
  | .accessPoint, .error e => (.error (.store e), failureNotes .accessPoint e.message)
  | .routingAccessPoint, .error e =>
    (.error (.store e), failureNotes .routingAccessPoint e.message)
  | .pool, _ =>
    (.ok true, [.inferencePoolReady,
      .condition .inferencePoolReady .true_ "Created" "InferencePool applied"])
  | .route, _ =>
    (.ok true, [.gatewayReady,
      .condition .gatewayReady .true_ "Created" "Gateway and HTTPRoute applied"])
  | _, _ => (.ok true, [])

theorem settle_does (builtin : g.registry = .builtin) (calm : s.Calm) (k : ChildKind) :
    Does (g.settle plan.namespace_ plan.name k) s
      (settled k (sampled s (plan.childKey .deployment (behind k)))).1
      (settled k (sampled s (plan.childKey .deployment (behind k)))).2 s := by
  have count : Does (g.count k plan.namespace_ plan.name) s _ _ s := count_does builtin calm k
  cases k with
  | accessPoint =>
    cases found : sampled s (plan.childKey .deployment (behind .accessPoint)) with
    | ok replicas =>
      rw [found] at count
      exact does_bind count (does_bind (does_update (.modelServerReplicas _) fun _ => rfl)
        (mayBuildOn_does .modelServerReady replicas))
    | error e =>
      rw [found] at count
      exact does_bind_error count
  | routingAccessPoint =>
    cases found : sampled s (plan.childKey .deployment (behind .routingAccessPoint)) with
    | ok replicas =>
      rw [found] at count
      exact does_bind count (does_bind (does_update (.eppReplicas _) fun _ => rfl)
        (mayBuildOn_does .eppReady replicas))
    | error e =>
      rw [found] at count
      exact does_bind_error count
  | pool =>
    exact does_bind (does_update .inferencePoolReady fun _ => rfl)
      (does_bind does_setCondition (does_pure true))
  | route =>
    exact does_bind (does_update .gatewayReady fun _ => rfl)
      (does_bind does_setCondition (does_pure true))
  | _ => exact does_pure true

def waitAfter (g : Engine) (o : Outcome) : Requeue :=
  match (transition g.settings.timing none o).directive with
  | .requeue wait => wait
  | _ => .never

theorem later_does (o : Outcome) : Does (g.later o) s (.ok (g.waitAfter o)) [o.note] s := by
  cases o <;> exact does_bind (does_move g _) (does_pure _)

def settledTopics : ChildKind → List Topic
  | .accessPoint => [.modelServerReplicas, .condition .modelServerReady]
  | .routingAccessPoint => [.eppReplicas, .condition .eppReady]
  | .pool => [.inferencePoolReady, .condition .inferencePoolReady]
  | .route => [.gatewayReady, .condition .gatewayReady]
  | _ => []

/-- What the writing of some groups makes notes on: on the groups that were settled, then on
the phase, after a failure also on the group that failed. -/
def ChildTopics (kinds : List ChildKind) (topics : List Topic) : Prop :=
  ∃ done rest, kinds = done ++ rest ∧
    (topics = done.flatMap settledTopics ++ [.phase] ∨
      ∃ k more, rest = k :: more ∧
        topics = done.flatMap settledTopics ++ [.condition (failureCondition k).1, .phase])

theorem ChildTopics.cons {kinds : List ChildKind} {topics : List Topic} {k : ChildKind}
    (of : ChildTopics kinds topics) : ChildTopics (k :: kinds) (settledTopics k ++ topics) := by
  obtain ⟨done, rest, rfl, rfl | ⟨l, more, rfl, rfl⟩⟩ := of
  · exact ⟨k :: done, rest, rfl, .inl (by simp)⟩
  · exact ⟨k :: done, l :: more, rfl, .inr ⟨l, more, rfl, by simp⟩⟩

theorem childTopics_failed {kinds : List ChildKind} {k : ChildKind} (message : String) :
    ChildTopics (k :: kinds) ((failureNotes k message).map Note.topic) :=
  ⟨[], k :: kinds, rfl, .inr ⟨k, kinds, rfl, rfl⟩⟩

theorem settled_topics (k : ChildKind) (sample : Except StoreError Replicas) :
    (∃ ready, (settled k sample).1 = .ok ready ∧
      (settled k sample).2.map Note.topic = settledTopics k) ∨
    ∃ e message, (settled k sample).1 = .error (.store e) ∧
      (settled k sample).2 = failureNotes k message := by
  cases k with
  | accessPoint =>
    cases sample with
    | ok replicas => exact .inl ⟨_, rfl, rfl⟩
    | error e => exact .inr ⟨e, e.message, rfl, rfl⟩
  | routingAccessPoint =>
    cases sample with
    | ok replicas => exact .inl ⟨_, rfl, rfl⟩
    | error e => exact .inr ⟨e, e.message, rfl, rfl⟩
  | _ => exact .inl ⟨true, rfl, rfl⟩

theorem settle_repeats (builtin : g.registry = .builtin) (sound : s.Sound) (calm : s.Calm)
    (k : ChildKind) :
    Repeats (g.settle plan.namespace_ plan.name k)
      (· = plan.childKey .deployment (behind k)) (fun _ => False) s
      (settled k (sampled s (plan.childKey .deployment (behind k)))).1
      (settled k (sampled s (plan.childKey .deployment (behind k)))).2 s := by
  refine repeats_of_still sound fun u alike => ?_
  have same : sampled u (plan.childKey .deployment (behind k)) =
      sampled s (plan.childKey .deployment (behind k)) := by
    unfold sampled
    rw [alike.objects _ rfl]
  rw [← same]
  exact settle_does builtin (alike.calm calm) k

def followUp (g : Engine) (plan : Plan) (k : ChildKind) (rest : List ChildKind) :
    Step Requeue :=
  g.settle plan.namespace_ plan.name k >>= fun ready => if ready = true then
    g.writeChildren plan.namespace_ plan.name plan rest else g.later .workloadNotReady

theorem writeChildren_cons (k : ChildKind) (rest : List ChildKind) :
    g.writeChildren plan.namespace_ plan.name plan (k :: rest) =
      g.writeAll k (k.build plan) >>= fun _ => g.followUp plan k rest := rfl

def Touches (plan : Plan) (kinds : List ChildKind) (key : ObjectKey) : Prop :=
  plan.Writes kinds key ∨ plan.Samples kinds key

/-- A group and what follows it repeat themselves together: what follows writes elsewhere. -/
theorem group_repeats {k : ChildKind} {rest : List ChildKind} (apart : Plan.Apart (k :: rest))
    {r : Except ReconcileError Requeue} {notes : List Note}
    (wrote : Repeats (g.writeAll k (k.build plan)) (· ∈ (k.build plan).map ChildObject.key)
      (· ∈ (k.build plan).map ChildObject.key) s (.ok ()) [] t)
    (followed : Repeats (g.followUp plan k rest) (Touches plan (k :: rest)) (plan.Writes rest)
      t r notes u) :
    Repeats (g.writeChildren plan.namespace_ plan.name plan (k :: rest))
      (Touches plan (k :: rest)) (plan.Writes (k :: rest)) s r notes u := by
  rw [writeChildren_cons]
  refine (repeats_bind wrote followed fun key mem => apart.fresh mem).mono ?_ ?_
  · rintro key (mem | touched)
    · exact .inl (Plan.writes_group mem)
    · exact touched
  · rintro key (mem | mem)
    · exact Plan.writes_group mem
    · exact mem.cons k

theorem followUp_repeats (builtin : g.registry = .builtin) {k : ChildKind} {rest : List ChildKind}
    (apart : Plan.Apart (k :: rest)) (sound : s.Sound) (calm : s.Calm)
    {r : Except ReconcileError Requeue} {notes : List Note}
    (of : ChildTopics rest (notes.map Note.topic))
    (more : Repeats (g.writeChildren plan.namespace_ plan.name plan rest) (Touches plan rest)
      (plan.Writes rest) s r notes t) :
    ∃ r notes t, ChildTopics (k :: rest) (notes.map Note.topic) ∧
      Repeats (g.followUp plan k rest) (Touches plan (k :: rest)) (plan.Writes rest)
        s r notes t := by
  have looked : Repeats (g.settle plan.namespace_ plan.name k) _ _ s _ _ s :=
    settle_repeats builtin sound calm k
  generalize sampled s (plan.childKey .deployment (behind k)) = sample at looked
  have sampledOnly : ∀ key, key = plan.childKey .deployment (behind k) →
      Touches plan (k :: rest) key :=
    fun key same => .inr ⟨k, List.mem_cons_self, same⟩
  rcases settled_topics k sample with ⟨ready, result, topics⟩ | ⟨e, message, result, noted⟩
  · rw [result] at looked
    cases ready with
    | true =>
      have followed : Repeats (g.followUp plan k rest) _ _ s r _ t :=
        repeats_bind looked more fun key mem => apart.unseen mem
      refine ⟨r, _, t, ?_, followed.mono ?_ ?_⟩
      · rw [List.map_append, topics]
        exact of.cons
      · rintro key (same | mem | mem)
        · exact sampledOnly key same
        · exact .inl (mem.cons k)
        · exact .inr (mem.cons k)
      · rintro key (none | mem)
        · cases none
        · exact mem
    | false =>
      have waited : Repeats (g.later .workloadNotReady) (fun _ => False) (fun _ => False) s
          (.ok (g.waitAfter .workloadNotReady)) [.phase .deploying] s :=
        repeats_of_still sound fun u _ => later_does .workloadNotReady
      have followed : Repeats (g.followUp plan k rest) _ _ s _ _ s :=
        repeats_bind looked waited fun _ none => none.elim
      refine ⟨_, _, s, ?_, followed.mono ?_ ?_⟩
      · rw [List.map_append, topics]
        exact ⟨[k], rest, rfl, .inl (by simp [Note.topic])⟩
      · rintro key (same | none)
        · exact sampledOnly key same
        · cases none
      · rintro key (none | none) <;> cases none
  · rw [result, noted] at looked
    have followed : Repeats (g.followUp plan k rest) _ _ s _ _ s := repeats_bind_error looked
    exact ⟨_, _, s, childTopics_failed message, followed.mono sampledOnly fun _ none => none.elim⟩

theorem writeChildren_repeats (builtin : g.registry = .builtin) {kinds : List ChildKind}
    (apart : Plan.Apart kinds) (sound : s.Sound) (calm : s.Calm) :
    ∃ r notes t, ChildTopics kinds (notes.map Note.topic) ∧
      Repeats (g.writeChildren plan.namespace_ plan.name plan kinds) (Touches plan kinds)
        (plan.Writes kinds) s r notes t := by
  induction kinds generalizing s with
  | nil =>
    exact ⟨_, _, s, ⟨[], [], rfl, .inl rfl⟩, repeats_of_still sound fun u _ => later_does .converged⟩
  | cons k rest ih =>
    obtain ⟨r, notes, t, wrote, written⟩ := writeAll_repeats builtin (k.build_tidy plan)
      (plan.build_keys_nodup k) sound calm
    rcases wrote with ⟨rfl, rfl⟩ | ⟨e, message, rfl, rfl⟩
    · have sound' := written.framed.sound
      have calm' := written.framed.calm calm
      obtain ⟨r, notes, u, of, more⟩ := ih (List.pairwise_cons.mp apart).2 sound' calm'
      obtain ⟨r', notes', v, of', followed⟩ := followUp_repeats builtin apart sound' calm' of more
      exact ⟨r', notes', v, of', group_repeats apart written followed⟩
    · refine ⟨.error (.store e), _, t, childTopics_failed message, ?_⟩
      rw [writeChildren_cons]
      refine (repeats_bind_error written).mono ?_ ?_
      · exact fun key mem => .inl (Plan.writes_group mem)
      · exact fun key mem => Plan.writes_group mem

def missingIn (s : Cluster) (plan : Plan) : Preflight :=
  let probed := Capability.all.map fun c => (c, s.hasType c.resource.builtinApi)
  let className := plan.gateway.className.name
  .ofItems <| Preflight.withoutRepeats [] <| Preflight.missingMessages [] probed ++
    if Preflight.classTypeInstalled probed then
      if s.classNames.contains className then [] else [Preflight.missingClass className]
    else []

def missingFrom (registry : TypeRegistry) (s : Cluster) (plan : Plan) : Preflight :=
  let probed := Capability.all.map fun c => (c, s.hasType (registry.api c.resource))
  let className := plan.gateway.className.name
  .ofItems <| Preflight.withoutRepeats [] <| Preflight.missingMessages [] probed ++
    if Preflight.classTypeInstalled probed then
      if (s.namesOf (registry.api .gatewayClass)).contains className then []
      else [Preflight.missingClass className]
    else []

theorem missingFrom_builtin (s : Cluster) (plan : Plan) :
    missingFrom .builtin s plan = missingIn s plan := rfl

theorem probe_yields_types (registry : TypeRegistry) (calm : s.Calm) (caps : List Capability) :
    Yields (Preflight.probe registry caps) s
      (.ok (caps.map fun c => (c, s.hasType (registry.api c.resource)))) s := by
  induction caps with
  | nil => exact yields_pure []
  | cons c rest ih =>
    have look := yields_outcome calm (.listNames (registry.api c.resource) none (some 1))
    have more := yields_bind ih
      (f := fun more => pure ((c, s.hasType (registry.api c.resource)) :: more)) (yields_pure _)
    unfold Preflight.probe
    cases installed : s.hasType (registry.api c.resource) with
    | false =>
      rw [installed] at more
      simp only [perform, listNames, installed, Bool.not_false, if_true] at look
      rw [List.map_cons, installed]
      exact yields_bind look (yields_bind (yields_pure false) more)
    | true =>
      rw [installed] at more
      simp only [perform, listNames, installed, Bool.not_true, Bool.false_eq_true, if_false] at look
      rw [List.map_cons, installed]
      exact yields_bind look (yields_bind (yields_pure true) more)

theorem classTypeInstalled_probed (registry : TypeRegistry) (s : Cluster) :
    Preflight.classTypeInstalled
        (Capability.all.map fun c => (c, s.hasType (registry.api c.resource))) =
      s.hasType (registry.api .gatewayClass) := by
  simp [Preflight.classTypeInstalled, Capability.all]

theorem check_yields (registry : TypeRegistry) (calm : s.Calm) (plan : Plan) :
    Yields (Preflight.check registry plan) s (.ok (missingFrom registry s plan)) s := by
  unfold Preflight.check missingFrom
  refine yields_bind (probe_yields_types registry calm _) ?_
  simp only [classTypeInstalled_probed]
  cases installed : s.hasType (registry.api .gatewayClass) with
  | false => exact yields_bind (yields_pure []) (yields_pure _)
  | true =>
    have look := yields_request calm (.listNames (registry.api .gatewayClass) none none)
    simp only [perform, listNames, installed, Bool.not_true, Bool.false_eq_true, if_false] at look
    exact yields_bind (yields_bind look (yields_pure _)) (yields_pure _)

theorem missingIn_alike {keys : ObjectKey → Prop} (alike : Alike keys s u) (plan : Plan) :
    missingIn u plan = missingIn s plan := by
  unfold missingIn
  simp only [alike.hasType, alike.classes]

def preflightNotes : Preflight → List Note
  | .satisfied =>
    [.prerequisites true (some prerequisitesFine),
     .condition .prerequisitesValidated .true_ "ValidationSucceeded"
       "all prerequisites are installed",
     .phase .deploying]
  | .missing items =>
    [.prerequisites false (some ((Preflight.missing items).message.getD "")),
     .condition .prerequisitesValidated .false_ "ValidationFailed"
       ((Preflight.missing items).message.getD ""),
     .phase .prerequisitesMissing]

def preflightResult (g : Engine) : Preflight → Option Requeue
  | .satisfied => none
  | .missing _ => some (g.waitAfter .prerequisitesMissing)

theorem preflight_finds (calm : s.Calm) (plan : Plan) :
    Does (g.preflight plan) s (.ok (g.preflightResult (missingFrom g.registry s plan)))
      (preflightNotes (missingFrom g.registry s plan)) s := by
  have check := does_outcome (check_yields g.registry calm plan)
  unfold preflight
  generalize missingFrom g.registry s plan = found at check
  cases found with
  | satisfied =>
    exact does_bind check (does_bind (does_update (.prerequisites ..) fun _ => rfl)
      (does_bind does_setCondition (does_bind (does_move g .prerequisitesSatisfied) (does_pure none))))
  | missing items =>
    exact does_bind check (does_bind (does_update (.prerequisites ..) fun _ => rfl)
      (does_bind does_setCondition (does_bind (later_does .prerequisitesMissing) (does_pure _))))

theorem preflight_does (builtin : g.registry = .builtin) (calm : s.Calm) (plan : Plan) :
    Does (g.preflight plan) s (.ok (g.preflightResult (missingIn s plan)))
      (preflightNotes (missingIn s plan)) s := by
  have found := preflight_finds (g := g) calm plan
  rw [builtin, missingFrom_builtin] at found
  exact found

theorem acceptSpec_does (r : InferenceScheduler) :
    Does (g.acceptSpec r) s ((Plan.resolve r).mapError .invalidSpec)
      (match Plan.resolve r with
        | .ok _ => [.condition .specValid .true_ "Valid" "spec accepted"]
        | .error e => [.condition .specValid .false_ "InvalidSpec" e.message, .keepPhase]) s := by
  unfold acceptSpec
  cases Plan.resolve r with
  | ok plan => exact does_bind does_setCondition (does_pure plan)
  | error e =>
    exact does_bind does_setCondition (does_bind (does_move g .stepFailed) (does_fail _))

/-- All of bringing a root in line but the storing of a first status. -/
def alignment (g : Engine) (r : InferenceScheduler) : Step Requeue :=
  g.acceptSpec r >>= fun plan => g.preflight plan >>= fun found => match found with
    | some wait => pure wait
    | none => g.writeChildren (r.namespaceOr "default") r.name plan ChildKind.all

theorem bringInLine_eq (r : InferenceScheduler) :
    g.bringInLine r =
      g.observeFirst (r.namespaceOr "default") r.name >>= fun _ => g.alignment r := rfl

theorem childTopics_separate {topics : List Topic} (of : ChildTopics ChildKind.all topics) :
    (.condition .specValid :: .prerequisites :: .condition .prerequisitesValidated :: .phase ::
      topics).Pairwise fun a b => a = .phase ∨ a ≠ b := by
  obtain ⟨done, rest, split, shape⟩ := of
  obtain ⟨i, short, place, behind⟩ := ChildKind.parts_of_split split.symm
  subst place behind
  clear split
  rcases shape with rfl | ⟨k, more, next, rfl⟩
  · interval_cases i <;> decide
  · interval_cases i <;> first | (cases next; decide) | cases next

end Engine
end SchedulerOperator
