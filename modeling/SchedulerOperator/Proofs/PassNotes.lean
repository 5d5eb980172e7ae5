import SchedulerOperator.Proofs.ChildOrder
import SchedulerOperator.Proofs.PassEffects
import SchedulerOperator.Proofs.RootOrigins

namespace SchedulerOperator
open Pass

/-- Calls that spare the roots, with `P` of their turns and what they come to. -/
def Attempt.Tells {α : Type} (x : Attempt α)
    (P : List Turn → Except StoreError α → Prop) : Prop :=
  ∀ before, Conforms (fun _ c => c.SparesRoot)
    (fun later out => ∃ turns, later = before ++ turns ∧ P turns out) before (ExceptT.run x)

namespace Step
variable {α β : Type}

/-- A step that spares the roots, with `Q` of its turns, its result and its notes, which are
all that it changes on the board. -/
def Tells (x : Step α) (Q : List Turn → Except ReconcileError α → List Note → Prop) : Prop :=
  ∀ before b, Conforms (fun _ c => c.SparesRoot)
    (fun later out => ∃ turns notes, later = before ++ turns ∧ Q turns out.1 notes ∧
      out.2.generation = b.generation ∧ Entered b.generation notes b.current out.2.current)
    before (x.run b)

def Jots (x : Step α) (a : α) (notes : List Note) : Prop :=
  x.Tells fun turns out more => turns = [] ∧ out = .ok a ∧ more = notes

variable {Q : List Turn → Except ReconcileError α → List Note → Prop}
  {R : List Turn → Except ReconcileError β → List Note → Prop} {x : Step α} {f : α → Step β}
  {a : α} {notes : List Note}

theorem Tells.mono {Q' : List Turn → Except ReconcileError α → List Note → Prop}
    (tells : x.Tells Q) (weaker : ∀ turns out notes, Q turns out notes → Q' turns out notes) :
    x.Tells Q' := by
  intro before b
  refine (tells before b).mono ?_
  rintro later out ⟨turns, notes, grown, held, noted⟩
  exact ⟨turns, notes, grown, weaker _ _ _ held, noted⟩

theorem tells_fail {e : ReconcileError} (held : Q [] (.error e) []) : Tells (fail e) Q :=
  fun before _ => ⟨[], [], (List.append_nil before).symm, held, rfl, .nil _⟩

theorem jots_pure (a : α) : Jots (pure a) a [] :=
  fun before _ => ⟨[], [], (List.append_nil before).symm, ⟨rfl, rfl, rfl⟩, rfl, .nil _⟩

theorem jots_setCondition {c : ConditionType} {status : ConditionStatus}
    {reason message : String} :
    Jots (setCondition c status reason message) () [.condition c status reason message] :=
  fun before _ now =>
    ⟨[], _, (List.append_nil before).symm, ⟨rfl, rfl, rfl⟩, rfl, .cons _ now (.nil _)⟩

theorem jots_update {f : StatusBoard → StatusBoard} (n : Note)
    (noted : ∀ b, f b = { b with current := n.put b.generation "" b.current }) :
    Jots (update f) () [n] := by
  intro before b
  refine ⟨[], [n], (List.append_nil before).symm, ⟨rfl, rfl, rfl⟩, ?_, ?_⟩
  · rw [noted]
  · rw [noted]
    exact .cons n "" (.nil _)

theorem jots_move (g : Engine) (o : Outcome) :
    Jots (g.move o) (transition g.settings.timing none o).directive [o.note] := by
  intro before b
  refine ⟨[], [o.note], (List.append_nil before).symm, ⟨rfl, ?_, rfl⟩, rfl, ?_⟩
  · cases o <;> rfl
  · cases o <;> exact .cons _ "" (.nil _)

theorem tells_outcome {x : Attempt α} {P : List Turn → Except StoreError α → Prop}
    {f : Except StoreError α → Step β} (tells : x.Tells P)
    (rest : ∀ front found, P front found →
      (f found).Tells fun back out notes => R (front ++ back) out notes) :
    Tells (outcome x >>= f) R := by
  intro before b
  refine conforms_step.mpr (conforms_step_outcome.mpr ((tells before).mono ?_))
  rintro later found ⟨front, rfl, told⟩
  refine (rest front found told _ b).mono ?_
  rintro last out ⟨back, notes, rfl, held, noted⟩
  exact ⟨front ++ back, notes, by rw [List.append_assoc], held, noted⟩

theorem tells_bind (first : x.Tells Q)
    (failed : ∀ turns e notes, Q turns (.error e) notes → R turns (.error e) notes)
    (rest : ∀ front a notes, Q front (.ok a) notes →
      (f a).Tells fun back out more => R (front ++ back) out (notes ++ more)) :
    Tells (x >>= f) R := by
  intro before b
  refine conforms_step.mpr ((first before b).mono ?_)
  rintro later ⟨e | a, b'⟩ ⟨front, notes, rfl, held, generation, entered⟩
  · exact ⟨front, notes, rfl, failed _ _ _ held, generation, entered⟩
  · refine (rest front a notes held _ b').mono ?_
    rintro last out ⟨back, more, rfl, held', generation', entered'⟩
    rw [show b'.generation = b.generation from generation] at generation' entered'
    exact ⟨front ++ back, notes ++ more, by rw [List.append_assoc], held', generation',
      entered.append entered'⟩

theorem Jots.followed (jots : x.Jots a notes)
    (rest : (f a).Tells fun turns out more => R turns out (notes ++ more)) :
    Tells (x >>= f) R := by
  refine tells_bind jots ?_ ?_
  · rintro _ _ _ ⟨_, failed, _⟩
    cases failed
  · rintro _ _ _ ⟨rfl, same, rfl⟩
    cases same
    exact rest

theorem Jots.bind {c : β} {more : List Note} (first : x.Jots a notes) (second : (f a).Jots c more) :
    Jots (x >>= f) c (notes ++ more) := by
  refine first.followed (second.mono ?_)
  rintro turns out last ⟨rfl, rfl, rfl⟩
  exact ⟨rfl, rfl, rfl⟩

end Step

structure ChildObject.WrittenIn (registry : TypeRegistry) (d : ChildObject) (t : Turn) : Prop where
  succeeded : t.succeeded
  call : t.call = .create (registry.api d.resource) (d.resource.within d.namespace_)
      (withOwners [d.owner.toJson] d.payload) ∨
    ∃ existing, t.call = .replace (registry.api d.resource) (d.resource.within d.namespace_) d.name
      (d.replacement existing)

namespace Engine
open Step
variable {g : Engine} {plan : Plan}

theorem write_tells (d : ChildObject) :
    (d.write g.registry).Tells fun turns out => ∀ w, out = .ok w →
      ∃ t, childWrites turns = [t] ∧ d.WrittenIn g.registry t := by
  intro before
  refine conforms_attempt.mpr ⟨⟨nofun, nofun⟩, ?_⟩
  rintro (e | _ | existing)
  · exact ⟨[_], rfl, nofun⟩
  · refine conforms_attempt.mpr ⟨⟨nofun, nofun⟩, ?_⟩
    rintro (e | stored)
    · exact ⟨[_, _], List.append_assoc _ [_] [_], nofun⟩
    · exact ⟨[_, _], List.append_assoc _ [_] [_], fun _ _ => ⟨_, rfl, ⟨stored, rfl⟩, .inl rfl⟩⟩
  · refine conforms_attempt.mpr ⟨⟨nofun, nofun⟩, ?_⟩
    rintro (e | stored)
    · exact ⟨[_, _], List.append_assoc _ [_] [_], nofun⟩
    · exact ⟨[_, _], List.append_assoc _ [_] [_],
        fun _ _ => ⟨_, rfl, ⟨stored, rfl⟩, .inr ⟨existing, rfl⟩⟩⟩

theorem tells_of_reads {α : Type} {x : Attempt α}
    (reads : ∀ before : List Turn, Conforms (fun _ c => c.op = .get ∨ c.op = .list)
      (fun _ _ => True) before (ExceptT.run x)) : x.Tells fun turns _ => childWrites turns = [] := by
  intro before
  refine Conforms.of_runs (fun c => c.op = .get ∨ c.op = .list) (reads before) ?_ ?_
  · rintro later c (get | list)
    · simp [StoreCall.SparesRoot, get]
    · simp [StoreCall.SparesRoot, list]
  · intro trace out _ sort
    refine ⟨trace, rfl, childWrites_of_none fun t mem => ?_⟩
    rcases sort t mem with get | list
    · simp [StoreCall.isChildWrite, get]
    · simp [StoreCall.isChildWrite, list]

theorem probe_tells (ns name : String) :
    (Replicas.probe g.registry ns name).Tells fun turns _ => childWrites turns = [] := by
  refine tells_of_reads fun before => conforms_attempt.mpr ⟨.inl rfl, ?_⟩
  rintro (e | _ | v)
  · trivial
  · trivial
  · simp only [Conforms]
    split <;> trivial

theorem check_tells (plan : Plan) :
    (Preflight.check g.registry plan).Tells fun turns _ => childWrites turns = [] := by
  refine tells_of_reads fun before => ?_
  exact Conforms.of_runs (fun c => c.op = .list) (check_lists plan) (fun _ _ => .inr)
    fun _ _ _ _ => trivial

theorem noteFailure_jots (k : ChildKind) (message : String) :
    (g.noteFailure k message).Jots () (failureNotes k message) :=
  jots_setCondition.bind ((jots_move g .stepFailed).bind (jots_pure ()))

theorem failed_tells {α : Type} {Q : List Turn → Except ReconcileError α → List Note → Prop}
    {k : ChildKind} {message : String} {e : ReconcileError}
    (held : Q [] (.error e) (failureNotes k message)) :
    Tells (do g.noteFailure k message; Step.fail e : Step α) Q :=
  (noteFailure_jots k message).followed (tells_fail held)

theorem later_jots (o : Outcome) : (g.later o).Jots (g.waitAfter o) [o.note] := by
  cases o <;> exact (jots_move g _).bind (jots_pure _)

theorem writeAll_tells (k : ChildKind) (ds : List ChildObject) :
    (g.writeAll k ds).Tells fun turns out notes => WroteAll k out notes ∧
      (out = .ok () → List.Forall₂ (ChildObject.WrittenIn g.registry) ds (childWrites turns)) := by
  induction ds with
  | nil =>
    refine (jots_pure ()).mono ?_
    rintro turns out notes ⟨rfl, rfl, rfl⟩
    exact ⟨.inl ⟨rfl, rfl⟩, fun _ => .nil⟩
  | cons d rest ih =>
    refine tells_outcome (write_tells d) ?_
    rintro front (e | w) told
    · exact failed_tells ⟨.inr ⟨e, _, rfl, rfl⟩, nofun⟩
    · obtain ⟨t, wrote, written⟩ := told w rfl
      refine ih.mono ?_
      rintro back out notes ⟨all, more⟩
      refine ⟨all, fun done => ?_⟩
      rw [childWrites_append, wrote]
      exact .cons written (more done)

theorem count_tells (k : ChildKind) (ns root : String) :
    (g.count k ns root).Tells fun turns out notes => childWrites turns = [] ∧
      ∃ sample : Except StoreError Replicas, out = sample.mapError .store ∧
        notes = match sample with
          | .ok _ => []
          | .error e => failureNotes k e.message := by
  refine tells_outcome (probe_tells ns _) ?_
  rintro front (e | replicas) quiet
  · refine failed_tells ⟨?_, .error e, rfl, rfl⟩
    rw [List.append_nil]
    exact quiet
  · refine (jots_pure replicas).mono ?_
    rintro back out notes ⟨rfl, rfl, rfl⟩
    refine ⟨?_, .ok replicas, rfl, rfl⟩
    rw [List.append_nil]
    exact quiet

theorem mayBuildOn_jots (condition : ConditionType) (replicas : Replicas) :
    (mayBuildOn condition replicas).Jots replicas.isReady (replicaNotes condition replicas) :=
  jots_setCondition.bind (jots_pure _)

def Settles (k : ChildKind) (turns : List Turn) (out : Except ReconcileError Bool)
    (notes : List Note) : Prop :=
  childWrites turns = [] ∧ ∃ sample, out = (settled k sample).1 ∧ notes = (settled k sample).2

theorem settle_tells (ns name : String) (k : ChildKind) :
    (g.settle ns name k).Tells (Settles k) := by
  -- The two access points differ in what they note only.
  have gated : ∀ {kind : ChildKind} {condition : ConditionType} (put : Int → Note)
      {f : Replicas → StatusBoard → StatusBoard},
      (∀ replicas b, f replicas b =
        { b with current := (put replicas.ready).put b.generation "" b.current }) →
      (∀ replicas, settled kind (.ok replicas) =
        (.ok replicas.isReady, put replicas.ready :: replicaNotes condition replicas)) →
      (∀ e, settled kind (.error e) = (.error (.store e), failureNotes kind e.message)) →
      Tells (do
        let replicas ← g.count kind ns name
        Step.update (f replicas)
        mayBuildOn condition replicas) (Settles kind) := by
    intro kind condition put f noted ready failed
    refine tells_bind (count_tells kind ns name) ?_ ?_
    · rintro turns e notes ⟨quiet, e' | replicas, result, rfl⟩
      · cases result
        exact ⟨quiet, .error e', by rw [failed], by rw [failed]⟩
      · cases result
    · rintro front replicas notes ⟨quiet, e' | replicas', result, rfl⟩
      · cases result
      · cases result
        refine ((jots_update (put replicas.ready) (noted replicas)).bind
          (mayBuildOn_jots condition replicas)).mono ?_
        rintro back out more ⟨rfl, rfl, rfl⟩
        rw [List.append_nil]
        exact ⟨quiet, .ok replicas, by rw [ready], by rw [ready]; rfl⟩
  have still : ∀ {kind : ChildKind} {x : Step Bool} {notes : List Note}, x.Jots true notes →
      settled kind (.error .cancelled) = (.ok true, notes) → x.Tells (Settles kind) := by
    intro kind x notes jots same
    refine jots.mono ?_
    rintro turns out more ⟨rfl, rfl, rfl⟩
    exact ⟨rfl, .error .cancelled, by rw [same], by rw [same]⟩
  cases k with
  | accessPoint =>
    exact gated .modelServerReplicas (fun _ _ => rfl) (fun _ => rfl) fun _ => rfl
  | routingAccessPoint =>
    exact gated .eppReplicas (fun _ _ => rfl) (fun _ => rfl) fun _ => rfl
  | pool =>
    exact still ((jots_update .inferencePoolReady fun _ => rfl).bind
      (jots_setCondition.bind (jots_pure true))) rfl
  | route =>
    exact still ((jots_update .gatewayReady fun _ => rfl).bind
      (jots_setCondition.bind (jots_pure true))) rfl
  | _ => exact still (jots_pure true) rfl

inductive Builds (g : Engine) (plan : Plan) :
    List ChildKind → List Turn → Except ReconcileError Requeue → List Note → Prop where
  | complete : Builds g plan [] [] (.ok (g.waitAfter .converged)) [.phase .ready]
  | failed {k : ChildKind} {rest : List ChildKind} {turns : List Turn} {e : StoreError}
      {message : String} :
      Builds g plan (k :: rest) turns (.error (.store e)) (failureNotes k message)
  | waits {k : ChildKind} {rest : List ChildKind} {turns : List Turn}
      {sample : Except StoreError Replicas} (unready : (settled k sample).1 = .ok false) :
      Builds g plan (k :: rest) turns (.ok (g.waitAfter .workloadNotReady))
        ((settled k sample).2 ++ [.phase .deploying])
  | further {k : ChildKind} {rest : List ChildKind} {front back : List Turn}
      {sample : Except StoreError Replicas} {out : Except ReconcileError Requeue}
      {notes : List Note}
      (written : List.Forall₂ (ChildObject.WrittenIn g.registry) (k.build plan) (childWrites front))
      (ready : (settled k sample).1 = .ok true) (more : Builds g plan rest back out notes) :
      Builds g plan (k :: rest) (front ++ back) out ((settled k sample).2 ++ notes)

theorem writeChildren_tells (plan : Plan) (kinds : List ChildKind) :
    (g.writeChildren plan.namespace_ plan.name plan kinds).Tells (g.Builds plan kinds) := by
  induction kinds with
  | nil =>
    refine (later_jots .converged).mono ?_
    rintro turns out notes ⟨rfl, rfl, rfl⟩
    exact .complete
  | cons k rest ih =>
    rw [writeChildren_cons]
    refine tells_bind (writeAll_tells k (k.build plan)) ?_ ?_
    · rintro turns e notes ⟨⟨done, _⟩ | ⟨e', message, failed, rfl⟩, _⟩
      · cases done
      · cases failed
        exact .failed
    · rintro front _ notes ⟨⟨_, rfl⟩ | ⟨_, _, failed, _⟩, written⟩
      · refine tells_bind (settle_tells plan.namespace_ plan.name k) ?_ ?_
        · rintro turns e notes ⟨_, sample, result, rfl⟩
          rcases settled_topics k sample with ⟨ready, done, _⟩ | ⟨e', message, failed, noted⟩
          · rw [done] at result
            cases result
          · rw [failed] at result
            cases result
            rw [noted]
            exact .failed
        · rintro turns ready notes ⟨quiet, sample, result, rfl⟩
          have wrote : childWrites (front ++ turns) = childWrites front := by
            rw [childWrites_append, quiet, List.append_nil]
          cases ready with
          | true =>
            refine ih.mono ?_
            intro back out more builds
            rw [← List.append_assoc]
            refine .further ?_ result.symm builds
            rw [wrote]
            exact written rfl
          | false =>
            refine (later_jots .workloadNotReady).mono ?_
            rintro back out more ⟨rfl, rfl, rfl⟩
            exact .waits result.symm
      · cases failed

theorem preflight_tells (plan : Plan) :
    (g.preflight plan).Tells fun turns out notes => childWrites turns = [] ∧
      ((∃ e, out = .error (.store e) ∧ notes =
          [.condition .prerequisitesValidated .false_ "ValidationError" e.message, .keepPhase]) ∨
        ∃ found, out = .ok (g.preflightResult found) ∧ notes = preflightNotes found) := by
  refine tells_outcome (check_tells plan) ?_
  intro front found quiet
  have still : childWrites (front ++ []) = [] := by
    rw [List.append_nil]
    exact quiet
  rcases found with e | _ | items
  · refine jots_setCondition.followed ((jots_move g .stepFailed).followed (tells_fail ?_))
    exact ⟨still, .inl ⟨e, rfl, rfl⟩⟩
  · refine Tells.mono ((jots_update (.prerequisites ..) fun _ => rfl).bind (jots_setCondition.bind
      ((jots_move g .prerequisitesSatisfied).bind (jots_pure none)))) ?_
    rintro turns out notes ⟨rfl, rfl, rfl⟩
    exact ⟨still, .inr ⟨.satisfied, rfl, rfl⟩⟩
  · refine Tells.mono ((jots_update (.prerequisites ..) fun _ => rfl).bind (jots_setCondition.bind
      ((later_jots .prerequisitesMissing).bind (jots_pure _)))) ?_
    rintro turns out notes ⟨rfl, rfl, rfl⟩
    exact ⟨still, .inr ⟨.missing items, rfl, rfl⟩⟩

def accepted : Note := .condition .specValid .true_ "Valid" "spec accepted"

inductive Aligns (g : Engine) (r : InferenceScheduler) :
    List Turn → Except ReconcileError Requeue → List Note → Prop where
  | rejected {e : SpecError} (refused : Plan.resolve r = .error e) :
      Aligns g r [] (.error (.invalidSpec e))
        [.condition .specValid .false_ "InvalidSpec" e.message, .keepPhase]
  | unchecked {plan : Plan} {turns : List Turn} {e : StoreError}
      (resolved : Plan.resolve r = .ok plan) :
      Aligns g r turns (.error (.store e)) [accepted,
        .condition .prerequisitesValidated .false_ "ValidationError" e.message, .keepPhase]
  | missing {plan : Plan} {turns : List Turn} {items : List String}
      (resolved : Plan.resolve r = .ok plan) :
      Aligns g r turns (.ok (g.waitAfter .prerequisitesMissing))
        (accepted :: preflightNotes (.missing items))
  | children {plan : Plan} {probes turns : List Turn} {out : Except ReconcileError Requeue}
      {notes : List Note} (resolved : Plan.resolve r = .ok plan)
      (quiet : childWrites probes = []) (builds : Builds g plan ChildKind.all turns out notes) :
      Aligns g r (probes ++ turns) out (accepted :: preflightNotes .satisfied ++ notes)

theorem alignment_tells (r : InferenceScheduler) : (g.alignment r).Tells (g.Aligns r) := by
  unfold alignment acceptSpec
  cases resolved : Plan.resolve r with
  | error e =>
    refine tells_bind (Q := fun turns out notes => turns = [] ∧ out = .error (.invalidSpec e) ∧
      notes = [.condition .specValid .false_ "InvalidSpec" e.message, .keepPhase]) ?_ ?_ ?_
    · exact jots_setCondition.followed ((jots_move g .stepFailed).followed
        (tells_fail ⟨rfl, rfl, rfl⟩))
    · rintro _ _ _ ⟨rfl, failed, rfl⟩
      cases failed
      exact .rejected resolved
    · rintro _ _ _ ⟨_, done, _⟩
      cases done
  | ok plan =>
    obtain ⟨named, placed, _⟩ := Plan.resolve_root resolved
    refine (jots_setCondition.bind (jots_pure plan)).followed (tells_bind (preflight_tells plan) ?_ ?_)
    · rintro turns e notes ⟨_, ⟨e', failed, rfl⟩ | ⟨found, done, _⟩⟩
      · cases failed
        exact .unchecked resolved
      · cases done
    · rintro probes wait notes ⟨quiet, ⟨e', failed, _⟩ | ⟨found, done, rfl⟩⟩
      · cases failed
      · cases found with
        | satisfied =>
          cases done
          rw [← named, ← placed]
          refine (writeChildren_tells plan ChildKind.all).mono ?_
          intro turns out notes builds
          exact .children resolved quiet builds
        | missing items =>
          cases done
          refine (jots_pure (g.waitAfter .prerequisitesMissing)).mono ?_
          rintro turns out notes ⟨rfl, rfl, rfl⟩
          exact .missing resolved

end Engine

/-- The status on which the work on a root begins: what is stored, seen as the root was read. -/
def InferenceScheduler.observed (r : InferenceScheduler) : SchedulerStatus :=
  let stored := r.status.getD {}
  { stored with
    phase := some (stored.phase.getD .initializing)
    observedGeneration := r.metadata.generation }

namespace Engine
variable {g : Engine} {r : InferenceScheduler} {may : List Turn → StoreCall → Prop}
  {before : List Turn}

/-- How it goes to bring a root in line: turns, result and last status. -/
inductive Brings (g : Engine) (r : InferenceScheduler) :
    List Turn → Except ReconcileError Requeue → SchedulerStatus → Prop where
  | unstored {turns : List Turn} {e : ReconcileError} (unknown : (r.status.getD {}).phase = none) :
      Brings g r turns (.error e) r.observed
  | aligned {front turns : List Turn} {out : Except ReconcileError Requeue} {notes : List Note}
      {status : SchedulerStatus} (quiet : childWrites front = []) (aligns : Aligns g r turns out notes)
      (entered : Entered r.metadata.generation notes r.observed status) :
      Brings g r (front ++ turns) out status

theorem conforms_save {ns name : String} {b : StatusBoard}
    (allowed : b.changed = true → may before (.writeStatus ns name b.current)) :
    Conforms may (fun later out => (∃ turns, later = before ++ turns ∧ childWrites turns = []) ∧
      out.2.current = b.current ∧ out.2.generation = b.generation) before (saveStatus ns name b) :=
  Conforms.saveStatus allowed (fun _ => ⟨⟨[], (List.append_nil before).symm, rfl⟩, rfl, rfl⟩)
    ⟨⟨[_], rfl, rfl⟩, rfl, rfl⟩ fun _ => ⟨⟨[_], rfl, rfl⟩, rfl, rfl⟩

theorem conforms_observed
    (first : (r.status.getD {}).phase = none →
      may before (.writeStatus (r.namespaceOr "default") r.name r.observed)) :
    Conforms may (fun later out => (∃ turns, later = before ++ turns ∧ childWrites turns = []) ∧
      out.2.current = r.observed ∧ out.2.generation = r.metadata.generation ∧
      ((∃ e, out.1 = .error e) → (r.status.getD {}).phase = none)) before
      ((g.observeFirst (r.namespaceOr "default") r.name).run
        (.start r.status r.metadata.generation)) := by
  refine Conforms.observeFirst (fun known => ?_) fun unknown => ?_
  · obtain ⟨p, phase⟩ : ∃ p, (r.status.getD {}).phase = some p := Option.isSome_iff_exists.mp known
    refine ⟨⟨[], (List.append_nil before).symm, rfl⟩, ?_, rfl, ?_⟩
    · simp only [InferenceScheduler.observed, phase, Option.getD_some]
      rw [← phase]
      rfl
    · rintro ⟨e, failed⟩
      cases failed
  · refine (conforms_save fun _ => first unknown).mono ?_
    rintro later out ⟨turns, current, generation⟩
    exact ⟨turns, current, generation, fun _ => unknown⟩

theorem conforms_brings (spares : ∀ later c, c.SparesRoot → may later c)
    (first : (r.status.getD {}).phase = none →
      may before (.writeStatus (r.namespaceOr "default") r.name r.observed)) :
    Conforms may (fun later out => ∃ turns, later = before ++ turns ∧
      g.Brings r turns out.1 out.2.current) before
      ((g.bringInLine r).run (.start r.status r.metadata.generation)) := by
  rw [bringInLine_eq]
  refine conforms_step.mpr ((conforms_observed first).mono ?_)
  rintro later ⟨e | _, b⟩ ⟨⟨front, rfl, quiet⟩, current, generation, unknown⟩
  · refine ⟨front, rfl, ?_⟩
    rw [show b.current = r.observed from current]
    exact .unstored (unknown ⟨e, rfl⟩)
  · refine ((alignment_tells r _ b).allow spares).mono ?_
    rintro last out ⟨turns, notes, rfl, aligns, _, entered⟩
    rw [show b.generation = _ from generation, show b.current = _ from current] at entered
    exact ⟨front ++ turns, by rw [List.append_assoc], .aligned quiet aligns entered⟩

theorem brings_of_run {body : List Turn} {out : Except ReconcileError Requeue} {b : StatusBoard}
    (run : Runs ((g.bringInLine r).run (.start r.status r.metadata.generation)) body (out, b)) :
    g.Brings r body out b.current := by
  have conforms : Conforms (fun _ _ => True) (fun later out => ∃ turns, later = [] ++ turns ∧
      g.Brings r turns out.1 out.2.current) []
      ((g.bringInLine r).run (.start r.status r.metadata.generation)) :=
    conforms_brings (fun _ _ _ => trivial) fun _ => trivial
  obtain ⟨turns, grown, brings⟩ := conforms.at_end run
  rw [List.nil_append] at grown
  subst grown
  exact brings

end Engine
end SchedulerOperator
