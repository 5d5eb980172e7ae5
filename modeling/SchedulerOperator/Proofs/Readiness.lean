import Mathlib.Data.List.Forall2
import SchedulerOperator.Proofs.Convergence
import SchedulerOperator.Proofs.StoredStatus

/-!
A pass that is stopped before it writes a child leaves the phase as it is and names the generation
that it read, so the spec behind a ready phase need not be that of the generation which the status
names.
-/
namespace SchedulerOperator
open Cluster Engine Pass

/-- The status tells that a pass over the generation which it names was stopped before it wrote
a child: the spec was refused, or the prerequisites could not be checked. -/
def SchedulerStatus.Stopped (s : SchedulerStatus) : Prop :=
  ∃ t c, (t = .specValid ∨ t = .prerequisitesValidated) ∧ s.condition? t = some c ∧
    c.status = .false_ ∧ c.observedGeneration = s.observedGeneration

theorem SchedulerStatus.stopped_of_noted {generation : Option Int64} {s : SchedulerStatus}
    {t : ConditionType} {reason message now later : String}
    (early : t = .specValid ∨ t = .prerequisitesValidated)
    (observed : s.observedGeneration = generation) :
    (Note.keepPhase.put generation later
      ((Note.condition t .false_ reason message).put generation now s)).Stopped := by
  have noted : (Note.condition t .false_ reason message).Shown generation
      ((Note.condition t .false_ reason message).put generation now s) := Note.shown_put _ now s
  have shown := noted.put (m := .keepPhase) later (.inr (by simp [Note.topic]))
  obtain ⟨c, first, value, _, _, current⟩ := shown.condition
  exact ⟨t, c, early, first, value, current.trans observed.symm⟩

namespace Engine
variable {g : Engine} {plan : Plan} {r : InferenceScheduler} {s t status : SchedulerStatus}
  {generation : Option Int64} {turns : List Turn} {out : Except ReconcileError Requeue}
  {notes : List Note}

def Completes (g : Engine) (plan : Plan) (turns : List Turn)
    (out : Except ReconcileError Requeue) : Prop :=
  (∃ wait, out = .ok wait) ∧
    List.Forall₂ (ChildObject.WrittenIn g.registry) plan.children (childWrites turns)

theorem settled_phase {k : ChildKind} {sample : Except StoreError Replicas} {ready : Bool}
    (result : (settled k sample).1 = .ok ready) (entered : Entered generation (settled k sample).2 s t) :
    t.phase = s.phase := by
  rw [Note.lastPhase_of_entered entered]
  cases k with
  | accessPoint | routingAccessPoint =>
    cases sample with
    | error e => cases result
    | ok replicas => rfl
  | _ => rfl

theorem Builds.finished {kinds : List ChildKind} (builds : g.Builds plan kinds turns out notes)
    (phase : s.phase = some .deploying) (entered : Entered generation notes s t)
    (ready : t.phase = some .ready) :
    (∃ wait, out = .ok wait) ∧ List.Forall₂ (ChildObject.WrittenIn g.registry)
      (kinds.flatMap fun k => k.build plan) (childWrites turns) := by
  induction builds generalizing s with
  | complete => exact ⟨⟨_, rfl⟩, .nil⟩
  | failed =>
    have kept := Note.lastPhase_of_entered entered
    rw [phase, ready] at kept
    cases kept
  | waits unready =>
    obtain ⟨u, _, waited⟩ := entered.split
    obtain ⟨now, rfl⟩ := waited.last
    cases ready
  | further written settles more ih =>
    obtain ⟨u, looked, later⟩ := entered.split
    obtain ⟨done, rest⟩ := ih ((settled_phase settles looked).trans phase) later
    refine ⟨done, ?_⟩
    rw [List.flatMap_cons, childWrites_append]
    exact List.rel_append written rest

/-- The alignment of a root ends in phase `ready` only where it completes, or is stopped at
once and finds the root in that phase. -/
theorem Aligns.finished (aligns : g.Aligns r turns out notes)
    (observed : s.observedGeneration = generation) (entered : Entered generation notes s t)
    (ready : t.phase = some .ready) :
    (∃ plan, Plan.resolve r = .ok plan ∧ g.Completes plan turns out) ∨
      s.phase = some .ready ∧ t.Stopped := by
  have kept : some (s.phase.getD .initializing) = some Phase.ready → s.phase = some .ready := by
    cases s.phase <;> simp
  cases aligns with
  | rejected refused =>
    obtain ⟨now, more⟩ := entered.first
    obtain ⟨later, rfl⟩ := more.last
    exact .inr ⟨kept ready, SchedulerStatus.stopped_of_noted (.inl rfl) observed⟩
  | unchecked resolved =>
    obtain ⟨now, more⟩ := entered.first
    obtain ⟨later, further⟩ := more.first
    obtain ⟨last, rfl⟩ := further.last
    refine .inr ⟨kept ready, SchedulerStatus.stopped_of_noted (.inr rfl) ?_⟩
    exact observed
  | missing resolved =>
    have last := Note.lastPhase_of_entered entered
    rw [ready] at last
    cases last
  | children resolved quiet builds =>
    obtain ⟨u, cleared, built⟩ := entered.split
    have deploying : u.phase = some .deploying := Note.lastPhase_of_entered cleared
    obtain ⟨done, written⟩ := builds.finished deploying built ready
    refine .inl ⟨_, resolved, done, ?_⟩
    rw [childWrites_append, quiet, List.nil_append]
    exact written

theorem Brings.finished (brings : g.Brings r turns out status) (ready : status.phase = some .ready) :
    status.observedGeneration = r.metadata.generation ∧
      ((∃ plan, Plan.resolve r = .ok plan ∧ g.Completes plan turns out) ∨
        status.Stopped ∧ ∃ before, r.status = some before ∧ before.phase = some .ready) := by
  cases brings with
  | unstored unknown =>
    simp [InferenceScheduler.observed, unknown] at ready
  | aligned quiet aligns entered =>
    refine ⟨entered.observedGeneration, ?_⟩
    rcases aligns.finished (s := r.observed) rfl entered ready with ⟨plan, resolved, done, written⟩ | ⟨phase, stopped⟩
    · refine .inl ⟨plan, resolved, done, ?_⟩
      rw [childWrites_append, quiet, List.nil_append]
      exact written
    · refine .inr ⟨stopped, ?_⟩
      cases stored : r.status with
      | none => simp [InferenceScheduler.observed, stored] at phase
      | some before =>
        refine ⟨before, rfl, ?_⟩
        simp only [InferenceScheduler.observed, stored, Option.getD_some] at phase
        cases known : before.phase with
        | none => simp [known] at phase
        | some p =>
          rw [known] at phase
          exact phase

theorem WentThrough.resolved {trace : List Turn} (through : g.WentThrough r trace) :
    ∃ plan, Plan.resolve r = .ok plan := by
  obtain ⟨_, body, _, _, wait, b, _, _, ran, _⟩ := through
  have brings := brings_of_run ran
  generalize b.current = status at brings
  cases brings with
  | aligned _ aligns _ =>
    cases aligns with
    | missing resolved => exact ⟨_, resolved⟩
    | children resolved => exact ⟨_, resolved⟩

end Engine

namespace Crowd
variable {k : RootKey} {run : List Crowd} {w w' : Crowd} {o : Operation}

/-- Other clients leave the status of the root at `k` to passes, and insert a root there
without a status and while no pass over it is underway. -/
def Considerate (k : RootKey) (w : Crowd) (o : Operation) : Prop :=
  o.KeepsStatusOf k ∧ ∀ r, o = .insertRoot r → k = ⟨r.namespaceOr "default", r.name⟩ →
    ∀ n v, w.visit n = some v → v.key ≠ k

/-- At some moment of the run a pass over `k` that has read `snapshot` had gone all the way,
and had written each child that the spec which it read asks for. -/
def Converged (k : RootKey) (run : List Crowd) (snapshot : InferenceScheduler) : Prop :=
  ∃ w ∈ run, ∃ (n : Nat) (g : Engine) (trace : List Turn)
      (rest : Pass (Except ReconcileError Requeue)) (plan : Plan),
    w.visit n = some ⟨k, ⟨⟨.getRoot k.namespace_ k.name, .ok (some snapshot)⟩ :: trace, rest⟩⟩ ∧
    g.WentThrough snapshot trace ∧ Plan.resolve snapshot = .ok plan ∧
    (childWrites trace).length = 11 ∧
    List.Forall₂ (ChildObject.WrittenIn g.registry) plan.children (childWrites trace)

/-- Where a status calls the root `r` ready, a pass over this root converged: at the generation
that the status names, or else the status tells that a pass at that generation was stopped. -/
def Warranted (k : RootKey) (run : List Crowd) (r : InferenceScheduler)
    (status : SchedulerStatus) : Prop :=
  status.phase = some .ready →
    ∃ snapshot, Converged k run snapshot ∧ snapshot.metadata.uid = r.metadata.uid ∧
      (snapshot.metadata.generation = status.observedGeneration ∨ status.Stopped)

structure Remembered (k : RootKey) (run : List Crowd) (s : Cluster)
    (snapshot : InferenceScheduler) : Prop where
  warranted : ∀ status, snapshot.status = some status → Warranted k run snapshot status
  same : ∀ r, Assoc.get? k s.roots = some r → r.metadata.uid = snapshot.metadata.uid

/-- The status that is stored is warranted, and so is what passes over `k` go by. -/
structure Told (k : RootKey) (run : List Crowd) (w : Crowd) : Prop where
  stored : ∀ r, Assoc.get? k w.cluster.roots = some r →
    ∀ status, r.status = some status → Warranted k run r status
  read : ∀ n f, w.visit n = some ⟨k, f⟩ → ∀ snapshot, Snapshot k snapshot f.history →
    Remembered k run w.cluster snapshot

section
variable {r old snapshot : InferenceScheduler} {status : SchedulerStatus}

theorem Converged.later (converged : Converged k run snapshot) (w : Crowd) :
    Converged k (w :: run) snapshot := by
  obtain ⟨u, mem, rest⟩ := converged
  exact ⟨u, List.mem_cons_of_mem _ mem, rest⟩

theorem Warranted.later (warranted : Warranted k run r status) (w : Crowd) :
    Warranted k (w :: run) r status := by
  intro ready
  obtain ⟨snapshot, converged, held⟩ := warranted ready
  exact ⟨snapshot, converged.later w, held⟩

theorem Warranted.edited (warranted : Warranted k run old status)
    (uid : r.metadata.uid = old.metadata.uid) : Warranted k run r status := by
  intro ready
  obtain ⟨snapshot, converged, same, held⟩ := warranted ready
  exact ⟨snapshot, converged, same.trans uid.symm, held⟩

theorem Told.later (told : Told k run w) (w' : Crowd) : Told k (w' :: run) w where
  stored r found status known := (told.stored r found status known).later w'
  read n f underway snapshot first := by
    obtain ⟨warranted, same⟩ := told.read n f underway snapshot first
    exact ⟨fun status known => (warranted status known).later w', same⟩

/-- The status that a pass stores is warranted if the one that it read was. -/
theorem warranted_of_justified {n : Nat} {g : Engine} {history : List Turn}
    {rest : Pass (Except ReconcileError Requeue)} (mem : w ∈ run)
    (underway : w.visit n = some ⟨k, ⟨history, rest⟩⟩)
    (read : ∀ status, snapshot.status = some status → Warranted k run snapshot status)
    (justified : Justified g k snapshot history status) : Warranted k run snapshot status := by
  intro ready
  cases justified with
  | observed unknown => simp [InferenceScheduler.observed, unknown] at ready
  | withdrawn => cases ready
  | @brought front body wrote out b split attached ran =>
    obtain ⟨observed, ⟨plan, resolved, ⟨wait, rfl⟩, written⟩ | ⟨stopped, before, known, was⟩⟩ :=
      (brings_of_run ran).finished ready
    · refine ⟨snapshot, ?_, rfl, .inl observed.symm⟩
      have quiet : childWrites front = [] :=
        ((conforms_ensureMarker (g := g)).at_end attached).1
      have wrote : childWrites (front ++ body) = childWrites body := by
        rw [childWrites_append, quiet, List.nil_append]
      refine ⟨w, mem, n, g, front ++ body, rest, plan, ?_, ?_, resolved, ?_, ?_⟩
      · rw [underway, split]
        rfl
      · exact ⟨front, body, [], _, wait, b, (List.append_nil _).symm, attached, ran, ready⟩
      · rw [wrote, ← written.length_eq]
        rfl
      · rw [wrote]
        exact written
    · -- The phase is the one that was read, so what warranted it warrants it still.
      obtain ⟨earlier, converged, uid, _⟩ := read before known was
      exact ⟨earlier, converged, uid, .inr stopped⟩

theorem Told.apply (told : Told k run w)
    (inserts : ∀ new, o = .insertRoot new → k = ⟨new.namespaceOr "default", new.name⟩ →
      new.status = none ∧ ∀ n f, w.visit n ≠ some ⟨k, f⟩)
    (writes : ∀ status, o = .call (.writeStatus k.namespace_ k.name status) →
      ∀ old, Assoc.get? k w.cluster.roots = some old → Warranted k run old status) :
    Told k run ⟨o.apply w.cluster, w.visit⟩ where
  stored r found status known := by
    cases apply_origin o found with
    | @kept old there descends =>
      refine Warranted.edited ?_ descends.continues.uid
      rcases descends.status with same | ⟨status', written, stored⟩
      · exact told.stored old there status (same ▸ known)
      · rw [stored, Option.some.injEq] at known
        exact known ▸ writes status' written old there
    | added inserted here _ stored =>
      subst stored
      cases (inserts _ inserted here).1.symm.trans known
  read n f underway snapshot first := by
    obtain ⟨warranted, same⟩ := told.read n f underway snapshot first
    refine ⟨warranted, fun r found => ?_⟩
    cases apply_origin o found with
    | kept there descends => exact descends.continues.uid.trans (same _ there)
    | added inserted here =>
      exact absurd underway ((inserts _ inserted here).2 n f)

theorem Told.put {n : Nat} {v : Option Visit} (told : Told k run w)
    (fine : ∀ f, v = some ⟨k, f⟩ → ∀ snapshot, Snapshot k snapshot f.history →
      Remembered k run w.cluster snapshot) :
    Told k run (w.put n v) where
  stored := told.stored
  read m f underway := by
    by_cases here : m = n
    · exact fine f (by simpa [Crowd.put, here] using underway)
    · exact told.read m f (by simpa [Crowd.put, here] using underway)

theorem Told.call {n : Nat} {l : RootKey} {history : List Turn} {c : StoreCall}
    {next : c.Reply → Pass (Except ReconcileError Requeue)} (told : Told k run w)
    (mem : w ∈ run) (sound : w.Sound)
    (underway : w.visit n = some ⟨l, ⟨history, .call c next⟩⟩) :
    Told k run (Crowd.put n (some ⟨l, ⟨history ++ [⟨c, (w.cluster.answer c).1⟩],
      next (w.cluster.answer c).1⟩⟩) ⟨(w.cluster.answer c).2, w.visit⟩) := by
  have between : Told k run ⟨(w.cluster.answer c).2, w.visit⟩ := by
    refine told.apply (o := .call c) (fun _ same => by cases same) fun status same old there => ?_
    cases same
    obtain ⟨rfl, g, snapshot, first, justified⟩ := sound.stores_own underway
    obtain ⟨warranted, same⟩ := told.read n _ underway snapshot first
    exact (warranted_of_justified mem underway warranted justified).edited (same old there)
  refine between.put fun f same snapshot first => ?_
  cases same
  rcases first.earlier with rfl | earlier
  · -- The root was read by this very call.
    obtain ⟨rest, opened⟩ := first
    obtain ⟨rfl, _, done⟩ := performed_now (List.mem_singleton.mpr (List.cons.inj opened).1.symm)
    have found : Assoc.get? k w.cluster.roots = some snapshot := Except.ok.inj done
    refine ⟨told.stored snapshot found, fun r there => ?_⟩
    replace there : Assoc.get? k w.cluster.roots = some r := by
      rw [← answer_spares (c := .getRoot k.namespace_ k.name) ⟨nofun, nofun⟩]
      exact there
    obtain rfl : snapshot = r := Option.some.inj (found.symm.trans there)
    rfl
  · exact between.read n _ underway snapshot earlier

theorem Told.step (told : Told k run w) (mem : w ∈ run) (sound : w.Sound)
    (step : Step (Considerate k w) w w') : Told k run w' := by
  cases step with
  | start n g l idle =>
    refine told.put fun f same snapshot first => ?_
    cases same
    obtain ⟨rest, opened⟩ := first
    cases opened
  | call underway => exact told.call mem sound underway
  | @clock n l history next time underway =>
    refine told.put fun f same snapshot first => ?_
    cases same
    exact told.read n _ underway snapshot first
  | leave n => exact told.put (by simp)
  | client o allowed =>
    obtain ⟨keeps, apart⟩ := allowed
    refine told.apply ?_ ?_
    · rintro new rfl here
      exact ⟨keeps here, fun n f underway => apart new rfl here n _ underway rfl⟩
    · rintro status rfl
      exact absurd rfl keeps

end

theorem Course.told {past : List Crowd} (course : Course (Considerate k) (w :: past)) :
    Told k (w :: past) w := by
  refine course.along (P := fun w past => Told k (w :: past) w) ?_ ?_
  · exact ⟨fun _ found => (by cases found), fun _ _ underway => (by cases underway)⟩
  · intro u u' past course step told
    exact (told.step List.mem_cons_self (course.reachable fun _ _ _ => trivial).sound step).later _

/-- A root that is said to be ready: whatever happened to it before, a pass over that root
converged. It read the root at the generation that the status names, or else the status tells
that a pass over the generation which it names was stopped early. -/
theorem ready_is_warranted {past : List Crowd} {r : InferenceScheduler} {status : SchedulerStatus}
    (course : Course (Considerate k) (w :: past)) (found : Assoc.get? k w.cluster.roots = some r)
    (stored : r.status = some status) (ready : status.phase = some .ready) :
    ∃ snapshot, Converged k (w :: past) snapshot ∧ snapshot.metadata.uid = r.metadata.uid ∧
      (snapshot.metadata.generation = status.observedGeneration ∨ status.Stopped) :=
  course.told.stored r found status stored ready

def builtAndMisedited (s : Cluster) : Cluster :=
  ((afterPass s).updateSpec "default" "demo" fun spec =>
    { spec with modelServer := { spec.modelServer with modelName := "" } }).2

section
variable {read : InferenceScheduler → Prop} {s : Cluster}

theorem considerate_idle (keeps : o.KeepsStatusOf k) (s : Cluster) :
    Considerate k ⟨s, fun _ => none⟩ o :=
  ⟨keeps, fun _ _ _ _ _ underway => by cases underway⟩

theorem arrives_fresh (read : InferenceScheduler → Prop) :
    Arrives (Considerate ⟨"default", "demo"⟩) ⟨"default", "demo"⟩ read Cluster.fresh :=
  arrives_empty.clients freshOperations fun o mem => considerate_idle (fresh_keepsStatus o mem)

theorem Arrives.misedited
    (arrives : Arrives (Considerate ⟨"default", "demo"⟩) ⟨"default", "demo"⟩ read s)
    (known : ∀ r, Assoc.get? ⟨"default", "demo"⟩ s.roots = some r → read r) :
    Arrives (Considerate ⟨"default", "demo"⟩) ⟨"default", "demo"⟩ read (builtAndMisedited s) := by
  refine (arrives.afterPass known).clients [.updateSpec "default" "demo" _] ?_
  intro o mem
  cases List.mem_singleton.mp mem
  exact considerate_idle trivial

end

/-- If the root was edited once, its spec is refused. -/
def RefusedSecond (r : InferenceScheduler) : Prop :=
  r.metadata.generation = some 2 → (Plan.resolve r).toOption.isNone

/-- A root that is ready at the second generation though no pass at that generation converged:
a pass converged before the spec was edited, and the next one refused the new spec. -/
theorem ready_at_refused_generation : ∃ w past r status,
    Course (Considerate ⟨"default", "demo"⟩) (w :: past) ∧
    (∀ u ∈ w :: past, ∀ n v, u.visit n = some v → n = 0) ∧
    Assoc.get? ⟨"default", "demo"⟩ w.cluster.roots = some r ∧ r.status = some status ∧
    status.phase = some .ready ∧ status.observedGeneration = some 2 ∧
    ∀ u ∈ w :: past, ∀ n k g snapshot trace rest,
      u.visit n = some ⟨k, ⟨⟨.getRoot "default" "demo", .ok (some snapshot)⟩ :: trace, rest⟩⟩ →
      snapshot.metadata.generation = some 2 → ¬Engine.WentThrough g snapshot trace := by
  have first : ((Assoc.get? ⟨"default", "demo"⟩ Cluster.fresh.roots).all fun r =>
      r.metadata.generation != some 2) = true := by decide +kernel
  have checked : (let s := builtAndMisedited Cluster.fresh
      ((Assoc.get? ⟨"default", "demo"⟩ s.roots).all fun r => (Plan.resolve r).toOption.isNone) &&
      (Assoc.get? ⟨"default", "demo"⟩ (afterPass s).roots).any fun r => r.status.any fun status =>
        status.phase == some .ready && status.observedGeneration == some 2) = true := by
    decide +kernel
  have edited := (arrives_fresh RefusedSecond).misedited fun r found second => by
    rw [found] at first
    simp [second] at first
  generalize builtAndMisedited Cluster.fresh = s at checked edited
  simp only [Bool.and_eq_true, Option.all_eq_true, Option.any_eq_true, beq_iff_eq] at checked
  obtain ⟨refused, r, found, status, stored, ready, named⟩ := checked
  obtain ⟨past, ended, serial⟩ := edited.afterPass fun r found _ => refused r found
  refine ⟨_, past, r, status, ended, fun u mem n v underway => ?_, found, stored, ready, named, ?_⟩
  · exact (List.forall_mem_cons.mpr ⟨serial_idle _, serial⟩ u mem n v underway).1
  intro u mem n k g snapshot trace rest underway second through
  obtain ⟨_, rfl, known⟩ := List.forall_mem_cons.mpr ⟨serial_idle _, serial⟩ u mem n _ underway
  obtain ⟨plan, resolved⟩ := through.resolved
  have none := known snapshot ⟨trace, rfl⟩ second
  rw [resolved] at none
  cases none

theorem fresh_root_is_ready : ∃ w past r status snapshot,
    Course (Considerate ⟨"default", "demo"⟩) (w :: past) ∧
    Assoc.get? ⟨"default", "demo"⟩ w.cluster.roots = some r ∧ r.status = some status ∧
    status.phase = some .ready ∧
    Converged ⟨"default", "demo"⟩ (w :: past) snapshot ∧
    snapshot.metadata.uid = r.metadata.uid ∧
    (snapshot.metadata.generation = status.observedGeneration ∨ status.Stopped) := by
  obtain ⟨past, ended, _⟩ := (arrives_fresh fun _ => True).afterPass fun _ _ => trivial
  obtain ⟨r, status, found, stored, ready⟩ := fresh_root_made_ready
  obtain ⟨snapshot, held⟩ := ready_is_warranted ended found stored ready
  exact ⟨_, past, r, status, snapshot, ended, found, stored, ready, held⟩

end Crowd
end SchedulerOperator
