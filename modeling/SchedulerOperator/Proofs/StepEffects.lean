import SchedulerOperator.Proofs.Notes
import SchedulerOperator.Proofs.Operations
import SchedulerOperator.Proofs.Trace

/-!
What a step does to a cluster that no one else acts on: its result, its notes and the cluster it
leaves are determined. A step repeats itself if it does the same once more, and then only replaces
objects by themselves.
-/
namespace SchedulerOperator
open Pass

namespace Cluster

def classNames (s : Cluster) : List String :=
  (s.objects.filter fun e => isListed ResourceType.gatewayClass.builtinApi none e.1).map
    fun e => e.1.name

def namesOf (s : Cluster) (api : ApiResource) : List String :=
  (s.objects.filter fun e => isListed api none e.1).map fun e => e.1.name

def Calm (s : Cluster) : Prop := s.failures = []

/-- Two clusters that answer alike about the objects under `keys`. -/
structure Alike (keys : ObjectKey → Prop) (s t : Cluster) : Prop where
  types : t.types = s.types
  autoReady : t.autoReady = s.autoReady
  failures : t.failures = s.failures
  classes : t.classNames = s.classNames
  objects : ∀ k, keys k → Assoc.get? k t.objects = Assoc.get? k s.objects

structure Framed (written : ObjectKey → Prop) (s t : Cluster) : Prop where
  alike : Alike (fun k => ¬ written k) s t
  roots : t.roots = s.roots
  addresses : s.addresses ≤ t.addresses
  sound : t.Sound

/-- Objects were replaced by themselves, if anything was done at all. -/
def Quiet (s t : Cluster) : Prop :=
  ∃ log, t = { s with writes := log ++ s.writes } ∧
    ∀ w ∈ log, w.op = .replace ∧ w.changed = false

variable {s t u : Cluster} {keys : ObjectKey → Prop}

theorem answer_calm (calm : s.Calm) (c : StoreCall) : s.answer c = perform c s := by
  unfold answer failure?
  rw [calm]
  rfl

theorem Alike.refl (keys : ObjectKey → Prop) (s : Cluster) : Alike keys s s :=
  ⟨rfl, rfl, rfl, rfl, fun _ _ => rfl⟩

theorem Alike.trans (first : Alike keys s t) (second : Alike keys t u) : Alike keys s u where
  types := second.types.trans first.types
  autoReady := second.autoReady.trans first.autoReady
  failures := second.failures.trans first.failures
  classes := second.classes.trans first.classes
  objects k mem := (second.objects k mem).trans (first.objects k mem)

theorem Alike.mono {fewer : ObjectKey → Prop} (alike : Alike keys s t)
    (within : ∀ k, fewer k → keys k) : Alike fewer s t :=
  { alike with objects := fun k mem => alike.objects k (within k mem) }

theorem Alike.calm (alike : Alike keys s t) (calm : s.Calm) : t.Calm :=
  alike.failures.trans calm

theorem Alike.hasType (alike : Alike keys s t) (api : ApiResource) :
    t.hasType api = s.hasType api := by
  unfold Cluster.hasType
  rw [alike.types]

theorem Framed.refl (written : ObjectKey → Prop) (sound : s.Sound) : Framed written s s :=
  ⟨.refl _ s, rfl, Nat.le_refl _, sound⟩

theorem Framed.calm (framed : Framed keys s t) (calm : s.Calm) : t.Calm := framed.alike.calm calm

theorem Framed.trans {more : ObjectKey → Prop} (first : Framed keys s t)
    (second : Framed more t u) : Framed (fun k => keys k ∨ more k) s u where
  alike :=
    (first.alike.mono fun _ out => fun mem => out (.inl mem)).trans
      (second.alike.mono fun _ out => fun mem => out (.inr mem))
  roots := second.roots.trans first.roots
  addresses := Nat.le_trans first.addresses second.addresses
  sound := second.sound

theorem Framed.mono {more : ObjectKey → Prop} (framed : Framed keys s t)
    (within : ∀ k, keys k → more k) : Framed more s t :=
  { framed with alike := framed.alike.mono fun k out mem => out (within k mem) }

theorem Quiet.refl (s : Cluster) : Quiet s s := ⟨[], rfl, by simp⟩

theorem Quiet.trans (first : Quiet s t) (second : Quiet t u) : Quiet s u := by
  obtain ⟨log, rfl, quiet⟩ := first
  obtain ⟨log', rfl, quiet'⟩ := second
  refine ⟨log' ++ log, by simp, fun w mem => ?_⟩
  rcases List.mem_append.mp mem with late | early
  · exact quiet' w late
  · exact quiet w early

theorem Quiet.alike (quiet : Quiet s t) (keys : ObjectKey → Prop) : Alike keys s t := by
  obtain ⟨log, rfl, _⟩ := quiet
  exact ⟨rfl, rfl, rfl, rfl, fun _ _ => rfl⟩

end Cluster

namespace Attempt
open Cluster
variable {α β : Type} {s t u : Cluster}

def Yields (x : Attempt α) (s : Cluster) (r : Except StoreError α) (t : Cluster) : Prop :=
  ∀ out y, RunsOn Cluster.answer (ExceptT.run x) s out y → out = r ∧ y = t

theorem yields_pure (a : α) : Yields (pure a) s (.ok a) s := fun _ _ => runsOn_done.mp

theorem yields_throw (e : StoreError) : Yields (throw e : Attempt α) s (.error e) s :=
  fun _ _ => runsOn_done.mp

theorem yields_request (calm : s.Calm) (c : StoreCall) :
    Yields (request c) s (perform c s).1 (perform c s).2 := by
  intro out y run
  rw [← answer_calm calm]
  exact runsOn_done.mp (runsOn_call.mp run)

theorem yields_outcome (calm : s.Calm) (c : StoreCall) :
    Yields (outcome c) s (.ok (perform c s).1) (perform c s).2 := by
  intro out y run
  rw [← answer_calm calm]
  exact runsOn_done.mp (runsOn_call.mp run)

theorem yields_bind {x : Attempt α} {f : α → Attempt β} {a : α} {r : Except StoreError β}
    (first : Yields x s (.ok a) t) (second : Yields (f a) t r u) : Yields (x >>= f) s r u := by
  intro out y run
  obtain ⟨r', z, front, back⟩ := runsOn_bind.mp run
  obtain ⟨rfl, rfl⟩ := first r' z front
  exact second out y back

theorem yields_bind_error {x : Attempt α} {f : α → Attempt β} {e : StoreError}
    (first : Yields x s (.error e) t) : Yields (x >>= f) s (.error e) t := by
  intro out y run
  obtain ⟨r', z, front, back⟩ := runsOn_bind.mp run
  obtain ⟨rfl, rfl⟩ := first r' z front
  exact runsOn_done.mp back

end Attempt

def StatusBoard.Noted (b : StatusBoard) (notes : List Note) (b' : StatusBoard) : Prop :=
  b'.stored = b.stored ∧ b'.generation = b.generation ∧
    Entered b.generation notes b.current b'.current

theorem StatusBoard.Noted.append {b b' b'' : StatusBoard} {front back : List Note}
    (first : b.Noted front b') (second : b'.Noted back b'') : b.Noted (front ++ back) b'' := by
  obtain ⟨stored, generation, entered⟩ := first
  obtain ⟨stored', generation', entered'⟩ := second
  rw [generation] at entered'
  exact ⟨stored'.trans stored, generation'.trans generation, entered.append entered'⟩

def Outcome.note : Outcome → Note
  | .firstObserved | .stepFailed => .keepPhase
  | .deletionRequested => .phase .finalizing
  | .prerequisitesMissing => .phase .prerequisitesMissing
  | .prerequisitesSatisfied | .workloadNotReady => .phase .deploying
  | .converged => .phase .ready

namespace Step
open Cluster
variable {α β : Type} {s t u : Cluster}

/-- The one result of a step, its notes, and what it leaves. -/
def Does (x : Step α) (s : Cluster) (r : Except ReconcileError α) (notes : List Note)
    (t : Cluster) : Prop :=
  ∀ b out y, RunsOn Cluster.answer (x.run b) s out y → out.1 = r ∧ b.Noted notes out.2 ∧ y = t

theorem does_pure (a : α) : Does (pure a) s (.ok a) [] s := by
  intro b out y run
  obtain ⟨rfl, rfl⟩ := runsOn_done.mp run
  exact ⟨rfl, ⟨rfl, rfl, .nil _⟩, rfl⟩

theorem does_fail (e : ReconcileError) : Does (fail e : Step α) s (.error e) [] s := by
  intro b out y run
  obtain ⟨rfl, rfl⟩ := runsOn_done.mp run
  exact ⟨rfl, ⟨rfl, rfl, .nil _⟩, rfl⟩

theorem does_setCondition {c : ConditionType} {status : ConditionStatus}
    {reason message : String} :
    Does (setCondition c status reason message) s (.ok ())
      [.condition c status reason message] s := by
  intro b out y run
  obtain ⟨now, run⟩ := runsOn_clock.mp run
  obtain ⟨rfl, rfl⟩ := runsOn_done.mp run
  exact ⟨rfl, ⟨rfl, rfl, .cons _ now (.nil _)⟩, rfl⟩

theorem does_update {f : StatusBoard → StatusBoard} (n : Note)
    (noted : ∀ b, f b = { b with current := n.put b.generation "" b.current }) :
    Does (update f) s (.ok ()) [n] s := by
  intro b out y run
  obtain ⟨rfl, rfl⟩ := runsOn_done.mp run
  rw [noted]
  exact ⟨rfl, ⟨rfl, rfl, .cons _ "" (.nil _)⟩, rfl⟩

theorem does_move (g : Engine) (o : Outcome) :
    Does (g.move o) s (.ok (transition g.settings.timing none o).directive) [o.note] s := by
  intro b out y run
  obtain ⟨rfl, rfl⟩ := runsOn_done.mp run
  refine ⟨?_, ⟨rfl, rfl, ?_⟩, rfl⟩
  · cases o <;> rfl
  · cases o <;> exact .cons _ "" (.nil _)

theorem does_outcome {x : Attempt α} {r : Except StoreError α} (yields : x.Yields s r t) :
    Does (outcome x) s (.ok r) [] t := by
  intro b out y run
  obtain ⟨r', z, front, back⟩ := runsOn_bind.mp run
  obtain ⟨rfl, rfl⟩ := yields r' z front
  obtain ⟨rfl, rfl⟩ := runsOn_done.mp back
  exact ⟨rfl, ⟨rfl, rfl, .nil _⟩, rfl⟩

theorem does_bind {x : Step α} {f : α → Step β} {a : α} {r : Except ReconcileError β}
    {front back : List Note} (first : Does x s (.ok a) front t)
    (second : Does (f a) t r back u) : Does (x >>= f) s r (front ++ back) u := by
  intro b out y run
  obtain ⟨⟨r', b'⟩, z, runFirst, runSecond⟩ := runsOn_bind.mp run
  obtain ⟨rfl, noted, rfl⟩ := first b _ z runFirst
  obtain ⟨result, noted', rfl⟩ := second b' out y runSecond
  exact ⟨result, noted.append noted', rfl⟩

theorem does_bind_error {x : Step α} {f : α → Step β} {e : ReconcileError} {notes : List Note}
    (first : Does x s (.error e) notes t) : Does (x >>= f) s (.error e) notes t := by
  intro b out y run
  obtain ⟨⟨r', b'⟩, z, runFirst, runSecond⟩ := runsOn_bind.mp run
  obtain ⟨rfl, noted, rfl⟩ := first b _ z runFirst
  obtain ⟨rfl, rfl⟩ := runsOn_done.mp runSecond
  exact ⟨rfl, noted, rfl⟩

/-- A step that does the same again as long as the objects under `touched` stay, and itself
changes no objects but those under `written`. -/
structure Repeats (x : Step α) (touched written : ObjectKey → Prop) (s : Cluster)
    (r : Except ReconcileError α) (notes : List Note) (t : Cluster) : Prop where
  first : Does x s r notes t
  framed : Framed written s t
  again : ∀ u, Alike touched t u → ∃ v, Does x u r notes v ∧ Quiet u v

variable {touched written touched' written' : ObjectKey → Prop}

theorem repeats_of_still {x : Step α} {r : Except ReconcileError α} {notes : List Note}
    (sound : s.Sound) (does : ∀ u, Alike touched s u → Does x u r notes u) :
    Repeats x touched written s r notes s where
  first := does s (.refl _ s)
  framed := .refl _ sound
  again u alike := ⟨u, does u alike, .refl u⟩

theorem repeats_bind {x : Step α} {f : α → Step β} {a : α} {r : Except ReconcileError β}
    {front back : List Note} (first : Repeats x touched written s (.ok a) front t)
    (second : Repeats (f a) touched' written' t r back u)
    (apart : ∀ k, written' k → ¬ touched k) :
    Repeats (x >>= f) (fun k => touched k ∨ touched' k) (fun k => written k ∨ written' k) s r
      (front ++ back) u where
  first := does_bind first.first second.first
  framed := first.framed.trans second.framed
  again v alike := by
    have before : Alike touched t v :=
      (second.framed.alike.mono fun k mem out => apart k out mem).trans
        (alike.mono fun _ => .inl)
    obtain ⟨w, does, quiet⟩ := first.again v before
    obtain ⟨z, does', quiet'⟩ := second.again w
      ((alike.mono fun _ => .inr).trans (quiet.alike _))
    exact ⟨z, does_bind does does', quiet.trans quiet'⟩

theorem repeats_bind_error {x : Step α} {f : α → Step β} {e : ReconcileError}
    {notes : List Note} (first : Repeats x touched written s (.error e) notes t) :
    Repeats (x >>= f) touched written s (.error e) notes t where
  first := does_bind_error first.first
  framed := first.framed
  again u alike := by
    obtain ⟨v, does, quiet⟩ := first.again u alike
    exact ⟨v, does_bind_error does, quiet⟩

theorem Repeats.mono {x : Step α} {r : Except ReconcileError α} {notes : List Note}
    (repeats : Repeats x touched written s r notes t) (more : ∀ k, touched k → touched' k)
    (more' : ∀ k, written k → written' k) : Repeats x touched' written' s r notes t where
  first := repeats.first
  framed := repeats.framed.mono more'
  again u alike := repeats.again u (alike.mono more)

end Step
end SchedulerOperator
