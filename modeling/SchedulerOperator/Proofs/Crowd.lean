import SchedulerOperator.Proofs.RootCalls
import SchedulerOperator.Proofs.RootOrigins

/-!
Any number of passes at work on one cluster, and other clients between any two of their calls. What
carries everything is that a root which still has the version that a pass has read is the root that
it has read.
-/
namespace SchedulerOperator
open Cluster Engine Pass

/-- A pass underway: what was said so far, and what it goes on with. -/
structure Flight where
  history : List Turn
  rest : Pass (Except ReconcileError Requeue)

structure Visit where
  key : RootKey
  flight : Flight

/-- A cluster and the passes over it, each under a number of its own. -/
structure Crowd where
  cluster : Cluster
  visit : Nat → Option Visit

namespace Crowd

def put (n : Nat) (v : Option Visit) (w : Crowd) : Crowd :=
  { w with visit := fun m => if m = n then v else w.visit m }

/-- Passes do what they do; of what others might do, `may` tells what they do. -/
inductive Step (may : Operation → Prop) : Crowd → Crowd → Prop where
  | start {w : Crowd} (n : Nat) (g : Engine) (k : RootKey) (idle : w.visit n = none) :
    Step may w (w.put n (some ⟨k, ⟨[], g.reconcile k.namespace_ k.name⟩⟩))
  | call {w : Crowd} {n : Nat} {k : RootKey} {history : List Turn} {c : StoreCall}
      {next : c.Reply → Pass (Except ReconcileError Requeue)}
      (underway : w.visit n = some ⟨k, ⟨history, .call c next⟩⟩) :
    Step may w (put n
      (some ⟨k, ⟨history ++ [⟨c, (w.cluster.answer c).1⟩], next (w.cluster.answer c).1⟩⟩)
      ⟨(w.cluster.answer c).2, w.visit⟩)
  | clock {w : Crowd} {n : Nat} {k : RootKey} {history : List Turn}
      {next : String → Pass (Except ReconcileError Requeue)} (time : String)
      (underway : w.visit n = some ⟨k, ⟨history, .clock next⟩⟩) :
    Step may w (w.put n (some ⟨k, ⟨history, next time⟩⟩))
  | leave {w : Crowd} (n : Nat) : Step may w (w.put n none)
  | client {w : Crowd} (o : Operation) (allowed : may o) :
    Step may w ⟨o.apply w.cluster, w.visit⟩

inductive Reachable (may : Operation → Prop) : Crowd → Prop where
  | empty : Reachable may ⟨{}, fun _ => none⟩
  | next {w w' : Crowd} (step : Step may w w') (reached : Reachable may w) : Reachable may w'

end Crowd

/-- What holds of a pass between any two of its calls: it writes to its root as a pass does, and
what it read is as it read it, or has another version. -/
structure Visit.Sound (s : Cluster) (v : Visit) : Prop where
  conforms : ∃ g, Conforms (RootWrite g v.key) (fun _ _ => True) v.flight.history v.flight.rest
  read : ∀ ns name r, ⟨.getRoot ns name, .ok (some r)⟩ ∈ v.flight.history →
    Unaltered ⟨ns, name⟩ r s

structure Crowd.Sound (w : Crowd) : Prop where
  versioned : w.cluster.Versioned
  visits : ∀ n v, w.visit n = some v → v.Sound w.cluster

section
variable {s : Cluster} {k : RootKey} {history : List Turn} {c : StoreCall} {r : InferenceScheduler}

theorem performed_now {c' : StoreCall} {a : c'.Answer}
    (last : (⟨c', .ok a⟩ : Turn) ∈ [(⟨c, (s.answer c).1⟩ : Turn)]) :
    c = c' ∧ s.answer c' = perform c' s ∧ (perform c' s).1 = .ok a := by
  obtain ⟨same, reply⟩ := Turn.mk.inj (List.mem_singleton.mp last)
  subst same
  have done := (eq_of_heq reply).symm
  have performed := answer_ok done
  rw [performed] at done
  exact ⟨rfl, performed, done⟩

theorem Visit.Sound.apply {v : Visit} (sound : v.Sound s) (versioned : s.Versioned)
    (o : Operation) : v.Sound (o.apply s) where
  conforms := sound.conforms
  read ns name r mem := (sound.read ns name r mem).apply versioned o

theorem Visit.Sound.snapshot {v : Visit} (sound : v.Sound s)
    (snapshot : Snapshot v.key r v.flight.history) : Unaltered v.key r s := by
  obtain ⟨rest, first⟩ := snapshot
  exact sound.read v.key.namespace_ v.key.name r (by rw [first]; exact List.mem_cons_self)

theorem Visit.Sound.call {next : c.Reply → Pass (Except ReconcileError Requeue)}
    (sound : Visit.Sound s ⟨k, ⟨history, .call c next⟩⟩) (versioned : s.Versioned) :
    Visit.Sound (s.answer c).2
      ⟨k, ⟨history ++ [⟨c, (s.answer c).1⟩], next (s.answer c).1⟩⟩ := by
  obtain ⟨g, conforms⟩ := sound.conforms
  refine ⟨⟨g, conforms.2 _⟩, ?_⟩
  intro ns name r mem
  rcases List.mem_append.mp mem with old | new
  · exact (sound.read ns name r old).apply versioned (.call c)
  · obtain ⟨_, _, done⟩ := performed_now new
    exact (versioned.unaltered (Except.ok.inj done)).apply versioned (.call c)

/-- What a pass sets the finalizers to, told by the root that is stored at that moment. -/
theorem Visit.Sound.marks {root : InferenceScheduler} {finalizers : List String}
    {next : (StoreCall.setFinalizers root finalizers).Reply → Pass (Except ReconcileError Requeue)}
    (sound : Visit.Sound s ⟨k, ⟨history, .call (.setFinalizers root finalizers) next⟩⟩) :
    ∃ snapshot, Snapshot k snapshot history ∧ Unaltered k root s ∧
      (snapshot.metadata.deletionTimestamp = none → root.metadata.deletionTimestamp = none ∧
        root.hasMarker = false ∧ finalizers = root.finalizers ++ [finalizerMarker]) ∧
      (snapshot.metadata.deletionTimestamp.isSome → finalizers = root.withoutMarker) := by
  obtain ⟨g, ⟨snapshot, first, marks⟩, _⟩ := sound.conforms
  refine ⟨snapshot, first, ?_⟩
  have seen : Unaltered k snapshot s := sound.snapshot first
  cases marks with
  | attaches alive unmarked same list =>
    subst same
    exact ⟨seen, fun _ => ⟨alive, unmarked, list⟩, fun deleted => by rw [alive] at deleted; cases deleted⟩
  | releases deleted read list =>
    refine ⟨sound.read _ _ _ (read seen.located), fun alive => ?_, fun _ => list⟩
    rw [alive] at deleted
    cases deleted

end

namespace Crowd
variable {w w' : Crowd} {may : Operation → Prop}

theorem Sound.put {n : Nat} {v : Option Visit} (sound : w.Sound)
    (fine : ∀ v', v = some v' → v'.Sound w.cluster) : (w.put n v).Sound where
  versioned := sound.versioned
  visits m v' underway := by
    by_cases here : m = n
    · exact fine v' (by simpa [Crowd.put, here] using underway)
    · exact sound.visits m v' (by simpa [Crowd.put, here] using underway)

theorem Sound.apply (sound : w.Sound) (o : Operation) :
    Sound ⟨o.apply w.cluster, w.visit⟩ where
  versioned := sound.versioned.apply o
  visits n v underway := (sound.visits n v underway).apply sound.versioned o

theorem Sound.step (sound : w.Sound) (step : Step may w w') : w'.Sound := by
  cases step with
  | start n g k idle =>
    refine sound.put fun v same => ?_
    cases same
    exact ⟨⟨g, reconcile_rootWrites g k⟩, fun _ _ _ mem => absurd mem List.not_mem_nil⟩
  | @call n k history c next underway =>
    have own := sound.visits n _ underway
    refine (sound.apply (.call c)).put fun v same => ?_
    cases same
    exact own.call sound.versioned
  | @clock n k history next time underway =>
    refine sound.put fun v same => ?_
    cases same
    obtain ⟨⟨g, conforms⟩, read⟩ := sound.visits n _ underway
    exact ⟨⟨g, conforms time⟩, read⟩
  | leave n => exact sound.put (by simp)
  | client o allowed => exact sound.apply o

theorem Reachable.sound (reached : Reachable may w) : w.Sound := by
  induction reached with
  | empty => exact ⟨versioned_empty, fun n v underway => by cases underway⟩
  | next step _ ih => exact ih.step step

theorem Sound.never_marks_deleted {n : Nat} {k l : RootKey} {history : List Turn} {c : StoreCall}
    {next : c.Reply → Pass (Except ReconcileError Requeue)} {stored after : InferenceScheduler}
    (sound : w.Sound) (underway : w.visit n = some ⟨k, ⟨history, .call c next⟩⟩)
    (found : Assoc.get? l w.cluster.roots = some stored)
    (deleted : stored.metadata.deletionTimestamp.isSome)
    (there : Assoc.get? l (w.cluster.answer c).2.roots = some after)
    (marked : after.hasMarker = true) : stored.hasMarker = true := by
  obtain ⟨old, before, descends⟩ := answer_descends c there
  have same : old = stored := Option.some.inj (before.symm.trans found)
  subst same
  rcases descends.finalizers with kept | ⟨root, finalizers, rfl, here, version, set⟩
  · rw [InferenceScheduler.hasMarker, ← kept]
    exact marked
  · obtain ⟨snapshot, _, seen, attaches, releases⟩ := (sound.visits n _ underway).marks
    have own : l = k := here.trans (seen.located.key "")
    subst own
    have stored : old = root := seen.same old found version
    subst stored
    cases asked : snapshot.metadata.deletionTimestamp with
    | none =>
      rw [(attaches asked).1] at deleted
      cases deleted
    | some time =>
      rw [InferenceScheduler.hasMarker, set, releases (by rw [asked]; rfl)] at marked
      simp [InferenceScheduler.withoutMarker] at marked

/-- However passes over a root and other clients take turns: where a pass sets finalizers and
succeeds, it appends the marker to the finalizers which the root has at that moment, if it read
the root as not being deleted, or else takes every marker out of them, and it changes nothing
else of the root, which goes only if it is being deleted and no finalizer is left. And no call
of a pass attaches the marker to a root that is being deleted at that moment. -/
theorem marker_edits_are_atomic (reached : Reachable (fun _ => True) w) :
    (∀ n k history root finalizers next,
      w.visit n = some ⟨k, ⟨history, .call (.setFinalizers root finalizers) next⟩⟩ →
      (w.cluster.answer (.setFinalizers root finalizers)).1 = .ok () →
      ∃ snapshot stored, Snapshot k snapshot history ∧
        Assoc.get? k w.cluster.roots = some stored ∧
        (snapshot.metadata.deletionTimestamp = none →
          stored.metadata.deletionTimestamp = none ∧ stored.hasMarker = false ∧
            finalizers = stored.finalizers ++ [finalizerMarker]) ∧
        (snapshot.metadata.deletionTimestamp.isSome →
          finalizers = stored.finalizers.filter fun f => f ≠ finalizerMarker) ∧
        let after := (w.cluster.answer (.setFinalizers root finalizers)).2
        (∃ r, Assoc.get? k after.roots = some r ∧ stored.Renewed r ∧ r.status = stored.status ∧
            r.finalizers = finalizers) ∨
          (stored.metadata.deletionTimestamp.isSome ∧ finalizers = [] ∧
            Assoc.get? k after.roots = none)) ∧
    ∀ n k history c next, w.visit n = some ⟨k, ⟨history, .call c next⟩⟩ →
      ∀ l stored after, Assoc.get? l w.cluster.roots = some stored →
        stored.metadata.deletionTimestamp.isSome →
        Assoc.get? l (w.cluster.answer c).2.roots = some after →
        after.hasMarker = true → stored.hasMarker = true := by
  have sound := reached.sound
  constructor
  · intro n k history root finalizers next underway done
    obtain ⟨snapshot, first, seen, attaches, releases⟩ := (sound.visits n _ underway).marks
    have performed := answer_ok done
    rw [performed] at done ⊢
    obtain ⟨stored, found, version, outcome⟩ := setFinalizers_done done
    rw [seen.located.key ""] at found outcome
    have same : stored = root := seen.same stored found version
    subst same
    exact ⟨snapshot, stored, first, found, attaches, releases, outcome⟩
  · intro n k history c next underway l stored after found deleted there marked
    exact sound.never_marks_deleted underway found deleted there marked

theorem Reachable.client (reached : Reachable may w) (o : Operation) (allowed : may o) :
    Reachable may ⟨o.apply w.cluster, w.visit⟩ := .next (.client o allowed) reached

theorem Reachable.clients (reached : Reachable may w) (os : List Operation)
    (allowed : ∀ o ∈ os, may o) :
    Reachable may ⟨os.foldl (fun s o => o.apply s) w.cluster, w.visit⟩ := by
  induction os generalizing w with
  | nil => exact reached
  | cons o rest ih =>
    exact ih (reached.client o (allowed o List.mem_cons_self)) fun o mem =>
      allowed o (List.mem_cons_of_mem _ mem)

theorem put_self (n : Nat) (v : Option Visit) (w : Crowd) : (w.put n v).visit n = v := if_pos rfl

theorem put_other {m n : Nat} (other : m ≠ n) (v : Option Visit) (w : Crowd) :
    (w.put n v).visit m = w.visit m := if_neg other

theorem Reachable.call {n : Nat} {k : RootKey} {history : List Turn} {c : StoreCall}
    {next : c.Reply → Pass (Except ReconcileError Requeue)} {reply : c.Reply} {s : Cluster}
    (reached : Reachable may w) (underway : w.visit n = some ⟨k, ⟨history, .call c next⟩⟩)
    (answered : w.cluster.answer c = (reply, s)) :
    Reachable may (put n (some ⟨k, ⟨history ++ [⟨c, reply⟩], next reply⟩⟩) ⟨s, w.visit⟩) := by
  have after := Reachable.next (.call underway) reached
  rw [answered] at after
  exact after

theorem put_again (n : Nat) (v v' : Option Visit) (w : Crowd) :
    (w.put n v).put n v' = w.put n v' := by
  refine congrArg (Crowd.mk w.cluster) (funext fun m => ?_)
  by_cases here : m = n <;> simp [put, here]

theorem Reachable.attaching {n : Nat} {k : RootKey} {r : InferenceScheduler}
    (reached : Reachable may w) (idle : w.visit n = none) (calm : w.cluster.Calm)
    (found : Assoc.get? k w.cluster.roots = some r) (alive : r.metadata.deletionTimestamp = none)
    (unmarked : r.hasMarker = false) :
    ∃ w' next, Reachable may w' ∧ w'.cluster = w.cluster ∧
      w'.visit n = some ⟨k, ⟨opening k r,
        .call (.setFinalizers r (r.finalizers ++ [finalizerMarker])) next⟩⟩ ∧
      ∀ m, m ≠ n → w'.visit m = w.visit m := by
  have started := Reachable.next (.start n (Engine.mk .builtin {}) k idle) reached
  have answered : w.cluster.answer (.getRoot k.namespace_ k.name) = (.ok (some r), w.cluster) := by
    rw [answer_calm calm]
    exact congrArg (fun found => (Except.ok found, w.cluster)) found
  have read := started.call (put_self n _ _) answered
  obtain ⟨next, attaches⟩ : ∃ next, (Engine.mk .builtin {}).upkeep k.namespace_ k.name r =
      .call (.setFinalizers r (r.finalizers ++ [finalizerMarker])) next := by
    unfold upkeep InferenceScheduler.ensureMarker
    rw [unmarked]
    exact ⟨_, rfl⟩
  refine ⟨w.put n _, next, ?_, rfl, put_self n _ w, fun m other => put_other other _ w⟩
  rw [← put_again n, ← attaches]
  change Reachable may (put n (some ⟨k, ⟨opening k r,
    if r.metadata.deletionTimestamp.isSome = true then (Engine.mk .builtin {}).tearDown r
      else (Engine.mk .builtin {}).upkeep k.namespace_ k.name r⟩⟩) _) at read
  rw [if_neg (by rw [alive]; simp)] at read
  exact read

theorem fresh_reachable : Reachable (fun _ => True) ⟨Cluster.fresh, fun _ => none⟩ :=
  Reachable.clients .empty freshOperations fun _ _ => trivial

theorem marker_attached_beside_another : ∃ w r next, Reachable (fun _ => True) w ∧
    w.visit 0 = some ⟨⟨"default", "demo"⟩, ⟨opening ⟨"default", "demo"⟩ r,
      .call (.setFinalizers r (r.finalizers ++ [finalizerMarker])) next⟩⟩ ∧
    (∃ v, w.visit 1 = some v ∧ v.key = ⟨"default", "demo"⟩) ∧
    (w.cluster.answer (.setFinalizers r (r.finalizers ++ [finalizerMarker]))).1 = .ok () ∧
    ∃ stored, Assoc.get? ⟨"default", "demo"⟩ w.cluster.roots = some stored ∧
      stored.hasMarker = false ∧
      r.finalizers ++ [finalizerMarker] = stored.finalizers ++ [finalizerMarker] := by
  obtain ⟨r, found, alive, unmarked, done⟩ : ∃ r,
      Assoc.get? ⟨"default", "demo"⟩ Cluster.fresh.roots = some r ∧
      r.metadata.deletionTimestamp = none ∧ r.hasMarker = false ∧
      (Cluster.fresh.answer (.setFinalizers r (r.finalizers ++ [finalizerMarker]))).1 = .ok () :=
    ⟨_, rfl, by decide +kernel, by decide +kernel, by decide +kernel⟩
  have calm : Cluster.fresh.Calm := show Cluster.fresh.failures = [] by decide +kernel
  obtain ⟨w, _, other, same, beside, free⟩ :=
    fresh_reachable.attaching (n := 1) rfl calm found alive unmarked
  replace same : w.cluster = Cluster.fresh := same
  rw [← same] at found calm done
  obtain ⟨w', next, both, same', underway, kept⟩ :=
    other.attaching (n := 0) (free 0 (by decide)) calm found alive unmarked
  rw [← same'] at done
  obtain ⟨snapshot, stored, first, there, attaches, _⟩ :=
    (marker_edits_are_atomic both).1 _ _ _ _ _ _ underway done
  obtain rfl : r = snapshot := Snapshot.unique ⟨[], rfl⟩ first
  exact ⟨w', r, next, both, underway, ⟨_, (kept 1 (by decide)).trans beside, rfl⟩, done, stored,
    there, (attaches alive).2⟩

end Crowd
end SchedulerOperator
