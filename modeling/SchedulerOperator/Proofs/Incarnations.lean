import SchedulerOperator.Proofs.Courses

/-!
A root's name may be given up and taken again while passes over it are underway. What carries the
results is that a root whose marker a pass has seen or attached cannot go before that pass lets it
go.
-/
namespace SchedulerOperator
open Cluster Engine Pass

/-- What holds of a pass over `k` between any two of its calls: it keeps to what it may do,
what it read is accounted for, and the root that it holds is there. -/
structure Flight.Sound (k : RootKey) (s : Cluster) (f : Flight) : Prop where
  conforms : Conforms (MayDo k) (fun _ _ => True) f.history f.rest
  roots : ∀ ns name r, ⟨.getRoot ns name, .ok (some r)⟩ ∈ f.history → RootSeen ⟨ns, name⟩ r s
  objects : ∀ api ns name v, ⟨.get api ns name, .ok (some v)⟩ ∈ f.history →
    ObjectSeen (api.objectKey ns name) v s
  guarded : ∀ r, Holding k r f.history → Guarded k r.metadata.uid s

structure Crowd.Orderly (w : Crowd) : Prop where
  accounted : w.cluster.Accounted
  flights : ∀ n k f, w.visit n = some ⟨k, f⟩ → f.Sound k w.cluster

section
variable {hand : Option RootKey} {k : RootKey} {s t : Cluster} {f : Flight}
  {r root : InferenceScheduler} {history : List Turn} {c : StoreCall}

theorem Flight.Sound.elsewhere (sound : f.Sound k s) (change : Change hand s t)
    (away : hand ≠ some k) : f.Sound k t where
  conforms := sound.conforms
  roots ns name r mem := change.rootSeen (sound.roots ns name r mem)
  objects api ns name v mem := change.objectSeen (sound.objects api ns name v mem)
  guarded r holding := change.guarded away (sound.guarded r holding)

theorem Flight.Sound.read (sound : f.Sound k s)
    (mem : ⟨.getRoot k.namespace_ k.name, .ok (some r)⟩ ∈ f.history) : RootSeen k r s :=
  sound.roots k.namespace_ k.name r mem

theorem Flight.Sound.snapshot (sound : f.Sound k s) (snapshot : Snapshot k r f.history) :
    RootSeen k r s := by
  obtain ⟨rest, first⟩ := snapshot
  exact sound.read (by rw [first]; exact List.mem_cons_self)

theorem Flight.Sound.own_hand (sound : f.Sound k s) (may : MayDo k f.history c) {l : RootKey}
    (inHand : c.hand? = some l) : l = k := by
  cases c with
  | setFinalizers root finalizers =>
    have seen : RootSeen k root s := by
      rcases may with ⟨first, _⟩ | ⟨r, holding, read⟩
      · exact sound.read (by rw [first]; exact List.mem_singleton.mpr rfl)
      · exact sound.read (read (sound.snapshot holding.snapshot).located)
    rw [← Option.some.inj inHand]
    exact seen.located.key ""
  | _ => cases inHand

theorem Flight.Sound.ownersLive (sound : f.Sound k s) (accounted : s.Accounted)
    (may : MayDo k f.history c) : c.OwnersLive s := by
  have held : ∀ {r uid}, Holding k r f.history → r.metadata.uid = some uid → s.Live uid := by
    intro r uid holding named
    obtain ⟨stored, found, same, _⟩ := sound.guarded r holding
    exact ⟨k, stored, found, same.trans named⟩
  cases c with
  | create api ns object =>
    obtain ⟨r, holding, named⟩ := may
    intro n _ _ owned
    exact held holding (named _ owned)
  | replace api ns name object =>
    obtain ⟨r, existing, holding, read, version, named⟩ := may
    intro current found replaces n low high owned
    rcases named _ owned with ours | other
    · exact held holding ours
    · -- The replace is conditional on the version that was read.
      obtain ⟨⟨m, _, known⟩, alike⟩ := sound.objects api ns name existing read
      have stored : (api.objectKey ns name, current) ∈ s.objects := Assoc.mem_of_get? found
      have same : resourceVersion current = resourceVersion existing := by
        obtain ⟨⟨l, _, there⟩, _⟩ := accounted.objects _ stored
        rw [Replaces, version, known, there] at replaces
        rcases replaces with null | equal
        · cases null
        · rw [known, there]
          exact congrArg Json.str (eq_of_beq equal).symm
      exact accounted.owners _ stored n low high (by rw [alike current stored same]; exact other)
  | _ => trivial

/-- A root that a pass holds after a call is there after it. -/
theorem Flight.Sound.stays {next : c.Reply → Pass (Except ReconcileError Requeue)}
    (sound : Flight.Sound k s ⟨history, .call c next⟩) (accounted : s.Accounted)
    (holding : Holding k r (history ++ [⟨c, (s.answer c).1⟩])) :
    Guarded k r.metadata.uid (s.answer c).2 := by
  have live := sound.ownersLive accounted sound.conforms.1
  have marks : ∀ root finalizers, c = .setFinalizers root finalizers →
      finalizerMarker ∈ finalizers := fun root finalizers same =>
    holding.attached _ (List.mem_append_right _ (List.mem_singleton.mpr rfl)) root finalizers same
  obtain ⟨rest, first⟩ := holding.snapshot
  cases history with
  | nil =>
    -- The root was read by this very call.
    obtain ⟨same, _, done⟩ := performed_now (List.mem_singleton.mpr (List.cons.inj first).1.symm)
    subst same
    have found : Assoc.get? k s.roots = some r := Except.ok.inj done
    have marker : r.hasMarker = true := by
      rcases holding.marked with marker | mem
      · exact marker
      · cases (Turn.mk.inj (List.mem_singleton.mp mem)).1
    exact Guarded.answer accounted live ⟨r, found, rfl, marker⟩ marks
  | cons t earlier =>
    have snapshot : Snapshot k r (t :: earlier) := ⟨earlier, by rw [(List.cons.inj first).1]⟩
    have attached : ∀ u ∈ t :: earlier, ∀ root finalizers,
        u.call = .setFinalizers root finalizers → finalizerMarker ∈ finalizers :=
      fun u mem => holding.attached u (List.mem_append_left _ mem)
    have before : Marked r (t :: earlier) → Guarded k r.metadata.uid (s.answer c).2 := fun marked =>
      Guarded.answer accounted live (sound.guarded r ⟨snapshot, marked, attached⟩) marks
    rcases holding.marked with marker | mem
    · exact before (.inl marker)
    · rcases List.mem_append.mp mem with old | new
      · exact before (.inr old)
      · -- The marker was attached by this very call.
        obtain ⟨same, performed, done⟩ := performed_now new
        subst same
        rw [performed]
        exact (sound.snapshot snapshot).attached (marks _ _ rfl) done

theorem Flight.Sound.call {next : c.Reply → Pass (Except ReconcileError Requeue)}
    (sound : Flight.Sound k s ⟨history, .call c next⟩) (accounted : s.Accounted) :
    Flight.Sound k (s.answer c).2
      ⟨history ++ [⟨c, (s.answer c).1⟩], next (s.answer c).1⟩ := by
  have change := change_answer accounted (sound.ownersLive accounted sound.conforms.1)
  refine ⟨sound.conforms.2 _, ?_, ?_, fun r => sound.stays accounted⟩
  · intro ns name r mem
    rcases List.mem_append.mp mem with old | new
    · exact change.rootSeen (sound.roots ns name r old)
    · obtain ⟨_, _, done⟩ := performed_now new
      exact change.rootSeen (accounted.roots _ r (Except.ok.inj done))
  · intro api ns name v mem
    rcases List.mem_append.mp mem with old | new
    · exact change.objectSeen (sound.objects api ns name v old)
    · obtain ⟨_, _, done⟩ := performed_now new
      exact change.objectSeen (accounted.objects _ (Assoc.mem_of_get? (Except.ok.inj done)))

theorem Flight.Sound.start (g : Engine) (k : RootKey) (s : Cluster) :
    Flight.Sound k s ⟨[], g.reconcile k.namespace_ k.name⟩ where
  conforms := reconcile_conforms g k
  roots _ _ _ mem := absurd mem List.not_mem_nil
  objects _ _ _ _ mem := absurd mem List.not_mem_nil
  guarded r holding := by
    obtain ⟨rest, first⟩ := holding.snapshot
    cases first

/-- The root to which a call writes, if it writes to one. -/
def StoreCall.writtenRoot? : StoreCall → Option RootKey
  | .setFinalizers root _ => some ⟨root.namespaceOr "", root.name⟩
  | .writeStatus ns name _ => some ⟨ns, name⟩
  | _ => none

/-- A write of a pass that succeeds hits the incarnation that the pass read first. -/
theorem Flight.Sound.hits {next : c.Reply → Pass (Except ReconcileError Requeue)} {target : RootKey}
    {a : c.Answer} (sound : Flight.Sound k s ⟨history, .call c next⟩)
    (written : c.writtenRoot? = some target) (done : (s.answer c).1 = .ok a) :
    target = k ∧ ∃ snapshot uid hit, Snapshot k snapshot history ∧
      snapshot.metadata.uid = some uid ∧ Assoc.get? k s.roots = some hit ∧
      hit.metadata.uid = some uid := by
  have may : MayDo k history c := sound.conforms.1
  have held : ∀ {r}, Holding k r history → ∃ snapshot uid hit, Snapshot k snapshot history ∧
      snapshot.metadata.uid = some uid ∧ Assoc.get? k s.roots = some hit ∧
      hit.metadata.uid = some uid := by
    intro r holding
    obtain ⟨uid, known⟩ := (sound.snapshot holding.snapshot).uid
    obtain ⟨hit, found, same, _⟩ := sound.guarded r holding
    exact ⟨r, uid, hit, holding.snapshot, known, found, same.trans known⟩
  cases c with
  | setFinalizers root finalizers =>
    have here : target = k := sound.own_hand may written
    refine ⟨here, ?_⟩
    rcases may with ⟨first, marker⟩ | ⟨r, holding, _⟩
    · have snapshot : Snapshot k root history := ⟨[], first⟩
      have seen := sound.snapshot snapshot
      obtain ⟨uid, known⟩ := seen.uid
      rw [answer_ok done] at done
      rcases setFinalizers_marks (s := s) root marker with ⟨e, failed, _⟩ | ⟨hit, _, found, version, _⟩
      · change (s.setFinalizers root finalizers).1 = _ at done
        rw [failed] at done
        cases done
      · rw [seen.located.key ""] at found
        exact ⟨root, uid, hit, snapshot, known, found, (seen.2 hit found version).trans known⟩
    · exact held holding
  | writeStatus ns name status =>
    obtain ⟨r, holding, place⟩ := may
    obtain ⟨inNamespace, named⟩ := place (sound.snapshot holding.snapshot).located
    have here : target = k := by
      rw [← Option.some.inj written, inNamespace, named]
    exact ⟨here, held holding⟩
  | _ => cases written

end

namespace Crowd
variable {w w' : Crowd} {past : List Crowd}

/-- Clients may do what is permitted on the cluster as it is. -/
def Permitting (w : Crowd) (o : Operation) : Prop := o.Permitted w.cluster

theorem Orderly.put {n : Nat} {v : Option Visit} (orderly : w.Orderly)
    (fine : ∀ k f, v = some ⟨k, f⟩ → f.Sound k w.cluster) : (w.put n v).Orderly where
  accounted := orderly.accounted
  flights m k f underway := by
    by_cases here : m = n
    · exact fine k f (by simpa [Crowd.put, here] using underway)
    · exact orderly.flights m k f (by simpa [Crowd.put, here] using underway)

theorem Orderly.step (orderly : w.Orderly) (alone : ∀ k, Alone k w)
    (step : Step (Permitting w) w w') : w'.Orderly := by
  cases step with
  | start n g k idle =>
    refine orderly.put fun l f same => ?_
    cases same
    exact Flight.Sound.start g k _
  | @call n k history c next underway =>
    have own := orderly.flights n k _ underway
    have change := change_answer orderly.accounted
      (own.ownersLive orderly.accounted own.conforms.1)
    refine ⟨change.accounted orderly.accounted, fun m l f there => ?_⟩
    by_cases here : m = n
    · subst here
      rw [put_self] at there
      cases there
      exact own.call orderly.accounted
    · rw [put_other here] at there
      refine (orderly.flights m l f there).elsewhere change fun inHand => here ?_
      -- Another pass is over another root, and this one sets the finalizers of its own only.
      obtain rfl := own.own_hand own.conforms.1 inHand
      exact alone l m n f _ there underway
  | @clock n k history next time underway =>
    refine orderly.put fun l f same => ?_
    cases same
    have own := orderly.flights n k _ underway
    exact ⟨own.conforms time, own.roots, own.objects, own.guarded⟩
  | leave n => exact orderly.put (by simp)
  | client o permitted =>
    have change := change_apply orderly.accounted permitted
    exact ⟨change.accounted orderly.accounted, fun n k f underway =>
      (orderly.flights n k f underway).elsewhere change (by simp)⟩

theorem Course.orderly (course : Course Permitting (w :: past))
    (alone : ∀ u ∈ past, ∀ k, Alone k u) : w.Orderly := by
  refine course.along (P := fun w past => (∀ u ∈ past, ∀ k, Alone k u) → w.Orderly) ?_ ?_ alone
  · exact fun _ => ⟨accounted_empty, fun n k f underway => by cases underway⟩
  · intro u u' earlier _ step ih alone
    refine (ih fun v mem => alone v (List.mem_cons_of_mem _ mem)).step ?_ step
    exact alone _ List.mem_cons_self

/-- However passes and other clients take turns, if only one pass over a root is underway at a
time: an object never names as its owner a uid that was handed out and whose root is gone, and
where a pass makes a write to a root and succeeds, the root that it hits is the incarnation that
the pass read first. -/
theorem no_orphans_and_no_foreign_writes (course : Course Permitting (w :: past))
    (alone : ∀ u ∈ w :: past, ∀ k, Alone k u) :
    (∀ e ∈ w.cluster.objects, ∀ n, 1 ≤ n → n ≤ w.cluster.uids →
      isOwnedBy (uidText n) e.2 = true →
      ∃ k r, Assoc.get? k w.cluster.roots = some r ∧ r.metadata.uid = some (uidText n)) ∧
    ∀ n k history c next target a, w.visit n = some ⟨k, ⟨history, .call c next⟩⟩ →
      c.writtenRoot? = some target → (w.cluster.answer c).1 = .ok a →
      target = k ∧ ∃ snapshot uid hit, Snapshot k snapshot history ∧
        snapshot.metadata.uid = some uid ∧ Assoc.get? k w.cluster.roots = some hit ∧
        hit.metadata.uid = some uid := by
  have orderly := course.orderly fun u mem => alone u (List.mem_cons_of_mem _ mem)
  refine ⟨orderly.accounted.owners, ?_⟩
  intro n k history c next target a underway written done
  exact (orderly.flights n k _ underway).hits written done

theorem arrives_permitted {k : RootKey} {read : InferenceScheduler → Prop} :
    Arrives Permitting k read Cluster.fresh := by
  refine arrives_with_root read (fun o mem other s => ?_) fun r mem s none => ?_
  · refine forall_freshOperations (P := fun o => (∀ r, o ≠ .insertRoot r) →
      Permitting ⟨s, fun _ => .none⟩ o) ?_ ?_ ?_ ?_ o mem other
    · exact fun _ _ => trivial
    · exact fun _ => trivial
    · exact fun _ n _ _ owned => by cases owned
    · exact fun other => absurd rfl (other _)
  · have blank : r.metadata.uid = .none := by
      simp [freshOperations] at mem
      rw [mem]
    refine ⟨blank, ?_⟩
    rw [root?, none]
    rfl

def builtAndDoomed (s : Cluster) : Cluster :=
  ((Crowd.afterPass s).requestDeletion "" "default" "demo").2

theorem tearDown_saves {g : Engine} {r : InferenceScheduler} (marker : r.hasMarker = true)
    (changed : ((StatusBoard.start r.status r.metadata.generation).setPhase
      .finalizing).changed = true) :
    ∃ status next,
      g.tearDown r = .call (.writeStatus (r.namespaceOr "default") r.name status) next := by
  unfold tearDown
  simp only [marker, transition, changed, Bool.not_true, Bool.false_eq_true, if_false]
  unfold saveStatus
  simp only [changed, Bool.not_true, Bool.false_eq_true, if_false]
  exact ⟨_, _, rfl⟩

theorem Arrives.withdraws {may : Crowd → Operation → Prop} {s : Cluster} {k : RootKey}
    {r : InferenceScheduler} (arrives : Arrives may k (fun _ => True) s) (calm : s.Calm)
    (found : Assoc.get? k s.roots = some r) (located : Located k r)
    (deleted : r.metadata.deletionTimestamp.isSome) (marker : r.hasMarker = true)
    (changed : ((StatusBoard.start r.status r.metadata.generation).setPhase
      .finalizing).changed = true) :
    ∃ w past history status next, Course may (w :: past) ∧ (∀ u ∈ w :: past, ∀ l, Alone l u) ∧
      w.cluster = s ∧
      w.visit 0 = some ⟨k, ⟨history, .call (.writeStatus k.namespace_ k.name status) next⟩⟩ := by
  have answered : s.answer (.getRoot k.namespace_ k.name) = (.ok (some r), s) := by
    rw [answer_calm calm]
    exact congrArg (fun found => (Except.ok found, s)) found
  obtain ⟨w, past, course, serial, cluster, underway⟩ :=
    arrives.begins (g := Engine.mk .builtin {}) rfl fun _ _ => trivial
  rw [answered] at cluster underway
  obtain ⟨status, next, saves⟩ := tearDown_saves (g := Engine.mk .builtin {}) marker changed
  obtain ⟨ns, name⟩ := located.place "default"
  rw [ns, name] at saves
  refine ⟨w, past, opening k r, status, next, course, fun u mem => (serial u mem).alone, cluster, ?_⟩
  rw [underway, ← saves]
  change some (Visit.mk k ⟨opening k r, if r.metadata.deletionTimestamp.isSome then _ else _⟩) = _
  rw [if_pos deleted]

theorem no_orphans_while_deleting : ∃ w past n k history c next target a,
    Course Permitting (w :: past) ∧ (∀ u ∈ w :: past, ∀ l, Alone l u) ∧
    w.cluster.uids = 1 ∧ (∃ e ∈ w.cluster.objects, isOwnedBy (uidText 1) e.2 = true) ∧
    (∃ k r, Assoc.get? k w.cluster.roots = some r ∧ r.metadata.uid = some (uidText 1)) ∧
    w.visit n = some ⟨k, ⟨history, .call c next⟩⟩ ∧ c.writtenRoot? = some target ∧
    (w.cluster.answer c).1 = .ok a ∧
    target = k ∧ ∃ snapshot uid hit, Snapshot k snapshot history ∧
      snapshot.metadata.uid = some uid ∧ Assoc.get? k w.cluster.roots = some hit ∧
      hit.metadata.uid = some uid := by
  have checked : (let s := builtAndDoomed Cluster.fresh
      decide (s.failures = []) && decide (s.uids = 1) &&
      (s.objects.any fun e => isOwnedBy (uidText 1) e.2) &&
      ((Assoc.get? ⟨"default", "demo"⟩ s.roots).any fun r =>
        r.metadata.deletionTimestamp.isSome && r.hasMarker &&
        ((StatusBoard.start r.status r.metadata.generation).setPhase .finalizing).changed)) = true := by
    decide +kernel
  have arrives : Arrives Permitting ⟨"default", "demo"⟩ (fun _ => True)
      (builtAndDoomed Cluster.fresh) :=
    (arrives_permitted.afterPass fun _ _ => trivial).client
      (o := .requestDeletion "" "default" "demo") trivial
  generalize builtAndDoomed Cluster.fresh = s at checked arrives
  simp only [Bool.and_eq_true, decide_eq_true_eq, List.any_eq_true, Option.any_eq_true] at checked
  obtain ⟨⟨⟨calm, uids⟩, ⟨e, mem, owned⟩⟩, r, found, ⟨deleted, marker⟩, changed⟩ := checked
  have orderly : Orderly ⟨s, fun _ => none⟩ := by
    obtain ⟨past, course, serial⟩ := arrives
    exact course.orderly fun u mem => (serial u mem).alone
  obtain ⟨w, past, history, status, next, course, alone, rfl, underway⟩ :=
    arrives.withdraws calm found (orderly.accounted.roots _ r found).located deleted marker changed
  have done : (w.cluster.answer (.writeStatus "default" "demo" status)).1 = .ok () := by
    rw [answer_calm calm]
    exact (writeStatus_leaves found status).1
  have held := no_orphans_and_no_foreign_writes course alone
  refine ⟨w, past, 0, ⟨"default", "demo"⟩, history, _, next, _, (), course, alone, uids,
    ⟨e, mem, owned⟩, ?_, underway, rfl, done, held.2 _ _ _ _ _ _ _ underway rfl done⟩
  exact held.1 e mem 1 (by decide) (by omega) owned

end Crowd
end SchedulerOperator
