import SchedulerOperator.Proofs.StoredStatus
import SchedulerOperator.Proofs.StatusWrites

/-!
A pass that was started before the root was asked to go may still write its status, but not after
one that knows of it, since that one is the only pass underway.
-/
namespace SchedulerOperator
open Cluster Engine Pass

/-- What was ready once stays so, the first phase does not come again, and the last one stays. -/
structure SchedulerStatus.Follows (old new : SchedulerStatus) : Prop where
  pool : old.inferencePoolReady = true → new.inferencePoolReady = true
  gateway : old.gatewayReady = true → new.gatewayReady = true
  first : new.phase = some .initializing → old.phase = some .initializing
  last : old.phase = some .finalizing → new.phase = some .finalizing

/-- A root whose last phase is stored is being deleted. -/
def InferenceScheduler.Settled (r : InferenceScheduler) : Prop :=
  ∀ status, r.status = some status → status.phase = some .finalizing →
    r.metadata.deletionTimestamp.isSome

namespace SchedulerStatus
variable {s t u : SchedulerStatus}

theorem Follows.refl (s : SchedulerStatus) : s.Follows s := ⟨id, id, id, id⟩

theorem Follows.trans (one : s.Follows t) (other : t.Follows u) : s.Follows u where
  pool ready := other.pool (one.pool ready)
  gateway ready := other.gateway (one.gateway ready)
  first phase := one.first (other.first phase)
  last phase := other.last (one.last phase)

end SchedulerStatus

theorem Entered.latches {generation : Option Int64} {notes : List Note} {s t : SchedulerStatus}
    (entered : Entered generation notes s t) :
    (s.inferencePoolReady = true → t.inferencePoolReady = true) ∧
      (s.gatewayReady = true → t.gatewayReady = true) := by
  induction entered with
  | nil s => exact ⟨id, id⟩
  | @cons n now rest s t more ih =>
    refine ⟨fun ready => ih.1 ?_, fun ready => ih.2 ?_⟩
    · cases n <;> first | exact ready | rfl
    · cases n <;> first | exact ready | rfl

theorem Note.lastPhase_known (notes : List Note) (q : Phase) :
    Note.lastPhase notes (some q) = some q ∨
      ∃ p, .phase p ∈ notes ∧ Note.lastPhase notes (some q) = some p := by
  induction notes generalizing q with
  | nil => exact .inl rfl
  | cons n rest ih =>
    have later : ∀ {p}, .phase p ∈ rest → .phase p ∈ n :: rest := List.mem_cons_of_mem n
    cases n with
    | phase p =>
      refine .inr ?_
      rcases ih p with kept | ⟨p', noted, last⟩
      · exact ⟨p, List.mem_cons_self, kept⟩
      · exact ⟨p', later noted, last⟩
    | _ => exact (ih q).imp_right fun ⟨p, noted, last⟩ => ⟨p, later noted, last⟩

namespace Engine
variable {g : Engine} {plan : Plan} {r : InferenceScheduler} {before : List Turn}

theorem settled_unphased (k : ChildKind) (sample : Except StoreError Replicas) (p : Phase) :
    .phase p ∉ (settled k sample).2 := by
  cases k <;> cases sample <;> simp [settled, replicaNotes, failureNotes]

theorem Builds.phases {kinds : List ChildKind} {turns : List Turn}
    {out : Except ReconcileError Requeue} {notes : List Note} {p : Phase}
    (builds : g.Builds plan kinds turns out notes) (noted : .phase p ∈ notes) :
    p = .deploying ∨ p = .ready := by
  induction builds with
  | complete =>
    cases List.mem_singleton.mp noted
    exact .inr rfl
  | failed => simp [failureNotes] at noted
  | waits unready =>
    rcases List.mem_append.mp noted with settles | last
    · exact absurd settles (settled_unphased _ _ p)
    · cases List.mem_singleton.mp last
      exact .inl rfl
  | further written ready more ih =>
    rcases List.mem_append.mp noted with settles | later
    · exact absurd settles (settled_unphased _ _ p)
    · exact ih later

theorem Aligns.phases {turns : List Turn} {out : Except ReconcileError Requeue}
    {notes : List Note} {p : Phase} (aligns : g.Aligns r turns out notes)
    (noted : .phase p ∈ notes) : p = .prerequisitesMissing ∨ p = .deploying ∨ p = .ready := by
  cases aligns with
  | rejected => simp at noted
  | unchecked => simp [accepted] at noted
  | missing =>
    refine .inl ?_
    simpa [accepted, preflightNotes] using noted
  | children resolved quiet builds =>
    rcases List.mem_append.mp noted with early | late
    · exact .inr (.inl (by simpa [accepted, preflightNotes] using early))
    · exact .inr (builds.phases late)

theorem observed_unfinished (settled : r.Settled) (alive : r.metadata.deletionTimestamp = none) :
    ∃ q, r.observed.phase = some q ∧ q ≠ .finalizing := by
  refine ⟨_, rfl, fun last => ?_⟩
  cases phase : (r.status.getD {}).phase with
  | none => simp [phase] at last
  | some p =>
    obtain rfl : p = .finalizing := by simpa [phase] using last
    have deleted := settled _ (status_of_known phase) phase
    rw [alive] at deleted
    cases deleted

/-- What a pass stores follows from what is stored, if the root that it read was settled. -/
theorem Stores.follows {base status : SchedulerStatus} (stores : g.Stores r before status)
    (stored : statusAfter before r.status = some base) (settled : r.Settled)
    (phased : ∀ status, r.status = some status → status.phase.isSome) : base.Follows status := by
  cases stores with
  | observed alive unknown first =>
    have read : r.status = some base := first ▸ stored
    have known := phased base read
    rw [read] at unknown
    rw [Option.getD_some] at unknown
    rw [unknown] at known
    cases known
  | @aligned base' _ _ _ notes alive stored' same aligns entered =>
    obtain rfl : base' = base := Option.some.inj (stored'.symm.trans stored)
    obtain ⟨q, begun, unfinished⟩ := observed_unfinished settled alive
    have phase : base'.phase = some q := (congrArg SchedulerStatus.phase same).trans begun
    have last := Note.lastPhase_of_entered entered
    rw [begun] at last
    have pool := congrArg SchedulerStatus.inferencePoolReady same
    have gateway := congrArg SchedulerStatus.gatewayReady same
    refine ⟨fun ready => entered.latches.1 (pool ▸ ready), fun ready => entered.latches.2 (gateway ▸ ready),
      fun first => ?_, fun ended => ?_⟩
    · rcases Note.lastPhase_known notes q with kept | ⟨p, noted, moved⟩
      · rw [phase, ← kept, ← last, first]
      · rw [first, moved] at last
        cases last
        rcases aligns.phases noted with no | no | no <;> cases no
    · rw [phase] at ended
      exact absurd (Option.some.inj ended) unfinished
  | withdrawn deleted first =>
    rw [first] at stored
    rw [stored]
    exact ⟨id, id, nofun, fun _ => rfl⟩

theorem Stores.first {status : SchedulerStatus} (stores : g.Stores r before status)
    (blank : statusAfter before r.status = none) : status.phase =
      some (if r.metadata.deletionTimestamp.isSome then .finalizing else .initializing) := by
  cases stores with
  | observed alive unknown first =>
    rw [alive]
    change some ((r.status.getD {}).phase.getD .initializing) = _
    rw [unknown]
    rfl
  | aligned alive stored same aligns entered =>
    rw [blank] at stored
    cases stored
  | withdrawn deleted first => rw [if_pos deleted]

theorem Stores.last {status : SchedulerStatus} (stores : g.Stores r before status)
    (settled : r.Settled) (ended : status.phase = some .finalizing) :
    r.metadata.deletionTimestamp.isSome := by
  cases stores with
  | observed alive unknown first =>
    change some ((r.status.getD {}).phase.getD .initializing) = _ at ended
    rw [unknown] at ended
    cases ended
  | @aligned base _ _ _ notes alive stored same aligns entered =>
    obtain ⟨q, begun, unfinished⟩ := observed_unfinished settled alive
    have last := Note.lastPhase_of_entered entered
    rw [begun, ended] at last
    rcases Note.lastPhase_known notes q with kept | ⟨p, noted, moved⟩
    · exact absurd (Option.some.inj (last.trans kept)).symm unfinished
    · cases last.trans moved
      rcases aligns.phases noted with no | no | no <;> cases no
  | withdrawn deleted first => exact deleted

end Engine
namespace Cluster
variable {s : Cluster} {k : RootKey} {r old : InferenceScheduler}

theorem answer_status {c : StoreCall} (found : Assoc.get? k s.roots = some old)
    (after : Assoc.get? k (s.answer c).2.roots = some r)
    (own : ∀ ns name status, c = .writeStatus ns name status → k = ⟨ns, name⟩) :
    r.status = Turn.statusAfter ⟨c, (s.answer c).1⟩ old.status := by
  obtain ⟨old', before, descends⟩ := answer_descends c after
  obtain rfl : old' = old := Option.some.inj (before.symm.trans found)
  cases c with
  | writeStatus ns name status =>
    obtain rfl := own ns name status rfl
    rcases answer_cases (s := s) (.writeStatus ns name status) with ⟨e, failed⟩ | performed
    · rw [failed] at after ⊢
      rw [found] at after
      cases after
      rfl
    · obtain ⟨done, r', there, stored⟩ := writeStatus_leaves found status
      rw [performed] at after ⊢
      obtain rfl : r' = r := Option.some.inj (there.symm.trans after)
      have ok : (perform (.writeStatus ns name status) s).1 = .ok () := done
      rw [ok, stored]
      rfl
  | _ =>
    rcases descends.status with same | ⟨status, wrote, _⟩
    · exact same
    · cases wrote

end Cluster

namespace Crowd
variable {k : RootKey} {w w' : Crowd} {r : InferenceScheduler} {status : SchedulerStatus}

/-- Other clients leave the status of the root at `k` to passes, and insert a root there only
without a status, where there is none, and while no pass is underway that has read one. -/
def Yielding (k : RootKey) (w : Crowd) (o : Operation) : Prop :=
  o.KeepsStatusOf k ∧ ∀ r, o = .insertRoot r → k = ⟨r.namespaceOr "default", r.name⟩ →
    Assoc.get? k w.cluster.roots = none ∧
      ∀ n f snapshot, w.visit n = some ⟨k, f⟩ → ¬Snapshot k snapshot f.history

/-- What every pass conforms to from its start, a pass that is underway conforms to from where it
has come. -/
theorem Reachable.conforms {may : Operation → Prop}
    {calls : Engine → RootKey → List Turn → StoreCall → Prop}
    {ends : Engine → RootKey → List Turn → Except ReconcileError Requeue → Prop}
    (every : ∀ g l, Conforms (calls g l) (ends g l) [] (g.reconcile l.namespace_ l.name))
    (reached : Reachable may w) {n : Nat} {v : Visit} (underway : w.visit n = some v) :
    ∃ g, Conforms (calls g v.key) (ends g v.key) v.flight.history v.flight.rest := by
  induction reached generalizing n v with
  | empty => cases underway
  | @next w w' step _ ih =>
    -- Of the others nothing changes, so only the pass that moves is looked at.
    have moved : ∀ {m : Nat} {u : Option Visit} {s : Cluster},
        (put m u ⟨s, w.visit⟩).visit n = some v → (∀ u', u = some u' → ∃ g,
          Conforms (calls g u'.key) (ends g u'.key) u'.flight.history u'.flight.rest) →
        ∃ g, Conforms (calls g v.key) (ends g v.key) v.flight.history v.flight.rest := by
      intro m u s underway fine
      by_cases here : n = m
      · exact fine v (by simpa [put, here] using underway)
      · exact ih (by simpa [put, here] using underway)
    cases step with
    | start m g l idle =>
      refine moved underway ?_
      rintro _ ⟨⟩
      exact ⟨g, every g l⟩
    | call underway' =>
      refine moved underway ?_
      rintro _ ⟨⟩
      obtain ⟨g, conforms⟩ := ih underway'
      exact ⟨g, conforms.2 _⟩
    | clock time underway' =>
      refine moved underway ?_
      rintro _ ⟨⟩
      obtain ⟨g, conforms⟩ := ih underway'
      exact ⟨g, conforms time⟩
    | leave m =>
      refine moved underway fun u gone => ?_
      cases gone
    | client o allowed => exact ih underway

theorem Reachable.storing {may : Operation → Prop} {n : Nat} {l : RootKey} {history : List Turn}
    {ns name : String}
    {next : (StoreCall.writeStatus ns name status).Reply → Pass (Except ReconcileError Requeue)}
    (reached : Reachable may w)
    (underway : w.visit n = some ⟨l, ⟨history, .call (.writeStatus ns name status) next⟩⟩) :
    l = ⟨ns, name⟩ ∧ ∃ (g : Engine) (snapshot : InferenceScheduler),
      Snapshot l snapshot history ∧ g.Stores snapshot history status := by
  obtain ⟨g, ⟨snapshot, first, place, stores⟩, _⟩ := reached.conforms reconcile_stores underway
  obtain ⟨inNamespace, named⟩ := place ((reached.sound.visits n _ underway).snapshot first).located
  exact ⟨(congrArg₂ RootKey.mk inNamespace named).symm, g, snapshot, first, stores⟩

/-- Where the root at `k` comes from that is there after a step, and its status. -/
inductive Succession (k : RootKey) (w : Crowd) (r : InferenceScheduler) : Prop where
  | came (free : Assoc.get? k w.cluster.roots = none) (blank : r.status = none)
  | stayed {old : InferenceScheduler} (found : Assoc.get? k w.cluster.roots = some old)
      (deleted : old.metadata.deletionTimestamp.isSome → r.metadata.deletionTimestamp.isSome)
      (status : r.status = old.status)
  | stored {old snapshot : InferenceScheduler} {n : Nat} {g : Engine} {history : List Turn}
      {status : SchedulerStatus}
      {next : (StoreCall.writeStatus k.namespace_ k.name status).Reply →
        Pass (Except ReconcileError Requeue)}
      (found : Assoc.get? k w.cluster.roots = some old)
      (deleted : old.metadata.deletionTimestamp.isSome → r.metadata.deletionTimestamp.isSome)
      (underway : w.visit n =
        some ⟨k, ⟨history, .call (.writeStatus k.namespace_ k.name status) next⟩⟩)
      (read : Snapshot k snapshot history) (stores : g.Stores snapshot history status)
      (status : r.status = some status)

theorem Step.succession (step : Step (Yielding k w) w w') {may : Operation → Prop}
    (reached : Reachable may w) (found : Assoc.get? k w'.cluster.roots = some r) :
    Succession k w r := by
  cases step with
  | start | clock | leave => exact .stayed found id rfl
  | @call n l history c next underway =>
    obtain ⟨old, before, descends⟩ := answer_descends c found
    have deleted := descends.continues.deleted
    rcases descends.status with same | ⟨status, call, written⟩
    · exact .stayed before deleted same
    · cases call
      obtain ⟨rfl, g, snapshot, read, stores⟩ := reached.storing underway
      exact .stored before deleted underway read stores written
  | client o allowed =>
    obtain ⟨keeps, free⟩ := allowed
    cases apply_origin o found with
    | kept there descends =>
      rcases descends.status with same | ⟨status, rfl, _⟩
      · exact .stayed there descends.continues.deleted same
      · exact absurd rfl keeps
    | added inserted here _ stored =>
      subst inserted stored
      exact .came (free _ rfl here).1 (keeps here)

/-- A pass over `k` has read a settled root, and knows the status that is stored. -/
structure Followed (k : RootKey) (s : Cluster) (history : List Turn)
    (snapshot : InferenceScheduler) : Prop where
  settled : snapshot.Settled
  status : ∀ r, Assoc.get? k s.roots = some r → r.status = statusAfter history snapshot.status
  deleted : ∀ r, Assoc.get? k s.roots = some r → snapshot.metadata.deletionTimestamp.isSome →
    r.metadata.deletionTimestamp.isSome

structure Chronicled (k : RootKey) (w : Crowd) : Prop where
  stored : ∀ r, Assoc.get? k w.cluster.roots = some r → r.Settled
  read : ∀ n f snapshot, w.visit n = some ⟨k, f⟩ → Snapshot k snapshot f.history →
    Followed k w.cluster f.history snapshot

theorem Chronicled.settled (chronicled : Chronicled k w) (succession : Succession k w r) :
    r.Settled := by
  cases succession with
  | came free blank =>
    intro status stored
    rw [blank] at stored
    cases stored
  | stayed found deleted same =>
    intro status stored ended
    exact deleted (chronicled.stored _ found status (same ▸ stored) ended)
  | stored found deleted underway read stores written =>
    intro status stored ended
    obtain rfl := Option.some.inj (written.symm.trans stored)
    have followed := chronicled.read _ _ _ underway read
    exact deleted (followed.deleted _ found (stores.last followed.settled ended))

theorem Followed.apply {s : Cluster} {history : List Turn} {snapshot : InferenceScheduler}
    {o : Operation} (followed : Followed k s history snapshot)
    (silent : ∀ status, o ≠ .call (.writeStatus k.namespace_ k.name status))
    (stays : ∀ new, o = .insertRoot new → k ≠ ⟨new.namespaceOr "default", new.name⟩) :
    Followed k (o.apply s) history snapshot where
  settled := followed.settled
  status r found := by
    cases apply_origin o found with
    | kept there descends =>
      rcases descends.status with same | ⟨status, wrote, _⟩
      · exact same.trans (followed.status _ there)
      · exact absurd wrote (silent status)
    | added inserted here => exact absurd here (stays _ inserted)
  deleted r found asked := by
    cases apply_origin o found with
    | kept there descends =>
      exact descends.continues.deleted (followed.deleted _ there asked)
    | added inserted here => exact absurd here (stays _ inserted)

theorem Followed.call {s : Cluster} {history : List Turn} {snapshot : InferenceScheduler}
    {c : StoreCall} (followed : Followed k s history snapshot)
    (own : ∀ ns name status, c = .writeStatus ns name status → k = ⟨ns, name⟩) :
    Followed k (s.answer c).2 (history ++ [⟨c, (s.answer c).1⟩]) snapshot where
  settled := followed.settled
  status r found := by
    obtain ⟨old, before, _⟩ := answer_descends c found
    rw [statusAfter_append, ← followed.status old before]
    exact answer_status before found own
  deleted r found asked := by
    obtain ⟨old, before, descends⟩ := answer_descends c found
    exact descends.continues.deleted (followed.deleted old before asked)

theorem Chronicled.opened {c : StoreCall} {snapshot : InferenceScheduler}
    (chronicled : Chronicled k w)
    (read : Snapshot k snapshot [⟨c, (w.cluster.answer c).1⟩]) :
    Followed k (w.cluster.answer c).2 [⟨c, (w.cluster.answer c).1⟩] snapshot := by
  obtain ⟨rest, opened⟩ := read
  obtain ⟨rfl, _, done⟩ := performed_now (List.mem_singleton.mpr (List.cons.inj opened).1.symm)
  have found : Assoc.get? k w.cluster.roots = some snapshot := Except.ok.inj done
  have same : ∀ r, Assoc.get? k
      (w.cluster.answer (.getRoot k.namespace_ k.name)).2.roots = some r → r = snapshot := by
    intro r there
    rw [answer_spares (c := .getRoot k.namespace_ k.name) ⟨nofun, nofun⟩, found] at there
    exact (Option.some.inj there).symm
  exact ⟨chronicled.stored _ found, fun r there => same r there ▸ rfl, fun r there asked =>
    same r there ▸ asked⟩

theorem Chronicled.put {n : Nat} {v : Option Visit} (chronicled : Chronicled k w)
    (fine : ∀ f snapshot, v = some ⟨k, f⟩ → Snapshot k snapshot f.history →
      Followed k w.cluster f.history snapshot) : Chronicled k (w.put n v) where
  stored := chronicled.stored
  read m f snapshot underway read := by
    by_cases here : m = n
    · exact fine f snapshot (by simpa [Crowd.put, here] using underway) read
    · exact chronicled.read m f snapshot (by simpa [Crowd.put, here] using underway) read

theorem Chronicled.step {may : Operation → Prop} (chronicled : Chronicled k w) (alone : Alone k w)
    (reached : Reachable may w) (step : Step (Yielding k w) w w') : Chronicled k w' := by
  have settled : ∀ r, Assoc.get? k w'.cluster.roots = some r → r.Settled := fun r found =>
    chronicled.settled (step.succession reached found)
  cases step with
  | start n g l idle =>
    refine chronicled.put ?_
    rintro _ snapshot ⟨⟩ ⟨rest, opened⟩
    cases opened
  | @call n l history c next underway =>
    refine ⟨settled, fun m f snapshot underway' read => ?_⟩
    by_cases here : m = n
    · subst here
      rw [put_self] at underway'
      cases underway'
      rcases read.earlier with rfl | earlier
      · exact chronicled.opened read
      · refine (chronicled.read _ _ snapshot underway earlier).call ?_
        rintro ns name status rfl
        exact (reached.storing underway).1
    · rw [put_other here] at underway'
      have silent : ∀ status, Operation.call c ≠ .call (.writeStatus k.namespace_ k.name status) := by
        rintro status ⟨⟩
        obtain ⟨rfl, _⟩ := reached.storing underway
        exact here (alone m n f _ underway' underway)
      exact (chronicled.read m f snapshot underway' read).apply silent fun _ same => by cases same
  | @clock n l history next time underway =>
    refine chronicled.put ?_
    rintro _ snapshot ⟨⟩ read
    exact chronicled.read n ⟨history, .clock next⟩ snapshot underway read
  | leave n => exact chronicled.put fun _ _ same => by cases same
  | client o allowed =>
    refine ⟨settled, fun n f snapshot underway read => ?_⟩
    obtain ⟨keeps, free⟩ := allowed
    refine (chronicled.read n f snapshot underway read).apply ?_ ?_
    · rintro status rfl
      exact keeps rfl
    · rintro new rfl here
      exact (free new rfl here).2 n f snapshot underway read

theorem Succession.follows (succession : Succession k w r) (chronicled : Chronicled k w)
    (reached : Reachable (Operation.KeepsStatusOf k) w) {old : InferenceScheduler}
    {before : SchedulerStatus} (found : Assoc.get? k w.cluster.roots = some old)
    (known : old.status = some before) : ∃ status, r.status = some status ∧ before.Follows status := by
  cases succession with
  | came free => cases found.symm.trans free
  | stayed found' deleted same =>
    obtain rfl := Option.some.inj (found.symm.trans found')
    exact ⟨before, same.trans known, .refl before⟩
  | @stored _ snapshot n _ _ status _ found' deleted underway read stores written =>
    obtain rfl := Option.some.inj (found.symm.trans found')
    have followed := chronicled.read _ _ _ underway read
    have phased : ∀ status, snapshot.status = some status → status.phase.isSome := by
      obtain ⟨rest, opened⟩ := read
      have upright := reached.upright.read n _ underway snapshot (opened ▸ List.mem_cons_self)
      exact fun status stored => (upright status stored).phase
    exact ⟨status, written, stores.follows ((followed.status _ found).symm.trans known)
      followed.settled phased⟩

theorem Course.chronicled {past : List Crowd} (course : Course (Yielding k) (w :: past))
    (alone : ∀ u ∈ w :: past, Alone k u) : Chronicled k w := by
  refine course.along (P := fun w past => (∀ u ∈ w :: past, Alone k u) → Chronicled k w) ?_ ?_ alone
  · exact fun _ => ⟨fun _ found => (by cases found), fun _ _ _ underway => (by cases underway)⟩
  · intro u u' earlier course step ih alone
    have reached : Reachable (Operation.KeepsStatusOf k) u :=
      course.reachable fun _ _ allowed => allowed.1
    exact (ih fun v mem => alone v (List.mem_cons_of_mem _ mem)).step
      (alone u (List.mem_cons_of_mem _ List.mem_cons_self)) reached step

theorem Course.last {may : Crowd → Operation → Prop} {u : Crowd} {past : List Crowd}
    (course : Course may (w :: u :: past)) : Step (may u) u w ∧ Course may (u :: past) := by
  cases course with
  | next step course => exact ⟨step, course⟩

/-- As long as the root is there, each status follows from all earlier ones. -/
theorem Course.follows {past : List Crowd} (course : Course (Yielding k) (w :: past))
    (alone : ∀ u ∈ w :: past, Alone k u) (found : Assoc.get? k w.cluster.roots = some r)
    {between earlier : List Crowd} {u : Crowd} {old : InferenceScheduler} {before : SchedulerStatus}
    (split : past = between ++ u :: earlier)
    (there : ∀ m ∈ between, (Assoc.get? k m.cluster.roots).isSome)
    (found' : Assoc.get? k u.cluster.roots = some old) (known : old.status = some before) :
    ∃ status, r.status = some status ∧ before.Follows status := by
  -- On the moments in between, each of which has the root.
  induction between generalizing w past r with
  | nil =>
    subst split
    obtain ⟨step, course⟩ := course.last
    have reached : Reachable (Operation.KeepsStatusOf k) u :=
      course.reachable fun _ _ allowed => allowed.1
    exact (step.succession reached found).follows
      (course.chronicled fun v mem => alone v (List.mem_cons_of_mem _ mem)) reached found' known
  | cons m between ih =>
    subst split
    obtain ⟨step, course⟩ := course.last
    have alone' : ∀ v ∈ m :: (between ++ u :: earlier), Alone k v :=
      fun v mem => alone v (List.mem_cons_of_mem _ mem)
    have reached : Reachable (Operation.KeepsStatusOf k) m :=
      course.reachable fun _ _ allowed => allowed.1
    obtain ⟨middle, present⟩ := Option.isSome_iff_exists.mp (there m List.mem_cons_self)
    obtain ⟨status, stored, follows⟩ := ih course alone' present rfl fun v mem =>
      there v (List.mem_cons_of_mem _ mem)
    obtain ⟨later, stored', follows'⟩ := (step.succession reached found).follows
      (course.chronicled alone') reached present stored
    exact ⟨later, stored', follows.trans follows'⟩

theorem Succession.first {old : InferenceScheduler} (succession : Succession k w r)
    (chronicled : Chronicled k w) (found : Assoc.get? k w.cluster.roots = some old)
    (blank : old.status = none) (stored : r.status = some status) :
    ∃ n history next snapshot,
      w.visit n =
        some ⟨k, ⟨history, .call (.writeStatus k.namespace_ k.name status) next⟩⟩ ∧
      Snapshot k snapshot history ∧ status.phase =
        some (if snapshot.metadata.deletionTimestamp.isSome then .finalizing else .initializing) := by
  cases succession with
  | came free => cases found.symm.trans free
  | stayed found' deleted same =>
    obtain rfl := Option.some.inj (found.symm.trans found')
    cases (stored.symm.trans same).trans blank
  | @stored _ snapshot n _ history status' next found' deleted underway read stores written =>
    obtain rfl := Option.some.inj (written.symm.trans stored)
    have unwritten := ((chronicled.read _ _ _ underway read).status _ found).symm.trans blank
    exact ⟨n, history, next, snapshot, underway, read, stores.first unwritten⟩

/-- Passes over a root take turns, other clients act as they like in between but for its status,
and passes may fail or be cut off anywhere. Then a root comes without a status; the first one
that it gets is in the first phase, unless the pass that stores it read the root as being
deleted; and each status follows from all that the root had before. -/
theorem phases_follow {past : List Crowd} (course : Course (Yielding k) (w :: past))
    (alone : ∀ u ∈ w :: past, Alone k u) (found : Assoc.get? k w.cluster.roots = some r) :
    (∀ u earlier, past = u :: earlier → Assoc.get? k u.cluster.roots = none → r.status = none) ∧
    (∀ u earlier old status, past = u :: earlier → Assoc.get? k u.cluster.roots = some old →
      old.status = none → r.status = some status →
      ∃ n history next snapshot,
        u.visit n =
          some ⟨k, ⟨history, .call (.writeStatus k.namespace_ k.name status) next⟩⟩ ∧
        Snapshot k snapshot history ∧ status.phase =
          some (if snapshot.metadata.deletionTimestamp.isSome then .finalizing else .initializing)) ∧
    ∀ between u earlier old before, past = between ++ u :: earlier →
      (∀ m ∈ between, (Assoc.get? k m.cluster.roots).isSome) →
      Assoc.get? k u.cluster.roots = some old → old.status = some before →
      ∃ status, r.status = some status ∧ before.Follows status := by
  refine ⟨?_, ?_, fun between u earlier old before split there found' known =>
    course.follows alone found split there found' known⟩
  · rintro u earlier rfl none
    obtain ⟨step, course⟩ := course.last
    cases step.succession (course.reachable fun _ _ allowed => allowed.1) found with
    | came free blank => exact blank
    | stayed found' => cases none.symm.trans found'
    | stored found' => cases none.symm.trans found'
  · rintro u earlier old status rfl found' blank stored
    obtain ⟨step, course⟩ := course.last
    exact (step.succession (course.reachable fun _ _ allowed => allowed.1) found).first
      (course.chronicled fun v mem => alone v (List.mem_cons_of_mem _ mem)) found' blank stored

section
variable {read : InferenceScheduler → Prop} {s : Cluster}

theorem yielding_idle {o : Operation} (keeps : o.KeepsStatusOf k)
    (free : ∀ r, o = .insertRoot r → Assoc.get? k s.roots = none) :
    Yielding k ⟨s, fun _ => none⟩ o :=
  ⟨keeps, fun r inserted _ => ⟨free r inserted, fun _ _ _ underway => by cases underway⟩⟩

theorem arrives_inserted (read : InferenceScheduler → Prop) :
    Arrives (Yielding ⟨"default", "demo"⟩) ⟨"default", "demo"⟩ read Cluster.fresh := by
  refine arrives_with_root read (fun o mem other s => ?_) fun r mem s none => ?_
  · exact yielding_idle (fresh_keepsStatus o mem) fun r same => absurd same (other r)
  · exact yielding_idle (fresh_keepsStatus _ mem) fun _ _ => by rw [none]; rfl

theorem Arrives.asked (arrives : Arrives (Yielding k) k read s) (now : String) : ∃ past,
    Course (Yielding k) (⟨(s.requestDeletion now k.namespace_ k.name).2, fun _ => none⟩ ::
      ⟨s, fun _ => none⟩ :: past) ∧
    ∀ v ∈ ⟨(s.requestDeletion now k.namespace_ k.name).2, fun _ => none⟩ ::
      ⟨s, fun _ => none⟩ :: past, Alone k v := by
  obtain ⟨past, course, serial⟩ := arrives
  refine ⟨past, .next (.client (.requestDeletion now k.namespace_ k.name)
    (yielding_idle trivial fun _ same => by cases same)) course, ?_⟩
  have alone : ∀ v ∈ past, Alone k v := fun v mem => (serial v mem).alone k
  have idle : ∀ t, Serial k read ⟨t, fun _ => none⟩ := serial_idle
  exact List.forall_mem_cons.mpr ⟨(idle _).alone k,
    List.forall_mem_cons.mpr ⟨(idle s).alone k, alone⟩⟩

end

theorem ready_root_asked_to_go : ∃ w u past r old before,
    Course (Yielding ⟨"default", "demo"⟩) (w :: u :: past) ∧
    (∀ v ∈ w :: u :: past, Alone ⟨"default", "demo"⟩ v) ∧
    Assoc.get? ⟨"default", "demo"⟩ w.cluster.roots = some r ∧
    r.metadata.deletionTimestamp.isSome ∧
    Assoc.get? ⟨"default", "demo"⟩ u.cluster.roots = some old ∧ old.status = some before ∧
    before.phase = some .ready ∧ ∃ status, r.status = some status ∧ before.Follows status := by
  have ready := (arrives_inserted fun _ => True).afterPass fun _ _ => trivial
  obtain ⟨old, before, found, known, phase⟩ := fresh_root_made_ready
  obtain ⟨r, there, deleted⟩ : ∃ r, Assoc.get? ⟨"default", "demo"⟩
      ((Crowd.afterPass Cluster.fresh).requestDeletion "2030-01-01T00:00:00Z" "default" "demo").2.roots =
        some r ∧ r.metadata.deletionTimestamp.isSome := by
    have checked : ((Assoc.get? ⟨"default", "demo"⟩ ((Crowd.afterPass Cluster.fresh).requestDeletion
        "2030-01-01T00:00:00Z" "default" "demo").2.roots).any fun r =>
          r.metadata.deletionTimestamp.isSome) = true := by decide +kernel
    simpa only [Option.any_eq_true] using checked
  generalize Crowd.afterPass Cluster.fresh = s at ready found there
  obtain ⟨past, course, alone⟩ := ready.asked "2030-01-01T00:00:00Z"
  obtain ⟨_, _, follows⟩ := phases_follow course alone there
  exact ⟨_, _, past, r, old, before, course, alone, there, deleted, found, known, phase,
    follows [] _ past old before rfl (fun _ none => absurd none List.not_mem_nil) found known⟩

end Crowd
end SchedulerOperator
