import SchedulerOperator.Proofs.RootCalls

namespace SchedulerOperator

def ChildKind.isWorkload : ChildKind → Bool
  | .workload | .routingWorkload => true
  | _ => false

def StoreCall.seen? : StoreCall → Option Address
  | .get api ns name => some ⟨api, ns, name⟩
  | _ => none

namespace Engine
open Cluster Pass

/-- The next status that is stored is the first one that the root gets. -/
def FirstStatusNext (k : RootKey) (before : List Turn) : Prop :=
  ∃ r rest, before = opening k r ++ rest ∧ r.metadata.deletionTimestamp = none ∧
    (r.status.getD {}).phase = none ∧ ∀ t ∈ rest, t.call.op ≠ .writeStatus

/-- The errors that a pass takes as an answer: a type that is probed for is missing, an object
that is swept is gone, or the root is gone when its finalizers are set or a status other than
the first one is stored. -/
def Benign (g : Engine) (k : RootKey) (before : List Turn) : StoreCall → StoreError → Prop
  | .listNames api _ limit, e =>
    (∃ c ∈ Capability.all, api = g.registry.api c.resource) ∧ limit = some 1 ∧
      e.isNoMatchingType = true
  | .setFinalizers .., e => e.isNotFound = true
  | .writeStatus .., e => e.isNotFound = true ∧ ¬ FirstStatusNext k before
  | .delete .., e => (e.isNotFound || e.isNoMatchingType) = true
  | _, _ => False

/-- A look at a workload that the pass has written counts its replicas. -/
def Counts (k : RootKey) (before : List Turn) (a : Address) : Prop :=
  ∃ (r : InferenceScheduler) (kind : ChildKind), Snapshot k r before ∧ kind.isWorkload = true ∧ a.name = kind.childName r.name ∧
    ∃ t ∈ before, t.call.address? = some a

def examined (k : RootKey) (r : InferenceScheduler) : List Turn :=
  opening k r ++
    ((if r.hasMarker then []
      else [⟨.setFinalizers r (r.finalizers ++ [finalizerMarker]), .ok ()⟩]) ++
    if (r.status.getD {}).phase.isNone
      then [⟨.writeStatus (r.namespaceOr "default") r.name r.observed, .ok ()⟩] else [])

/-- With these turns the pass over `k` has come to fail with `e`. -/
inductive Fails (g : Engine) (k : RootKey) (turns : List Turn) : ReconcileError → Prop where
  | refused {before : List Turn} {c : StoreCall} {e : StoreError}
      (last : turns = before ++ [⟨c, .error e⟩]) (grave : ¬ g.Benign k before c e) :
      Fails g k turns (.store e)
  | unreadable {before : List Turn} {api : ApiResource} {ns : Option String} {name : String}
      {v : Json} {e : DecodeError} (last : turns = before ++ [⟨.get api ns name, .ok (some v)⟩])
      (counts : Counts k before ⟨api, ns, name⟩) (illegible : Replicas.ofJson v = .error e) :
      Fails g k turns (.store (.undecodable e.message))
  | rejected {r : InferenceScheduler} {e : SpecError} (here : turns = examined k r)
      (alive : r.metadata.deletionTimestamp = none) (refused : Plan.resolve r = .error e) :
      Fails g k turns (.invalidSpec e)

structure FirstFailure (g : Engine) (k : RootKey) (turns : List Turn) (e : ReconcileError) :
    Prop where
  fails : g.Fails k turns e
  first : ∀ front, front <+: turns → front ≠ turns → ∀ e', ¬ g.Fails k front e'

def Unfailed (g : Engine) (k : RootKey) (turns : List Turn) : Prop :=
  ∀ front, front <+: turns → ∀ e, ¬ g.Fails k front e

/-- There was no failure, but for a rejection of the spec at this very moment. -/
def Unharmed (g : Engine) (k : RootKey) (turns : List Turn) : Prop :=
  ∀ front e, front <+: turns → g.Fails k front e → front = turns ∧ ∀ e', e ≠ .store e'

def Unrejected (k : RootKey) (r : InferenceScheduler) (turns : List Turn) : Prop :=
  turns = examined k r → r.metadata.deletionTimestamp = none → ∀ e, Plan.resolve r ≠ .error e

variable {g : Engine} {k : RootKey} {r : InferenceScheduler} {before : List Turn}

theorem snapshot_examined : Snapshot k r (examined k r) := snapshot_opening _

theorem examined_turns : ∀ t ∈ examined k r,
    t.succeeded ∧ t.call.address? = none ∧ t.call.seen? = none := by
  intro t mem
  unfold examined opening at mem
  rcases List.mem_append.mp mem with first | later
  · rw [List.mem_singleton.mp first]
    exact ⟨⟨_, rfl⟩, rfl, rfl⟩
  · rcases List.mem_append.mp later with marks | reports
    · split at marks
      · cases marks
      · rw [List.mem_singleton.mp marks]
        exact ⟨⟨_, rfl⟩, rfl, rfl⟩
    · split at reports
      · rw [List.mem_singleton.mp reports]
        exact ⟨⟨_, rfl⟩, rfl, rfl⟩
      · cases reports

theorem examined_last {t : Turn} (here : before ++ [t] = examined k r) :
    t.succeeded ∧ t.call.address? = none ∧ t.call.seen? = none :=
  examined_turns t (here ▸ List.mem_append_right before (List.mem_singleton.mpr rfl))

theorem Fails.unique {e e' : ReconcileError} (one : g.Fails k before e)
    (other : g.Fails k before e') : e = e' := by
  cases one with
  | refused last grave =>
    cases other with
    | refused last' grave' =>
      obtain ⟨_, same⟩ := List.append_inj' (last.symm.trans last') rfl
      cases same
      rfl
    | unreadable last' counts illegible =>
      obtain ⟨_, same⟩ := List.append_inj' (last.symm.trans last') rfl
      cases same
    | rejected here alive refused =>
      obtain ⟨⟨a, done⟩, _⟩ := examined_last (last.symm.trans here)
      cases done
  | unreadable last counts illegible =>
    cases other with
    | refused last' grave' =>
      obtain ⟨_, same⟩ := List.append_inj' (last.symm.trans last') rfl
      cases same
    | unreadable last' counts' illegible' =>
      obtain ⟨_, same⟩ := List.append_inj' (last.symm.trans last') rfl
      cases same
      rw [illegible] at illegible'
      cases illegible'
      rfl
    | rejected here alive refused => cases (examined_last (last.symm.trans here)).2.2
  | rejected here alive refused =>
    cases other with
    | refused last' grave' =>
      obtain ⟨⟨a, done⟩, _⟩ := examined_last (last'.symm.trans here)
      cases done
    | unreadable last' counts illegible =>
      cases (examined_last (last'.symm.trans here)).2.2
    | rejected here' alive' refused' =>
      have snapshot := here ▸ snapshot_examined
      have snapshot' := here' ▸ snapshot_examined
      rw [Snapshot.unique snapshot snapshot', refused'] at refused
      cases refused
      rfl

/-- There is one first failure along a run. -/
theorem FirstFailure.unique {front front' whole : List Turn} {e e' : ReconcileError}
    (one : g.FirstFailure k front e) (other : g.FirstFailure k front' e')
    (here : front <+: whole) (there : front' <+: whole) : front = front' ∧ e = e' := by
  have same : front = front' := by
    by_contra differ
    cases List.prefix_or_prefix_of_prefix here there with
    | inl shorter => exact other.first front shorter differ e one.fails
    | inr shorter => exact one.first front' shorter (Ne.symm differ) e' other.fails
  subst same
  exact ⟨rfl, one.fails.unique other.fails⟩

theorem unfailed_nil : g.Unfailed k [] := by
  intro front shorter e fails
  rw [List.prefix_nil.mp shorter] at fails
  cases fails with
  | refused last grave => simp at last
  | unreadable last counts illegible => simp at last
  | rejected here alive refused => simp [examined, opening] at here

theorem Unfailed.fails (unfailed : g.Unfailed k before) {t : Turn} {e : ReconcileError}
    (fails : g.Fails k (before ++ [t]) e) : g.FirstFailure k (before ++ [t]) e where
  fails := fails
  first := by
    intro front shorter differ
    exact unfailed front ((List.prefix_concat_iff.mp shorter).resolve_left differ)

theorem Unfailed.refused (unfailed : g.Unfailed k before) {c : StoreCall} {e : StoreError}
    (grave : ¬ g.Benign k before c e) :
    g.FirstFailure k (before ++ [⟨c, .error e⟩]) (.store e) :=
  unfailed.fails (.refused rfl grave)

theorem Unfailed.unharmed (unfailed : g.Unfailed k before) : g.Unharmed k before := by
  intro front e shorter fails
  exact absurd fails (unfailed front shorter e)

theorem Unfailed.excused (unfailed : g.Unfailed k before) {c : StoreCall} {e : StoreError}
    (benign : g.Benign k before c e) : g.Unfailed k (before ++ [⟨c, .error e⟩]) := by
  intro front shorter e' fails
  cases List.prefix_concat_iff.mp shorter with
  | inr earlier => exact unfailed front earlier e' fails
  | inl same =>
    subst same
    cases fails with
    | refused last grave =>
      obtain ⟨rfl, same⟩ := List.append_inj' last rfl
      cases same
      exact grave benign
    | unreadable last counts illegible =>
      obtain ⟨_, same⟩ := List.append_inj' last rfl
      cases same
    | rejected here alive refused =>
      obtain ⟨⟨a, done⟩, _⟩ := examined_last here
      cases done

theorem Unfailed.succeeded (unfailed : g.Unfailed k before) {c : StoreCall} {a : c.Answer}
    (legible : ∀ api ns name v, (⟨c, .ok a⟩ : Turn) = ⟨.get api ns name, .ok (some v)⟩ →
      Counts k before ⟨api, ns, name⟩ → ∃ replicas, Replicas.ofJson v = .ok replicas) :
    g.Unharmed k (before ++ [⟨c, .ok a⟩]) := by
  intro front e shorter fails
  cases List.prefix_concat_iff.mp shorter with
  | inr earlier => exact absurd fails (unfailed front earlier e)
  | inl same =>
    subst same
    refine ⟨rfl, ?_⟩
    cases fails with
    | refused last grave =>
      obtain ⟨_, same⟩ := List.append_inj' last rfl
      cases same
    | unreadable last counts illegible =>
      obtain ⟨rfl, same⟩ := List.append_inj' last rfl
      obtain ⟨replicas, read⟩ := legible _ _ _ _ (List.cons.inj same).1 counts
      rw [illegible] at read
      cases read
    | rejected here alive refused => exact nofun

theorem Unfailed.unread (unfailed : g.Unfailed k before) {c : StoreCall} {a : c.Answer}
    (noLook : c.seen? = none) : g.Unharmed k (before ++ [⟨c, .ok a⟩]) := by
  refine unfailed.succeeded ?_
  intro api ns name v same
  rw [(Turn.mk.inj same).1] at noLook
  cases noLook

theorem Unharmed.unfailed_of_accepted (unharmed : g.Unharmed k before)
    (accepted : ∀ r, Unrejected k r before) : g.Unfailed k before := by
  intro front shorter e fails
  obtain ⟨rfl, unstored⟩ := unharmed front e shorter fails
  cases fails with
  | refused last grave => exact unstored _ rfl
  | unreadable last counts illegible => exact unstored _ rfl
  | rejected here alive refused => exact accepted _ here alive _ refused

theorem Unharmed.unfailed (unharmed : g.Unharmed k before) (snapshot : Snapshot k r before)
    (unrejected : Unrejected k r before) : g.Unfailed k before := by
  refine unharmed.unfailed_of_accepted fun r' here => ?_
  cases snapshot.unique (here ▸ snapshot_examined)
  exact unrejected here

theorem Unharmed.rejected (unharmed : g.Unharmed k (examined k r))
    (alive : r.metadata.deletionTimestamp = none) {e : SpecError}
    (refused : Plan.resolve r = .error e) :
    g.FirstFailure k (examined k r) (.invalidSpec e) where
  fails := .rejected rfl alive refused
  first := by
    intro front shorter differ e' fails
    exact differ (unharmed front e' shorter fails).1

end Engine
end SchedulerOperator
