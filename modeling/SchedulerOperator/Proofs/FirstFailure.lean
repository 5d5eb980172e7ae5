import Mathlib.Data.Finset.Insert
import SchedulerOperator.Proofs.Convergence
import SchedulerOperator.Proofs.Failures

/-!
As long as nothing has failed the pass knows which groups it has written to, and so tells a look at
an object that it is about to write from one that counts the replicas of a workload.
-/
namespace SchedulerOperator.Engine
open Pass
variable {g : Engine} {k : RootKey} {r : InferenceScheduler} {before : List Turn}
  {seen : Finset ChildKind} {kind : ChildKind} {plan : Plan} {α : Type}

def workloadAddress (g : Engine) (r : InferenceScheduler) (kind : ChildKind) : Address :=
  ⟨g.registry.api .deployment, some (r.namespaceOr "default"), kind.childName r.name⟩

structure Intact (g : Engine) (k : RootKey) (r : InferenceScheduler) (seen : Finset ChildKind)
    (before : List Turn) : Prop where
  examined : examined k r <+: before
  accepted : ∀ e, Plan.resolve r ≠ .error e
  unfailed : g.Unfailed k before
  within : ∀ t ∈ before, ∀ a, t.call.address? = some a → ∃ kind ∈ seen, a.name = kind.childName r.name
  there : ∀ kind ∈ seen, kind.isWorkload = true →
    ∃ t ∈ before, t.call.address? = some (g.workloadAddress r kind)

/-- Either all is `good` or the error is that of the first failure. -/
def Heeds (g : Engine) (k : RootKey) (good : List Turn → Prop) (later : List Turn) :
    Except ReconcileError α → Prop
  | .ok _ => good later
  | .error e => g.FirstFailure k later e

theorem Intact.snapshot (intact : Intact g k r seen before) : Snapshot k r before := by
  obtain ⟨more, rfl⟩ := intact.examined
  exact snapshot_examined.append more

theorem Intact.after (intact : Intact g k r seen before) {t : Turn} {more : Finset ChildKind}
    (fine : g.Unharmed k (before ++ [t])) (wider : seen ⊆ more)
    (within : ∀ a, t.call.address? = some a → ∃ kind ∈ more, a.name = kind.childName r.name)
    (there : ∀ kind ∈ more, kind ∉ seen → kind.isWorkload = true →
      t.call.address? = some (g.workloadAddress r kind)) : Intact g k r more (before ++ [t]) where
  examined := intact.examined.trans (List.prefix_append _ _)
  accepted := intact.accepted
  unfailed := fine.unfailed (intact.snapshot.append _) fun _ _ => intact.accepted
  within := by
    intro u mem a address
    cases List.mem_append.mp mem with
    | inl earlier =>
      obtain ⟨kind, known, name⟩ := intact.within u earlier a address
      exact ⟨kind, wider known, name⟩
    | inr last =>
      rw [List.mem_singleton.mp last] at address
      exact within a address
  there := by
    intro kind mem workload
    by_cases known : kind ∈ seen
    · obtain ⟨u, earlier, address⟩ := intact.there kind known workload
      exact ⟨u, List.mem_append_left _ earlier, address⟩
    · exact ⟨t, List.mem_append_right _ (List.mem_singleton.mpr rfl), there kind mem known workload⟩

theorem Intact.read (intact : Intact g k r seen before) {t : Turn}
    (fine : g.Unharmed k (before ++ [t])) (unaddressed : t.call.address? = none) :
    Intact g k r seen (before ++ [t]) := by
  refine intact.after fine (Finset.Subset.refl _) ?_ ?_
  · intro a address
    rw [unaddressed] at address
    cases address
  · intro kind mem unknown
    exact absurd mem unknown

theorem Intact.wrote (intact : Intact g k r seen before) {t : Turn} {a : Address}
    (fine : g.Unharmed k (before ++ [t])) (address : t.call.address? = some a)
    (named : a.name = kind.childName r.name)
    (workload : kind.isWorkload = true → a = g.workloadAddress r kind) :
    Intact g k r (insert kind seen) (before ++ [t]) := by
  refine intact.after fine (Finset.subset_insert _ _) ?_ ?_
  · intro a' address'
    rw [address] at address'
    cases address'
    exact ⟨kind, Finset.mem_insert_self _ _, named⟩
  · intro kind' mem unknown isWorkload
    cases (Finset.mem_insert.mp mem).resolve_right unknown
    rw [address, workload isWorkload]

theorem Intact.uncounted (intact : Intact g k r seen before) {a : Address}
    (named : a.name = kind.childName r.name) (fresh : kind.isWorkload = true → kind ∉ seen) :
    ¬ Counts k before a := by
  intro ⟨r', kind', snapshot, workload, name, t, mem, address⟩
  cases intact.snapshot.unique snapshot
  cases ChildKind.childName_inj (named.symm.trans name)
  obtain ⟨kind'', known, name''⟩ := intact.within t mem a address
  cases ChildKind.childName_inj (named.symm.trans name'')
  exact fresh workload known

theorem Intact.counts (intact : Intact g k r seen before) (known : kind ∈ seen)
    (workload : kind.isWorkload = true) : Counts k before (g.workloadAddress r kind) :=
  ⟨r, kind, intact.snapshot, workload, rfl, intact.there kind known workload⟩

/-! Writing the children. -/

structure Placed (g : Engine) (r : InferenceScheduler) (kind : ChildKind) (d : ChildObject) :
    Prop where
  named : d.name = kind.childName r.name
  payload : (d.payload.get "metadata").get "name" = .str d.name
  workload : kind.isWorkload = true → g.addressOf d = g.workloadAddress r kind

theorem build_all_placed (named : plan.name = r.name)
    (placed : plan.namespace_ = r.namespaceOr "default") (kind : ChildKind) :
    ∀ d ∈ kind.build plan, g.Placed r kind d := by
  intro d mem
  have key : (d.resource, d.name) ∈ kind.resources.map fun t => (t, kind.childName plan.name) := by
    rw [← kind.build_keys plan]
    exact List.mem_map_of_mem mem
  obtain ⟨t, among, same⟩ := List.mem_map.mp key
  obtain ⟨rfl, name⟩ := Prod.mk.inj same
  have here : d.name = kind.childName r.name := by
    rw [← name, named]
  refine ⟨here, (kind.build_tidy plan d mem).named, ?_⟩
  intro workload
  have deployment : d.resource = .deployment := by
    cases kind with
    | workload => exact List.mem_singleton.mp among
    | routingWorkload => exact List.mem_singleton.mp among
    | _ => cases workload
  rw [addressOf, deployment, here, (kind.build_placed plan d mem).1, placed]
  rfl

theorem heeds_write {d : ChildObject} (placed : g.Placed r kind d)
    (intact : Intact g k r seen before) (fresh : kind.isWorkload = true → kind ∉ seen) :
    Conforms (fun _ _ => True) (fun later out =>
        g.Heeds k (Intact g k r (insert kind seen)) later (out.mapError .store))
      before (ExceptT.run (d.write g.registry)) := by
  -- Both branches end in one write, which is no look at anything.
  have wrote : ∀ {earlier : List Turn} {c : StoreCall} (reply : c.Reply), Intact g k r seen earlier →
      c.address? = some (g.addressOf d) → c.seen? = none →
      (∀ e, ¬ g.Benign k earlier c e) →
      (∀ e, reply = .error e → g.FirstFailure k (earlier ++ [⟨c, reply⟩]) (.store e)) ∧
      (∀ a, reply = .ok a → Intact g k r (insert kind seen) (earlier ++ [⟨c, reply⟩])) := by
    intro earlier c reply intact address noLook grave
    constructor
    · intro e failed
      rw [failed]
      exact intact.unfailed.refused (grave e)
    · intro a done
      rw [done]
      exact intact.wrote (intact.unfailed.unread noLook) address placed.named placed.workload
  refine conforms_attempt.mpr ⟨trivial, ?_⟩
  intro reply
  cases reply with
  | error e => exact intact.unfailed.refused id
  | ok found =>
    have read : Intact g k r seen (before ++ [⟨.get (g.registry.api d.resource)
        (d.resource.within d.namespace_) d.name, .ok found⟩]) := by
      refine intact.read (intact.unfailed.succeeded ?_) rfl
      intro api ns name v same counts
      cases same
      exact absurd counts (intact.uncounted placed.named fresh)
    cases found with
    | none =>
      have named : ((ChildObject.withOwners [d.owner.toJson] d.payload).get "metadata").get "name"
          = .str d.name := by
        rw [ChildObject.withOwners, Json.get_modify_self, Json.get_set_other _ _ (by decide),
          placed.payload]
      have address : (StoreCall.create (g.registry.api d.resource)
          (d.resource.within d.namespace_)
          (ChildObject.withOwners [d.owner.toJson] d.payload)).address? = some (g.addressOf d) := by
        simp only [StoreCall.address?, named, Json.str?, Option.map_some, addressOf]
      refine conforms_attempt.mpr ⟨trivial, ?_⟩
      intro reply
      have outcome := wrote reply read address rfl fun _ => id
      cases reply with
      | error e => exact outcome.1 e rfl
      | ok stored => exact outcome.2 stored rfl
    | some existing =>
      refine conforms_attempt.mpr ⟨trivial, ?_⟩
      intro reply
      have outcome := wrote (c := .replace (g.registry.api d.resource)
        (d.resource.within d.namespace_) d.name (d.replacement existing)) reply read rfl rfl
        fun _ => id
      cases reply with
      | error e => exact outcome.1 e rfl
      | ok stored => exact outcome.2 stored rfl

/-- A workload is a single object, so that no later object of its group is taken for it. -/
theorem heeds_writeAll {ds : List ChildObject} {b : StatusBoard}
    (placed : ∀ d ∈ ds, g.Placed r kind d) (intact : Intact g k r seen before)
    (some : ds = [] → kind ∈ seen)
    (fresh : kind.isWorkload = true → ∀ d rest, ds = d :: rest → rest = [] ∧ kind ∉ seen) :
    Conforms (fun _ _ => True)
      (fun later out => g.Heeds k (Intact g k r (insert kind seen)) later out.1)
      before ((g.writeAll kind ds).run b) := by
  induction ds generalizing seen before b with
  | nil =>
    rw [Finset.insert_eq_of_mem (some rfl)]
    exact intact
  | cons d rest ih =>
    refine conforms_step.mpr (conforms_step_outcome.mpr ?_)
    have unseen : kind.isWorkload = true → kind ∉ seen := fun workload => (fresh workload d rest rfl).2
    refine (heeds_write (placed d List.mem_cons_self) intact unseen).mono ?_
    intro later out held
    cases out with
    | error e => exact conforms_noteFailure fun _ => held
    | ok _ =>
      have further : Conforms (fun _ _ => True)
          (fun later out => g.Heeds k (Intact g k r (insert kind (insert kind seen))) later out.1)
          later ((g.writeAll kind rest).run b) := by
        refine ih (fun d mem => placed d (List.mem_cons_of_mem _ mem)) held
          (fun _ => Finset.mem_insert_self _ _) ?_
        intro workload d' rest' split
        rw [(fresh workload d rest rfl).1] at split
        cases split
      rw [Finset.insert_idem] at further
      exact further

theorem heeds_writeGroup {b : StatusBoard} (named : plan.name = r.name)
    (placed : plan.namespace_ = r.namespaceOr "default") (intact : Intact g k r seen before)
    (fresh : kind ∉ seen) :
    Conforms (fun _ _ => True)
      (fun later out => g.Heeds k (Intact g k r (insert kind seen)) later out.1)
      before ((g.writeAll kind (kind.build plan)).run b) := by
  refine heeds_writeAll (build_all_placed named placed kind) intact ?_ ?_
  · intro none
    exact absurd none (kind.build_ne_nil plan)
  · intro workload d rest split
    refine ⟨?_, fresh⟩
    cases kind with
    | workload => exact (List.cons.inj split).2.symm
    | routingWorkload => exact (List.cons.inj split).2.symm
    | _ => cases workload

/-! Counting replicas. -/

theorem heeds_sample (intact : Intact g k r seen before) (known : kind ∈ seen)
    (workload : kind.isWorkload = true) :
    Conforms (fun _ _ => True) (fun later out =>
        g.Heeds k (Intact g k r seen) later (out.mapError .store)) before
      (ExceptT.run (Replicas.probe g.registry (r.namespaceOr "default") (kind.childName r.name))) := by
  refine conforms_attempt.mpr ⟨trivial, ?_⟩
  intro reply
  cases reply with
  | error e => exact intact.unfailed.refused id
  | ok found =>
    cases found with
    | none =>
      refine intact.read (intact.unfailed.succeeded ?_) rfl
      intro api ns name v same
      cases same
    | some v =>
      simp only [Conforms]
      cases legible : Replicas.ofJson v with
      | error e =>
        exact intact.unfailed.fails (.unreadable rfl (intact.counts known workload) legible)
      | ok replicas =>
        refine intact.read (intact.unfailed.succeeded ?_) rfl
        intro api ns name w same counts
        cases same
        exact ⟨replicas, legible⟩

theorem heeds_count {b : StatusBoard} (intact : Intact g k r seen before)
    (known : behind kind ∈ seen) :
    Conforms (fun _ _ => True) (fun later out => g.Heeds k (Intact g k r seen) later out.1) before
      ((g.count kind (r.namespaceOr "default") r.name).run b) := by
  have workload : (behind kind).isWorkload = true := by cases kind <;> rfl
  refine conforms_step.mpr (conforms_step_outcome.mpr ((heeds_sample intact known workload).mono ?_))
  intro later out held
  cases out with
  | error e => exact conforms_noteFailure fun _ => held
  | ok replicas => exact held

theorem heeds_settle {b : StatusBoard} (intact : Intact g k r seen before)
    (known : kind = .accessPoint ∨ kind = .routingAccessPoint → behind kind ∈ seen) :
    Conforms (fun _ _ => True) (fun later out => g.Heeds k (Intact g k r seen) later out.1) before
      ((g.settle (r.namespaceOr "default") r.name kind).run b) := by
  cases kind with
  | accessPoint =>
    refine conforms_step.mpr ((heeds_count intact (known (.inl rfl))).mono ?_)
    intro later out held
    obtain ⟨e | replicas, b⟩ := out
    · exact held
    · intro time
      exact held
  | routingAccessPoint =>
    refine conforms_step.mpr ((heeds_count intact (known (.inr rfl))).mono ?_)
    intro later out held
    obtain ⟨e | replicas, b⟩ := out
    · exact held
    · intro time
      exact held
  | pool => exact fun _ => intact
  | route => exact fun _ => intact
  | _ => exact intact

theorem heeds_writeChildren {done rest : List ChildKind} {b : StatusBoard}
    (named : plan.name = r.name) (placed : plan.namespace_ = r.namespaceOr "default")
    (split : ChildKind.all = done ++ rest) (intact : Intact g k r done.toFinset before) :
    Conforms (fun _ _ => True)
      (fun later out => g.Heeds k (fun later => ∃ seen, Intact g k r seen later) later out.1)
      before ((g.writeChildren (r.namespaceOr "default") r.name plan rest).run b) := by
  induction rest generalizing done before b with
  | nil => exact ⟨_, intact⟩
  | cons kind rest ih =>
    have fresh : kind ∉ done.toFinset := by
      have nodup : (done ++ kind :: rest).Nodup := by
        rw [← split]
        decide
      intro mem
      exact List.disjoint_of_nodup_append nodup (List.mem_toFinset.mp mem) List.mem_cons_self
    have grown : insert kind done.toFinset = (done ++ [kind]).toFinset := by
      ext l
      simp only [Finset.mem_insert, List.mem_toFinset, List.mem_append, List.mem_singleton, or_comm]
    refine conforms_step.mpr ((heeds_writeGroup named placed intact fresh).mono ?_)
    intro later out held
    obtain ⟨e | _, b⟩ := out
    · exact held
    have known : kind = .accessPoint ∨ kind = .routingAccessPoint →
        behind kind ∈ insert kind done.toFinset := by
      intro gated
      exact Finset.mem_insert_of_mem (List.mem_toFinset.mpr (behind_done split gated))
    refine conforms_step.mpr ((heeds_settle held known).mono ?_)
    intro last out settled
    obtain ⟨e | ready, b⟩ := out
    · exact settled
    cases ready with
    | false => exact ⟨_, settled⟩
    | true =>
      rw [grown] at settled
      exact ih (by rw [split, List.append_assoc, List.singleton_append]) settled

/-! Looking for what is missing. -/

theorem heeds_probes {caps : List Capability} (known : caps ⊆ Capability.all)
    (intact : Intact g k r seen before) :
    Conforms (fun _ _ => True) (fun later out =>
        g.Heeds k (Intact g k r seen) later (out.mapError .store)) before
      (ExceptT.run (Preflight.probe g.registry caps)) := by
  induction caps generalizing before with
  | nil => exact intact
  | cons c rest ih =>
    have more : ∀ later (installed : Bool), Intact g k r seen later →
        Conforms (fun _ _ => True) (fun later out =>
            g.Heeds k (Intact g k r seen) later (out.mapError .store)) later (ExceptT.run (do
          let more ← Preflight.probe g.registry rest
          return (c, installed) :: more)) := by
      intro later installed intact
      refine conforms_attempt.mpr ((ih (List.subset_of_cons_subset known) intact).mono ?_)
      intro last out held
      cases out with
      | error e => exact held
      | ok found => exact held
    refine conforms_attempt.mpr ⟨trivial, ?_⟩
    intro reply
    cases reply with
    | ok names => exact more _ true (intact.read (intact.unfailed.unread rfl) rfl)
    | error e =>
      change Conforms _ _ _ (ExceptT.run (if e.isNoMatchingType = true then _ else _))
      split
      · rename_i missing
        refine more _ false (intact.read (intact.unfailed.excused ?_).unharmed rfl)
        exact ⟨⟨c, known List.mem_cons_self, rfl⟩, rfl, missing⟩
      · rename_i installed
        exact intact.unfailed.refused fun benign => installed benign.2.2

theorem heeds_check (intact : Intact g k r seen before) :
    Conforms (fun _ _ => True) (fun later out =>
        g.Heeds k (Intact g k r seen) later (out.mapError .store)) before
      (ExceptT.run (Preflight.check g.registry plan)) := by
  refine conforms_attempt.mpr ((heeds_probes (List.Subset.refl _) intact).mono ?_)
  intro later out held
  cases out with
  | error e => exact held
  | ok probed =>
    refine conforms_attempt.mpr ?_
    split
    · -- The list of all classes is no probe for a type.
      refine conforms_attempt.mpr ⟨trivial, ?_⟩
      intro reply
      cases reply with
      | error e =>
        refine Unfailed.refused (Intact.unfailed held) ?_
        intro benign
        cases benign.2.1
      | ok names => exact Intact.read held (Unfailed.unread (Intact.unfailed held) rfl) rfl
    · exact held

theorem heeds_preflight {b : StatusBoard} (intact : Intact g k r seen before) :
    Conforms (fun _ _ => True) (fun later out => g.Heeds k (Intact g k r seen) later out.1) before
      ((g.preflight plan).run b) := by
  refine conforms_step.mpr (conforms_step_outcome.mpr ((heeds_check intact).mono ?_))
  intro later out held
  cases out with
  | error e => exact fun _ => held
  | ok found =>
    cases found with
    | satisfied => exact fun _ => held
    | missing items => exact fun _ => held

/-! Before the spec is looked at. -/

def attaching (r : InferenceScheduler) : List Turn :=
  if r.hasMarker then [] else [⟨.setFinalizers r (r.finalizers ++ [finalizerMarker]), .ok ()⟩]

def Gone (g : Engine) (k : RootKey) (later : List Turn) (e : StoreError) : Prop :=
  (e.isNotFound = true ∧ g.Unfailed k later) ∨
    (e.isNotFound = false ∧ g.FirstFailure k later (.store e))

theorem unharmed_opening : g.Unharmed k (opening k r) := by
  have first : g.Unharmed k ([] ++ opening k r) := unfailed_nil.unread rfl
  exact first

theorem examined_eq : examined k r = opening k r ++ (attaching r ++
    if (r.status.getD {}).phase.isNone
      then [⟨.writeStatus (r.namespaceOr "default") r.name r.observed, .ok ()⟩] else []) := rfl

theorem heeds_finalizers (unfailed : g.Unfailed k before) (root : InferenceScheduler)
    (finalizers : List String) :
    g.Unharmed k (before ++ [⟨.setFinalizers root finalizers, .ok ()⟩]) ∧
      ∀ e, g.Gone k (before ++ [⟨.setFinalizers root finalizers, .error e⟩]) e := by
  constructor
  · exact unfailed.unread rfl
  · intro e
    cases gone : e.isNotFound with
    | true => exact .inl ⟨gone, unfailed.excused gone⟩
    | false =>
      refine .inr ⟨gone, unfailed.refused ?_⟩
      intro benign
      cases gone.symm.trans benign

theorem heeds_ensureMarker :
    Conforms (fun _ _ => True) (fun later out => match out with
      | .ok _ => later = opening k r ++ attaching r ∧ g.Unharmed k later
      | .error e => g.Gone k later e) (opening k r) (ExceptT.run r.ensureMarker) := by
  unfold attaching
  refine Conforms.ensureMarker (fun marker => ?_) fun marker => ?_
  · rw [if_pos marker]
    exact ⟨(List.append_nil _).symm, unharmed_opening⟩
  · have unfailed : g.Unfailed k (opening k r) := by
      refine unharmed_opening.unfailed (snapshot_opening (r := r) []) ?_
      intro here
      have lengths := congrArg List.length here
      simp [examined, opening, marker] at lengths
    obtain ⟨set, refused⟩ := heeds_finalizers unfailed r (r.finalizers ++ [finalizerMarker])
    rw [if_neg (Bool.eq_false_iff.mp marker)]
    exact ⟨trivial, refused, rfl, set⟩

theorem changed_of_phase {b : StatusBoard} (moved : b.current.phase ≠ b.stored.phase) :
    b.changed = true := by
  apply bne_iff_ne.mpr
  intro same
  exact moved (congrArg SchedulerStatus.phase same)

theorem heeds_observeFirst (alive : r.metadata.deletionTimestamp = none)
    (unharmed : g.Unharmed k (opening k r ++ attaching r)) :
    Conforms (fun _ _ => True)
      (fun later out => g.Heeds k (fun later => later = examined k r ∧ g.Unharmed k later) later out.1)
      (opening k r ++ attaching r)
      ((g.observeFirst (r.namespaceOr "default") r.name).run
        (.start r.status r.metadata.generation)) := by
  refine Conforms.observeFirst (fun known => ?_) fun phase => ?_
  · obtain ⟨p, phase⟩ : ∃ p, (r.status.getD {}).phase = some p := Option.isSome_iff_exists.mp known
    have here : opening k r ++ attaching r = examined k r := by
      rw [examined_eq, phase]
      simp
    exact ⟨here, unharmed⟩
  · change (r.status.getD {}).phase = none at phase
    have unfailed : g.Unfailed k (opening k r ++ attaching r) := by
      refine unharmed.unfailed (snapshot_opening _) ?_
      intro here
      have lengths := congrArg List.length here
      simp [examined_eq, phase] at lengths
    have here : opening k r ++ attaching r ++
        [⟨.writeStatus (r.namespaceOr "default") r.name r.observed, .ok ()⟩] = examined k r := by
      rw [examined_eq, phase, List.append_assoc]
      rfl
    refine Conforms.saveStatus (fun _ => trivial) ?_ ?_ ?_
    · intro same
      rw [changed_of_phase] at same
      · cases same
      · change some _ ≠ (r.status.getD {}).phase
        rw [phase]
        nofun
    · exact ⟨here, unfailed.unread rfl⟩
    · intro e
      refine unfailed.refused ?_
      intro benign
      refine benign.2 ⟨r, attaching r, rfl, alive, phase, ?_⟩
      intro t mem
      unfold attaching at mem
      split at mem
      · cases mem
      · rw [List.mem_singleton.mp mem]
        nofun

theorem intact_examined (resolved : Plan.resolve r = .ok plan)
    (unharmed : g.Unharmed k (examined k r)) : Intact g k r ∅ (examined k r) where
  examined := List.prefix_refl _
  accepted := by
    intro e refused
    rw [resolved] at refused
    cases refused
  unfailed := by
    refine unharmed.unfailed snapshot_examined ?_
    intro _ _ e refused
    rw [resolved] at refused
    cases refused
  within := by
    intro t mem a address
    rw [(examined_turns t mem).2.1] at address
    cases address
  there := by
    intro kind mem
    simp at mem

theorem heeds_bringInLine (alive : r.metadata.deletionTimestamp = none)
    (unharmed : g.Unharmed k (opening k r ++ attaching r)) :
    Conforms (fun _ _ => True)
      (fun later out => g.Heeds k (fun later => ∃ seen, Intact g k r seen later) later out.1)
      (opening k r ++ attaching r)
      ((g.bringInLine r).run (.start r.status r.metadata.generation)) := by
  refine conforms_step.mpr ((heeds_observeFirst alive unharmed).mono ?_)
  intro later out held
  obtain ⟨e | _, b⟩ := out
  · exact held
  obtain ⟨rfl, unharmed⟩ := held
  refine conforms_step.mpr ?_
  unfold acceptSpec
  cases resolved : Plan.resolve r with
  | error e => exact fun _ => unharmed.rejected alive resolved
  | ok plan =>
    intro time
    refine conforms_step.mpr ((heeds_preflight (intact_examined resolved unharmed)).mono ?_)
    intro last out intact
    obtain ⟨e | wait, b⟩ := out
    · exact intact
    · cases wait with
      | some wait => exact ⟨_, intact⟩
      | none =>
        obtain ⟨named, placed, _⟩ := Plan.resolve_root resolved
        have none : Intact g k r ([] : List ChildKind).toFinset last := intact
        exact heeds_writeChildren named placed (List.nil_append _).symm none

/-! How a pass ends. -/

/-- What a pass over `k` comes to. -/
inductive Verdict (g : Engine) (k : RootKey) (later : List Turn) :
    Except ReconcileError Requeue → Prop where
  | unfailed (unfailed : g.Unfailed k later) (wait : Requeue) : Verdict g k later (.ok wait)
  | failed {e : ReconcileError} (first : g.FirstFailure k later e) : Verdict g k later (.error e)
  | reported {front : List Turn} {e : ReconcileError} {ns name : String} {status : SchedulerStatus}
      {reply : (StoreCall.writeStatus ns name status).Reply} (first : g.FirstFailure k front e)
      (split : later = front ++ [⟨.writeStatus ns name status, reply⟩])
      (lasting : ∀ gone, reply = .error gone → gone.isNotFound = false) :
      Verdict g k later (.error e)
  | vanished {front : List Turn} {e : ReconcileError} {ns name : String} {status : SchedulerStatus}
      {gone : StoreError} (first : g.FirstFailure k front e)
      (split : later = front ++ [⟨.writeStatus ns name status, .error gone⟩])
      (absent : gone.isNotFound = true) : Verdict g k later (.ok .never)

theorem Gone.verdict {later : List Turn} {e : StoreError} (gone : g.Gone k later e) :
    g.Verdict k later (if e.isNotFound then .ok .never else .error (.store e)) := by
  cases gone with
  | inl absent =>
    rw [absent.1]
    exact .unfailed absent.2 .never
  | inr failed =>
    rw [failed.1]
    exact .failed failed.2

theorem Intact.reported (intact : Intact g k r seen before) : ¬ FirstStatusNext k before := by
  intro ⟨r', rest, split, alive, unknown, unstored⟩
  have snapshot' : Snapshot k r' before := split ▸ snapshot_opening rest
  cases intact.snapshot.unique snapshot'
  have stored : (⟨.writeStatus (r.namespaceOr "default") r.name r.observed, .ok ()⟩ : Turn) ∈
      opening k r ++ rest := by
    rw [← split]
    refine intact.examined.subset ?_
    rw [examined_eq, unknown]
    simp
  cases List.mem_append.mp stored with
  | inl first => cases List.mem_singleton.mp first
  | inr later => exact unstored _ later rfl

theorem gone_status (unfailed : g.Unfailed k before) (known : ¬ FirstStatusNext k before)
    {ns name : String} {status : SchedulerStatus} {e : StoreError} :
    g.Gone k (before ++ [⟨.writeStatus ns name status, .error e⟩]) e := by
  cases absent : e.isNotFound with
  | true => exact .inl ⟨absent, unfailed.excused ⟨absent, known⟩⟩
  | false =>
    refine .inr ⟨absent, unfailed.refused ?_⟩
    intro benign
    cases absent.symm.trans benign.1

theorem verdict_conclude {ns name : String} {out : Except ReconcileError Requeue × StatusBoard}
    (held : g.Heeds k (fun later => ∃ seen, Intact g k r seen later) before out.1) :
    Conforms (fun _ _ => True) (g.Verdict k) before (conclude ns name out) := by
  obtain ⟨result, b⟩ := out
  cases result with
  | ok wait =>
    obtain ⟨seen, intact⟩ := held
    refine Conforms.conclude (fun _ => trivial) (fun _ => ?_) ?_ fun e => ?_
    · exact .unfailed intact.unfailed wait
    · refine .unfailed ?_ wait
      have saved : g.Unharmed k (before ++ [⟨.writeStatus ns name b.current, .ok ()⟩]) :=
        intact.unfailed.unread rfl
      exact saved.unfailed (intact.snapshot.append _) fun _ _ => intact.accepted
    · have lost : g.Gone k (before ++ [⟨.writeStatus ns name b.current, .error e⟩]) e :=
        gone_status intact.unfailed intact.reported
      exact lost.verdict
  | error e =>
    refine Conforms.conclude (fun _ => trivial) (fun _ => ?_) ?_ fun lost => ?_
    · exact .failed held
    · exact .reported held rfl nofun
    · unfold unstored
      split
      · rename_i absent
        exact .vanished held rfl absent
      · rename_i lasting
        refine .reported held rfl ?_
        intro e' same
        cases same
        exact Bool.eq_false_iff.mpr lasting

theorem verdict_upkeep (alive : r.metadata.deletionTimestamp = none) :
    Conforms (fun _ _ => True) (g.Verdict k) (opening k r) (g.upkeep k.namespace_ k.name r) := by
  refine conforms_bind.mpr ((heeds_ensureMarker (g := g)).mono ?_)
  intro later out held
  cases out with
  | error e => exact Gone.verdict held
  | ok _ =>
    obtain ⟨rfl, unharmed⟩ := held
    refine conforms_bind.mpr ((heeds_bringInLine alive unharmed).mono ?_)
    intro last out held
    exact verdict_conclude held

/-! The pass over a root that is being deleted. -/

structure Leaving (g : Engine) (k : RootKey) (r : InferenceScheduler) (before : List Turn) :
    Prop where
  snapshot : Snapshot k r before
  deleted : r.metadata.deletionTimestamp.isSome
  unfailed : g.Unfailed k before

theorem Leaving.after (leaving : g.Leaving k r before) {t : Turn}
    (fine : g.Unharmed k (before ++ [t])) : g.Leaving k r (before ++ [t]) where
  snapshot := leaving.snapshot.append _
  deleted := leaving.deleted
  unfailed := by
    refine fine.unfailed (leaving.snapshot.append _) ?_
    intro _ alive
    have deleted := leaving.deleted
    rw [alive] at deleted
    cases deleted

theorem Leaving.unread (leaving : g.Leaving k r before) {c : StoreCall} {a : c.Answer}
    (noLook : c.seen? = none) : g.Leaving k r (before ++ [⟨c, .ok a⟩]) :=
  leaving.after (leaving.unfailed.unread noLook)

/-- Either the root is still being let go, or it is gone or something failed. -/
def Leaves (g : Engine) (k : RootKey) (r : InferenceScheduler) (later : List Turn) :
    Except StoreError α → Prop
  | .ok _ => g.Leaving k r later
  | .error e => g.Gone k later e

theorem heeds_sweep {ns : String} (keys : List (ResourceType × String))
    (leaving : g.Leaving k r before) :
    Conforms (fun _ _ => True) (g.Leaves k r) before
      (ExceptT.run (InferenceScheduler.sweep g.registry ns keys)) := by
  refine Conforms.sweep (fun later _ => g.Leaving k r later) leaving (fun _ => id) ?_
  intro later key rest leaving
  refine ⟨trivial, leaving.unread rfl, fun e => ?_⟩
  split
  · rename_i nothingLeft
    have excused : g.Unfailed k (later ++
        [⟨.delete (g.registry.api key.1) (key.1.within ns) key.2, .error e⟩]) :=
      leaving.unfailed.excused nothingLeft
    exact leaving.after excused.unharmed
  · rename_i left
    refine .inr ⟨?_, leaving.unfailed.refused left⟩
    cases e with
    | notFound message => exact absurd rfl left
    | _ => rfl

theorem verdict_release {root : InferenceScheduler} (leaving : g.Leaving k r before) :
    Conforms (fun _ _ => True) (g.Verdict k) before (g.release root) := by
  refine Conforms.release (g.Leaving k r) (fun _ => ?_) (fun _ => leaving) (fun _ => ?_) ?_
  · exact .unfailed leaving.unfailed .never
  · refine (heeds_sweep _ leaving).mono ?_
    rintro later (e | _) held
    · exact Gone.verdict held
    · exact held
  · intro later leaving
    obtain ⟨set, refused⟩ := heeds_finalizers leaving.unfailed root root.withoutMarker
    exact ⟨trivial, fun e => (refused e).verdict, .unfailed (leaving.after set).unfailed .never⟩

theorem leaving_opening (deleted : r.metadata.deletionTimestamp.isSome) :
    g.Leaving k r (opening k r) where
  snapshot := snapshot_opening []
  deleted := deleted
  unfailed := by
    refine unharmed_opening.unfailed (snapshot_opening (r := r) []) ?_
    intro _ alive
    rw [alive] at deleted
    cases deleted

theorem verdict_tearDown (deleted : r.metadata.deletionTimestamp.isSome) :
    Conforms (fun _ _ => True) (g.Verdict k) (opening k r) (g.tearDown r) := by
  have leaving : g.Leaving k r (opening k r) := leaving_opening deleted
  refine Conforms.tearDown (fun _ => .unfailed leaving.unfailed .never)
    (fun _ => verdict_release leaving) fun _ _ => ⟨trivial, fun e => ?_, trivial, ?_⟩
  · refine (gone_status leaving.unfailed ?_).verdict
    intro ⟨r', rest, split, alive, _⟩
    have snapshot' : Snapshot k r' (opening k r) := ⟨rest, split⟩
    cases leaving.snapshot.unique snapshot'
    rw [alive] at deleted
    cases deleted
  · have stored : g.Leaving k r (opening k r ++ [⟨.writeStatus (r.namespaceOr "default") r.name
        (withdrawal r).current, .ok ()⟩]) := leaving.unread rfl
    rintro (e | _ | root)
    · exact .failed (stored.unfailed.refused id)
    · exact .unfailed (stored.unread rfl).unfailed .never
    · -- The root was read again, and is let go as it is now.
      exact verdict_release (stored.unread rfl)

theorem reconcile_verdict (g : Engine) (k : RootKey) :
    Conforms (fun _ _ => True) (g.Verdict k) [] (g.reconcile k.namespace_ k.name) := by
  refine Conforms.reconcile trivial (fun e => ?_) ?_ (fun _ => verdict_tearDown)
    fun _ => verdict_upkeep
  · have refused : g.FirstFailure k ([] ++ [⟨.getRoot k.namespace_ k.name, .error e⟩]) (.store e) :=
      unfailed_nil.refused id
    exact .failed refused
  · refine .unfailed ?_ .never
    have unharmed : g.Unharmed k ([] ++ [⟨.getRoot k.namespace_ k.name, .ok none⟩]) :=
      unfailed_nil.unread rfl
    refine unharmed.unfailed_of_accepted fun r here => ?_
    cases (List.cons.inj here).1

/-- Whatever the store replies to a pass: if something fails, then after the first failure one
status is stored at most, and the pass ends with the error of that failure, unless the root
turns out to be gone when that status is stored. A pass in which nothing fails ends well. -/
theorem first_failure_ends_pass (g : Engine) (k : RootKey) {trace : List Turn}
    {result : Except ReconcileError Requeue}
    (run : Runs (g.reconcile k.namespace_ k.name) trace result) :
    (∀ front back e, trace = front ++ back → g.FirstFailure k front e →
      (back = [] ∧ result = .error e) ∨
      ∃ ns name status reply, back = [⟨.writeStatus ns name status, reply⟩] ∧
        result = match reply with
          | .ok _ => .error e
          | .error lost => if lost.isNotFound then .ok .never else .error e) ∧
    ((∃ front e, front <+: trace ∧ g.FirstFailure k front e) ∨
      (g.Unfailed k trace ∧ ∃ wait, result = .ok wait)) := by
  have verdict : g.Verdict k trace result := (reconcile_verdict g k).at_end run
  -- There is no other first failure than the one that the verdict names.
  have only : ∀ {front back front' e e'}, trace = front ++ back → g.FirstFailure k front e →
      front' <+: trace → g.FirstFailure k front' e' → front' = front ∧ e' = e := by
    intro front back front' e e' split first there other
    refine other.unique first there ?_
    rw [split]
    exact List.prefix_append _ _
  constructor
  · intro front back e split first
    cases verdict with
    | unfailed unfailed wait =>
      refine absurd first.fails (unfailed front ?_ e)
      rw [split]
      exact List.prefix_append _ _
    | failed first' =>
      obtain ⟨same, rfl⟩ := only split first (List.prefix_refl _) first'
      refine .inl ⟨?_, rfl⟩
      rw [same] at split
      exact (List.append_right_eq_self.mp split.symm)
    | @reported front' _ ns name status reply first' last lasting =>
      obtain ⟨same, rfl⟩ := only split first ⟨_, last.symm⟩ first'
      rw [same] at last
      refine .inr ⟨ns, name, status, reply, List.append_cancel_left (split.symm.trans last), ?_⟩
      cases reply with
      | ok _ => rfl
      | error lost =>
        dsimp only
        rw [lasting lost rfl]
        rfl
    | @vanished front' _ ns name status gone first' last absent =>
      obtain ⟨same, rfl⟩ := only split first ⟨_, last.symm⟩ first'
      rw [same] at last
      refine .inr ⟨ns, name, status, .error gone, List.append_cancel_left (split.symm.trans last), ?_⟩
      dsimp only
      rw [absent]
      rfl
  · cases verdict with
    | unfailed unfailed wait => exact .inr ⟨unfailed, wait, rfl⟩
    | failed first => exact .inl ⟨_, _, List.prefix_refl _, first⟩
    | reported first split lasting => exact .inl ⟨_, _, ⟨_, split.symm⟩, first⟩
    | vanished first split absent => exact .inl ⟨_, _, ⟨_, split.symm⟩, first⟩

def unidentified : InferenceScheduler where
  metadata := { name := some "demo", finalizers := some [finalizerMarker] }
  spec := { modelServer := { modelName := "m", hfTokenSecretName := "s" } }
  status := some { phase := some .ready }

theorem unidentified_runs : ∃ status,
    Runs ((Engine.mk .builtin {}).reconcile "default" "demo")
      [⟨.getRoot "default" "demo", .ok (some unidentified)⟩,
        ⟨.writeStatus "default" "demo" status, .error (.unavailable "down")⟩]
      (.error (.invalidSpec .missingUid)) := by
  apply Exists.intro
  apply Runs.call
  exact Runs.clock "" (.call (.error (.unavailable "down")) (.done _))

theorem rejection_outlives_lost_status : ∃ status result,
    Runs ((Engine.mk .builtin {}).reconcile "default" "demo")
      [⟨.getRoot "default" "demo", .ok (some unidentified)⟩,
        ⟨.writeStatus "default" "demo" status, .error (.unavailable "down")⟩] result ∧
    (Engine.mk .builtin {}).FirstFailure ⟨"default", "demo"⟩ (opening ⟨"default", "demo"⟩ unidentified)
      (.invalidSpec .missingUid) ∧
    result = .error (.invalidSpec .missingUid) := by
  obtain ⟨status, run⟩ := unidentified_runs
  have rejected : (Engine.mk .builtin {}).FirstFailure ⟨"default", "demo"⟩
      (opening ⟨"default", "demo"⟩ unidentified) (.invalidSpec .missingUid) :=
    unharmed_opening.rejected rfl rfl
  have ended := (first_failure_ends_pass (Engine.mk .builtin {}) ⟨"default", "demo"⟩ run).1
    (opening ⟨"default", "demo"⟩ unidentified) _ _ rfl rejected
  refine ⟨status, _, run, rejected, ?_⟩
  cases ended with
  | inl silent => exact silent.2
  | inr stored =>
    obtain ⟨ns, name, status', reply, same, result⟩ := stored
    cases same
    exact result

end SchedulerOperator.Engine
