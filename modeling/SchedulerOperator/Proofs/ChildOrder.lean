import Mathlib.Tactic.IntervalCases
import SchedulerOperator.Proofs.Children
import SchedulerOperator.Proofs.Operations
import SchedulerOperator.Proofs.Stretches

namespace SchedulerOperator
open Pass

structure Address where
  api : ApiResource
  ns : Option String
  name : String

namespace StoreCall

def isChildWrite (c : StoreCall) : Bool := c.op == .create || c.op == .replace

def address? : StoreCall → Option Address
  | .create api ns object =>
    ((object.get "metadata").get "name").str?.map fun name => ⟨api, ns, name⟩
  | .replace api ns name _ => some ⟨api, ns, name⟩
  | _ => none

end StoreCall

def childWrites (trace : List Turn) : List Turn := trace.filter fun t => t.call.isChildWrite

theorem childWrites_append (front back : List Turn) :
    childWrites (front ++ back) = childWrites front ++ childWrites back := List.filter_append ..

theorem childWrites_of_none {trace : List Turn}
    (quiet : ∀ t ∈ trace, t.call.isChildWrite = false) : childWrites trace = [] :=
  List.filter_eq_nil_iff.mpr fun t mem => by simp [quiet t mem]

theorem Preflight.probe_conforms {registry : TypeRegistry} {before : List Turn} (caps : List Capability) :
    Conforms (fun _ c => ∃ api, c = .listNames api none (some 1))
      (fun _ out => ∀ probed, out = .ok probed → probed.map Prod.fst = caps) before
      (ExceptT.run (Preflight.probe registry caps)) := by
  induction caps generalizing before with
  | nil =>
    rintro _ ⟨⟩
    rfl
  | cons c rest ih =>
    have more : ∀ (later : List Turn) (installed : Bool),
        Conforms (fun _ c => ∃ api, c = .listNames api none (some 1))
          (fun _ out => ∀ probed, out = .ok probed → probed.map Prod.fst = c :: rest) later
          (ExceptT.run (do
            let more ← Preflight.probe registry rest
            return (c, installed) :: more)) := by
      intro later installed
      refine conforms_attempt.mpr (ih.mono ?_)
      rintro _ (e | found) same
      · nofun
      · rintro _ ⟨⟩
        exact congrArg (c :: ·) (same found rfl)
    refine conforms_attempt.mpr ⟨⟨_, rfl⟩, ?_⟩
    rintro (e | names)
    · change Conforms _ _ _ (ExceptT.run (if e.isNoMatchingType = true then _ else _))
      split
      · exact more _ false
      · nofun
    · exact more _ true

namespace Engine
variable (g : Engine) (r : InferenceScheduler)

def addressesOf (kinds : List ChildKind) : List Address :=
  kinds.flatMap fun k => k.resources.map fun t =>
    ⟨g.registry.api t, t.within (r.namespaceOr "default"), k.childName r.name⟩

def childAddresses : List Address :=
  (childKeys r.name).map fun k =>
    ⟨g.registry.api k.1, k.1.within (r.namespaceOr "default"), k.2⟩

theorem childAddresses_eq : g.childAddresses r = g.addressesOf r ChildKind.all := by
  simp only [childAddresses, addressesOf, childKeys, List.map_flatMap, List.map_map]
  rfl

/-- The root carried the marker when it was read, or it was attached to it as read. -/
def Marked (before : List Turn) : Prop :=
  r.hasMarker = true ∨
    ⟨.setFinalizers r (r.finalizers ++ [finalizerMarker]), .ok ()⟩ ∈ before

/-- The spec was accepted, and all probes for its plan were made before any child was
written and found nothing missing. -/
def Cleared (before : List Turn) : Prop :=
  ∃ plan front probes back, Plan.resolve r = .ok plan ∧ before = front ++ probes ++ back ∧
    childWrites (front ++ probes) = [] ∧
    Runs (ExceptT.run (Preflight.check g.registry plan)) probes (.ok .satisfied)

/-- Right after the `n`-th child was written the replicas of a workload were counted, and
all of them were ready. -/
def SampledReady (k : ChildKind) (n : Nat) (before : List Turn) : Prop :=
  ∃ front write sample back replicas, before = front ++ write :: (sample ++ back) ∧
    write.call.isChildWrite = true ∧ (childWrites (front ++ [write])).length = n ∧
    Runs (ExceptT.run (Replicas.probe g.registry (r.namespaceOr "default") (k.childName r.name)))
      sample (.ok replicas) ∧
    replicas.isReady = true

/-- What holds when the child at `a` is written. -/
structure MayWrite (a : Address) (before : List Turn) : Prop where
  marked : Marked r before
  cleared : g.Cleared r before
  succeeded : ∀ t ∈ childWrites before, t.succeeded
  inOrder : (g.childAddresses r)[(childWrites before).length]? = some a
  modelServer : 2 ≤ (childWrites before).length → g.SampledReady r .workload 2 before
  picker : 8 ≤ (childWrites before).length → g.SampledReady r .routingWorkload 8 before

def MayCall (before : List Turn) (c : StoreCall) : Prop :=
  c.op ≠ .delete ∧
    (c.isChildWrite = true → ∃ a, c.address? = some a ∧ g.MayWrite r a before)

/-- What was written lies at the first addresses of the list, in its order. -/
def InOrder (before : List Turn) : Prop :=
  (childWrites before).map (fun t => t.call.address?) <+: (g.childAddresses r).map some

variable {g r} {before : List Turn}

theorem Marked.append (marked : Marked r before) (more : List Turn) :
    Marked r (before ++ more) :=
  marked.imp_right fun mem => List.mem_append_left more mem

theorem Cleared.append (cleared : g.Cleared r before) (more : List Turn) :
    g.Cleared r (before ++ more) := by
  obtain ⟨plan, front, probes, back, resolved, rfl, quiet, run⟩ := cleared
  exact ⟨plan, front, probes, back ++ more, resolved, by simp, quiet, run⟩

theorem SampledReady.append {k : ChildKind} {n : Nat} (sampled : g.SampledReady r k n before)
    (more : List Turn) : g.SampledReady r k n (before ++ more) := by
  obtain ⟨front, write, sample, back, replicas, rfl, isWrite, count, run, ready⟩ := sampled
  exact ⟨front, write, sample, back ++ more, replicas, by simp, isWrite, count, run, ready⟩

theorem MayWrite.append {a : Address} (allowed : g.MayWrite r a before) {more : List Turn}
    (reads : childWrites more = []) : g.MayWrite r a (before ++ more) := by
  have same : childWrites (before ++ more) = childWrites before := by
    rw [childWrites_append, reads, List.append_nil]
  exact
    { marked := allowed.marked.append more
      cleared := allowed.cleared.append more
      succeeded := by rw [same]; exact allowed.succeeded
      inOrder := by rw [same]; exact allowed.inOrder
      modelServer := by
        rw [same]
        exact fun two => (allowed.modelServer two).append more
      picker := by
        rw [same]
        exact fun eight => (allowed.picker eight).append more }

theorem InOrder.append (ordered : g.InOrder r before) {more : List Turn}
    (reads : childWrites more = []) : g.InOrder r (before ++ more) := by
  rw [InOrder, childWrites_append, reads, List.append_nil]
  exact ordered

theorem mayCall_other {c : StoreCall} (keeps : c.op ≠ .delete) (reads : c.isChildWrite = false) :
    g.MayCall r before c :=
  ⟨keeps, fun isWrite => by rw [reads] at isWrite; cases isWrite⟩

/-- The children at `written`, and no others, have been written, each with success. -/
structure Written (g : Engine) (r : InferenceScheduler) (written : List Address)
    (before : List Turn) : Prop where
  marked : Marked r before
  cleared : g.Cleared r before
  succeeded : ∀ t ∈ childWrites before, t.succeeded
  addressed : (childWrites before).map (fun t => t.call.address?) = written.map some

theorem Written.append {written : List Address} (done : g.Written r written before)
    {more : List Turn} (reads : childWrites more = []) :
    g.Written r written (before ++ more) := by
  have same : childWrites (before ++ more) = childWrites before := by
    rw [childWrites_append, reads, List.append_nil]
  exact ⟨done.marked.append more, done.cleared.append more, by rw [same]; exact done.succeeded,
    by rw [same]; exact done.addressed⟩

theorem Written.length {written : List Address} (done : g.Written r written before) :
    (childWrites before).length = written.length := by
  simpa using congrArg List.length done.addressed

theorem Written.inOrder {written more : List Address} (done : g.Written r written before)
    (listed : g.childAddresses r = written ++ more) : g.InOrder r before := by
  rw [InOrder, done.addressed, listed, List.map_append]
  exact List.prefix_append _ _

theorem Written.wrote {written : List Address} {a : Address} {write : Turn}
    (done : g.Written r written before) (isWrite : write.call.isChildWrite = true)
    (there : write.call.address? = some a) (succeeded : write.succeeded) :
    g.Written r (written ++ [a]) (before ++ [write]) := by
  have one : childWrites [write] = [write] := by simp [childWrites, isWrite]
  refine ⟨done.marked.append _, done.cleared.append _, ?_, ?_⟩
  · intro t mem
    rw [childWrites_append, one] at mem
    rcases List.mem_append.mp mem with earlier | last
    · exact done.succeeded t earlier
    · rw [List.mem_singleton.mp last]
      exact succeeded
  · rw [childWrites_append, one, List.map_append, done.addressed, List.map_append]
    simp [there]

theorem Written.tried {written more : List Address} {a : Address} {write : Turn}
    (done : g.Written r written before) (listed : g.childAddresses r = written ++ a :: more)
    (isWrite : write.call.isChildWrite = true) (there : write.call.address? = some a) :
    g.InOrder r (before ++ [write]) := by
  have one : childWrites [write] = [write] := by simp [childWrites, isWrite]
  rw [InOrder, childWrites_append, one, List.map_append, done.addressed, listed]
  simp [there]

theorem conforms_write {written more : List Address} {a : Address} {d : ChildObject}
    (done : g.Written r written before) (listed : g.childAddresses r = written ++ a :: more)
    (allowed : g.MayWrite r a before)
    (there : a = ⟨g.registry.api d.resource, d.resource.within d.namespace_, d.name⟩)
    (named : (d.payload.get "metadata").get "name" = .str d.name) :
    Conforms (g.MayCall r) (fun later out => match out with
      | .ok _ => ∃ look write, later = before ++ [look, write] ∧
          look.call.isChildWrite = false ∧ write.call.isChildWrite = true ∧
          g.Written r (written ++ [a]) later
      | .error _ => g.InOrder r later) before (ExceptT.run (d.write g.registry)) := by
  have place : ((ChildObject.withOwners [d.owner.toJson] d.payload).get "metadata").get "name"
      = .str d.name := by
    rw [ChildObject.withOwners, Json.get_modify_self, Json.get_set_other _ _ (by decide), named]
  -- Both branches end in one write at the same address.
  have wrote : ∀ (look write : Turn), look.call.isChildWrite = false →
      write.call.isChildWrite = true → write.call.address? = some a →
      (write.succeeded → g.Written r (written ++ [a]) (before ++ [look] ++ [write])) ∧
        g.InOrder r (before ++ [look] ++ [write]) := by
    intro look write reads isWrite address
    have looked := done.append (show childWrites [look] = [] by simp [childWrites, reads])
    exact ⟨looked.wrote isWrite address, looked.tried listed isWrite address⟩
  refine conforms_attempt.mpr ⟨mayCall_other nofun rfl, ?_⟩
  rintro (e | _ | existing)
  · exact (done.append (childWrites_of_none (by simp; rfl))).inOrder listed
  · refine conforms_attempt.mpr ⟨⟨nofun, fun _ => ⟨a, ?_, ?_⟩⟩, ?_⟩
    · simp only [StoreCall.address?, place, Json.str?, Option.map_some, there]
    · exact allowed.append (childWrites_of_none (by simp; rfl))
    · have address : ∀ reply, (Turn.mk (.create (g.registry.api d.resource)
          (d.resource.within d.namespace_)
          (ChildObject.withOwners [d.owner.toJson] d.payload)) reply).call.address? = some a := by
        intro reply
        simp only [StoreCall.address?, place, Json.str?, Option.map_some, there]
      rintro (e | stored)
      · exact (wrote _ _ rfl rfl (address _)).2
      · exact ⟨_, _, List.append_assoc _ [_] [_], rfl, rfl,
          (wrote _ _ rfl rfl (address _)).1 ⟨stored, rfl⟩⟩
  · refine conforms_attempt.mpr ⟨⟨nofun, fun _ => ⟨a, by rw [there]; rfl, ?_⟩⟩, ?_⟩
    · exact allowed.append (childWrites_of_none (by simp; rfl))
    · rintro (e | stored)
      · exact (wrote _ _ rfl rfl (by rw [there]; rfl)).2
      · exact ⟨_, _, List.append_assoc _ [_] [_], rfl, rfl,
          (wrote _ _ rfl rfl (by rw [there]; rfl)).1 ⟨stored, rfl⟩⟩

structure Gates (g : Engine) (r : InferenceScheduler) (n : Nat) (before : List Turn) :
    Prop where
  modelServer : 2 ≤ n → g.SampledReady r .workload 2 before
  picker : 8 ≤ n → g.SampledReady r .routingWorkload 8 before

theorem Gates.append {n : Nat} (gates : g.Gates r n before) (more : List Turn) :
    g.Gates r n (before ++ more) :=
  ⟨fun two => (gates.modelServer two).append more, fun eight => (gates.picker eight).append more⟩

theorem Written.mayWrite {written more : List Address} {a : Address}
    (done : g.Written r written before) (listed : g.childAddresses r = written ++ a :: more)
    (gates : g.Gates r written.length before) : g.MayWrite r a before where
  marked := done.marked
  cleared := done.cleared
  succeeded := done.succeeded
  inOrder := by rw [done.length, listed]; simp
  modelServer := by rw [done.length]; exact gates.modelServer
  picker := by rw [done.length]; exact gates.picker

def addressOf (g : Engine) (d : ChildObject) : Address :=
  ⟨g.registry.api d.resource, d.resource.within d.namespace_, d.name⟩

theorem conforms_noteFailure {α : Type}
    {ends : List Turn → Except ReconcileError α × StatusBoard → Prop}
    {may : List Turn → StoreCall → Prop} {k : ChildKind} {message : String}
    {e : ReconcileError} {b : StatusBoard} (ended : ∀ b, ends before (.error e, b)) :
    Conforms may ends before ((do g.noteFailure k message; Step.fail e : Step α).run b) :=
  fun _ => ended _

def EndsInWrite (turns : List Turn) : Prop :=
  turns = [] ∨ ∃ front write, turns = front ++ [write] ∧ write.call.isChildWrite = true

theorem conforms_writeAll {k : ChildKind} {ds : List ChildObject} {written more : List Address}
    {b : StatusBoard} (done : g.Written r written before)
    (listed : g.childAddresses r = written ++ (ds.map g.addressOf ++ more))
    (named : ∀ d ∈ ds, (d.payload.get "metadata").get "name" = .str d.name)
    (gates : ∀ n, written.length ≤ n → n < written.length + ds.length → g.Gates r n before) :
    Conforms (g.MayCall r) (fun later out => match out with
      | (.ok _, _) => g.Written r (written ++ ds.map g.addressOf) later ∧
          ∃ turns, later = before ++ turns ∧ EndsInWrite turns ∧ (ds ≠ [] → turns ≠ [])
      | (.error _, _) => g.InOrder r later) before ((g.writeAll k ds).run b) := by
  induction ds generalizing before written b with
  | nil => exact ⟨by simpa using done, [], by simp, .inl rfl, by simp⟩
  | cons d rest ih =>
    rw [writeAll]
    refine conforms_step.mpr (conforms_step_outcome.mpr ?_)
    have here : g.childAddresses r
        = written ++ g.addressOf d :: (rest.map g.addressOf ++ more) := by
      simpa using listed
    have allowed := done.mayWrite here (gates _ (Nat.le_refl _) (by simp))
    refine (conforms_write done here allowed rfl (named d (by simp))).mono ?_
    rintro later (e | _) wrote
    · exact conforms_noteFailure fun _ => wrote
    · obtain ⟨look, write, rfl, _, isWrite, done⟩ := wrote
      have passed : ∀ n, (written ++ [g.addressOf d]).length ≤ n →
          n < (written ++ [g.addressOf d]).length + rest.length →
          g.Gates r n (before ++ [look, write]) := by
        intro n low high
        simp only [List.length_append, List.length_cons, List.length_nil] at low high
        exact (gates n (by omega) (by simp only [List.length_cons]; omega)).append _
      refine (ih done (by simpa using listed) (fun d mem => named d (by simp [mem])) passed).mono ?_
      rintro last ⟨e | _, b⟩ out
      · exact out
      · obtain ⟨all, turns, rfl, ended, _⟩ := out
        refine ⟨by simpa using all, [look, write] ++ turns, by simp, .inr ?_, by simp⟩
        rcases ended with rfl | ⟨front, final, rfl, isFinal⟩
        · exact ⟨[look], write, rfl, isWrite⟩
        · exact ⟨[look, write] ++ front, final, by simp, isFinal⟩

theorem conforms_count {k : ChildKind} {b : StatusBoard} :
    Conforms (g.MayCall r) (fun later out => ∃ sample, later = before ++ sample ∧
        childWrites sample = [] ∧ ∀ replicas, out.1 = .ok replicas →
          Runs (ExceptT.run (Replicas.probe g.registry (r.namespaceOr "default")
            ((behind k).childName r.name))) sample (.ok replicas))
      before ((g.count k (r.namespaceOr "default") r.name).run b) := by
  refine conforms_step.mpr (conforms_step_outcome.mpr ?_)
  refine Conforms.of_runs (fun c => c.op = .get) ?_ ?_ ?_
  · refine conforms_attempt.mpr ⟨rfl, ?_⟩
    rintro (e | _ | v)
    · trivial
    · trivial
    · simp only [Conforms]
      split <;> trivial
  · intro later c isGet
    exact mayCall_other (by simp [isGet]) (by simp [StoreCall.isChildWrite, isGet])
  · intro sample out run reads
    have quiet : childWrites sample = [] :=
      childWrites_of_none fun t mem => by simp [StoreCall.isChildWrite, reads t mem]
    rcases out with e | replicas
    · refine conforms_noteFailure fun b => ⟨sample, rfl, quiet, ?_⟩
      intro found same
      cases same
    · exact ⟨sample, rfl, quiet, fun found same => by cases same; exact run⟩

/-- The gates that are open once the groups in `done` were passed. -/
structure Passed (g : Engine) (r : InferenceScheduler) (done : List ChildKind)
    (before : List Turn) : Prop where
  modelServer : ChildKind.accessPoint ∈ done → g.SampledReady r .workload 2 before
  picker : ChildKind.routingAccessPoint ∈ done → g.SampledReady r .routingWorkload 8 before

theorem Passed.append {done : List ChildKind} (passed : g.Passed r done before)
    (more : List Turn) : g.Passed r done (before ++ more) :=
  ⟨fun mem => (passed.modelServer mem).append more, fun mem => (passed.picker mem).append more⟩

theorem Passed.other {done : List ChildKind} {k : ChildKind} (passed : g.Passed r done before)
    (model : k ≠ .accessPoint) (picker : k ≠ .routingAccessPoint) :
    g.Passed r (done ++ [k]) before where
  modelServer mem := passed.modelServer (by simpa [model.symm] using mem)
  picker mem := passed.picker (by simpa [picker.symm] using mem)

theorem sampledReady_of_count {k : ChildKind} {n : Nat} {front sample : List Turn}
    {write : Turn} {replicas : Replicas} (isWrite : write.call.isChildWrite = true)
    (count : (childWrites (front ++ [write])).length = n)
    (run : Runs (ExceptT.run (Replicas.probe g.registry (r.namespaceOr "default")
      (k.childName r.name))) sample (.ok replicas)) (ready : replicas.isReady = true) :
    g.SampledReady r k n (front ++ [write] ++ sample) :=
  ⟨front, write, sample, [], replicas, by simp, isWrite, count, run, ready⟩

theorem conforms_settle {k : ChildKind} {done : List ChildKind} {front : List Turn}
    {write : Turn} {b : StatusBoard} (passed : g.Passed r done (front ++ [write]))
    (isWrite : write.call.isChildWrite = true)
    (model : k = .accessPoint → (childWrites (front ++ [write])).length = 2)
    (picker : k = .routingAccessPoint → (childWrites (front ++ [write])).length = 8) :
    Conforms (g.MayCall r) (fun later out => ∃ turns, later = front ++ [write] ++ turns ∧
        childWrites turns = [] ∧ (out.1 = .ok true → g.Passed r (done ++ [k]) later))
      (front ++ [write]) ((g.settle (r.namespaceOr "default") r.name k).run b) := by
  cases k with
  | accessPoint =>
    refine conforms_step.mpr (conforms_count.mono ?_)
    rintro later ⟨e | replicas, b⟩ ⟨sample, rfl, quiet, run⟩
    · exact ⟨sample, rfl, quiet, nofun⟩
    · refine fun _ => ⟨sample, rfl, quiet, fun ready => ?_⟩
      have sampled := sampledReady_of_count isWrite (model rfl) (run replicas rfl)
        (Except.ok.inj ready)
      exact ⟨fun _ => sampled, fun mem => (passed.append sample).picker (by simpa using mem)⟩
  | routingAccessPoint =>
    refine conforms_step.mpr (conforms_count.mono ?_)
    rintro later ⟨e | replicas, b⟩ ⟨sample, rfl, quiet, run⟩
    · exact ⟨sample, rfl, quiet, nofun⟩
    · refine fun _ => ⟨sample, rfl, quiet, fun ready => ?_⟩
      have sampled := sampledReady_of_count isWrite (picker rfl) (run replicas rfl)
        (Except.ok.inj ready)
      exact ⟨fun mem => (passed.append sample).modelServer (by simpa using mem), fun _ => sampled⟩
  | pool => exact fun _ => ⟨[], by simp, rfl, fun _ => passed.other (by decide) (by decide)⟩
  | route => exact fun _ => ⟨[], by simp, rfl, fun _ => passed.other (by decide) (by decide)⟩
  | _ => exact ⟨[], by simp, rfl, fun _ => passed.other (by decide) (by decide)⟩

/-- All children were written, and both workloads were ready when they were counted. -/
structure Complete (g : Engine) (r : InferenceScheduler) (before : List Turn) : Prop where
  written : g.Written r (g.childAddresses r) before
  modelServer : g.SampledReady r .workload 2 before
  picker : g.SampledReady r .routingWorkload 8 before

/-- How bringing a root in line may end: only a complete pass ends well in phase `ready`. -/
def EndsWell (g : Engine) (r : InferenceScheduler) (later : List Turn)
    (out : Except ReconcileError Requeue × StatusBoard) : Prop :=
  g.InOrder r later ∧ ∀ wait b, out = (.ok wait, b) → b.current.phase = some .ready →
    g.Complete r later

theorem endsWell_error {e : ReconcileError} {b : StatusBoard} (ordered : g.InOrder r before) :
    g.EndsWell r before (.error e, b) :=
  ⟨ordered, fun _ _ same => by cases same⟩

theorem gates_before {done rest : List ChildKind} {k : ChildKind}
    (split : done ++ k :: rest = ChildKind.all) :
    (∀ j, j < k.resources.length → 2 ≤ (done.flatMap ChildKind.resources).length + j →
      .accessPoint ∈ done) ∧
    (∀ j, j < k.resources.length → 8 ≤ (done.flatMap ChildKind.resources).length + j →
      .routingAccessPoint ∈ done) ∧
    (k = .accessPoint → (done.flatMap ChildKind.resources).length + k.resources.length = 2) ∧
    (k = .routingAccessPoint →
      (done.flatMap ChildKind.resources).length + k.resources.length = 8) := by
  obtain ⟨i, short, place, here⟩ := ChildKind.place_of_split split
  subst place
  clear split
  interval_cases i <;> (cases here; decide)

theorem addressesOf_length (kinds : List ChildKind) :
    (g.addressesOf r kinds).length = (kinds.flatMap ChildKind.resources).length := by
  simp [addressesOf, List.length_flatMap]

theorem build_addresses {plan : Plan} (named : plan.name = r.name)
    (placed : plan.namespace_ = r.namespaceOr "default") (k : ChildKind) :
    (k.build plan).map g.addressOf = g.addressesOf r [k] := by
  have keys := congrArg (List.map fun e : ResourceType × String =>
    (⟨g.registry.api e.1, e.1.within (r.namespaceOr "default"), e.2⟩ : Address))
    (k.build_keys plan)
  simp only [List.map_map, named] at keys
  simp only [addressesOf, List.flatMap_cons, List.flatMap_nil, List.append_nil]
  refine Eq.trans (List.map_congr_left fun d mem => ?_) keys
  simp only [addressOf, Function.comp, (k.build_placed plan d mem).1, placed]

theorem addressesOf_append (first second : List ChildKind) :
    g.addressesOf r (first ++ second) = g.addressesOf r first ++ g.addressesOf r second :=
  List.flatMap_append ..

theorem Passed.gates {done rest : List ChildKind} {k : ChildKind} {n : Nat}
    (passed : g.Passed r done before) (split : done ++ k :: rest = ChildKind.all)
    (low : (g.addressesOf r done).length ≤ n)
    (high : n < (g.addressesOf r done).length + k.resources.length) : g.Gates r n before := by
  obtain ⟨model, picker, _⟩ := gates_before split
  rw [addressesOf_length] at low high
  obtain ⟨j, rfl⟩ := Nat.exists_eq_add_of_le low
  exact ⟨fun two => passed.modelServer (model j (by omega) two),
    fun eight => passed.picker (picker j (by omega) eight)⟩

theorem childAddresses_split {done rest : List ChildKind} {k : ChildKind}
    (split : done ++ k :: rest = ChildKind.all) :
    g.childAddresses r =
      g.addressesOf r done ++ (g.addressesOf r [k] ++ g.addressesOf r rest) := by
  rw [childAddresses_eq, ← split, ← addressesOf_append, ← addressesOf_append,
    List.singleton_append]

theorem conforms_writeGroup {plan : Plan} (named : plan.name = r.name)
    (placed : plan.namespace_ = r.namespaceOr "default") {done rest : List ChildKind}
    {k : ChildKind} (split : done ++ k :: rest = ChildKind.all) {b : StatusBoard}
    (written : g.Written r (g.addressesOf r done) before) (passed : g.Passed r done before) :
    Conforms (g.MayCall r) (fun later out => match out with
      | (.ok _, _) => g.Written r (g.addressesOf r (done ++ [k])) later ∧
          ∃ front write, later = front ++ [write] ∧ write.call.isChildWrite = true ∧
            g.Passed r done later
      | (.error _, _) => g.InOrder r later) before ((g.writeAll k (k.build plan)).run b) := by
  have listed : g.childAddresses r = g.addressesOf r done ++
      ((k.build plan).map g.addressOf ++ g.addressesOf r rest) := by
    rw [build_addresses named placed]
    exact childAddresses_split split
  have size : (k.build plan).length = k.resources.length := by
    simpa using congrArg List.length (k.build_keys plan)
  have named' : ∀ d ∈ k.build plan, (d.payload.get "metadata").get "name" = .str d.name :=
    fun d mem => (k.build_tidy plan d mem).named
  refine (conforms_writeAll written listed named' fun n low high => ?_).mono ?_
  · rw [size] at high
    exact passed.gates split low high
  · rintro later ⟨e | _, b⟩ out
    · exact out
    · obtain ⟨written, turns, rfl, ended, some⟩ := out
      rw [build_addresses named placed, ← addressesOf_append] at written
      obtain ⟨front, write, rfl, isWrite⟩ := ended.resolve_left (some (k.build_ne_nil plan))
      exact ⟨written, before ++ front, write, by rw [List.append_assoc], isWrite, passed.append _⟩

/-- The groups that are left are written in their order, and the pass ends in phase `ready`
only when none is left. -/
theorem conforms_writeChildren {plan : Plan} (named : plan.name = r.name)
    (placed : plan.namespace_ = r.namespaceOr "default") {done rest : List ChildKind}
    (split : done ++ rest = ChildKind.all) {b : StatusBoard}
    (written : g.Written r (g.addressesOf r done) before) (passed : g.Passed r done before) :
    Conforms (g.MayCall r) (g.EndsWell r) before
      ((g.writeChildren (r.namespaceOr "default") r.name plan rest).run b) := by
  induction rest generalizing done before b with
  | nil =>
    rw [List.append_nil] at split
    subst split
    have all := written
    rw [← childAddresses_eq] at all
    refine ⟨all.inOrder (List.append_nil _).symm, fun _ _ _ _ => ⟨all, ?_, ?_⟩⟩
    · exact passed.modelServer (by decide)
    · exact passed.picker (by decide)
  | cons k rest ih =>
    obtain ⟨_, _, two, eight⟩ := gates_before split
    refine conforms_step.mpr ((conforms_writeGroup named placed split written passed).mono ?_)
    rintro later ⟨e | _, b⟩ out
    · exact endsWell_error out
    obtain ⟨written, front, write, rfl, isWrite, passed⟩ := out
    have count : (childWrites (front ++ [write])).length =
        (done.flatMap ChildKind.resources).length + k.resources.length := by
      rw [written.length, addressesOf_length, List.flatMap_append]
      simp
    have inOrder : g.InOrder r (front ++ [write]) := by
      refine written.inOrder (?_ : g.childAddresses r = _ ++ g.addressesOf r rest)
      rw [childAddresses_split split, addressesOf_append, List.append_assoc]
    refine conforms_step.mpr ((conforms_settle passed isWrite (fun h => by rw [count, two h])
      (fun h => by rw [count, eight h])).mono ?_)
    rintro last ⟨e | ready, b⟩ ⟨turns, rfl, quiet, passed⟩
    · exact endsWell_error (inOrder.append quiet)
    · cases ready with
      | true => exact ih (by simpa using split) (written.append quiet) (passed rfl)
      | false =>
        refine ⟨inOrder.append quiet, fun wait b' same ready => ?_⟩
        cases same
        cases ready

theorem check_lists (plan : Plan) :
    Conforms (fun _ c => c.op = .list) (fun _ _ => True) before
      (ExceptT.run (Preflight.check g.registry plan)) := by
  have probes : Conforms _ _ before (ExceptT.run (Preflight.probe g.registry Capability.all)) :=
    Preflight.probe_conforms Capability.all
  refine conforms_attempt.mpr (probes.weaken ?_ ?_)
  · rintro later _ ⟨api, rfl⟩
    rfl
  rintro later (e | probed) _
  · trivial
  · refine conforms_attempt.mpr ?_
    split
    · refine conforms_attempt.mpr ⟨rfl, ?_⟩
      rintro (e | installed) <;> trivial
    · trivial

theorem conforms_preflight {plan : Plan} (resolved : Plan.resolve r = .ok plan)
    (quiet : childWrites before = []) {b : StatusBoard} :
    Conforms (g.MayCall r) (fun later out => (∃ turns, later = before ++ turns) ∧
        childWrites later = [] ∧ (out.1 = .ok none → g.Cleared r later) ∧
        ∀ wait, out.1 = .ok (some wait) → out.2.current.phase ≠ some .ready)
      before ((g.preflight plan).run b) := by
  refine conforms_step.mpr (conforms_step_outcome.mpr ?_)
  refine Conforms.of_runs (fun c => c.op = .list) (check_lists plan) ?_ ?_
  · intro later c isList
    exact mayCall_other (by rw [isList]; nofun) (by simp [StoreCall.isChildWrite, isList])
  · intro probes out run lists
    have reads : childWrites probes = [] :=
      childWrites_of_none fun t mem => by simp [StoreCall.isChildWrite, lists t mem]
    have still : childWrites (before ++ probes) = [] := by rw [childWrites_append, quiet, reads]; rfl
    rcases out with e | _ | items
    · exact fun _ => ⟨⟨probes, rfl⟩, still, nofun, nofun⟩
    · exact fun _ => ⟨⟨probes, rfl⟩, still,
        fun _ => ⟨plan, before, probes, [], resolved, by simp, still, run⟩, nofun⟩
    · exact fun _ => ⟨⟨probes, rfl⟩, still, nofun, fun _ _ => by nofun⟩

theorem conforms_saveStatus {ns name : String} {b : StatusBoard} :
    Conforms (g.MayCall r) (fun later _ => ∃ turns, later = before ++ turns ∧
      childWrites turns = []) before (saveStatus ns name b) :=
  Conforms.saveStatus (fun _ => mayCall_other nofun rfl) (fun _ => ⟨[], by simp, rfl⟩) ⟨_, rfl, rfl⟩
    fun _ => ⟨_, rfl, rfl⟩

theorem conforms_observeFirst {ns name : String} {b : StatusBoard} :
    Conforms (g.MayCall r) (fun later _ => ∃ turns, later = before ++ turns ∧
      childWrites turns = []) before ((g.observeFirst ns name).run b) :=
  Conforms.observeFirst (fun _ => ⟨[], by simp, rfl⟩) fun _ => conforms_saveStatus

theorem conforms_bringInLine {b : StatusBoard} (marked : Marked r before)
    (quiet : childWrites before = []) :
    Conforms (g.MayCall r) (g.EndsWell r) before ((g.bringInLine r).run b) := by
  have unwritten : ∀ later, childWrites later = [] → g.InOrder r later := by
    intro later empty
    rw [InOrder, empty]
    exact List.nil_prefix
  refine conforms_step.mpr (conforms_observeFirst.mono ?_)
  rintro observed out ⟨turns, rfl, reads⟩
  replace quiet : childWrites (before ++ turns) = [] := by
    rw [childWrites_append, quiet, reads, List.append_nil]
  obtain ⟨e | _, b⟩ := out
  · exact endsWell_error (unwritten _ quiet)
  refine conforms_step.mpr ?_
  unfold acceptSpec
  cases resolved : Plan.resolve r with
  | error e => exact fun _ => endsWell_error (unwritten _ quiet)
  | ok plan =>
    intro time
    refine conforms_step.mpr ((conforms_preflight resolved quiet).mono ?_)
    rintro probed ⟨e | _ | wait, b⟩ ⟨⟨probes, rfl⟩, quiet, cleared, waits⟩
    · exact endsWell_error (unwritten _ quiet)
    · obtain ⟨named, placed, _⟩ := Plan.resolve_root resolved
      refine conforms_writeChildren named placed (List.nil_append _) ?_ ⟨nofun, nofun⟩
      exact ⟨(marked.append _).append _, cleared rfl, by rw [quiet]; simp,
        by rw [quiet]; rfl⟩
    · refine ⟨unwritten _ quiet, fun again b' same ready => ?_⟩
      cases same
      exact absurd ready (waits wait rfl)

theorem conforms_ensureMarker :
    Conforms (g.MayCall r) (fun later out => childWrites later = [] ∧
      ∀ wrote, out = .ok wrote → Marked r later) [] (ExceptT.run r.ensureMarker) :=
  Conforms.ensureMarker (fun marker => ⟨rfl, fun _ _ => .inl marker⟩)
    fun _ => ⟨mayCall_other nofun rfl, fun _ => ⟨rfl, nofun⟩, rfl, fun _ _ => .inr (by simp)⟩

theorem conforms_conclude {ns name : String} {out : Except ReconcileError Requeue × StatusBoard} :
    Conforms (g.MayCall r) (fun later _ => ∃ turns, later = before ++ turns ∧
      childWrites turns = []) before (conclude ns name out) :=
  Conforms.conclude (fun _ => mayCall_other nofun rfl) (fun _ => ⟨[], by simp, rfl⟩) ⟨_, rfl, rfl⟩
    fun _ => ⟨_, rfl, rfl⟩

/-- The pass over `r` took the transition `converged`: after the marker it brought the root in
line, which ended well and in phase `ready`. -/
def WentThrough (g : Engine) (r : InferenceScheduler) (trace : List Turn) : Prop :=
  ∃ front body back wrote wait b, trace = front ++ body ++ back ∧
    Runs (ExceptT.run r.ensureMarker) front (.ok wrote) ∧
    Runs ((g.bringInLine r).run (.start r.status r.metadata.generation)) body (.ok wait, b) ∧
    b.current.phase = some .ready

/-- The pass over a root that is not being deleted, once the root was read. -/
theorem conforms_alive (g : Engine) (ns : String) (r : InferenceScheduler) :
    Conforms (g.MayCall r) (fun later _ => g.InOrder r later) []
      ((ExceptT.run r.ensureMarker).bind fun
        | .error e => .done (if e.isNotFound then .ok .never else .error (.store e))
        | .ok _ => ((g.bringInLine r).run (.start r.status r.metadata.generation)).bind
            (conclude ns r.name)) := by
  refine conforms_bind.mpr (conforms_ensureMarker.mono ?_)
  rintro later (e | wrote) ⟨quiet, marked⟩
  · change g.InOrder r later
    rw [InOrder, quiet]
    exact List.nil_prefix
  · refine conforms_bind.mpr ((conforms_bringInLine (marked _ rfl) quiet).mono ?_)
    rintro later out ⟨ordered, _⟩
    refine conforms_conclude.mono ?_
    rintro last _ ⟨turns, rfl, quiet⟩
    exact ordered.append quiet

/-- Whatever the store replies to a pass over a root that is not being deleted: the pass
deletes nothing; its child writes address the first children of the list in the order of the
list, each only after the marker, the spec, the probes, every earlier child and the samples
in front of it; and it goes all the way only where every child was written and both
workloads were ready. -/
theorem child_writes_gated_and_ordered (g : Engine) {ns name : String} {r : InferenceScheduler}
    {trace : List Turn} {result : Except ReconcileError Requeue} (named : r.name = name)
    (alive : r.metadata.deletionTimestamp = none)
    (run : Runs (g.reconcile ns name) (⟨.getRoot ns name, .ok (some r)⟩ :: trace) result) :
    (childWrites trace).map (fun t => t.call.address?) <+:
      ((childKeys name).map fun k =>
        ⟨g.registry.api k.1, k.1.within (r.namespaceOr "default"), k.2⟩).map some ∧
    (∀ t ∈ trace, t.call.op ≠ .delete) ∧
    (∀ front write back, trace = front ++ write :: back → write.call.isChildWrite = true →
      ∃ a, write.call.address? = some a ∧ g.MayWrite r a front) ∧
    (g.WentThrough r trace → (childWrites trace).length = 11 ∧
      (∀ t ∈ childWrites trace, t.succeeded) ∧ g.SampledReady r .workload 2 trace ∧
      g.SampledReady r .routingWorkload 8 trace) := by
  subst named
  obtain ⟨reply, rest, same, tail⟩ := runs_call run
  cases same
  simp only [alive, Option.isSome_none, Bool.false_eq_true, if_false] at tail
  have conforms := conforms_alive g ns r
  have ordered := conforms.at_end tail
  have calls : ∀ front write back, trace = front ++ write :: back →
      g.MayCall r ([] ++ front) write.call :=
    fun _ _ _ split => conforms.at_call tail split
  refine ⟨?_, ?_, ?_, ?_⟩
  · exact ordered
  · intro t mem
    obtain ⟨front, back, split⟩ := List.append_of_mem mem
    exact (calls front t back split).1
  · intro front write back split isWrite
    simpa using (calls front write back split).2 isWrite
  · rintro ⟨front, body, back, wrote, wait, b, rfl, attached, aligned, ready⟩
    obtain ⟨quiet, marked⟩ := (conforms_ensureMarker (g := g)).at_end attached
    have complete : g.Complete r (front ++ body) :=
      ((conforms_bringInLine (marked wrote rfl) quiet).at_end aligned).2 wait b rfl ready
    have eleven : (childWrites (front ++ body)).length = 11 := complete.written.length
    -- All addresses of the list are taken, so nothing was written afterwards.
    have quietBack : childWrites back = [] := by
      have most := ordered.length_le
      simp only [List.nil_append, childWrites_append _ back, List.length_map,
        List.length_append, eleven] at most
      have listed : (g.childAddresses r).length = 11 := rfl
      exact List.length_eq_zero_iff.mp (by omega)
    rw [childWrites_append _ back, quietBack, List.append_nil]
    exact ⟨eleven, complete.written.succeeded, complete.modelServer.append back,
      complete.picker.append back⟩

theorem child_writes_of_fresh_root : ∃ r trace,
    Runs ((Engine.mk .builtin {}).reconcile "default" "demo")
      (⟨.getRoot "default" "demo", .ok (some r)⟩ :: trace) (.ok (.after 300)) ∧
    r.name = "demo" ∧ r.metadata.deletionTimestamp = none ∧
    (∀ t ∈ trace, t.call.op ≠ .delete) ∧
    (childWrites trace).map (fun t => t.call.address?) <+:
      ((childKeys "demo").map fun k =>
        ⟨k.1.builtinApi, k.1.within (r.namespaceOr "default"), k.2⟩).map some := by
  have passed : (((Engine.mk .builtin {}).reconcile "default" "demo").run (Cluster.asStore "")
      Cluster.fresh).1 = .ok (.after 300) := by decide +kernel
  obtain ⟨r, found, named, alive⟩ : ∃ r, Cluster.fresh.root? "default" "demo" = some r ∧
      r.name = "demo" ∧ r.metadata.deletionTimestamp = none :=
    ⟨_, rfl, by decide +kernel, by decide +kernel⟩
  have run := runsOn_run (Cluster.asStore "") ((Engine.mk .builtin {}).reconcile "default" "demo")
    Cluster.fresh
  rw [passed] at run
  have reply : ((Cluster.asStore "").answer (.getRoot "default" "demo") Cluster.fresh).1 =
      .ok (some r) := by rw [← found]; rfl
  obtain ⟨trace, tail⟩ := runs_of_runsOn (runsOn_call.mp run)
  rw [reply] at tail
  have whole : Runs ((Engine.mk .builtin {}).reconcile "default" "demo")
      (⟨.getRoot "default" "demo", .ok (some r)⟩ :: trace) (.ok (.after 300)) := by
    refine .call _ ?_
    exact tail
  have held := child_writes_gated_and_ordered _ named alive whole
  exact ⟨r, trace, whole, named, alive, held.2.1, held.1⟩

end Engine
end SchedulerOperator
