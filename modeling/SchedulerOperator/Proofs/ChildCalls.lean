import SchedulerOperator.Proofs.TeardownCalls

namespace SchedulerOperator
open Pass
variable {α β : Type}

namespace Pass
variable {sort : StoreCall → Prop}

/-- Whatever the store replies, all calls are of this sort. -/
def Makes (sort : StoreCall → Prop) (p : Pass α) : Prop :=
  Conforms (fun _ c => sort c) (fun _ _ => True) ([] : List Turn) p

theorem makes_call {c : StoreCall} {next : c.Reply → Pass α} (made : sort c)
    (rest : ∀ reply, Makes sort (next reply)) : Makes sort (.call c next) :=
  ⟨made, fun reply => (rest reply).anywhere⟩

theorem makes_bind {p : Pass α} {f : α → Pass β} (first : Makes sort p)
    (rest : ∀ a, Makes sort (f a)) : Makes sort (p.bind f) :=
  conforms_bind.mpr (first.mono fun _ a _ => (rest a).anywhere)

theorem makes_attempt {x : Attempt α} {f : α → Attempt β} (first : Makes sort (ExceptT.run x))
    (rest : ∀ a, Makes sort (ExceptT.run (f a))) : Makes sort (ExceptT.run (x >>= f)) := by
  refine makes_bind first fun out => ?_
  cases out with
  | ok a => exact rest a
  | error e => trivial

theorem makes_step {x : Step α} {f : α → Step β} {b : StatusBoard} (first : Makes sort (x.run b))
    (rest : ∀ a b, Makes sort ((f a).run b)) : Makes sort ((x >>= f : Step β).run b) := by
  refine makes_bind first fun out => ?_
  obtain ⟨e | a, b⟩ := out
  · trivial
  · exact rest a b

theorem makes_outcome {x : Attempt α} {b : StatusBoard} (calls : Makes sort (ExceptT.run x)) :
    Makes sort ((Step.outcome x).run b) := makes_bind calls fun _ => trivial

theorem Makes.allow {sort' : StoreCall → Prop} {p : Pass α} (makes : Makes sort p)
    (wider : ∀ c, sort c → sort' c) : Makes sort' p :=
  Conforms.allow makes fun _ c made => wider c made

theorem Makes.of_run {p : Pass α} {trace : List Turn} {a : α} (makes : Makes sort p)
    (run : Runs p trace a) : ∀ t ∈ trace, sort t.call := by
  intro t mem
  obtain ⟨front, back, split⟩ := List.append_of_mem mem
  exact Conforms.at_call makes run split

def turns {σ : Type} (s : Store σ) : Pass α → σ → List Turn
  | .done _, _ => []
  | .call c next, x => ⟨c, (s.answer c x).1⟩ :: (next (s.answer c x).1).turns s (s.answer c x).2
  | .clock next, x => (next (s.time x)).turns s x

theorem runs_turns {σ : Type} (s : Store σ) (p : Pass α) (x : σ) :
    Runs p (p.turns s x) (p.run s x).1 := by
  induction p generalizing x with
  | done a => exact .done a
  | call c next ih => exact .call _ (ih _ _)
  | clock next ih => exact .clock _ (ih _ _)

end Pass

inductive ChildObject.Sends (registry : TypeRegistry) (d : ChildObject) : StoreCall → Prop where
  | creates : d.Sends registry (.create (registry.api d.resource)
      (d.resource.within d.namespace_) (withOwners [d.owner.toJson] d.payload))
  | replaces (existing : Json) : d.Sends registry (.replace (registry.api d.resource)
      (d.resource.within d.namespace_) d.name (d.replacement existing))

namespace Engine
variable {g : Engine} {r : InferenceScheduler} {plan : Plan} {b : StatusBoard}

def Quiet (p : Pass α) : Prop := Makes (fun c => c.isChildWrite = false) p

/-- Every write is one of a child that was built for `r`. -/
def MaySend (g : Engine) (r : InferenceScheduler) (c : StoreCall) : Prop :=
  c.isChildWrite = true →
    ∃ plan, Plan.resolve r = .ok plan ∧ ∃ d ∈ plan.children, d.Sends g.registry c

theorem Quiet.sends {p : Pass α} (quiet : Quiet p) : Makes (g.MaySend r) p := by
  refine quiet.allow fun c reads write => ?_
  rw [reads] at write
  cases write

theorem quiet_saveStatus {ns name : String} : Quiet (saveStatus ns name b) :=
  Conforms.saveStatus (fun _ => rfl) (fun _ => trivial) trivial fun _ => trivial

theorem quiet_probe {ns name : String} :
    Quiet (ExceptT.run (Replicas.probe g.registry ns name)) := by
  refine makes_attempt (makes_call rfl fun _ => trivial) fun found => ?_
  cases found with
  | none => trivial
  | some v =>
    dsimp only
    split <;> trivial

theorem quiet_count {k : ChildKind} {ns root : String} : Quiet ((g.count k ns root).run b) := by
  refine makes_step (makes_outcome quiet_probe) fun out b => ?_
  cases out with
  | ok replicas => trivial
  | error e => exact fun _ => trivial

theorem quiet_settle {k : ChildKind} {ns name : String} : Quiet ((g.settle ns name k).run b) := by
  cases k <;> first
    | trivial
    | exact fun _ => trivial
    | exact makes_step quiet_count fun _ _ _ => trivial

theorem quiet_preflight : Quiet ((g.preflight plan).run b) := by
  have probes : Quiet (ExceptT.run (Preflight.check g.registry plan)) := by
    refine Makes.allow (check_lists plan) fun c isList => ?_
    simp [StoreCall.isChildWrite, isList]
  refine makes_step (makes_outcome probes) fun out b => ?_
  rcases out with e | _ | items <;> exact fun _ => trivial

theorem quiet_observeFirst {ns name : String} : Quiet ((g.observeFirst ns name).run b) :=
  Conforms.observeFirst (fun _ => trivial) fun _ => quiet_saveStatus

theorem quiet_ensureMarker : Quiet (ExceptT.run r.ensureMarker) :=
  Conforms.ensureMarker (fun _ => trivial) fun _ => ⟨rfl, fun _ => trivial, trivial⟩

theorem quiet_conclude {ns name : String} {out : Except ReconcileError Requeue × StatusBoard} :
    Quiet (conclude ns name out) :=
  Conforms.conclude (fun _ => rfl) (fun _ => trivial) trivial fun _ => trivial

theorem makes_write {d : ChildObject} :
    Makes (fun c => c.isChildWrite = true → d.Sends g.registry c)
      (ExceptT.run (d.write g.registry)) := by
  refine makes_attempt (makes_call nofun fun _ => trivial) fun found => ?_
  cases found with
  | none => exact makes_attempt (makes_call (fun _ => .creates) fun _ => trivial) fun _ => trivial
  | some existing =>
    exact makes_attempt (makes_call (fun _ => .replaces existing) fun _ => trivial) fun _ => trivial

section
variable (resolved : Plan.resolve r = .ok plan)
include resolved

theorem makes_writeAll {k : ChildKind} {ds : List ChildObject} (built : ∀ d ∈ ds, d ∈ plan.children) :
    Makes (g.MaySend r) ((g.writeAll k ds).run b) := by
  induction ds generalizing b with
  | nil => trivial
  | cons d rest ih =>
    have write : Makes (g.MaySend r) (ExceptT.run (d.write g.registry)) :=
      makes_write.allow fun c sends isWrite =>
        ⟨plan, resolved, d, built d List.mem_cons_self, sends isWrite⟩
    refine makes_step (makes_outcome write) fun out b => ?_
    cases out with
    | ok _ => exact ih fun d mem => built d (List.mem_cons_of_mem _ mem)
    | error e => exact fun _ => trivial

theorem makes_writeChildren {ns name : String} {kinds : List ChildKind} :
    Makes (g.MaySend r) ((g.writeChildren ns name plan kinds).run b) := by
  induction kinds generalizing b with
  | nil => trivial
  | cons k rest ih =>
    refine makes_step (makes_writeAll resolved fun d => k.build_children) fun _ b => ?_
    refine makes_step quiet_settle.sends fun ready b => ?_
    cases ready with
    | true => exact ih
    | false => trivial

end

theorem makes_bringInLine : Makes (g.MaySend r) ((g.bringInLine r).run b) := by
  refine makes_step quiet_observeFirst.sends fun _ b => ?_
  unfold acceptSpec
  cases resolved : Plan.resolve r with
  | error e => exact fun _ => trivial
  | ok plan =>
    intro time
    refine makes_step quiet_preflight.sends fun out b => ?_
    cases out with
    | none => exact makes_writeChildren resolved
    | some wait => trivial

theorem makes_upkeep {ns name : String} : Makes (g.MaySend r) (g.upkeep ns name r) := by
  refine makes_bind quiet_ensureMarker.sends fun out => ?_
  cases out with
  | error e => trivial
  | ok _ => exact makes_bind makes_bringInLine fun _ => quiet_conclude.sends

theorem quiet_tearDown : Quiet (g.tearDown r) :=
  (conforms_teardownCalls.mono fun _ _ _ => trivial).allow fun _ _ allowed => allowed.isNoWrite

/-- A pass that writes read a root whose spec resolves, and writes what was built for it. -/
theorem writes_are_built {ns name : String} {trace : List Turn}
    {result : Except ReconcileError Requeue} (run : Runs (g.reconcile ns name) trace result) :
    ∀ t ∈ trace, t.call.isChildWrite = true → ∃ r, ⟨.getRoot ns name, .ok (some r)⟩ ∈ trace ∧
      ∃ plan, Plan.resolve r = .ok plan ∧ ∃ d ∈ plan.children, d.Sends g.registry t.call := by
  obtain ⟨reply, rest, rfl, tail⟩ := runs_call run
  refine List.forall_mem_cons.mpr ⟨nofun, ?_⟩
  intro t mem write
  rcases reply with e | _ | r
  · rw [(runs_done tail).1] at mem
    cases mem
  · rw [(runs_done tail).1] at mem
    cases mem
  · have sends : Makes (g.MaySend r)
        (if r.metadata.deletionTimestamp.isSome then g.tearDown r else g.upkeep ns name r) := by
      split
      · exact quiet_tearDown.sends
      · exact makes_upkeep
    exact ⟨r, List.mem_cons_self, sends.of_run tail t mem write⟩

end Engine
end SchedulerOperator
