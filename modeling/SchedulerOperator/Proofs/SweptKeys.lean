import SchedulerOperator.Proofs.Coordinates
import SchedulerOperator.Proofs.Isolation
import SchedulerOperator.Proofs.Selectors

namespace SchedulerOperator
open Pass

def StoreCall.looked? : StoreCall → Option Address
  | .get api ns name => some ⟨api, ns, name⟩
  | _ => none

def lookups (trace : List Turn) : List Turn := trace.filter fun t => t.call.op == .get

theorem lookups_append (front back : List Turn) :
    lookups (front ++ back) = lookups front ++ lookups back := List.filter_append ..

structure Address.SpelledBy (a : Address) (v : Json) : Prop where
  names : v.Names a.api
  called : ((v.get "metadata").get "name").str? = some a.name
  placed : ((v.get "metadata").get "namespace").str? = a.ns

/-- What lies at `keys`, and nothing else, was looked at and written, in this order. -/
structure VisitedAt (keys : List Address) (trace : List Turn) : Prop where
  looked : (lookups trace).map (fun t => t.call.looked?) = keys.map some
  written : (childWrites trace).map (fun t => t.call.address?) = keys.map some

/-- What was looked at, and what was written, lies at the first ones of `keys`. -/
structure VisitedInOrder (keys : List Address) (trace : List Turn) : Prop where
  looked : (lookups trace).map (fun t => t.call.looked?) <+: keys.map some
  written : (childWrites trace).map (fun t => t.call.address?) <+: keys.map some

section
variable {keys done rest : List Address} {a : Address} {before : List Turn}

theorem VisitedAt.inOrder (visited : VisitedAt done before) (split : done ++ rest = keys) :
    VisitedInOrder keys before := by
  subst split
  constructor
  · rw [visited.looked, List.map_append]
    exact List.prefix_append _ _
  · rw [visited.written, List.map_append]
    exact List.prefix_append _ _

theorem VisitedAt.looking (visited : VisitedAt done before) (split : done ++ a :: rest = keys)
    (reply : StoreCall.Reply (.get a.api a.ns a.name)) :
    VisitedInOrder keys (before ++ [⟨_, reply⟩]) := by
  subst split
  constructor
  · rw [lookups_append, List.map_append, visited.looked, List.append_cons, List.map_append,
      List.map_append]
    exact List.prefix_append _ _
  · rw [childWrites_append, List.map_append, visited.written, List.map_append]
    exact (List.prefix_append_right_inj _).mpr List.nil_prefix

theorem VisitedAt.one_more (visited : VisitedAt done before)
    (reply : StoreCall.Reply (.get a.api a.ns a.name)) {write : Turn}
    (isWrite : write.call.isChildWrite = true) (there : write.call.address? = some a) :
    VisitedAt (done ++ [a]) (before ++ [⟨_, reply⟩] ++ [write]) := by
  have one : childWrites [write] = [write] := by simp [childWrites, isWrite]
  have other : lookups [write] = [] := by
    simp only [StoreCall.isChildWrite, Bool.or_eq_true, beq_iff_eq] at isWrite
    rcases isWrite with op | op <;> simp [lookups, op]
  constructor
  · rw [lookups_append, lookups_append, other, List.append_nil, List.map_append, visited.looked,
      List.map_append]
    rfl
  · rw [childWrites_append, childWrites_append, one, List.map_append, List.map_append,
      visited.written, List.map_append, List.map_cons, there]
    simp [childWrites, StoreCall.isChildWrite, StoreCall.op]

end

namespace ChildObject
variable {d : ChildObject} {registry : TypeRegistry}

theorem Sends.isChildWrite {c : StoreCall} (sends : d.Sends registry c) :
    c.isChildWrite = true := by
  cases sends <;> rfl

theorem Sends.addressed {c : StoreCall} (sends : d.Sends registry c)
    (named : (d.payload.get "metadata").get "name" = .str d.name) :
    c.address? =
      some ⟨registry.api d.resource, d.resource.within d.namespace_, d.name⟩ := by
  cases sends with
  | creates =>
    have place : ((withOwners [d.owner.toJson] d.payload).get "metadata").get "name" =
        .str d.name := by
      rw [withOwners, Json.get_modify_self, Json.get_set_other _ _ (by decide), named]
    rw [StoreCall.address?, place]
    rfl
  | replaces existing => rfl

end ChildObject

namespace Engine
variable {g : Engine} {r : InferenceScheduler} {plan : Plan} {before : List Turn}
  {keys done rest : List Address}

theorem conforms_visit {d : ChildObject} (visited : VisitedAt done before)
    (split : done ++ g.addressOf d :: rest = keys)
    (named : (d.payload.get "metadata").get "name" = .str d.name) :
    Conforms (fun _ _ => True) (fun later out => VisitedInOrder keys later ∧
        ∀ w, out = .ok w → VisitedAt (done ++ [g.addressOf d]) later)
      before (ExceptT.run (d.write g.registry)) := by
  have further : done ++ [g.addressOf d] ++ rest = keys := (List.append_cons ..).symm.trans split
  refine conforms_attempt.mpr ⟨trivial, ?_⟩
  intro look
  have sent : ∀ (c : StoreCall) (reply : c.Reply), d.Sends g.registry c →
      VisitedAt (done ++ [g.addressOf d]) (before ++ [⟨_, look⟩] ++ [⟨c, reply⟩]) := by
    intro c reply sends
    exact visited.one_more (a := g.addressOf d) look sends.isChildWrite (sends.addressed named)
  -- nothing is written after a look that failed, and one write comes after any other
  rcases look with e | _ | existing
  · exact ⟨visited.looking split _, nofun⟩
  · refine conforms_attempt.mpr ⟨trivial, ?_⟩
    intro reply
    have wrote := sent _ reply .creates
    cases reply with
    | error e => exact ⟨wrote.inOrder further, nofun⟩
    | ok _ => exact ⟨wrote.inOrder further, fun _ _ => wrote⟩
  · refine conforms_attempt.mpr ⟨trivial, ?_⟩
    intro reply
    have wrote := sent _ reply (.replaces existing)
    cases reply with
    | error e => exact ⟨wrote.inOrder further, nofun⟩
    | ok _ => exact ⟨wrote.inOrder further, fun _ _ => wrote⟩

theorem conforms_visits {k : ChildKind} {ds : List ChildObject} {b : StatusBoard}
    (visited : VisitedAt done before) (split : done ++ ds.map g.addressOf = keys)
    (named : ∀ d ∈ ds, (d.payload.get "metadata").get "name" = .str d.name) :
    Conforms (fun _ _ => True) (fun later out => VisitedInOrder keys later ∧
        (out.1 = .ok () → VisitedAt keys later)) before ((g.writeAll k ds).run b) := by
  induction ds generalizing done before b with
  | nil =>
    rw [List.map_nil, List.append_nil] at split
    subst split
    exact ⟨visited.inOrder (List.append_nil _), fun _ => visited⟩
  | cons d ds ih =>
    have further : done ++ [g.addressOf d] ++ ds.map g.addressOf = keys :=
      (List.append_cons ..).symm.trans split
    -- a child that is written is among those done when the next one comes
    refine conforms_step.mpr (conforms_step_outcome.mpr ?_)
    refine (conforms_visit visited split (named d List.mem_cons_self)).mono ?_
    intro later out ⟨ordered, went⟩
    cases out with
    | error e => exact conforms_noteFailure fun _ => ⟨ordered, nofun⟩
    | ok w => exact ih (went w rfl) further fun d mem => named d (List.mem_cons_of_mem _ mem)

theorem children_addresses (resolved : Plan.resolve r = .ok plan) :
    plan.children.map g.addressOf = g.childAddresses r := by
  obtain ⟨named, placed, _⟩ := Plan.resolve_root resolved
  rw [childAddresses_eq, Plan.children, List.map_flatMap, addressesOf]
  congr 1
  funext k
  have group := build_addresses (g := g) named placed k
  simpa [addressesOf] using group

theorem sweptAddresses_reverse (keys : List (ResourceType × String)) :
    (g.sweptAddresses r keys.reverse).reverse = g.sweptAddresses r keys := by
  rw [sweptAddresses, sweptAddresses, List.map_reverse, List.reverse_reverse]

theorem childKeys_namespaced {root : String} {key : ResourceType × String}
    (mem : key ∈ childKeys root) : key.1.namespaced = true := by
  obtain ⟨k, _, listed⟩ := List.mem_flatMap.mp mem
  obtain ⟨t, typed, rfl⟩ := List.mem_map.mp listed
  exact k.namespaced t typed

theorem childAddresses_placed {a : Address} (mem : a ∈ g.childAddresses r) :
    a.ns = some (r.namespaceOr "default") := by
  obtain ⟨key, listed, rfl⟩ := List.mem_map.mp mem
  exact if_pos (childKeys_namespaced listed)

theorem sweptAddresses_placed {a : Address}
    (mem : a ∈ g.sweptAddresses r (childKeys r.name).reverse) : a.ns = some (r.namespaceOr "") := by
  obtain ⟨key, listed, rfl⟩ := List.mem_map.mp mem
  exact if_pos (childKeys_namespaced (List.mem_reverse.mp listed))

theorem childAddresses_ne_nil : g.childAddresses r ≠ [] := List.cons_ne_nil _ _

/-- Of a root that names its namespace, the children are swept where they are written. -/
theorem swept_of_named (named : r.metadata.namespace_.isSome) :
    (g.sweptAddresses r (childKeys r.name).reverse).reverse = g.childAddresses r := by
  obtain ⟨ns, here⟩ := Option.isSome_iff_exists.mp named
  rw [sweptAddresses_reverse, sweptAddresses, childAddresses, InferenceScheduler.namespaceOr,
    InferenceScheduler.namespaceOr, here]
  rfl

/-- Of any other root, no child is swept where a child is written. -/
theorem swept_of_unnamed (unnamed : r.metadata.namespace_ = none) :
    ∀ a ∈ g.childAddresses r, a ∉ g.sweptAddresses r (childKeys r.name).reverse := by
  intro a written swept
  have there := (childAddresses_placed written).symm.trans (sweptAddresses_placed swept)
  simp [InferenceScheduler.namespaceOr, unnamed] at there

theorem addressOf_spelled {d : ChildObject} (registry : g.registry = .builtin)
    (child : d ∈ plan.children) : (g.addressOf d).SpelledBy d.payload := by
  have tidy := Plan.children_tidy child
  constructor
  · rw [addressOf, registry]
    exact (ChildObject.namesBuiltin child).names
  · rw [tidy.named]
    rfl
  · rw [Json.get, tidy.placed]
    exact (if_pos tidy.namespaced).symm

theorem release_sweeps {trace : List Turn} {out : Except StoreError ReleaseOutcome}
    (sweeps : g.settings.cleanup = .sweep)
    (run : Runs (ExceptT.run (r.release g.registry g.settings.cleanup)) trace out) :
    g.SweptInOrder r trace ∧
      (out = .ok .released → g.SweptAt r trace (childKeys r.name).reverse) := by
  have read : WasRead r r [] := Or.inl rfl
  have unreleased : Unreleased [] := fun _ mem => absurd mem List.not_mem_nil
  have conforms := conforms_releaseSwept (g := g) read unreleased rfl
  obtain ⟨_, ordered, swept⟩ := conforms.at_end run
  exact ⟨ordered, fun released => swept released sweeps⟩

theorem writeAll_visits {k : ChildKind} {b : StatusBoard} {trace : List Turn}
    {out : Except ReconcileError Unit × StatusBoard}
    (run : Runs ((g.writeAll k plan.children).run b) trace out) :
    VisitedInOrder (plan.children.map g.addressOf) trace ∧
      (out.1 = .ok () → VisitedAt (plan.children.map g.addressOf) trace) := by
  have start : VisitedAt [] [] := ⟨rfl, rfl⟩
  have named : ∀ d ∈ plan.children, (d.payload.get "metadata").get "name" = .str d.name :=
    fun d child => (Plan.children_tidy child).named
  exact (conforms_visits start (List.nil_append _) named).at_end run

/-- Under `sweep`, with the built-in types, whatever the store replies: the children that are built
for a root are looked at and written under the keys that their payloads spell, in order, and a sweep
deletes what has the same types and names, latest first. These are the same keys if the root names
its namespace; if it does not, no key is among both. -/
theorem sweep_finds_children_in_named_namespace (registry : g.registry = .builtin)
    (sweeps : g.settings.cleanup = .sweep) (resolved : Plan.resolve r = .ok plan) :
    let swept := g.sweptAddresses r (childKeys r.name).reverse
    let written := plan.children.map g.addressOf
    (∀ trace out, Runs (ExceptT.run (r.release g.registry g.settings.cleanup)) trace out →
      g.SweptInOrder r trace ∧
        (out = .ok .released → g.SweptAt r trace (childKeys r.name).reverse)) ∧
    (∀ k b trace out, Runs ((g.writeAll k plan.children).run b) trace out →
      VisitedInOrder written trace ∧ (out.1 = .ok () → VisitedAt written trace)) ∧
    (∀ d ∈ plan.children, (g.addressOf d).SpelledBy d.payload) ∧
    swept.reverse.map (fun a => (a.api, a.name)) = written.map (fun a => (a.api, a.name)) ∧
    (r.metadata.namespace_.isSome → swept.reverse = written) ∧
    (r.metadata.namespace_ = none → ∀ a ∈ written, a ∉ swept) := by
  intro swept written
  have here : written = g.childAddresses r := children_addresses resolved
  refine ⟨fun _ _ => release_sweeps sweeps, fun _ _ _ _ => writeAll_visits,
    fun _ => addressOf_spelled registry, ?_, ?_, ?_⟩
  · rw [here, sweptAddresses_reverse, sweptAddresses, childAddresses, List.map_map, List.map_map]
    rfl
  · rw [here]
    exact swept_of_named
  · rw [here]
    exact swept_of_unnamed

theorem sweep_goes_through (registry : TypeRegistry) (ns : String)
    (keys : List (ResourceType × String)) :
    ∃ trace, Runs (ExceptT.run (InferenceScheduler.sweep registry ns keys)) trace (.ok ()) := by
  induction keys with
  | nil => exact ⟨[], .done _⟩
  | cons key rest ih =>
    obtain ⟨trace, run⟩ := ih
    exact ⟨_, .call (.ok ()) run⟩

theorem release_goes_through (sweeps : g.settings.cleanup = .sweep) (marked : r.hasMarker = true) :
    ∃ trace, Runs (ExceptT.run (r.release g.registry g.settings.cleanup)) trace
      (.ok .released) := by
  obtain ⟨trace, run⟩ :=
    sweep_goes_through g.registry (r.namespaceOr "") (childKeys r.name).reverse
  unfold InferenceScheduler.release
  rw [sweeps, marked]
  exact ⟨_, run.bind (.call (.ok ()) (.done _))⟩

theorem write_goes_through (registry : TypeRegistry) (d : ChildObject) :
    ∃ trace, Runs (ExceptT.run (d.write registry)) trace (.ok .created) := by
  apply Exists.intro
  apply Runs.call (.ok none)
  apply Runs.call (.ok Json.null)
  exact .done _

theorem writeAll_goes_through (k : ChildKind) (ds : List ChildObject) (b : StatusBoard) :
    ∃ trace, Runs ((g.writeAll k ds).run b) trace (.ok (), b) := by
  induction ds with
  | nil => exact ⟨[], .done _⟩
  | cons d rest ih =>
    obtain ⟨first, wrote⟩ := write_goes_through g.registry d
    obtain ⟨trace, run⟩ := ih
    have noted : Runs ((Step.outcome (d.write g.registry)).run b) (first ++ [])
        (.ok (.ok .created), b) := wrote.bind (.done _)
    exact ⟨_, noted.bind run⟩

def stemmed (ns : Option String) : InferenceScheduler :=
  { Plan.rootServing "m" with
    metadata :=
      { generateName := some "demo-", namespace_ := ns, uid := some "uid-0001",
        finalizers := some [finalizerMarker] } }

def sweeper : Engine := ⟨.builtin, { cleanup := .sweep }⟩

theorem stemmed_runs (ns : Option String) (sound : (Plan.resolve (stemmed ns)).isOk = true) :
    ∃ plan swept written b,
    Plan.resolve (stemmed ns) = .ok plan ∧
    Runs (ExceptT.run ((stemmed ns).release sweeper.registry sweeper.settings.cleanup)) swept
      (.ok .released) ∧
    Runs ((sweeper.writeAll .workload plan.children).run b) written (.ok (), b) := by
  obtain ⟨plan, resolved⟩ := Plan.resolves_of_isOk sound
  obtain ⟨swept, release⟩ := release_goes_through (g := sweeper) (r := stemmed ns) rfl rfl
  obtain ⟨written, write⟩ :=
    writeAll_goes_through (g := sweeper) .workload plan.children (.start none none)
  exact ⟨plan, swept, written, _, resolved, release, write⟩

theorem stemmed_children_are_swept : ∃ plan swept written b,
    Plan.resolve (stemmed (some "models")) = .ok plan ∧
    Runs (ExceptT.run ((stemmed (some "models")).release .builtin .sweep)) swept
      (.ok .released) ∧
    Runs ((sweeper.writeAll .workload plan.children).run b) written (.ok (), b) ∧
    ((deletions swept).map fun t => t.call.deleted?).reverse =
      (lookups written).map (fun t => t.call.looked?) ∧
    ((deletions swept).map fun t => t.call.deleted?).reverse =
      (childWrites written).map fun t => t.call.address? := by
  obtain ⟨plan, swept, written, b, resolved, release, write⟩ :=
    stemmed_runs (some "models") (by decide +kernel)
  obtain ⟨sweeps, visits, _, _, same, _⟩ :=
    sweep_finds_children_in_named_namespace (g := sweeper) rfl rfl resolved
  have deleted := ((sweeps _ _ release).2 rfl).addressed
  have visited := (visits _ _ _ _ write).2 rfl
  refine ⟨plan, swept, written, b, resolved, release, write, ?_, ?_⟩
  · rw [deleted, visited.looked, ← List.map_reverse, same rfl]
  · rw [deleted, visited.written, ← List.map_reverse, same rfl]

/-- Not of every root whose spec resolves are the children swept where they are written: one that
names no namespace leaves them all behind. -/
theorem unnamed_namespace_is_swept_in_vain :
    ¬ ∀ (g : Engine) (r : InferenceScheduler) (plan : Plan) (k : ChildKind) (b b' : StatusBoard)
      (swept written : List Turn), g.registry = .builtin → g.settings.cleanup = .sweep →
      Plan.resolve r = .ok plan →
      Runs (ExceptT.run (r.release g.registry g.settings.cleanup)) swept (.ok .released) →
      Runs ((g.writeAll k plan.children).run b) written (.ok (), b') →
      ((deletions swept).map fun t => t.call.deleted?).reverse =
        (childWrites written).map fun t => t.call.address? := by
  intro claim
  obtain ⟨plan, swept, written, b, resolved, release, write⟩ :=
    stemmed_runs none (by decide +kernel)
  have same := claim _ _ _ _ _ _ _ _ rfl rfl resolved release write
  have deleted := ((release_sweeps rfl release).2 rfl).addressed
  have visited := (writeAll_visits write).2 rfl
  rw [deleted, visited.written, children_addresses resolved, ← List.map_reverse] at same
  have listed := (List.map_inj_right fun _ _ => Option.some.inj).mp same
  obtain ⟨a, stays⟩ := List.exists_mem_of_ne_nil _ (childAddresses_ne_nil (r := stemmed none))
  have gone : a ∈ (sweeper.sweptAddresses (stemmed none) (childKeys (stemmed none).name).reverse) :=
    List.mem_reverse.mp (listed ▸ stays)
  exact swept_of_unnamed rfl a stays gone

end Engine
end SchedulerOperator
