import SchedulerOperator.Proofs.ChildOrder
import SchedulerOperator.Proofs.Teardown

namespace SchedulerOperator
open Cluster Pass

def StoreCall.deleted? : StoreCall → Option Address
  | .delete api ns name => some ⟨api, ns, name⟩
  | _ => none

def deletions (trace : List Turn) : List Turn := trace.filter fun t => t.call.op == .delete

theorem deletions_append (front back : List Turn) :
    deletions (front ++ back) = deletions front ++ deletions back := List.filter_append ..

def Turn.LeavesNothing (t : Turn) : Prop :=
  ∀ e, t.reply = .error e → (e.isNotFound || e.isNoMatchingType) = true

namespace Engine
variable (g : Engine) (r root : InferenceScheduler) (before : List Turn)

/-- Where children of `root` are deleted. -/
def sweptAddresses (keys : List (ResourceType × String)) : List Address :=
  keys.map fun k => ⟨g.registry.api k.1, k.1.within (root.namespaceOr ""), k.2⟩

/-- What was deleted lies where the last children of the list are, latest first. -/
def SweptInOrder : Prop :=
  (deletions before).map (fun t => t.call.deleted?) <+:
    (g.sweptAddresses root (childKeys root.name).reverse).map some

/-- The children at `keys`, and no others, were deleted in this order, and none is left. -/
structure SweptAt (keys : List (ResourceType × String)) : Prop where
  addressed : (deletions before).map (fun t => t.call.deleted?) =
    (g.sweptAddresses root keys).map some
  gone : ∀ t ∈ deletions before, t.LeavesNothing

/-- The pass read `root`: first of all, or when it read its root again. -/
def WasRead : Prop := root = r ∨ ∃ ns name, ⟨.getRoot ns name, .ok (some root)⟩ ∈ before

def Unreleased : Prop := ∀ t ∈ before, t.call.op ≠ .setFinalizers

/-- What may be called once `r` was found to be deleted. Nothing follows a release. -/
def MayTearDown (c : StoreCall) : Prop :=
  Unreleased before ∧
  match c with
  | .getRoot ns name => ns = r.namespaceOr "default" ∧ name = r.name
  | .writeStatus ns name _ => ns = r.namespaceOr "default" ∧ name = r.name
  | .delete api ns name =>
    g.settings.cleanup = .sweep ∧ ∃ root, WasRead r root before ∧
      (g.sweptAddresses root (childKeys root.name).reverse)[(deletions before).length]? =
        some ⟨api, ns, name⟩
  | .setFinalizers root finalizers =>
    WasRead r root before ∧ finalizers = root.withoutMarker ∧
      (g.settings.cleanup = .sweep → g.SweptAt root before (childKeys root.name).reverse)
  | _ => False

def EndsSwept : Prop := ∃ root, WasRead r root before ∧ g.SweptInOrder root before

variable {g r root before}

theorem WasRead.append (read : WasRead r root before) (more : List Turn) :
    WasRead r root (before ++ more) := by
  refine read.imp_right ?_
  intro ⟨ns, name, mem⟩
  exact ⟨ns, name, List.mem_append_left more mem⟩

theorem Unreleased.after (unreleased : Unreleased before) {t : Turn}
    (other : t.call.op ≠ .setFinalizers) : Unreleased (before ++ [t]) := by
  intro u mem
  cases List.mem_append.mp mem with
  | inl earlier => exact unreleased u earlier
  | inr last =>
    rw [List.mem_singleton.mp last]
    exact other

theorem sweptAddresses_append (front back : List (ResourceType × String)) :
    g.sweptAddresses root (front ++ back) = g.sweptAddresses root front ++ g.sweptAddresses root back :=
  List.map_append ..

theorem SweptAt.inOrder {done rest : List (ResourceType × String)}
    (swept : g.SweptAt root before done) (split : done ++ rest = (childKeys root.name).reverse) :
    g.SweptInOrder root before := by
  unfold SweptInOrder
  rw [swept.addressed, ← split, sweptAddresses_append, List.map_append]
  exact List.prefix_append _ _

theorem SweptAt.one_more {done : List (ResourceType × String)} {key : ResourceType × String}
    (swept : g.SweptAt root before done)
    (reply : StoreCall.Reply
      (.delete (g.registry.api key.1) (key.1.within (root.namespaceOr "")) key.2)) :
    (deletions (before ++ [⟨_, reply⟩])).map (fun t => t.call.deleted?) =
      (g.sweptAddresses root (done ++ [key])).map some := by
  rw [deletions_append, List.map_append, swept.addressed, sweptAddresses_append, List.map_append]
  rfl

theorem SweptAt.deleted {done : List (ResourceType × String)} {key : ResourceType × String}
    (swept : g.SweptAt root before done)
    {reply : StoreCall.Reply
      (.delete (g.registry.api key.1) (key.1.within (root.namespaceOr "")) key.2)}
    (gone : ∀ e, reply = .error e → (e.isNotFound || e.isNoMatchingType) = true) :
    g.SweptAt root (before ++ [⟨_, reply⟩]) (done ++ [key]) where
  addressed := swept.one_more reply
  gone := by
    intro t mem
    rw [deletions_append] at mem
    cases List.mem_append.mp mem with
    | inl earlier => exact swept.gone t earlier
    | inr last =>
      have here : t = ⟨_, reply⟩ := List.mem_singleton.mp last
      subst here
      exact gone

theorem SweptAt.tried {done rest : List (ResourceType × String)} {key : ResourceType × String}
    (swept : g.SweptAt root before done) (split : done ++ key :: rest = (childKeys root.name).reverse)
    (reply : StoreCall.Reply
      (.delete (g.registry.api key.1) (key.1.within (root.namespaceOr "")) key.2)) :
    g.SweptInOrder root (before ++ [⟨_, reply⟩]) := by
  unfold SweptInOrder
  rw [swept.one_more reply, ← split, List.append_cons done key rest,
    sweptAddresses_append (done ++ [key]) rest, List.map_append]
  exact List.prefix_append _ _

theorem SweptAt.next {done rest : List (ResourceType × String)} {key : ResourceType × String}
    (swept : g.SweptAt root before done) (split : done ++ key :: rest = (childKeys root.name).reverse) :
    (g.sweptAddresses root (childKeys root.name).reverse)[(deletions before).length]? =
      some ⟨g.registry.api key.1, key.1.within (root.namespaceOr ""), key.2⟩ := by
  have count : (deletions before).length = done.length := by
    simpa [sweptAddresses] using congrArg List.length swept.addressed
  rw [count, ← split, sweptAddresses]
  simp

theorem conforms_sweep (policy : g.settings.cleanup = .sweep)
    {done rest : List (ResourceType × String)} (split : done ++ rest = (childKeys root.name).reverse)
    (read : WasRead r root before) (unreleased : Unreleased before)
    (swept : g.SweptAt root before done) :
    Conforms (g.MayTearDown r) (fun later out => WasRead r root later ∧ Unreleased later ∧
      match out with
      | .ok _ => g.SweptAt root later (childKeys root.name).reverse
      | .error _ => g.SweptInOrder root later) before
      (ExceptT.run (InferenceScheduler.sweep g.registry (root.namespaceOr "") rest)) := by
  refine Conforms.sweep (fun later left => WasRead r root later ∧ Unreleased later ∧
    ∃ done, done ++ left = (childKeys root.name).reverse ∧ g.SweptAt root later done)
    ⟨read, unreleased, done, split, swept⟩ ?_ ?_
  · rintro later ⟨read, unreleased, done, split, swept⟩
    rw [List.append_nil] at split
    rw [split] at swept
    exact ⟨read, unreleased, swept⟩
  · rintro later key rest ⟨read, unreleased, done, split, swept⟩
    have further : done ++ [key] ++ rest = (childKeys root.name).reverse := by
      simpa using split
    refine ⟨⟨unreleased, policy, root, read, swept.next split⟩, ?_, fun e => ?_⟩
    · exact ⟨read.append _, unreleased.after nofun, _, further, swept.deleted nofun⟩
    · split
      · rename_i gone
        refine ⟨read.append _, unreleased.after nofun, _, further, swept.deleted ?_⟩
        rintro _ ⟨⟩
        exact gone
      · exact ⟨read.append _, unreleased.after nofun, swept.tried split _⟩

theorem deletions_release {finalizers : List String}
    (reply : StoreCall.Reply (.setFinalizers root finalizers)) :
    deletions (before ++ [⟨_, reply⟩]) = deletions before := by
  rw [deletions_append]
  exact List.append_nil _

/-- The marker is taken off last. Where it was taken off under `sweep`, the whole of the children
were deleted before. -/
theorem conforms_releaseSwept (read : WasRead r root before) (unreleased : Unreleased before)
    (untouched : deletions before = []) :
    Conforms (g.MayTearDown r) (fun later out => WasRead r root later ∧ g.SweptInOrder root later ∧
      (out = .ok .released → g.settings.cleanup = .sweep →
        g.SweptAt root later (childKeys root.name).reverse)) before
      (ExceptT.run (root.release g.registry g.settings.cleanup)) := by
  have none : g.SweptAt root before [] := by
    refine ⟨by rw [untouched]; rfl, ?_⟩
    rw [untouched]
    simp
  have nothing : g.SweptInOrder root before := none.inOrder (List.nil_append _)
  refine Conforms.letGo (fun later => WasRead r root later ∧ Unreleased later ∧
    g.SweptInOrder root later ∧
    (g.settings.cleanup = .sweep → g.SweptAt root later (childKeys root.name).reverse))
    (fun _ => ⟨read, nothing, nofun⟩) (fun cascades => ?_) (fun sweeps => ?_) ?_
  · refine ⟨read, unreleased, nothing, fun sweeps => ?_⟩
    cases cascades.symm.trans sweeps
  · refine (conforms_sweep sweeps (List.nil_append _) read unreleased none).mono ?_
    rintro later (e | _) ⟨read, unreleased, swept⟩
    · exact ⟨read, swept, nofun⟩
    · exact ⟨read, unreleased, swept.inOrder (List.append_nil _), fun _ => swept⟩
  · rintro later ⟨read, unreleased, ordered, swept⟩
    have kept : ∀ reply, g.SweptInOrder root (later ++
        [⟨.setFinalizers root root.withoutMarker, reply⟩]) := by
      intro reply
      unfold SweptInOrder
      rw [deletions_release reply]
      exact ordered
    refine ⟨⟨unreleased, read, rfl, swept⟩, fun e => ⟨read.append _, kept _, nofun⟩,
      read.append _, kept _, fun _ policy => ?_⟩
    obtain ⟨addressed, gone⟩ := swept policy
    exact ⟨by rw [deletions_release]; exact addressed, by rw [deletions_release]; exact gone⟩

theorem conforms_letGo (read : WasRead r root before) (unreleased : Unreleased before)
    (untouched : deletions before = []) :
    Conforms (g.MayTearDown r) (fun later _ => g.EndsSwept r later) before (g.release root) := by
  refine conforms_bind.mpr ((conforms_releaseSwept read unreleased untouched).mono ?_)
  intro later out ⟨read, ordered, _⟩
  cases out with
  | error e => exact ⟨root, read, ordered⟩
  | ok _ => exact ⟨root, read, ordered⟩

theorem MayTearDown.isNoWrite {c : StoreCall} (allowed : g.MayTearDown r before c) :
    c.isChildWrite = false := by
  obtain ⟨_, allowed⟩ := allowed
  cases c with
  | create api ns object => exact allowed.elim
  | replace api ns name object => exact allowed.elim
  | _ => rfl

theorem MayTearDown.sweeps {c : StoreCall} (allowed : g.MayTearDown r before c)
    (isDelete : c.op = .delete) : g.settings.cleanup = .sweep := by
  obtain ⟨_, allowed⟩ := allowed
  cases c with
  | delete api ns name => exact allowed.1
  | _ => cases isDelete

theorem endsSwept_untouched (untouched : deletions before = []) : g.EndsSwept r before := by
  refine ⟨r, .inl rfl, ?_⟩
  unfold SweptInOrder
  rw [untouched]
  exact List.nil_prefix

theorem conforms_teardownCalls :
    Conforms (g.MayTearDown r) (fun later _ => g.EndsSwept r later) [] (g.tearDown r) := by
  have fresh : Unreleased [] := fun t mem => absurd mem List.not_mem_nil
  refine Conforms.tearDown (fun _ => endsSwept_untouched rfl)
    (fun _ => conforms_letGo (.inl rfl) fresh rfl) fun _ _ => ⟨⟨fresh, rfl, rfl⟩, ?_⟩
  refine ⟨fun _ => endsSwept_untouched rfl, ⟨fresh.after nofun, rfl, rfl⟩, ?_⟩
  rintro (e | _ | root)
  · exact endsSwept_untouched rfl
  · exact endsSwept_untouched rfl
  · -- The root was read again, and is let go as it is now.
    refine conforms_letGo (.inr ⟨_, _, List.mem_append_right _ (List.mem_singleton.mpr rfl)⟩) ?_ rfl
    refine (fresh.after ?_).after ?_
    · nofun
    · nofun

/-- Whatever the store replies to a pass over a root that is being deleted: no child is written;
a root without the marker is left alone; under `cascade` nothing is deleted, and under `sweep`
the children are, latest first; and the marker is taken off only once nothing is left of any
of them. -/
theorem teardown_never_builds_nor_releases_early (g : Engine) {ns name : String}
    {r : InferenceScheduler} {trace : List Turn} {result : Except ReconcileError Requeue}
    (named : r.name = name) (deleted : r.metadata.deletionTimestamp.isSome)
    (reread : ∀ ns' name' root, ⟨.getRoot ns' name', .ok (some root)⟩ ∈ trace → root.name = name)
    (run : Runs (g.reconcile ns name) (⟨.getRoot ns name, .ok (some r)⟩ :: trace) result) :
    (∀ t ∈ trace, t.call.isChildWrite = false) ∧
    (r.hasMarker = false → trace = []) ∧
    (g.settings.cleanup = .cascade → ∀ t ∈ trace, t.call.op ≠ .delete) ∧
    (g.settings.cleanup = .sweep → ∃ root, WasRead r root trace ∧
      (deletions trace).map (fun t => t.call.deleted?) <+:
        ((childKeys name).reverse.map fun k =>
          ⟨g.registry.api k.1, k.1.within (root.namespaceOr ""), k.2⟩).map some) ∧
    ∀ front root finalizers reply back,
      trace = front ++ ⟨.setFinalizers root finalizers, reply⟩ :: back →
      WasRead r root front ∧ finalizerMarker ∉ finalizers ∧
      (g.settings.cleanup = .sweep →
        (deletions front).map (fun t => t.call.deleted?) =
          ((childKeys name).reverse.map fun k =>
            ⟨g.registry.api k.1, k.1.within (root.namespaceOr ""), k.2⟩).map some ∧
        ∀ t ∈ deletions front, ∀ e, t.reply = .error e →
          (e.isNotFound || e.isNoMatchingType) = true) := by
  obtain ⟨reply, rest, same, tail⟩ := runs_call run
  cases same
  simp only [deleted, if_true] at tail
  have conforms : Conforms (g.MayTearDown r) _ [] (g.tearDown r) := conforms_teardownCalls
  have calls : ∀ front t back, trace = front ++ t :: back → g.MayTearDown r front t.call := by
    intro front t back split
    exact conforms.at_call tail split
  have sameName : ∀ {root later more}, trace = later ++ more → WasRead r root later →
      root.name = name := by
    intro root later more split read
    cases read with
    | inl same => rw [same, named]
    | inr again =>
      obtain ⟨ns', name', mem⟩ := again
      exact reread ns' name' root (split ▸ List.mem_append_left more mem)
  refine ⟨?_, ?_, ?_, ?_, ?_⟩
  · intro t mem
    obtain ⟨front, back, split⟩ := List.append_of_mem mem
    exact (calls front t back split).isNoWrite
  · intro unmarked
    rw [tearDown_unmarked g unmarked] at tail
    rw [(runs_done tail).1]
  · intro policy t mem isDelete
    obtain ⟨front, back, split⟩ := List.append_of_mem mem
    cases policy.symm.trans ((calls front t back split).sweeps isDelete)
  · intro policy
    obtain ⟨root, read, ordered⟩ := conforms.at_end tail
    refine ⟨root, read, ?_⟩
    rw [← sameName (List.append_nil trace).symm read]
    exact ordered
  · intro front root finalizers reply back split
    obtain ⟨_, read, list, swept⟩ := calls front _ back split
    refine ⟨read, ?_, ?_⟩
    · rw [list]
      simp [InferenceScheduler.withoutMarker]
    · intro policy
      obtain ⟨addressed, gone⟩ := swept policy
      rw [← sameName split read]
      exact ⟨addressed, gone⟩

theorem handed_out_located {α : Type} {p : Pass α} {s t : Cluster} {a : α} {trace : List Turn}
    (versioned : s.Versioned) (turns : TurnsOn answer p s trace a t) :
    ∀ ns name root, ⟨.getRoot ns name, .ok (some root)⟩ ∈ trace → Located ⟨ns, name⟩ root := by
  let inv := fun (later : List Turn) (z : Cluster) => z.Versioned ∧ ∀ ns name root,
    ⟨.getRoot ns name, .ok (some root)⟩ ∈ later → Located ⟨ns, name⟩ root
  have start : inv [] s := ⟨versioned, fun ns name root mem => absurd mem List.not_mem_nil⟩
  have kept : inv ([] ++ trace) t := by
    refine turns.keeps (conforms_any p) start ?_
    intro later c z _ ⟨versioned, located⟩
    refine ⟨versioned.apply (.call c), ?_⟩
    intro ns name root mem
    cases List.mem_append.mp mem with
    | inl earlier => exact located ns name root earlier
    | inr last =>
      obtain ⟨rfl, reply⟩ := Turn.mk.inj (List.mem_singleton.mp last)
      have done := (eq_of_heq reply).symm
      rw [answer_ok done] at done
      obtain ⟨m, _, stamped⟩ := versioned ⟨ns, name⟩ root (Except.ok.inj done)
      exact stamped.located
  exact kept.2

theorem teardown_of_doomed : ∃ r trace,
    Runs ((Engine.mk .builtin { cleanup := .sweep }).reconcile "default" "demo")
      (⟨.getRoot "default" "demo", .ok (some r)⟩ :: trace) (.ok .never) ∧
    r.name = "demo" ∧ r.metadata.deletionTimestamp.isSome ∧
    (∀ ns name root, ⟨.getRoot ns name, .ok (some root)⟩ ∈ trace → root.name = "demo") ∧
    (∀ t ∈ trace, t.call.isChildWrite = false) ∧
    ∃ root, WasRead r root trace ∧
      (deletions trace).map (fun t => t.call.deleted?) <+:
        ((childKeys "demo").reverse.map fun k =>
          ⟨k.1.builtinApi, k.1.within (root.namespaceOr ""), k.2⟩).map some := by
  obtain ⟨r, found, named, deleted⟩ : ∃ r, doomed.root? "default" "demo" = some r ∧
      r.name = "demo" ∧ r.metadata.deletionTimestamp.isSome :=
    ⟨_, rfl, by decide +kernel, by decide +kernel⟩
  have passed : (((Engine.mk .builtin { cleanup := .sweep }).reconcile "default" "demo").run
      (asStore "") doomed).1 = .ok .never := by decide +kernel
  have run := runsOn_run (asStore "")
    ((Engine.mk .builtin { cleanup := .sweep }).reconcile "default" "demo") doomed
  rw [passed] at run
  obtain ⟨trace, turns⟩ := turnsOn_of_runsOn run
  obtain ⟨rest, rfl, tail⟩ := turnsOn_call turns
  have reply : ((asStore "").answer (.getRoot "default" "demo") doomed).1 =
      .ok (some r) := by rw [← found]; rfl
  rw [reply] at turns tail
  have calls : Runs ((Engine.mk .builtin { cleanup := .sweep }).tearDown r) rest (.ok .never) := by
    have after := tail.runs
    simp only [deleted, if_true] at after
    exact after
  have reread : ∀ ns name root, ⟨.getRoot ns name, .ok (some root)⟩ ∈ rest → root.name = "demo" := by
    intro ns name root mem
    obtain ⟨front, back, split⟩ := List.append_of_mem mem
    have asked := conforms_teardownCalls.at_call calls split
    have located := handed_out_located doomed_reachable.versioned turns ns name root
      (List.mem_cons_of_mem _ mem)
    rw [located.name, asked.2.2, named]
  have held := teardown_never_builds_nor_releases_early _ named deleted reread turns.runs
  exact ⟨r, rest, turns.runs, named, deleted, reread, held.1, held.2.2.2.1 rfl⟩

end Engine
end SchedulerOperator
