import SchedulerOperator.Proofs.CallEffects

/-!
A store looks before it touches anything, so all that a refusal may cost is a version.
-/
namespace SchedulerOperator

def errorOf {α : Type} : Except StoreError α → Option StoreError
  | .error e => some e
  | .ok _ => none

/-- Why an operation fails, if it does. The others have nothing that could be refused. -/
def Operation.error? : Operation → Cluster → Option StoreError
  | .call c, s => errorOf (s.answer c).1
  | .updateSpec ns name edit, s => errorOf (s.updateSpec ns name edit).1
  | .requestDeletion now ns name, s => errorOf (s.requestDeletion now ns name).1
  | .setReadyReplicas api ns name ready, s => errorOf (s.setReadyReplicas api ns name ready).1
  | _, _ => none

def StoreCall.isWrite (c : StoreCall) : Prop := c.op ≠ .get ∧ c.op ≠ .list

namespace Cluster
variable {α : Type} {s t : Cluster}

/-- Versions may have been handed out, and nothing else has happened. -/
structure Spared (s t : Cluster) : Prop where
  version : s.version ≤ t.version
  types : t.types = s.types
  roots : t.roots = s.roots
  objects : t.objects = s.objects
  writes : t.writes = s.writes
  failures : t.failures = s.failures
  uids : t.uids = s.uids
  addresses : t.addresses = s.addresses
  autoReady : t.autoReady = s.autoReady

theorem Spared.refl (s : Cluster) : Spared s s :=
  ⟨Nat.le_refl _, rfl, rfl, rfl, rfl, rfl, rfl, rfl, rfl⟩

theorem Spared.bump (s : Cluster) : Spared s { s with version := s.version + 1 } :=
  ⟨Nat.le_succ _, rfl, rfl, rfl, rfl, rfl, rfl, rfl, rfl⟩

inductive Came (s : Cluster) (log : List LoggedWrite → Prop) : Except StoreError α × Cluster → Prop where
  | refused {e : StoreError} {t : Cluster} (spared : Spared s t) : Came s log (.error e, t)
  | done {a : α} {t : Cluster} {ws : List LoggedWrite} (made : log ws)
      (logged : t.writes = ws ++ s.writes) : Came s log (.ok a, t)

theorem Came.spared {log : List LoggedWrite → Prop} {out : Except StoreError α × Cluster}
    {e : StoreError} (came : Came s log out) (failed : errorOf out.1 = some e) :
    Spared s out.2 := by
  cases came with
  | refused spared => exact spared
  | done => cases failed

theorem Came.logged {log : List LoggedWrite → Prop} {out : Except StoreError α × Cluster} {a : α}
    (came : Came s log out) (succeeded : out.1 = .ok a) :
    ∃ ws, log ws ∧ out.2.writes = ws ++ s.writes := by
  cases came with
  | refused => cases succeeded
  | done made logged => exact ⟨_, made, logged⟩

def Once (op : StoreOp) (kind : String) (ws : List LoggedWrite) : Prop :=
  ∃ w, ws = [w] ∧ w.op = op ∧ w.kind = kind

theorem Came.once {op : StoreOp} {kind : String} {ns : Option String} {name : String}
    {changed : Bool} {a : α} (logged : t.writes = ⟨op, kind, ns, name, changed⟩ :: s.writes) :
    Came s (Once op kind) (.ok a, t) := .done ⟨_, rfl, rfl, rfl⟩ logged

theorem Came.quiet {p : Prop} {op : StoreOp} {kind : String} {a : α} (still : ¬p) :
    Came s (fun ws => p → Once op kind ws) (.ok a, s) :=
  .done (fun writes => absurd writes still) (List.nil_append s.writes).symm

theorem setFinalizers_came (root : InferenceScheduler) (finalizers : List String) :
    Came s (Once .setFinalizers InferenceScheduler.kind) (s.setFinalizers root finalizers) := by
  cases s.setFinalizers_outcome root finalizers with
  | refused _ out => exact out ▸ .refused (.bump s)
  | released _ _ _ _ out | stored _ _ _ out => exact out ▸ .once rfl

theorem writeStatus_came (ns name : String) (status : SchedulerStatus) :
    Came s (Once .writeStatus InferenceScheduler.kind) (s.writeStatus ns name status) := by
  cases s.writeStatus_outcome ns name status with
  | missing _ out => exact out ▸ .refused (.bump s)
  | same _ _ out | stored _ _ out => exact out ▸ .once rfl

theorem create_came (api : ApiResource) (ns : Option String) (object : Json) :
    Came s (Once .create api.kind) (s.create api ns object) := by
  cases s.create_outcome api ns object with
  | refused _ out => exact out ▸ .refused (.refl s)
  | stored _ _ _ out => exact out ▸ .once rfl

theorem replace_came (api : ApiResource) (ns : Option String) (name : String) (object : Json) :
    Came s (Once .replace api.kind) (s.replace api ns name object) := by
  cases s.replace_outcome api ns name object with
  | refused _ out => exact out ▸ .refused (.refl s)
  | changed _ _ _ _ out | unchanged _ _ _ _ out => exact out ▸ .once rfl

theorem delete_came (api : ApiResource) (ns : Option String) (name : String) :
    Came s (Once .delete api.kind) (s.delete api ns name) := by
  cases s.delete_outcome api ns name with
  | refused _ _ out => exact out ▸ .refused (.refl s)
  | removed _ out => exact out ▸ .once rfl

theorem answer_came (s : Cluster) (c : StoreCall) :
    Came s (fun ws => c.isWrite → Once c.op c.kind ws) (s.answer c) := by
  -- A call that reads is told apart by its sort only.
  have written : ∀ {out : c.Reply × Cluster}, Came s (Once c.op c.kind) out →
      Came s (fun ws => c.isWrite → Once c.op c.kind ws) out := by
    rintro _ (spared | ⟨made, logged⟩)
    · exact .refused spared
    · exact .done (fun _ => made) logged
  rcases answer_cases (s := s) c with ⟨e, failed⟩ | performed
  · rw [failed]
    exact .refused (.refl s)
  · rw [performed]
    cases c with
    | setFinalizers root finalizers => exact written (setFinalizers_came root finalizers)
    | writeStatus ns name status => exact written (writeStatus_came ns name status)
    | create api ns object => exact written (create_came api ns object)
    | replace api ns name object => exact written (replace_came api ns name object)
    | delete api ns name => exact written (delete_came api ns name)
    | getRoot ns name => exact .quiet fun write => write.1 rfl
    | get api ns name => exact .quiet fun write => write.1 rfl
    | listNames api ns limit =>
      change Came s _ (listNames api ns limit s, s)
      cases listNames api ns limit s with
      | error e => exact .refused (.refl s)
      | ok names => exact .quiet fun write => write.2 rfl

theorem updateSpec_came (ns name : String) (edit : SchedulerSpec → SchedulerSpec) :
    Came s (· = []) (s.updateSpec ns name edit) := by
  cases s.updateSpec_outcome ns name edit with
  | missing out => exact out ▸ .refused (.bump s)
  | stored _ out => exact out ▸ .done rfl rfl

theorem requestDeletion_came (now ns name : String) :
    Came s (· = []) (s.requestDeletion now ns name) := by
  cases s.requestDeletion_outcome now ns name with
  | missing out => exact out ▸ .refused (.bump s)
  | gone _ _ out | stored _ _ out => exact out ▸ .done rfl rfl

theorem setReadyReplicas_came (api : ApiResource) (ns name : String) (ready : Int) :
    Came s (· = []) (s.setReadyReplicas api ns name ready) := by
  cases s.setReadyReplicas_outcome api ns name ready with
  | missing _ out => exact out ▸ .refused (.bump s)
  | stored _ out => exact out ▸ .done rfl rfl

/-- An operation that fails leaves types, roots, objects, the record of writes, the arranged
failures and the counters of uids and addresses as they were, and a call that writes with success
is on record once. -/
theorem failed_operations_are_atomic (s : Cluster) :
    (∀ (o : Operation) e, o.error? s = some e → s.Spared (o.apply s)) ∧
    ∀ (c : StoreCall) a, c.isWrite → (s.answer c).1 = .ok a →
      ∃ w, (s.answer c).2.writes = w :: s.writes ∧ w.op = c.op ∧ w.kind = c.kind := by
  constructor
  · intro o e failed
    cases o with
    | call c => exact (answer_came s c).spared failed
    | updateSpec ns name edit => exact (updateSpec_came ns name edit).spared failed
    | requestDeletion now ns name => exact (requestDeletion_came now ns name).spared failed
    | setReadyReplicas api ns name ready =>
      exact (setReadyReplicas_came api ns name ready).spared failed
    | _ => cases failed
  · intro c a write succeeded
    obtain ⟨ws, made, logged⟩ := (answer_came s c).logged succeeded
    obtain ⟨w, rfl, op, kind⟩ := made write
    exact ⟨w, logged, op, kind⟩

theorem missing_root_spares_fresh :
    let deletion : Operation := .requestDeletion "now" "default" "nobody"
    let call : StoreCall := .delete ResourceType.gatewayClass.builtinApi none "kgateway"
    deletion.error? fresh = some (rootMissing "default" "nobody") ∧
    fresh.Spared (deletion.apply fresh) ∧ fresh.version < (deletion.apply fresh).version ∧
    call.isWrite ∧ (fresh.answer call).1 = .ok () ∧
    ∃ w, (fresh.answer call).2.writes = w :: fresh.writes ∧ w.op = .delete ∧ w.kind = "GatewayClass" := by
  intro deletion call
  obtain ⟨atomic, onRecord⟩ := failed_operations_are_atomic fresh
  have missing : deletion.error? fresh = some (rootMissing "default" "nobody") := by decide +kernel
  have write : call.isWrite := ⟨nofun, nofun⟩
  have succeeded : (fresh.answer call).1 = .ok () := by decide +kernel
  refine ⟨missing, atomic deletion _ missing, ?_, write, succeeded, onRecord call () write succeeded⟩
  decide +kernel

end Cluster
end SchedulerOperator
