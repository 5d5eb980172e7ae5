import SchedulerOperator.Proofs.StepEffects
import SchedulerOperator.Proofs.StoredChild

/-!
Every child lies under a key of its own, so what was written of the children stays while the others
are written, and to write them all once more replaces each by itself.
-/
namespace SchedulerOperator
open Cluster Attempt

variable {s t u : Cluster} {d : ChildObject}

theorem ChildObject.finite_owners {old : Json} (d : ChildObject) (finite : old.Finite) :
    ∀ r ∈ d.ownersOver old, r.Finite := by
  have owner : d.owner.toJson.Finite := by
    refine Json.finite_present fun m mem v there => ?_
    simp only [List.mem_cons, List.not_mem_nil, or_false] at mem
    rcases mem with rfl | rfl | rfl | rfl | rfl | rfl
    · cases there
      trivial
    · obtain ⟨b, _, rfl⟩ := Option.map_eq_some_iff.mp there
      trivial
    · obtain ⟨b, _, rfl⟩ := Option.map_eq_some_iff.mp there
      trivial
    · cases there
      trivial
    · cases there
      trivial
    · cases there
      trivial
  have merged : ∀ {refs : List Json}, (∀ r ∈ refs, r.Finite) →
      ∀ r ∈ mergeOwners d.owner.toJson refs, r.Finite := by
    intro refs
    induction refs with
    | nil => simpa [mergeOwners] using owner
    | cons r rest ih =>
      intro finite l mem
      unfold mergeOwners at mem
      split at mem
      · rcases List.mem_cons.mp mem with rfl | later
        · exact owner
        · exact finite l (List.mem_cons_of_mem _ later)
      · rcases List.mem_cons.mp mem with rfl | later
        · exact finite l List.mem_cons_self
        · exact ih (fun r mem => finite r (List.mem_cons_of_mem _ mem)) l later
  refine merged ?_
  cases list : ((old.get "metadata").get "ownerReferences").arr? with
  | none => simp
  | some refs => exact ((finite.get "metadata").get "ownerReferences").arr? list

theorem ChildObject.finite_withOwners {owners : List Json} {payload : Json}
    (finite : ∀ r ∈ owners, r.Finite) (finite' : payload.Finite) :
    (withOwners owners payload).Finite :=
  finite'.set _ ((finite'.get _).set _ (Json.finite_arr.mpr finite))

theorem ChildObject.finite_keepAssigned {old : Json} (finite : old.Finite) (fields : List String)
    {payload : Json} (finite' : payload.Finite) : (keepAssigned old payload fields).Finite := by
  induction fields generalizing payload with
  | nil => exact finite'
  | cons field rest ih =>
    unfold keepAssigned
    refine ih ?_
    split
    · exact finite'.set _ ((finite'.get _).set _ ((finite.get _).get _))
    · exact finite'

theorem ChildObject.finite_replacement {old : Json} (tidy : d.Tidy) (finite : old.Finite) :
    (d.replacement old).Finite := by
  have sent : (withOwners (d.ownersOver old)
      (Cluster.setMetadata "resourceVersion" (resourceVersion old) d.payload)).Finite :=
    finite_withOwners (d.finite_owners finite)
      (finite_setMetadata _ tidy.finite ((finite.get _).get _))
  unfold replacement
  simp only
  split
  · exact finite_keepAssigned finite _ sent
  · exact sent

namespace Cluster

theorem put_framed {k : ObjectKey} {e : Json} (put : Put k e s t) (sound : t.Sound)
    (other : k.kind ≠ "GatewayClass") : Framed (· = k) s t where
  alike :=
    { types := put.types
      autoReady := put.autoReady
      failures := put.failures
      classes := by
        have unlisted : isListed ResourceType.gatewayClass.builtinApi none k = false := by
          have kind : (k.kind == ResourceType.gatewayClass.builtinApi.kind) = false := by
            rw [beq_eq_false_iff_ne]
            exact other
          rw [isListed, kind, Bool.and_false, Bool.false_and]
        unfold classNames
        rw [put.objects, Assoc.filter_set unlisted]
      objects := fun l out => by rw [put.objects, Assoc.get?_set_other _ _ out] }
  roots := put.roots
  addresses := put.addresses
  sound := sound

theorem key_kind (tidy : d.Tidy) : d.key.kind ≠ "GatewayClass" := by
  have namespaced := tidy.namespaced
  change d.resource.builtinApi.kind ≠ "GatewayClass"
  revert namespaced
  cases d.resource <;> decide

end Cluster

namespace ChildObject

theorem write_missing (calm : s.Calm) (missing : s.hasType d.api = false) :
    Yields (d.write .builtin) s (.error d.api.missing) s := by
  have look := yields_request calm (.get d.api d.place d.name)
  cases found : s.object? d.api d.place d.name with
  | none =>
    simp only [perform, found] at look
    have made := yields_request calm (.create d.api d.place (withOwners [d.owner.toJson] d.payload))
    simp only [perform, create, missing, Bool.not_false, if_true] at made
    exact yields_bind look (yields_bind_error made)
  | some old =>
    simp only [perform, found] at look
    have made := yields_request calm (.replace d.api d.place d.name (d.replacement old))
    simp only [perform, replace, missing, Bool.not_false, if_true] at made
    exact yields_bind look (yields_bind_error made)

structure Stored (d : ChildObject) (s t : Cluster) : Prop where
  framed : Framed (· = d.key) s t
  holds : ∃ e text, Assoc.get? d.key t.objects = some e ∧
    d.Reads (d.storedOver ((Assoc.get? d.key s.objects).getD .null) (.str text)
      (.str (address (s.addresses + 1))) s.autoReady) e

theorem write_stores (tidy : d.Tidy) (sound : s.Sound) (calm : s.Calm)
    (installed : s.hasType d.api = true) :
    ∃ w t, Yields (d.write .builtin) s (.ok w) t ∧ d.Stored s t := by
  have look := yields_request calm (.get d.api d.place d.name)
  have there : s.object? d.api d.place d.name = Assoc.get? d.key s.objects := rfl
  cases found : Assoc.get? d.key s.objects with
  | none =>
    simp only [perform, there, found] at look
    have made := yields_request calm (.create d.api d.place (withOwners [d.owner.toJson] d.payload))
    obtain ⟨e, text, stored, reads, put⟩ := create_child tidy installed found
    have finite : (withOwners [d.owner.toJson] d.payload).Finite :=
      finite_withOwners (d.finite_owners (show Json.null.Finite from trivial)) tidy.finite
    simp only [perform, stored] at made
    refine ⟨.created, _, yields_bind look (yields_bind made (yields_pure _)), ?_, ?_⟩
    · exact put_framed put (sound.create finite _ _) (key_kind tidy)
    · exact ⟨e, text, by rw [put.objects, Assoc.get?_set_self], by rw [found]; exact reads⟩
  | some old =>
    simp only [perform, there, found] at look
    have kept := sound.object found
    have made := yields_request calm (.replace d.api d.place d.name (d.replacement old))
    obtain ⟨e, text, stored, reads, put⟩ := replace_child tidy installed found kept
    simp only [perform, stored] at made
    refine ⟨.replaced, _, yields_bind look (yields_bind made (yields_pure _)), ?_, ?_⟩
    · exact put_framed put (sound.replace (finite_replacement tidy kept.finite) _ _ _)
        (key_kind tidy)
    · exact ⟨e, text, by rw [put.objects, Assoc.get?_set_self], by rw [found]; exact reads⟩

/-- A child that was written stays as it is when it is written once more. -/
theorem write_again (tidy : d.Tidy) (calm : s.Calm) (installed : s.hasType d.api = true)
    (stored : d.Stored s t) (alike : Alike (· = d.key) t u) :
    ∃ v, Yields (d.write .builtin) u (.ok .replaced) v ∧ Quiet u v := by
  obtain ⟨e, text, found, reads⟩ := stored.holds
  have kept := stored.framed.sound.object found
  have there : u.object? d.api d.place d.name = some e := (alike.objects _ rfl).trans found
  have calm' : u.Calm := alike.calm (stored.framed.calm calm)
  have typed : u.hasType d.api = true := by
    rw [alike.hasType, stored.framed.alike.hasType, installed]
  have auto : u.autoReady = s.autoReady := alike.autoReady.trans stored.framed.alike.autoReady
  have settled := d.storedOver_settled ((Assoc.get? d.key s.objects).getD .null) (.str text)
    (address (s.addresses + 1)) s.autoReady
  have look := yields_request calm' (.get d.api d.place d.name)
  have made := yields_request calm' (.replace d.api d.place d.name (d.replacement e))
  simp only [perform, there] at look
  simp only [perform, replace_settled tidy typed there kept reads (auto ▸ settled)] at made
  refine ⟨_, yields_bind look (yields_bind made (yields_pure _)), ?_⟩
  exact ⟨[⟨.replace, d.api.kind, d.place, d.name, false⟩], rfl, by simp⟩

end ChildObject

namespace Plan

def childKey (plan : Plan) (t : ResourceType) (k : ChildKind) : ObjectKey :=
  t.builtinApi.objectKey (t.within plan.namespace_) (k.childName plan.name)

theorem childKey_inj {plan : Plan} {t t' : ResourceType} {k k' : ChildKind}
    (same : plan.childKey t k = plan.childKey t' k') : t = t' ∧ k = k' := by
  constructor
  · exact ResourceType.builtin_kind_inj (congrArg ObjectKey.kind same)
  · exact ChildKind.childName_inj (congrArg ObjectKey.name same)

theorem build_key {plan : Plan} {k : ChildKind} {d : ChildObject} (mem : d ∈ k.build plan) :
    ∃ t ∈ k.resources, d.key = plan.childKey t k := by
  have keys := List.mem_map_of_mem (f := fun d => (d.resource, d.name)) mem
  rw [k.build_keys plan] at keys
  obtain ⟨t, listed, same⟩ := List.mem_map.mp keys
  obtain ⟨rfl, named⟩ := Prod.mk.inj same
  refine ⟨_, listed, ?_⟩
  rw [ChildObject.key, ChildObject.place, (k.build_placed plan d mem).1, ← named]
  rfl

theorem build_keys_nodup (plan : Plan) (k : ChildKind) :
    ((k.build plan).map ChildObject.key).Nodup := by
  have keys : (k.build plan).map ChildObject.key = k.resources.map fun t => plan.childKey t k := by
    cases k <;> rfl
  rw [keys]
  have distinct : k.resources.Nodup := by cases k <;> decide
  exact List.Pairwise.map _ (fun t t' other same => other (childKey_inj same).1) distinct

def Writes (plan : Plan) (kinds : List ChildKind) (key : ObjectKey) : Prop :=
  ∃ k ∈ kinds, ∃ t ∈ k.resources, key = plan.childKey t k

def Samples (plan : Plan) (kinds : List ChildKind) (key : ObjectKey) : Prop :=
  ∃ k ∈ kinds, key = plan.childKey .deployment (Engine.behind k)

/-- The groups of a list are different, and what lies behind one is not among those after it. -/
def Apart (kinds : List ChildKind) : Prop :=
  kinds.Pairwise fun k l => k ≠ l ∧ Engine.behind k ≠ l

theorem apart_all : Apart ChildKind.all := by unfold Apart; decide

variable {plan : Plan} {kinds : List ChildKind} {k : ChildKind} {key : ObjectKey}

theorem writes_group (mem : key ∈ (k.build plan).map ChildObject.key) :
    plan.Writes (k :: kinds) key := by
  obtain ⟨d, built, rfl⟩ := List.mem_map.mp mem
  obtain ⟨t, listed, same⟩ := build_key built
  exact ⟨k, List.mem_cons_self, t, listed, same⟩

theorem Writes.cons (writes : plan.Writes kinds key) (k : ChildKind) :
    plan.Writes (k :: kinds) key := by
  obtain ⟨l, mem, t, listed, same⟩ := writes
  exact ⟨l, List.mem_cons_of_mem _ mem, t, listed, same⟩

theorem Samples.cons (samples : plan.Samples kinds key) (k : ChildKind) :
    plan.Samples (k :: kinds) key := by
  obtain ⟨l, mem, same⟩ := samples
  exact ⟨l, List.mem_cons_of_mem _ mem, same⟩

theorem Apart.fresh (apart : Apart (k :: kinds)) (writes : plan.Writes kinds key) :
    key ∉ (k.build plan).map ChildObject.key := by
  obtain ⟨l, mem, t, listed, rfl⟩ := writes
  intro mem'
  obtain ⟨d, built, same⟩ := List.mem_map.mp mem'
  obtain ⟨t', _, same'⟩ := build_key built
  exact ((List.pairwise_cons.mp apart).1 l mem).1 (childKey_inj (same'.symm.trans same)).2

theorem Apart.unseen (apart : Apart (k :: kinds)) (writes : plan.Writes kinds key) :
    key ≠ plan.childKey .deployment (Engine.behind k) := by
  obtain ⟨l, mem, t, listed, rfl⟩ := writes
  intro same
  exact ((List.pairwise_cons.mp apart).1 l mem).2 (childKey_inj same).2.symm

end Plan
end SchedulerOperator
