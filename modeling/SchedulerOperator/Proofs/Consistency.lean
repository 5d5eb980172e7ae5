import SchedulerOperator.Proofs.Crowd

/-!
Each status that a pass stores follows from the one that it read, so it is enough to follow the
notes of one pass: every group adds one condition behind those of the groups before it.
-/
namespace SchedulerOperator

def managedConditions : List ConditionType :=
  [.specValid, .prerequisitesValidated, .modelServerReady, .eppReady, .inferencePoolReady,
   .gatewayReady]

namespace SchedulerStatus

def value? (s : SchedulerStatus) (t : ConditionType) : Option ConditionStatus :=
  (s.condition? t).map Condition.status

def types (s : SchedulerStatus) : List ConditionType := s.conditions.map Condition.type_

structure Coherent (s : SchedulerStatus) : Prop where
  pool : s.value? .inferencePoolReady = some .true_ → s.inferencePoolReady = true
  gateway : s.value? .gatewayReady = some .true_ → s.gatewayReady = true
  order : s.gatewayReady = true → s.inferencePoolReady = true

structure Consistent (s : SchedulerStatus) : Prop extends Coherent s where
  phase : s.phase.isSome
  types : s.types <+: managedConditions
  ready : s.phase = some .ready →
    s.value? .modelServerReady = some .true_ ∧ s.value? .eppReady = some .true_ ∧
    s.value? .inferencePoolReady = some .true_ ∧ s.value? .gatewayReady = some .true_ ∧
    s.inferencePoolReady = true ∧ s.gatewayReady = true
  validated : s.phase = some .deploying ∨ s.phase = some .ready → s.prerequisitesValidated = true
  missing : s.phase = some .prerequisitesMissing →
    s.prerequisitesValidated = false ∧ s.value? .prerequisitesValidated = some .false_

end SchedulerStatus

namespace StatusBoard
variable {generation : Option Int64} {t u : ConditionType} {status : ConditionStatus}
  {reason message now : String}

theorem types_putCondition (conditions : List Condition) :
    (putCondition generation t status reason message now conditions).map Condition.type_ =
      if t ∈ conditions.map Condition.type_ then conditions.map Condition.type_
      else conditions.map Condition.type_ ++ [t] := by
  induction conditions with
  | nil => simp [putCondition]
  | cons c rest ih =>
    by_cases same : c.type_ = t
    · simp [putCondition, same, renew]
    · have other : t ≠ c.type_ := fun h => same h.symm
      simp only [putCondition, if_neg same, List.map_cons, ih, List.mem_cons, other, false_or]
      split <;> simp

theorem entry_putCondition (conditions : List Condition) :
    (putCondition generation t status reason message now conditions).find? (fun c => c.type_ = u) =
      if t = u then
        let earlier := conditions.find? fun c => c.type_ = u
        some
          { type_ := u
            status := status
            reason := some reason
            message := some message
            lastTransitionTime :=
              if earlier.map Condition.status = some status then
                earlier.bind Condition.lastTransitionTime
              else some now
            observedGeneration := generation }
      else conditions.find? fun c => c.type_ = u := by
  induction conditions with
  | nil => by_cases here : t = u <;> simp [putCondition, here]
  | cons c rest ih =>
    by_cases same : c.type_ = t
    · by_cases here : t = u
      · simp [putCondition, same, renew, here]
      · simp [putCondition, same, renew, here]
    · by_cases here : c.type_ = u
      · have other : t ≠ u := fun h => same (here.trans h.symm)
        simp [putCondition, here, other, Ne.symm other]
      · simp [putCondition, same, here, ih]

theorem find_putCondition (conditions : List Condition) :
    ((putCondition generation t status reason message now conditions).find?
        fun c => c.type_ = u).map Condition.status =
      if t = u then some status else (conditions.find? fun c => c.type_ = u).map Condition.status := by
  rw [entry_putCondition]
  split <;> rfl

end StatusBoard

namespace SchedulerStatus
variable {s t : SchedulerStatus} {generation : Option Int64} {n : Nat} {c u : ConditionType}
  {status : ConditionStatus} {reason message now : String}

theorem value_put_condition :
    ((Note.condition c status reason message).put generation now s).value? u =
      if c = u then some status else s.value? u :=
  StatusBoard.find_putCondition s.conditions

/-- The first `n` of the managed conditions are reported, perhaps more of them, no others. -/
structure Standing (n : Nat) (s : SchedulerStatus) : Prop extends Coherent s where
  types : s.types <+: managedConditions
  reported : n ≤ s.types.length

theorem types_put_condition (types : s.types <+: managedConditions) (reported : n ≤ s.types.length)
    (next : managedConditions[n]? = some c) :
    let later := (Note.condition c status reason message).put generation now s
    later.types <+: managedConditions ∧ n + 1 ≤ later.types.length := by
  have after : ((Note.condition c status reason message).put generation now s).types =
      if c ∈ s.types then s.types else s.types ++ [c] := StatusBoard.types_putCondition s.conditions
  simp only [after]
  generalize s.types = listed at types reported
  obtain ⟨rest, split⟩ := types
  rcases Nat.lt_or_eq_of_le reported with before | last
  · -- The condition is one of those that are listed.
    have there : listed[n]? = some c := by
      rw [← next, ← split, List.getElem?_append_left before]
    have mem : c ∈ listed := List.mem_of_getElem? there
    rw [if_pos mem]
    exact ⟨⟨rest, split⟩, before⟩
  · have behind : rest[0]? = some c := by
      rw [← next, ← split, last, List.getElem?_append_right (Nat.le_refl _), Nat.sub_self]
    cases rest with
    | nil => cases behind
    | cons d rest =>
      obtain rfl : d = c := Option.some.inj behind
      have unlisted : d ∉ listed := by
        have distinct : managedConditions.Nodup := by decide
        rw [← split] at distinct
        intro mem
        exact (List.nodup_append.mp distinct).2.2 d mem d List.mem_cons_self rfl
      rw [if_neg unlisted]
      refine ⟨⟨rest, by simpa using split⟩, ?_⟩
      simp [last]

theorem Coherent.condition (coherent : s.Coherent)
    (pool : c = .inferencePoolReady → status = .true_ → s.inferencePoolReady = true)
    (gateway : c = .gatewayReady → status = .true_ → s.gatewayReady = true) :
    ((Note.condition c status reason message).put generation now s).Coherent where
  pool := by
    rw [value_put_condition]
    split
    · rename_i same
      exact fun shown => pool same (Option.some.inj shown)
    · exact coherent.pool
  gateway := by
    rw [value_put_condition]
    split
    · rename_i same
      exact fun shown => gateway same (Option.some.inj shown)
    · exact coherent.gateway
  order := coherent.order

theorem Standing.condition (standing : s.Standing n) (next : managedConditions[n]? = some c)
    (pool : c = .inferencePoolReady → status = .true_ → s.inferencePoolReady = true)
    (gateway : c = .gatewayReady → status = .true_ → s.gatewayReady = true) :
    ((Note.condition c status reason message).put generation now s).Standing (n + 1) where
  toCoherent := standing.toCoherent.condition pool gateway
  types := (types_put_condition standing.types standing.reported next).1
  reported := (types_put_condition standing.types standing.reported next).2

theorem Standing.failure (standing : s.Standing n) (next : managedConditions[n]? = some c) :
    ((Note.condition c .false_ reason message).put generation now s).Standing (n + 1) :=
  standing.condition next (fun _ same => by cases same) fun _ same => by cases same

theorem Consistent.standing (consistent : s.Consistent) : s.Standing 0 :=
  ⟨consistent.toCoherent, consistent.types, Nat.zero_le _⟩

theorem Consistent.keepPhase (consistent : s.Consistent) :
    (Note.keepPhase.put generation now s).Consistent := by
  have same : Note.keepPhase.put generation now s = s := by
    obtain ⟨p, phase⟩ := Option.isSome_iff_exists.mp consistent.phase
    cases s
    cases phase
    rfl
  rw [same]
  exact consistent

theorem Consistent.reported (consistent : s.Consistent) (standing : s.Standing n)
    (next : managedConditions[n]? = some c)
    (early : c = .specValid ∨ c = .prerequisitesValidated ∧ status = .false_) :
    ((Note.condition c status reason message).put generation now s).Consistent := by
  have other : ∀ u, u ≠ .specValid → u ≠ .prerequisitesValidated → c ≠ u := by
    rintro u spec prerequisites rfl
    rcases early with same | ⟨same, _⟩
    · exact spec same
    · exact prerequisites same
  have kept : ∀ u, u ≠ .specValid → u ≠ .prerequisitesValidated →
      ((Note.condition c status reason message).put generation now s).value? u = s.value? u := by
    intro u spec prerequisites
    rw [value_put_condition, if_neg (other u spec prerequisites)]
  have later : ((Note.condition c status reason message).put generation now s).Standing (n + 1) :=
    standing.condition next
    (fun same => absurd same (other _ (by decide) (by decide)))
    fun same => absurd same (other _ (by decide) (by decide))
  exact
    { toCoherent := later.toCoherent
      phase := consistent.phase
      types := later.types
      ready := by
        rw [kept _ (by decide) (by decide), kept _ (by decide) (by decide),
          kept _ (by decide) (by decide), kept _ (by decide) (by decide)]
        exact consistent.ready
      validated := consistent.validated
      missing := by
        rw [value_put_condition]
        rcases early with rfl | ⟨rfl, rfl⟩
        · exact consistent.missing
        · exact fun phase => ⟨(consistent.missing phase).1, rfl⟩ }

theorem Consistent.accepts (consistent : s.Consistent) (generation : Option Int64) (now : String) :
    (Engine.accepted.put generation now s).Consistent ∧
      (Engine.accepted.put generation now s).Standing 1 := by
  constructor
  · exact Consistent.reported consistent consistent.standing rfl (.inl rfl)
  · exact Standing.condition consistent.standing rfl (by simp) (by simp)

theorem Standing.prerequisites {validated : Bool} {message : Option String} {now : String}
    (standing : s.Standing n) :
    ((Note.prerequisites validated message).put generation now s).Standing n := by
  obtain ⟨⟨pool, gateway, order⟩, types, reported⟩ := standing
  exact ⟨⟨pool, gateway, order⟩, types, reported⟩

theorem Standing.phased {p : Phase} (standing : s.Standing n) :
    ((Note.phase p).put generation now s).Standing n := by
  obtain ⟨⟨pool, gateway, order⟩, types, reported⟩ := standing
  exact ⟨⟨pool, gateway, order⟩, types, reported⟩

end SchedulerStatus

namespace Engine
open SchedulerStatus
variable {g : Engine} {plan : Plan} {s t : SchedulerStatus} {generation : Option Int64}
  {done rest : List ChildKind} {k : ChildKind} {r : InferenceScheduler}

/-- The condition on which it shows that a group was settled. -/
def settledCondition? : ChildKind → Option ConditionType
  | .accessPoint => some .modelServerReady
  | .routingAccessPoint => some .eppReady
  | .pool => some .inferencePoolReady
  | .route => some .gatewayReady
  | _ => none

def settledConditions (kinds : List ChildKind) : List ConditionType :=
  kinds.filterMap settledCondition?

theorem next_condition (split : done ++ k :: rest = ChildKind.all) :
    managedConditions[2 + (settledConditions done).length]? = some (failureCondition k).1 ∧
    (failureCondition k).1 ∉ settledConditions done ∧
    (∀ c, settledCondition? k = some c → c = (failureCondition k).1) ∧
    (k = .route → .inferencePoolReady ∈ settledConditions done) := by
  obtain ⟨i, short, place, here⟩ := ChildKind.place_of_split split
  subst place
  clear split
  interval_cases i <;> (cases here; decide)

/-- The status while groups are written, once the groups in `done` are settled. -/
structure Building (done : List ChildKind) (s : SchedulerStatus) : Prop where
  standing : s.Standing (2 + (settledConditions done).length)
  phase : s.phase = some .deploying
  validated : s.prerequisitesValidated = true
  settled : ∀ c ∈ settledConditions done, s.value? c = some .true_

theorem consistent_deploying {n : Nat} (standing : s.Standing n) (phase : s.phase = some .deploying)
    (validated : s.prerequisitesValidated = true) : s.Consistent where
  toCoherent := standing.toCoherent
  phase := by rw [phase]; rfl
  types := standing.types
  ready same := by rw [phase] at same; cases same
  validated _ := validated
  missing same := by rw [phase] at same; cases same

theorem consistent_missing {n : Nat} (standing : s.Standing n)
    (phase : s.phase = some .prerequisitesMissing) (invalid : s.prerequisitesValidated = false)
    (shown : s.value? .prerequisitesValidated = some .false_) : s.Consistent where
  toCoherent := standing.toCoherent
  phase := by rw [phase]; rfl
  types := standing.types
  ready same := by rw [phase] at same; cases same
  validated := by
    rw [phase]
    rintro (same | same) <;> cases same
  missing _ := ⟨invalid, shown⟩

theorem Building.consistent (building : Building done s) : s.Consistent :=
  consistent_deploying building.standing building.phase building.validated

theorem Building.reports {c : ConditionType} {reason message now : String}
    (building : Building done s) (ready : Bool) (split : done ++ k :: rest = ChildKind.all)
    (settles : settledCondition? k = some c)
    (pool : c = .inferencePoolReady → s.inferencePoolReady = true)
    (gateway : c = .gatewayReady → s.gatewayReady = true) :
    let later := (Note.condition c (.ofBool ready) reason message).put generation now s
    later.Consistent ∧ later.phase = some .deploying ∧
      (ready = true → Building (done ++ [k]) later) := by
  obtain ⟨next, fresh, own, _⟩ := next_condition split
  obtain rfl : c = (failureCondition k).1 := own c settles
  have standing : ((Note.condition (failureCondition k).1 (.ofBool ready) reason message).put
      generation now s).Standing (2 + (settledConditions done).length + 1) :=
    building.standing.condition next (fun same _ => pool same) fun same _ => gateway same
  refine ⟨consistent_deploying standing building.phase building.validated, building.phase, ?_⟩
  rintro rfl
  have longer : settledConditions (done ++ [k]) =
      settledConditions done ++ [(failureCondition k).1] := by
    simp [settledConditions, List.filterMap_append, settles]
  refine ⟨?_, building.phase, building.validated, ?_⟩
  · rw [longer, List.length_append]
    exact standing
  · intro c mem
    rw [value_put_condition]
    rw [longer] at mem
    rcases List.mem_append.mp mem with before | last
    · have other : (failureCondition k).1 ≠ c := fun same => fresh (same ▸ before)
      rw [if_neg other]
      exact building.settled c before
    · rw [List.mem_singleton.mp last, if_pos rfl]
      rfl

theorem Building.counted {n : Note} {now : String} (building : Building done s)
    (counts : (∃ i, n = .modelServerReplicas i) ∨ ∃ i, n = .eppReplicas i) :
    Building done (n.put generation now s) := by
  obtain ⟨⟨⟨pool, gateway, order⟩, types, reported⟩, phase, validated, settled⟩ := building
  rcases counts with ⟨i, rfl⟩ | ⟨i, rfl⟩
  · exact ⟨⟨⟨pool, gateway, order⟩, types, reported⟩, phase, validated, settled⟩
  · exact ⟨⟨⟨pool, gateway, order⟩, types, reported⟩, phase, validated, settled⟩

theorem Building.poolReady {now : String} (building : Building done s) :
    Building done (Note.inferencePoolReady.put generation now s) := by
  obtain ⟨⟨⟨pool, gateway, order⟩, types, reported⟩, phase, validated, settled⟩ := building
  exact ⟨⟨⟨fun _ => rfl, gateway, fun _ => rfl⟩, types, reported⟩, phase, validated, settled⟩

theorem Building.gatewayReady {now : String} (building : Building done s)
    (after : .inferencePoolReady ∈ settledConditions done) :
    Building done (Note.gatewayReady.put generation now s) := by
  have there := building.standing.pool (building.settled _ after)
  obtain ⟨⟨⟨pool, gateway, order⟩, types, reported⟩, phase, validated, settled⟩ := building
  exact ⟨⟨⟨pool, fun _ => rfl, fun _ => there⟩, types, reported⟩, phase, validated, settled⟩

theorem Building.settles {sample : Except StoreError Replicas} {ready : Bool}
    (building : Building done s) (split : done ++ k :: rest = ChildKind.all)
    (result : (Engine.settled k sample).1 = .ok ready)
    (entered : Entered generation (Engine.settled k sample).2 s t) :
    t.Consistent ∧ t.phase = some .deploying ∧ (ready = true → Building (done ++ [k]) t) := by
  -- A group without a condition leaves the status as it is.
  have silent : settledCondition? k = none → t = s →
      t.Consistent ∧ t.phase = some .deploying ∧ (ready = true → Building (done ++ [k]) t) := by
    rintro none rfl
    have same : settledConditions (done ++ [k]) = settledConditions done := by
      simp [settledConditions, List.filterMap_append, none]
    refine ⟨building.consistent, building.phase, fun _ => ?_⟩
    exact ⟨same ▸ building.standing, building.phase, building.validated, same ▸ building.settled⟩
  cases k with
  | accessPoint =>
    cases sample with
    | error e => cases result
    | ok replicas =>
      cases result
      obtain ⟨_, more⟩ := entered.first
      obtain ⟨_, rfl⟩ := more.last
      exact (building.counted (.inl ⟨_, rfl⟩)).reports _ split rfl (by simp) (by simp)
  | routingAccessPoint =>
    cases sample with
    | error e => cases result
    | ok replicas =>
      cases result
      obtain ⟨_, more⟩ := entered.first
      obtain ⟨_, rfl⟩ := more.last
      exact (building.counted (.inr ⟨_, rfl⟩)).reports _ split rfl (by simp) (by simp)
  | pool =>
    cases result
    obtain ⟨_, more⟩ := entered.first
    obtain ⟨_, rfl⟩ := more.last
    exact building.poolReady.reports true split rfl (fun _ => rfl) (by simp)
  | route =>
    cases result
    obtain ⟨_, more⟩ := entered.first
    obtain ⟨_, rfl⟩ := more.last
    have after := (next_condition split).2.2.2 rfl
    exact (building.gatewayReady after).reports true split rfl (by simp) fun _ => rfl
  | _ =>
    cases result
    cases entered
    exact silent rfl rfl

theorem Building.fails {message : String} (building : Building done s)
    (split : done ++ k :: rest = ChildKind.all)
    (entered : Entered generation (failureNotes k message) s t) : t.Consistent := by
  obtain ⟨next, _⟩ := next_condition split
  obtain ⟨now, more⟩ := entered.first
  obtain ⟨_, rfl⟩ := more.last
  refine Consistent.keepPhase ?_
  exact consistent_deploying (building.standing.failure next) building.phase building.validated

theorem Building.ready {now : String} (building : Building ChildKind.all s) :
    ((Note.phase .ready).put generation now s).Consistent := by
  have shown : ∀ c ∈ [ConditionType.modelServerReady, .eppReady, .inferencePoolReady, .gatewayReady],
      s.value? c = some .true_ := building.settled
  have pool := shown .inferencePoolReady (by decide)
  have gateway := shown .gatewayReady (by decide)
  exact
    { pool := building.standing.pool
      gateway := building.standing.gateway
      order := building.standing.order
      phase := rfl
      types := building.standing.types
      ready := fun _ => ⟨shown .modelServerReady (by decide), shown .eppReady (by decide), pool,
        gateway, building.standing.pool pool, building.standing.gateway gateway⟩
      validated := fun _ => building.validated
      missing := fun same => by cases same }

theorem Builds.consistent {kinds : List ChildKind} {turns : List Turn}
    {out : Except ReconcileError Requeue} {notes : List Note} (builds : g.Builds plan kinds turns out notes)
    (split : done ++ kinds = ChildKind.all) (building : Building done s)
    (entered : Entered generation notes s t) : t.Consistent := by
  induction builds generalizing done s with
  | complete =>
    rw [List.append_nil] at split
    subst split
    obtain ⟨now, rfl⟩ := entered.last
    exact building.ready
  | failed => exact building.fails split entered
  | waits unready =>
    obtain ⟨u, looked, waited⟩ := entered.split
    obtain ⟨consistent, phase, _⟩ := building.settles split unready looked
    obtain ⟨now, rfl⟩ := waited.last
    have same : (Note.phase .deploying).put generation now u = u := by
      cases u
      cases phase
      rfl
    rw [same]
    exact consistent
  | further written ready more ih =>
    obtain ⟨u, looked, later⟩ := entered.split
    obtain ⟨_, _, settled⟩ := building.settles split ready looked
    exact ih (by simpa using split) (settled rfl) later

/-- However the alignment of a root ends, it ends consistently. -/
theorem Aligns.consistent {turns : List Turn} {out : Except ReconcileError Requeue}
    {notes : List Note} (aligns : g.Aligns r turns out notes) (consistent : s.Consistent)
    (entered : Entered generation notes s t) : t.Consistent := by
  cases aligns with
  | rejected refused =>
    obtain ⟨now, more⟩ := entered.first
    obtain ⟨_, rfl⟩ := more.last
    exact Consistent.keepPhase (Consistent.reported consistent consistent.standing rfl (.inl rfl))
  | unchecked resolved =>
    obtain ⟨now, more⟩ := entered.first
    obtain ⟨later, further⟩ := more.first
    obtain ⟨_, rfl⟩ := further.last
    obtain ⟨accepted, standing⟩ := consistent.accepts generation now
    exact Consistent.keepPhase (Consistent.reported accepted standing rfl (.inr ⟨rfl, rfl⟩))
  | missing resolved =>
    obtain ⟨now, more⟩ := entered.first
    obtain ⟨_, further⟩ := more.first
    obtain ⟨later, rest⟩ := further.first
    obtain ⟨_, rfl⟩ := rest.last
    obtain ⟨_, standing⟩ := consistent.accepts generation now
    exact consistent_missing (Standing.phased (Standing.failure standing.prerequisites rfl)) rfl rfl
      value_put_condition
  | children resolved quiet builds =>
    obtain ⟨u, cleared, built⟩ := entered.split
    obtain ⟨now, more⟩ := cleared.first
    obtain ⟨_, further⟩ := more.first
    obtain ⟨later, rest⟩ := further.first
    obtain ⟨_, rfl⟩ := rest.last
    obtain ⟨_, standing⟩ := consistent.accepts generation now
    refine builds.consistent (rfl : [] ++ ChildKind.all = _) ⟨Standing.phased (Standing.condition (n := 1)
      standing.prerequisites rfl (by simp) (by simp)), rfl, rfl, ?_⟩ built
    simp [settledConditions]

end Engine
end SchedulerOperator
