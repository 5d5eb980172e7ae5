import SchedulerOperator.Proofs.Crowd

namespace SchedulerOperator.Crowd
open Cluster Engine Pass
variable {may : Crowd → Operation → Prop} {k : RootKey} {read : InferenceScheduler → Prop}
  {w w' : Crowd} {past : List Crowd} {s : Cluster} {f : Flight}

/-- The moments of a run, latest first. What clients may do may depend on the passes underway. -/
inductive Course (may : Crowd → Operation → Prop) : List Crowd → Prop where
  | start : Course may [⟨{}, fun _ => none⟩]
  | next {w w' : Crowd} {past : List Crowd} (step : Step (may w) w w')
      (course : Course may (w :: past)) : Course may (w' :: w :: past)

theorem Step.mono {narrow wide : Operation → Prop} (step : Step narrow w w')
    (wider : ∀ o, narrow o → wide o) : Step wide w w' := by
  cases step with
  | start n g k idle => exact .start n g k idle
  | call underway => exact .call underway
  | clock time underway => exact .clock time underway
  | leave n => exact .leave n
  | client o allowed => exact .client o (wider o allowed)

/-- What holds at the start, and holds of a moment if it held of the one before, holds along a
run. -/
theorem Course.along {P : Crowd → List Crowd → Prop} (course : Course may (w :: past))
    (start : P ⟨{}, fun _ => none⟩ [])
    (next : ∀ {u u' earlier}, Course may (u :: earlier) → Step (may u) u u' → P u earlier →
      P u' (u :: earlier)) : P w past := by
  generalize same : w :: past = run at course
  induction course generalizing w past with
  | start =>
    cases same
    exact start
  | next step course ih =>
    cases same
    exact next course step (ih rfl)

theorem Course.reachable {wide : Operation → Prop} (wider : ∀ w o, may w o → wide o)
    (course : Course may (w :: past)) : Reachable wide w :=
  course.along (P := fun w _ => Reachable wide w) .empty
    fun _ step reached => .next (step.mono (wider _)) reached

/-- At most one pass over `k` is underway. -/
def Alone (k : RootKey) (w : Crowd) : Prop :=
  ∀ m n f f', w.visit m = some ⟨k, f⟩ → w.visit n = some ⟨k, f'⟩ → m = n

/-- At most one pass is underway, it is a pass over `k`, and what it has read is as `read` tells. -/
def Serial (k : RootKey) (read : InferenceScheduler → Prop) (w : Crowd) : Prop :=
  ∀ n v, w.visit n = some v → n = 0 ∧ v.key = k ∧ ∀ r, Snapshot k r v.flight.history → read r

theorem serial_idle (s : Cluster) : Serial k read ⟨s, fun _ => none⟩ :=
  fun _ _ underway => by cases underway

theorem Serial.alone (serial : Serial k read w) (l : RootKey) : Alone l w :=
  fun m n _ _ one other => (serial m _ one).1.trans (serial n _ other).1.symm

theorem Serial.put (serial : Serial k read w) (known : ∀ r, Snapshot k r f.history → read r) :
    Serial k read (w.put 0 (some ⟨k, f⟩)) := by
  intro n v underway
  by_cases here : n = 0
  · subst here
    rw [put_self] at underway
    cases underway
    exact ⟨rfl, rfl, known⟩
  · rw [put_other here] at underway
    exact serial n v underway

theorem Serial.left (serial : Serial k read w) : w.put 0 none = ⟨w.cluster, fun _ => none⟩ := by
  refine congrArg (Crowd.mk w.cluster) (funext fun n => ?_)
  by_cases here : n = 0
  · exact if_pos here
  · rw [if_neg here]
    cases underway : w.visit n with
    | none => rfl
    | some v => exact absurd (serial n v underway).1 here

/-- A run of one pass at a time leaves the cluster `s` with no pass underway. -/
def Arrives (may : Crowd → Operation → Prop) (k : RootKey) (read : InferenceScheduler → Prop)
    (s : Cluster) : Prop :=
  ∃ past, Course may (⟨s, fun _ => none⟩ :: past) ∧ ∀ u ∈ past, Serial k read u

theorem arrives_empty : Arrives may k read {} :=
  ⟨[], .start, fun _ none => absurd none List.not_mem_nil⟩

theorem Arrives.client {o : Operation} (arrives : Arrives may k read s)
    (allowed : may ⟨s, fun _ => none⟩ o) : Arrives may k read (o.apply s) := by
  obtain ⟨past, course, serial⟩ := arrives
  exact ⟨_, .next (.client o allowed) course, List.forall_mem_cons.mpr ⟨serial_idle s, serial⟩⟩

theorem Arrives.clients (os : List Operation) (arrives : Arrives may k read s)
    (allowed : ∀ o ∈ os, ∀ s, may ⟨s, fun _ => none⟩ o) :
    Arrives may k read (os.foldl (fun s o => o.apply s) s) := by
  induction os generalizing s with
  | nil => exact arrives
  | cons o rest ih =>
    exact ih (arrives.client (allowed o List.mem_cons_self s)) fun o mem =>
      allowed o (List.mem_cons_of_mem _ mem)

theorem arrives_with_root (read : InferenceScheduler → Prop)
    (others : ∀ o ∈ freshOperations, (∀ r, o ≠ .insertRoot r) → ∀ s, may ⟨s, fun _ => none⟩ o)
    (last : ∀ r, .insertRoot r ∈ freshOperations → ∀ s, s.roots = [] →
      may ⟨s, fun _ => none⟩ (.insertRoot r)) : Arrives may k read Cluster.fresh := by
  have types : Arrives may k read _ :=
    arrives_empty.clients (ResourceType.all.map fun t => .install t.builtinApi) fun o mem s => by
      refine others o (List.mem_append_left _ mem) ?_ s
      rintro r rfl
      obtain ⟨_, _, same⟩ := List.mem_map.mp mem
      cases same
  rw [Cluster.fresh, freshOperations, List.foldl_append]
  simp only [List.foldl_cons, List.foldl_nil]
  refine ((types.client (others _ ?_ ?_ _)).client (others _ ?_ ?_ _)).client (last _ ?_ _ ?_)
  · simp [freshOperations]
  · exact fun _ => nofun
  · simp [freshOperations]
  · exact fun _ => nofun
  · simp [freshOperations]
  · decide +kernel

theorem Course.alone {history : List Turn} {p : Pass (Except ReconcileError Requeue)} (now : String)
    (course : Course may (w :: past)) (serial : ∀ u ∈ w :: past, Serial k read u)
    (underway : w.visit 0 = some ⟨k, ⟨history, p⟩⟩) (begun : history ≠ []) :
    Arrives may k read (p.run (asStore now) w.cluster).2 := by
  induction p generalizing w past history with
  | done a =>
    have left := Course.next (.leave 0) course
    rw [(serial w List.mem_cons_self).left] at left
    exact ⟨w :: past, left, serial⟩
  | call c next ih =>
    have before : Serial k read ⟨(w.cluster.answer c).2, w.visit⟩ := serial w List.mem_cons_self
    have after := before.put (f := ⟨history ++ [⟨c, (w.cluster.answer c).1⟩],
      next (w.cluster.answer c).1⟩) fun r first =>
        (before 0 _ underway).2.2 r (first.earlier.resolve_left begun)
    exact ih _ (.next (.call underway) course) (List.forall_mem_cons.mpr ⟨after, serial⟩)
      (put_self 0 _ _) (by simp)
  | clock next ih =>
    have before : Serial k read w := serial w List.mem_cons_self
    have after := before.put (f := ⟨history, next now⟩) (before 0 _ underway).2.2
    have ended := ih now (.next (.clock now underway) course)
      (List.forall_mem_cons.mpr ⟨after, serial⟩) (put_self 0 _ _) begun
    exact ended

theorem Arrives.begins {g : Engine} {c : StoreCall}
    {next : c.Reply → Pass (Except ReconcileError Requeue)} (arrives : Arrives may k read s)
    (starts : g.reconcile k.namespace_ k.name = .call c next)
    (known : ∀ r, Snapshot k r [⟨c, (s.answer c).1⟩] → read r) :
    ∃ w past, Course may (w :: past) ∧ (∀ u ∈ w :: past, Serial k read u) ∧
      w.cluster = (s.answer c).2 ∧
      w.visit 0 = some ⟨k, ⟨[⟨c, (s.answer c).1⟩], next (s.answer c).1⟩⟩ := by
  obtain ⟨past, course, serial⟩ := arrives
  have idle : Serial k read ⟨s, fun _ => none⟩ := serial_idle s
  have started := Course.next (.start 0 g k rfl) course
  rw [starts] at started
  have begun : Serial k read (put 0 (some ⟨k, ⟨[], .call c next⟩⟩) ⟨s, fun _ => none⟩) :=
    idle.put fun r first => by
      obtain ⟨rest, opened⟩ := first
      cases opened
  refine ⟨_, _, .next (.call (put_self 0 _ _)) started, List.forall_mem_cons.mpr ⟨?_,
    List.forall_mem_cons.mpr ⟨begun, List.forall_mem_cons.mpr ⟨idle, serial⟩⟩⟩, rfl, put_self 0 _ _⟩
  exact Serial.put begun known

theorem Arrives.pass (now : String) (g : Engine) (arrives : Arrives may k read s)
    (known : ∀ r, Assoc.get? k s.roots = some r → read r) :
    Arrives may k read ((g.reconcile k.namespace_ k.name).run (asStore now) s).2 := by
  obtain ⟨w, past, course, serial, cluster, underway⟩ := arrives.begins (g := g) rfl fun r first => by
    obtain ⟨rest, opened⟩ := first
    obtain ⟨_, _, done⟩ := performed_now (List.mem_singleton.mpr (List.cons.inj opened).1.symm)
    exact known r (Except.ok.inj done)
  have ended := course.alone now serial underway (List.cons_ne_nil _ _)
  rw [cluster] at ended
  exact ended

def afterPass (s : Cluster) : Cluster :=
  (((Engine.mk .builtin {}).reconcile "default" "demo").run (asStore "") s).2

theorem Arrives.afterPass (arrives : Arrives may ⟨"default", "demo"⟩ read s)
    (known : ∀ r, Assoc.get? ⟨"default", "demo"⟩ s.roots = some r → read r) :
    Arrives may ⟨"default", "demo"⟩ read (afterPass s) :=
  arrives.pass "" (Engine.mk .builtin {}) known

theorem fresh_root_made_ready : ∃ r status,
    Assoc.get? ⟨"default", "demo"⟩ (Crowd.afterPass Cluster.fresh).roots = some r ∧
    r.status = some status ∧ status.phase = some .ready := by
  have checked : ((Assoc.get? ⟨"default", "demo"⟩ (Crowd.afterPass Cluster.fresh).roots).any fun r =>
      r.status.any fun status => status.phase == some .ready) = true := by decide +kernel
  simp only [Option.any_eq_true, beq_iff_eq] at checked
  obtain ⟨r, found, status, stored, ready⟩ := checked
  exact ⟨r, status, found, stored, ready⟩

end SchedulerOperator.Crowd
