import SchedulerOperator.Json

namespace SchedulerOperator

namespace Assoc

section
variable {κ α : Type} [DecidableEq κ] {k : κ} {v : α} {m : List (κ × α)} {e : κ × α}

theorem mem_of_get? (found : get? k m = some v) : (k, v) ∈ m := by
  induction m with
  | nil => cases found
  | cons f rest ih =>
    by_cases same : k = f.1
    · simp only [get?, if_pos same, Option.some.injEq] at found
      rw [same, ← found]
      exact List.mem_cons_self
    · simp only [get?, if_neg same] at found
      exact List.mem_cons_of_mem _ (ih found)

theorem replaceFirst_of_get? (found : get? k m = some v) : replaceFirst k v m = m := by
  induction m with
  | nil => rfl
  | cons f rest ih =>
    by_cases same : k = f.1
    · simp only [get?, if_pos same, Option.some.injEq] at found
      simp only [replaceFirst, if_pos same]
      rw [same, ← found]
    · simp only [get?, if_neg same] at found
      simp only [replaceFirst, if_neg same, ih found]

theorem mem_replaceFirst (mem : e ∈ replaceFirst k v m) : e = (k, v) ∨ e ∈ m := by
  induction m with
  | nil => cases mem
  | cons f rest ih =>
    by_cases same : k = f.1
    · simp only [replaceFirst, if_pos same, List.mem_cons] at mem
      rcases mem with here | later
      · exact .inl here
      · exact .inr (List.mem_cons_of_mem _ later)
    · simp only [replaceFirst, if_neg same, List.mem_cons] at mem
      rcases mem with rfl | later
      · exact .inr List.mem_cons_self
      · exact (ih later).imp_right (List.mem_cons_of_mem _)

variable [LT κ] [DecidableLT κ]

omit [DecidableEq κ] in
theorem mem_file : e ∈ file k v m ↔ e = (k, v) ∨ e ∈ m := by
  induction m with
  | nil => simp [file]
  | cons f rest ih =>
    by_cases before : k < f.1
    · simp [file, before]
    · simp only [file, before, if_false, List.mem_cons, ih]
      exact or_left_comm

theorem mem_set (mem : e ∈ set k v m) : e = (k, v) ∨ e ∈ m := by
  unfold set at mem
  split at mem
  · exact mem_replaceFirst mem
  · exact mem_file.mp mem

theorem get?_set_cases {l : κ} {w : α} (found : get? l (set k v m) = some w) :
    (l = k ∧ w = v) ∨ (l ≠ k ∧ get? l m = some w) := by
  by_cases here : l = k
  · rw [here, get?_set_self, Option.some.injEq] at found
    exact .inl ⟨here, found.symm⟩
  · rw [get?_set_other _ _ here] at found
    exact .inr ⟨here, found⟩

omit [LT κ] [DecidableLT κ] in
theorem get?_of_erase {l : κ} {w : α} (found : get? l (erase k m) = some w) :
    l ≠ k ∧ get? l m = some w := by
  by_cases here : l = k
  · rw [here, get?_erase_self] at found
    cases found
  · rw [get?_erase_other _ here] at found
    exact ⟨here, found⟩

omit [LT κ] [DecidableLT κ] in
theorem fst_ne_of_absent (absent : contains k m = false) : ∀ f ∈ m, f.1 ≠ k := by
  intro f mem same
  induction m with
  | nil => cases mem
  | cons f' rest ih =>
    by_cases here : k = f'.1
    · simp [contains, get?, here] at absent
    · have tail : contains k rest = false := by simpa [contains, get?, here] using absent
      rcases List.mem_cons.mp mem with rfl | later
      · exact here same.symm
      · exact ih tail later

theorem set_of_get? (found : get? k m = some v) : set k v m = m := by
  have present : contains k m = true := by rw [contains, found]; rfl
  rw [set, if_pos present, replaceFirst_of_get? found]

omit [LT κ] [DecidableLT κ] in
theorem filter_replaceFirst {listed : κ → Bool} (unlisted : listed k = false) :
    (replaceFirst k v m).filter (fun e => listed e.1) = m.filter fun e => listed e.1 := by
  induction m with
  | nil => rfl
  | cons f rest ih =>
    by_cases same : k = f.1
    · simp [replaceFirst, same, ← same ▸ unlisted]
    · simp only [replaceFirst, if_neg same, List.filter_cons, ih]

omit [DecidableEq κ] in
theorem filter_file {listed : κ → Bool} (unlisted : listed k = false) :
    (file k v m).filter (fun e => listed e.1) = m.filter fun e => listed e.1 := by
  induction m with
  | nil => simp [file, unlisted]
  | cons f rest ih =>
    by_cases before : k < f.1
    · simp [file, before, unlisted]
    · simp only [file, before, if_false, List.filter_cons, ih]

theorem filter_set {listed : κ → Bool} (unlisted : listed k = false) :
    (set k v m).filter (fun e => listed e.1) = m.filter fun e => listed e.1 := by
  unfold set
  split
  · exact filter_replaceFirst unlisted
  · exact filter_file unlisted

end

section
variable {κ α : Type} [DecidableEq κ] {k : κ} {v : α} {m n : List (κ × α)}

def Unique (m : List (κ × α)) : Prop := (m.map Prod.fst).Nodup

omit [DecidableEq κ] in
theorem Unique.sublist (unique : Unique m) (fewer : n.Sublist m) : Unique n :=
  List.Nodup.sublist (fewer.map Prod.fst) unique

theorem Unique.get?_of_mem (unique : Unique m) (mem : (k, v) ∈ m) : get? k m = some v := by
  induction m with
  | nil => cases mem
  | cons f rest ih =>
    obtain ⟨fresh, others⟩ := List.nodup_cons.mp unique
    rcases List.mem_cons.mp mem with rfl | later
    · exact if_pos rfl
    · have other : k ≠ f.1 := by
        rintro rfl
        exact fresh (List.mem_map.mpr ⟨_, later, rfl⟩)
      rw [get?, if_neg other]
      exact ih others later

theorem Unique.value_unique {w : α} (unique : Unique m) (mem : (k, v) ∈ m) (mem' : (k, w) ∈ m) :
    v = w :=
  Option.some.inj ((unique.get?_of_mem mem).symm.trans (unique.get?_of_mem mem'))

theorem Unique.replaceFirst (unique : Unique m) : Unique (Assoc.replaceFirst k v m) := by
  have keys : (Assoc.replaceFirst k v m).map Prod.fst = m.map Prod.fst := by
    induction m with
    | nil => rfl
    | cons f rest ih =>
      by_cases same : k = f.1
      · simp [Assoc.replaceFirst, same]
      · simp [Assoc.replaceFirst, same, ih (List.nodup_cons.mp unique).2]
  rw [Unique, keys]
  exact unique

theorem get?_append (k : κ) (m n : List (κ × α)) : get? k (m ++ n) = (get? k m).or (get? k n) := by
  induction m with
  | nil => rfl
  | cons e rest ih =>
    by_cases here : k = e.1
    · simp [get?, here]
    · simp [get?, here, ih]

variable [LT κ] [DecidableLT κ]

theorem Unique.file (unique : Unique m) (fresh : contains k m = false) :
    Unique (Assoc.file k v m) := by
  induction m with
  | nil => exact List.pairwise_singleton _ k
  | cons f rest ih =>
    have absent : k ∉ (f :: rest).map Prod.fst := by
      intro mem
      obtain ⟨e, there, same⟩ := List.mem_map.mp mem
      exact fst_ne_of_absent fresh e there same
    unfold Assoc.file
    split
    · exact List.nodup_cons.mpr ⟨absent, unique⟩
    · obtain ⟨first, others⟩ := List.nodup_cons.mp unique
      have other : k ≠ f.1 := fun same => absent (same ▸ List.mem_cons_self)
      refine List.nodup_cons.mpr ⟨?_, ih others (by simpa [contains, get?, other] using fresh)⟩
      intro mem
      obtain ⟨e, there, same⟩ := List.mem_map.mp mem
      rcases mem_file.mp there with rfl | before
      · exact other same
      · exact first (List.mem_map.mpr ⟨e, before, same⟩)

theorem Unique.set (unique : Unique m) : Unique (Assoc.set k v m) := by
  unfold Assoc.set
  split
  · exact unique.replaceFirst
  · rename_i absent
    exact unique.file (by simpa using absent)

theorem get?_set (k l : κ) (v : α) (m : List (κ × α)) :
    get? l (set k v m) = if l = k then some v else get? l m := by
  by_cases here : l = k
  · rw [if_pos here, here, get?_set_self]
  · rw [if_neg here, get?_set_other v m here]

theorem get?_extend (k : κ) (m n : List (κ × α)) :
    get? k (extend m n) = (get? k n.reverse).or (get? k m) := by
  induction n generalizing m with
  | nil => rfl
  | cons e rest ih =>
    have later : get? k (extend m (e :: rest)) =
        (get? k rest.reverse).or (get? k (set e.1 e.2 m)) := ih _
    rw [later, List.reverse_cons, get?_append, get?_set, Option.or_assoc]
    by_cases here : k = e.1
    · simp [get?, here]
    · simp [get?, here]

theorem get?_ofList (k : κ) (m : List (κ × α)) : get? k (ofList m) = get? k m.reverse := by
  have empty : get? k (extend [] m) = (get? k m.reverse).or none := get?_extend k [] m
  exact empty.trans Option.or_none

theorem Unique.get?_ofList_iff (unique : Unique m) :
    get? k (ofList m) = some v ↔ (k, v) ∈ m := by
  rw [get?_ofList]
  constructor
  · intro found
    exact List.mem_reverse.mp (mem_of_get? found)
  · intro mem
    have reversed : Unique m.reverse := by
      rw [Unique, List.map_reverse]
      exact List.pairwise_reverse.mpr (List.Pairwise.imp Ne.symm unique)
    exact reversed.get?_of_mem (List.mem_reverse.mpr mem)

end

section
variable {α : Type}

def Ascending (m : List (String × α)) : Prop := (m.map Prod.fst).Pairwise (· < ·)

theorem get?_eq_none {k : String} {m : List (String × α)} (above : ∀ e ∈ m, k < e.1) :
    get? k m = none := by
  induction m with
  | nil => rfl
  | cons e rest ih =>
    have unlike : k ≠ e.1 := fun same => String.lt_irrefl e.1 (same ▸ above e (by simp))
    rw [get?, if_neg unlike]
    exact ih fun e mem => above e (by simp [mem])

theorem Ascending.tail {e : String × α} {m : List (String × α)} (order : Ascending (e :: m)) :
    Ascending m :=
  (List.pairwise_cons.mp order).2

theorem Ascending.head_lt {e : String × α} {m : List (String × α)} (order : Ascending (e :: m)) :
    ∀ f ∈ m, e.1 < f.1 :=
  fun f mem => (List.pairwise_cons.mp order).1 f.1 (List.mem_map_of_mem mem)

theorem Ascending.get?_of_mem {e : String × α} {m : List (String × α)} (order : Ascending m)
    (mem : e ∈ m) : get? e.1 m = some e.2 := by
  induction m with
  | nil => cases mem
  | cons f rest ih =>
    rcases List.mem_cons.mp mem with rfl | later
    · rw [get?, if_pos rfl]
    · have unlike : e.1 ≠ f.1 := fun same => String.lt_irrefl f.1 (same ▸ order.head_lt e later)
      rw [get?, if_neg unlike]
      exact ih order.tail later

theorem lt_of_not_lt_of_ne {k l : String} (before : ¬ k < l) (unlike : k ≠ l) : l < k := by
  rcases Std.lt_trichotomy k l with less | same | more
  · exact absurd less before
  · exact absurd same unlike
  · exact more

theorem Ascending.ext {m n : List (String × α)} (order : Ascending m) (order' : Ascending n)
    (alike : ∀ k, get? k m = get? k n) : m = n := by
  induction m generalizing n with
  | nil =>
    cases n with
    | nil => rfl
    | cons f n => simpa [get?] using alike f.1
  | cons e m ih =>
    cases n with
    | nil => simpa [get?] using alike e.1
    | cons f n =>
      by_cases same : e.1 = f.1
      · have value : e.2 = f.2 := by simpa [get?, same] using alike e.1
        have rest : m = n := by
          refine ih order.tail order'.tail fun k => ?_
          by_cases first : k = e.1
          · rw [first, get?_eq_none order.head_lt, same, get?_eq_none order'.head_lt]
          · have other : k ≠ f.1 := fun h => first (h.trans same.symm)
            simpa [get?, first, other] using alike k
        rw [rest, Prod.ext same value]
      · -- The smaller of the two first keys is looked up in vain on the other side.
        rcases Std.lt_trichotomy e.1 f.1 with less | equal | more
        · have missing : get? e.1 (f :: n) = none := get?_eq_none fun g mem => by
            rcases List.mem_cons.mp mem with rfl | later
            · exact less
            · exact String.lt_trans less (order'.head_lt g later)
          have hit := alike e.1
          rw [missing] at hit
          simp [get?] at hit
        · exact absurd equal same
        · have missing : get? f.1 (e :: m) = none := get?_eq_none fun g mem => by
            rcases List.mem_cons.mp mem with rfl | later
            · exact more
            · exact String.lt_trans more (order.head_lt g later)
          have hit := alike f.1
          rw [missing] at hit
          simp [get?] at hit

theorem keys_replaceFirst (k : String) (v : α) (m : List (String × α)) :
    (replaceFirst k v m).map Prod.fst = m.map Prod.fst := by
  induction m with
  | nil => rfl
  | cons e rest ih => by_cases same : k = e.1 <;> simp [replaceFirst, same, ih]

theorem Ascending.file {k : String} {v : α} {m : List (String × α)} (order : Ascending m)
    (fresh : contains k m = false) : Ascending (file k v m) := by
  induction m with
  | nil => simp [Ascending, Assoc.file]
  | cons e rest ih =>
    by_cases before : k < e.1
    · simp only [Assoc.file, before, if_true]
      refine List.pairwise_cons.mpr ⟨?_, order⟩
      intro l mem
      rcases List.mem_cons.mp mem with rfl | later
      · exact before
      · exact String.lt_trans before ((List.pairwise_cons.mp order).1 l later)
    · have unlike : k ≠ e.1 := fun same => by simp [contains, get?, same] at fresh
      have tail : contains k rest = false := by simpa [contains, get?, unlike] using fresh
      simp only [Assoc.file, before, if_false]
      refine List.pairwise_cons.mpr ⟨?_, ih order.tail tail⟩
      intro l mem
      obtain ⟨f, filed, rfl⟩ := List.mem_map.mp mem
      rcases mem_file.mp filed with rfl | later
      · exact lt_of_not_lt_of_ne before unlike
      · exact order.head_lt f later

theorem Ascending.set {k : String} {v : α} {m : List (String × α)} (order : Ascending m) :
    Ascending (set k v m) := by
  unfold Assoc.set
  split
  · rw [Ascending, keys_replaceFirst]
    exact order
  · exact order.file (by simpa using ‹¬ contains k m = true›)

end
end Assoc

namespace Json

theorem get?_set_self (v : Json) (k : String) (new : Json) :
    (v.set k new).get? k = some new := Assoc.get?_set_self k new v.members

theorem get?_set_other {k l : String} (v new : Json) (other : l ≠ k) :
    (v.set k new).get? l = v.get? l := Assoc.get?_set_other new v.members other

theorem get?_set (v : Json) (k l : String) (new : Json) :
    (v.set k new).get? l = if l = k then some new else v.get? l := by
  by_cases same : l = k
  · rw [if_pos same, same, get?_set_self]
  · rw [if_neg same, get?_set_other v new same]

theorem get_set_self (v : Json) (k : String) (new : Json) : (v.set k new).get k = new := by
  simp only [get, get?_set_self, Option.getD_some]

theorem get_set_other {k l : String} (v new : Json) (other : l ≠ k) :
    (v.set k new).get l = v.get l := by
  simp only [get, get?_set_other v new other]

theorem get_modify_self (v : Json) (k : String) (f : Json → Json) :
    (v.modify k f).get k = f (v.get k) := get_set_self v k _

theorem get?_modify (v : Json) (k l : String) (f : Json → Json) :
    (v.modify k f).get? l = if l = k then some (f (v.get k)) else v.get? l :=
  get?_set v k l _

theorem get_modify_other {k l : String} (v : Json) (f : Json → Json) (other : l ≠ k) :
    (v.modify k f).get l = v.get l := get_set_other v _ other

/-- An object whose members are in key order. -/
def Ordered (v : Json) : Prop := ∃ ms, v = .obj ms ∧ Assoc.Ascending ms

theorem Ordered.set {v : Json} (ordered : v.Ordered) (k : String) (new : Json) :
    (v.set k new).Ordered := by
  obtain ⟨ms, rfl, order⟩ := ordered
  exact ⟨_, rfl, order.set⟩

theorem Ordered.modify {v : Json} (ordered : v.Ordered) (k : String) (f : Json → Json) :
    (v.modify k f).Ordered := ordered.set k _

theorem Ordered.ext {v w : Json} (ordered : v.Ordered) (ordered' : w.Ordered)
    (alike : ∀ k, v.get? k = w.get? k) : v = w := by
  obtain ⟨ms, rfl, order⟩ := ordered
  obtain ⟨ns, rfl, order'⟩ := ordered'
  rw [order.ext order' alike]

theorem filterMap_present_keys (ms : List (String × Option Json)) :
    List.Sublist ((ms.filterMap fun e => e.2.map fun v => (e.1, v)).map Prod.fst)
      (ms.map Prod.fst) := by
  induction ms with
  | nil => exact List.Sublist.refl _
  | cons m rest ih =>
    obtain ⟨k, v?⟩ := m
    cases v? with
    | none => exact ih.cons k
    | some v => exact ih.cons_cons k

theorem present_ordered {ms : List (String × Option Json)} (order : Assoc.Ascending ms) :
    (present ms).Ordered :=
  ⟨_, rfl, order.sublist (filterMap_present_keys ms)⟩

theorem get?_present {ms : List (String × Option Json)} (order : Assoc.Ascending ms) (k : String) :
    (present ms).get? k = (Assoc.get? k ms).join := by
  change Assoc.get? k (ms.filterMap fun e => e.2.map fun v => (e.1, v)) = _
  induction ms with
  | nil => rfl
  | cons m rest ih =>
    obtain ⟨l, v?⟩ := m
    have tail := ih order.tail
    by_cases here : k = l
    · subst here
      cases v? with
      | none =>
        rw [List.filterMap_cons_none rfl, tail, Assoc.get?_eq_none order.head_lt]
        simp [Assoc.get?]
      | some v => simp [Assoc.get?]
    · cases v? with
      | none =>
        simp only [List.filterMap_cons, Option.map_none, Assoc.get?, if_neg here, tail]
      | some v =>
        simp only [List.filterMap_cons, Option.map_some, Assoc.get?, if_neg here, tail]

mutual
def Finite : Json → Prop
  | .double x => x.isFinite = true
  | .arr items => FiniteItems items
  | .obj members => FiniteMembers members
  | _ => True

def FiniteItems : List Json → Prop
  | [] => True
  | v :: rest => v.Finite ∧ FiniteItems rest

def FiniteMembers : List (String × Json) → Prop
  | [] => True
  | (_, v) :: rest => v.Finite ∧ FiniteMembers rest
end

theorem finiteItems_iff {items : List Json} : FiniteItems items ↔ ∀ v ∈ items, v.Finite := by
  induction items with
  | nil => simp [FiniteItems]
  | cons v rest ih => simp [FiniteItems, ih]

theorem finiteMembers_iff {members : List (String × Json)} :
    FiniteMembers members ↔ ∀ m ∈ members, m.2.Finite := by
  induction members with
  | nil => simp [FiniteMembers]
  | cons m rest ih => simp [FiniteMembers, ih]

theorem finite_str (s : String) : (str s).Finite := trivial

theorem finite_int (n : Int) : (int n).Finite := trivial

theorem finite_arr {items : List Json} : (arr items).Finite ↔ ∀ v ∈ items, v.Finite :=
  finiteItems_iff

theorem finite_obj {members : List (String × Json)} :
    (obj members).Finite ↔ ∀ m ∈ members, m.2.Finite := finiteMembers_iff

theorem Finite.members {v : Json} (finite : v.Finite) : ∀ m ∈ v.members, m.2.Finite := by
  cases v with
  | obj ms => exact finite_obj.mp finite
  | _ => nofun

theorem Finite.get? {v w : Json} {k : String} (finite : v.Finite) (found : v.get? k = some w) :
    w.Finite := finite.members _ (Assoc.mem_of_get? found)

theorem Finite.get {v : Json} (finite : v.Finite) (k : String) : (v.get k).Finite := by
  unfold Json.get
  cases found : v.get? k with
  | none => trivial
  | some w => exact finite.get? found

theorem Finite.set {v w : Json} (finite : v.Finite) (k : String) (finite' : w.Finite) :
    (v.set k w).Finite := by
  refine finite_obj.mpr fun m mem => ?_
  rcases Assoc.mem_set mem with rfl | old
  · exact finite'
  · exact finite.members m old

theorem Finite.erase {v : Json} (finite : v.Finite) (k : String) : (v.erase k).Finite := by
  cases v with
  | obj ms => exact finite_obj.mpr fun m mem => finite_obj.mp finite m (List.mem_filter.mp mem).1
  | _ => exact finite

theorem Finite.arr? {v : Json} {items : List Json} (finite : v.Finite)
    (list : v.arr? = some items) : ∀ w ∈ items, w.Finite := by
  cases v with
  | arr xs =>
    cases list
    exact finite_arr.mp finite
  | _ => cases list

theorem finite_present {ms : List (String × Option Json)}
    (finite : ∀ m ∈ ms, ∀ v, m.2 = some v → v.Finite) : (present ms).Finite := by
  refine finite_obj.mpr fun e mem => ?_
  obtain ⟨m, listed, made⟩ := List.mem_filterMap.mp mem
  obtain ⟨v, there, rfl⟩ := Option.map_eq_some_iff.mp made
  exact finite m listed v there

theorem finite_texts (xs : List String) : (texts xs).Finite := by
  refine finite_arr.mpr fun v mem => ?_
  obtain ⟨x, _, rfl⟩ := List.mem_map.mp mem
  trivial

theorem finite_textMap (m : List (String × String)) : (textMap m).Finite := by
  refine finite_obj.mpr fun e mem => ?_
  obtain ⟨x, _, rfl⟩ := List.mem_map.mp mem
  trivial

theorem double_same_refl {x : Double} (finite : x.isFinite = true) : x.same x = true := by
  have noNaN : x.isNaN = false := by
    simp only [Double.isFinite, decide_eq_true_eq] at finite
    simp [Double.isNaN, finite]
  simp [Double.same, noNaN]

mutual
theorem same_refl : ∀ {v : Json}, v.Finite → v.same v = true
  | .null, _ => rfl
  | .bool b, _ => by simp [same]
  | .int n, _ => by simp [same]
  | .double x, finite => double_same_refl finite
  | .str s, _ => by simp [same]
  | .arr items, finite => sameItems_refl finite
  | .obj members, finite => sameMembers_refl finite

theorem sameItems_refl : ∀ {items : List Json}, FiniteItems items →
    same.sameItems items items = true
  | [], _ => rfl
  | v :: rest, finite => by
    rw [same.sameItems, same_refl finite.1, sameItems_refl finite.2]
    rfl

theorem sameMembers_refl : ∀ {members : List (String × Json)}, FiniteMembers members →
    same.sameMembers members members = true
  | [], _ => rfl
  | (k, v) :: rest, finite => by
    rw [same.sameMembers, same_refl finite.1, sameMembers_refl finite.2, beq_self_eq_true]
    rfl
end

end Json
end SchedulerOperator
