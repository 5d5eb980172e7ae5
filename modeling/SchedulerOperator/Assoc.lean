/-!
Finite maps as association lists kept in key order. Every operation is total on any
list; `set` changes the first entry of a present key in place and files a new key before
the first larger one, so the lookup laws need no order hypothesis.
-/
namespace SchedulerOperator.Assoc

variable {κ α : Type} [DecidableEq κ]

def get? (k : κ) : List (κ × α) → Option α
  | [] => none
  | (l, v) :: rest => if k = l then some v else get? k rest

def contains (k : κ) (m : List (κ × α)) : Bool := (get? k m).isSome

def replaceFirst (k : κ) (v : α) : List (κ × α) → List (κ × α)
  | [] => []
  | (l, w) :: rest => if k = l then (k, v) :: rest else (l, w) :: replaceFirst k v rest

def file [LT κ] [DecidableLT κ] (k : κ) (v : α) : List (κ × α) → List (κ × α)
  | [] => [(k, v)]
  | (l, w) :: rest => if k < l then (k, v) :: (l, w) :: rest else (l, w) :: file k v rest

def set [LT κ] [DecidableLT κ] (k : κ) (v : α) (m : List (κ × α)) : List (κ × α) :=
  if contains k m then replaceFirst k v m else file k v m

def erase (k : κ) (m : List (κ × α)) : List (κ × α) := m.filter fun e => decide (e.1 ≠ k)

/-- Entries in key order; of two entries with one key the later stays. -/
def ofList [LT κ] [DecidableLT κ] (entries : List (κ × α)) : List (κ × α) :=
  entries.foldl (fun m e => set e.1 e.2 m) []

/-- Entries of `n` win over entries of `m`. -/
def extend [LT κ] [DecidableLT κ] (m n : List (κ × α)) : List (κ × α) :=
  n.foldl (fun acc e => set e.1 e.2 acc) m

theorem get?_replaceFirst_self {k : κ} {v : α} {m : List (κ × α)} (present : contains k m) :
    get? k (replaceFirst k v m) = some v := by
  induction m with
  | nil => simp [contains, get?] at present
  | cons e rest ih =>
    by_cases same : k = e.1
    · simp [replaceFirst, get?, same]
    · have tail : contains k rest := by simpa [contains, get?, same] using present
      simp [replaceFirst, get?, same, ih tail]

theorem get?_replaceFirst_other {k l : κ} (v : α) (m : List (κ × α)) (other : l ≠ k) :
    get? l (replaceFirst k v m) = get? l m := by
  induction m with
  | nil => rfl
  | cons e rest ih =>
    by_cases same : k = e.1
    · simp [replaceFirst, get?, ← same, other]
    · by_cases hit : l = e.1 <;> simp [replaceFirst, get?, same, hit, ih]

variable [LT κ] [DecidableLT κ]

theorem get?_file_self {k : κ} {v : α} {m : List (κ × α)} (fresh : contains k m = false) :
    get? k (file k v m) = some v := by
  induction m with
  | nil => simp [file, get?]
  | cons e rest ih =>
    by_cases same : k = e.1
    · simp [contains, get?, same] at fresh
    · have tail : contains k rest = false := by simpa [contains, get?, same] using fresh
      by_cases before : k < e.1 <;> simp [file, get?, before, same, ih tail]

theorem get?_file_other {k l : κ} (v : α) (m : List (κ × α)) (other : l ≠ k) :
    get? l (file k v m) = get? l m := by
  induction m with
  | nil => simp [file, get?, other]
  | cons e rest ih =>
    by_cases before : k < e.1
    · simp [file, get?, before, other]
    · by_cases hit : l = e.1 <;> simp [file, get?, before, hit, ih]

theorem get?_set_self (k : κ) (v : α) (m : List (κ × α)) : get? k (set k v m) = some v := by
  by_cases present : contains k m
  · simp [set, present, get?_replaceFirst_self present]
  · simp only [Bool.not_eq_true] at present
    simp [set, present, get?_file_self present]

theorem get?_set_other {k l : κ} (v : α) (m : List (κ × α)) (other : l ≠ k) :
    get? l (set k v m) = get? l m := by
  by_cases present : contains k m
  · simp [set, present, get?_replaceFirst_other v m other]
  · simp [set, present, get?_file_other v m other]

omit [LT κ] [DecidableLT κ] in
theorem get?_erase_self (k : κ) (m : List (κ × α)) : get? k (erase k m) = none := by
  induction m with
  | nil => rfl
  | cons e rest ih =>
    by_cases same : e.1 = k
    · simpa [erase, same] using ih
    · have unlike : ¬ k = e.1 := fun h => same h.symm
      simpa [erase, same, get?, unlike] using ih

omit [LT κ] [DecidableLT κ] in
theorem get?_erase_other {k l : κ} (m : List (κ × α)) (other : l ≠ k) :
    get? l (erase k m) = get? l m := by
  induction m with
  | nil => rfl
  | cons e rest ih =>
    by_cases same : e.1 = k
    · have unlike : ¬ l = e.1 := fun h => other (h.trans same)
      simpa [erase, same, get?, unlike, other] using ih
    · by_cases hit : l = e.1
      · simp [erase, get?, hit, hit ▸ other]
      · simpa [erase, same, get?, hit] using ih

end SchedulerOperator.Assoc
