import Mathlib.Algebra.Group.Int.Defs
import Mathlib.Algebra.Group.Nat.Defs
import Mathlib.Data.List.Forall2
import SchedulerOperator.Proofs.WorkloadShape

/-!
A record is read from its members alone, in whatever order they stand and whatever else is there,
and an array of its fields is read as the object of these fields. So what is true of a record
follows from its fields.
-/
namespace SchedulerOperator
variable {α β : Type}

namespace Assoc

theorem Ascending.unique {m : List (String × α)} (order : Ascending m) : Unique m := by
  refine List.Pairwise.imp (fun {k l} before => ?_) order
  rintro rfl
  exact String.lt_irrefl k before

theorem Unique.erase {κ : Type} [DecidableEq κ] {m : List (κ × α)} (unique : Unique m) (k : κ) :
    Unique (Assoc.erase k m) := unique.sublist List.filter_sublist

theorem ascending_extend {m n : List (String × α)} (order : Ascending m) :
    Ascending (extend m n) := by
  induction n generalizing m with
  | nil => exact order
  | cons e rest ih => exact ih order.set

theorem ascending_ofList (m : List (String × α)) : Ascending (ofList m) :=
  ascending_extend List.Pairwise.nil

theorem Ascending.ofList_eq {m : List (String × α)} (order : Ascending m) : ofList m = m := by
  refine (ascending_ofList m).ext order fun k => Option.ext fun v => ?_
  rw [order.unique.get?_ofList_iff]
  exact ⟨order.unique.get?_of_mem, mem_of_get?⟩

end Assoc

namespace Decode

theorem integer_reads {low high n : Int} {wanted : String} (range : low ≤ n ∧ n ≤ high) :
    (integer low high wanted).ofJson (.int n) = .ok n := by
  simp only [integer, leaf, if_pos range]
  rfl

theorem of_integer {low high n : Int} {wanted : String} {v : Json}
    (read : (integer low high wanted).ofJson v = .ok n) : v = .int n ∧ low ≤ n ∧ n ≤ high := by
  cases v with
  | int m =>
    change (if low ≤ m ∧ m ≤ high then Except.ok m else _) = _ at read
    split at read
    next range =>
      cases read
      exact ⟨rfl, range⟩
    next => cases read
  | _ => cases read

theorem of_int64 {n : Int64} {v : Json} (read : int64.ofJson v = .ok n) : v = .word n := by
  change ((integer _ _ "i64").ofJson v).map Int64.ofInt = _ at read
  cases taken : (integer (-9223372036854775808) 9223372036854775807 "i64").ofJson v with
  | error e =>
    rw [taken] at read
    cases read
  | ok m =>
    rw [taken] at read
    cases read
    obtain ⟨rfl, low, high⟩ := of_integer taken
    rw [Json.word, Int64.toInt_ofInt_of_le low (Int.lt_add_one_of_le high)]

theorem double_reads {x : Double} (finite : x.isFinite = true) :
    double.ofJson (.ofDouble x) = .ok x := by
  rw [Json.ofDouble, if_pos finite]
  rfl

theorem optional_reads {dec : Decoder α} {v : Json} {a : α} (there : v ≠ .null)
    (read : dec.ofJson v = .ok a) : (optional dec).ofJson v = .ok (some a) := by
  cases v with
  | null => exact absurd rfl there
  | _ => simp only [optional, read]; rfl

theorem of_optional {dec : Decoder α} {v : Json} {o : Option α}
    (read : (optional dec).ofJson v = .ok o) :
    v = .null ∧ o = none ∨ v ≠ .null ∧ ∃ a, o = some a ∧ dec.ofJson v = .ok a := by
  have inner : ∀ w, (dec.ofJson w).map some = .ok o → ∃ a, o = some a ∧ dec.ofJson w = .ok a := by
    intro w taken
    cases value : dec.ofJson w with
    | error e =>
      rw [value] at taken
      cases taken
    | ok b =>
      rw [value] at taken
      cases taken
      exact ⟨b, rfl, rfl⟩
  cases v with
  | null =>
    cases read
    exact .inl ⟨rfl, rfl⟩
  | _ => exact .inr ⟨nofun, inner _ read⟩

theorem list_reads {dec : Decoder α} {write : α → Json} {as : List α}
    (each : ∀ a ∈ as, dec.ofJson (write a) = .ok a) :
    (list dec).ofJson (.arr (as.map write)) = .ok as := by
  change itemsOf dec (as.map write) = .ok as
  induction as with
  | nil => rfl
  | cons a rest ih =>
    have more := ih fun b mem => each b (List.mem_cons_of_mem _ mem)
    rw [List.map_cons, itemsOf, each a List.mem_cons_self, more]
    rfl

theorem textMap_reads {m : List (String × String)} (order : Assoc.Ascending m) :
    (map text).ofJson (.textMap m) = .ok m := by
  have entries : ∀ n : List (String × String),
      entriesOf text (n.map fun e => (e.1, .str e.2)) = .ok n := by
    intro n
    induction n with
    | nil => rfl
    | cons e rest ih =>
      rw [List.map_cons, entriesOf, ih]
      rfl
  change (entriesOf text _).map Assoc.ofList = _
  rw [entries m]
  exact congrArg Except.ok order.ofList_eq

end Decode

namespace Fields
variable {f : Fields (α → β)} {x : Fields α} {dec : Decoder α} {name : String}
  {ms : List (String × Json)} {items : List Json} {a : α}

def names (f : Fields α) : List String := f.known.map Prod.fst

theorem names_apply : (f.apply x).names = f.names ++ x.names := List.map_append

/-! What the members hold is what is read. -/

/-- The members hold `a`: it is read of them, and each of them that is known can be read. -/
structure Reads (f : Fields α) (ms : List (String × Json)) (a : α) : Prop where
  read : f.ofMembers ms = .ok a
  readable : f.Readable ms

theorem reads_constant (a : α) : (constant a).Reads ms a where
  read := rfl
  readable _ _ _ mem := absurd mem List.not_mem_nil

theorem Reads.apply {g : α → β} (first : f.Reads ms g) (second : x.Reads ms a) :
    (f.apply x).Reads ms (g a) where
  read := by
    simp only [Fields.apply, first.read, second.read]
    rfl
  readable k dec v mem found := by
    rcases List.mem_append.mp mem with left | right
    · exact first.readable k dec v left found
    · exact second.readable k dec v right found

theorem reads_field {missing tooShort : Option α} {v : Json} (found : Assoc.get? name ms = some v)
    (read : dec.ofJson v = .ok a) : (field name dec missing tooShort).Reads ms a where
  read := by
    simp only [field, found]
    exact read
  readable k dec' w mem there := by
    cases List.mem_singleton.mp mem
    cases found.symm.trans there
    exact Decoder.takes_map.mpr ⟨a, read⟩

theorem reads_missing (missing : Assoc.get? name ms = none) :
    (defaulted name dec a).Reads ms a where
  read := by simp only [defaulted, field, missing]
  readable k dec' w mem there := by
    cases List.mem_singleton.mp mem
    cases missing.symm.trans there

theorem reads_optional {o : Option α} {write : α → Json}
    (found : Assoc.get? name ms = o.map write)
    (each : ∀ a ∈ o, write a ≠ .null ∧ dec.ofJson (write a) = .ok a) :
    (Fields.optional name dec).Reads ms o := by
  cases o with
  | none => exact reads_missing found
  | some a =>
    obtain ⟨there, read⟩ := each a rfl
    change (field name (Decode.optional dec) (some none) (some none)).Reads ms (some a)
    exact reads_field found (Decode.optional_reads there read)

theorem firstRepeated_unique {listed : List String} (unique : Assoc.Unique ms) :
    firstRepeated listed ms = none := by
  induction ms with
  | nil => rfl
  | cons m rest ih =>
    obtain ⟨fresh, others⟩ := List.nodup_cons.mp unique
    have once : Assoc.contains m.1 rest = false := by
      rw [Assoc.contains, Option.isSome_eq_false_iff, Option.isNone_iff_eq_none]
      refine Option.eq_none_iff_forall_ne_some.mpr fun v found => fresh ?_
      exact List.mem_map.mpr ⟨_, Assoc.mem_of_get? found, rfl⟩
    rw [firstRepeated, once, Bool.and_false, if_neg Bool.false_ne_true]
    exact ih others

theorem Reads.checked {f : Fields α} (reads : f.Reads ms a) (unique : Assoc.Unique ms) :
    checkMembers f.known ms = .ok () := by
  refine checkMembers_ok fun m mem dec known => ?_
  exact reads.readable m.1 dec m.2 (Assoc.mem_of_get? known) (unique.get?_of_mem mem)

theorem Reads.ofJson {f : Fields α} (reads : f.Reads ms a) (unique : Assoc.Unique ms)
    (title : String) : (Fields.read title f).ofJson (.obj ms) = .ok a := by
  change readMembers f ms = .ok a
  simp only [readMembers, reads.checked unique, firstRepeated_unique unique]
  exact reads.read

theorem Reads.ofObject {f : Fields α} (reads : f.Reads ms a) (unique : Assoc.Unique ms)
    (title : String) : (readObject title f).ofJson (.obj ms) = .ok a := by
  simp only [readObject, reads.checked unique]
  exact reads.read

/-! An array of fields is read as the object of these fields. -/

theorem apply_ofMembers {b : β} :
    (f.apply x).ofMembers ms = .ok b ↔
      ∃ g a, f.ofMembers ms = .ok g ∧ x.ofMembers ms = .ok a ∧ b = g a := by
  change (f.ofMembers ms >>= fun g => x.ofMembers ms >>= fun a => .ok (g a)) = .ok b ↔ _
  simp only [Plan.bind_eq_ok, Except.ok.injEq]
  constructor
  · rintro ⟨g, first, a, second, rfl⟩
    exact ⟨g, a, first, second, rfl⟩
  · rintro ⟨g, a, first, second, rfl⟩
    exact ⟨g, first, a, second, rfl⟩

theorem apply_ofItems {short : Nat → DecodeError} {i j : Nat} {rest : List Json} {b : β} :
    (f.apply x).ofItems short i items = .ok (b, j, rest) ↔
      ∃ g l between a, f.ofItems short i items = .ok (g, l, between) ∧
        x.ofItems short l between = .ok (a, j, rest) ∧ b = g a := by
  change (f.ofItems short i items >>= fun p => x.ofItems short p.2.1 p.2.2 >>= fun q =>
    .ok (p.1 q.1, q.2.1, q.2.2)) = _ ↔ _
  simp only [Plan.bind_eq_ok, Except.ok.injEq, Prod.mk.injEq, Prod.exists]
  constructor
  · rintro ⟨g, l, between, first, a, j', rest', second, rfl, rfl, rfl⟩
    exact ⟨g, l, between, a, first, second, rfl⟩
  · rintro ⟨g, l, between, a, first, second, rfl⟩
    exact ⟨g, l, between, first, a, j, rest, second, rfl, rfl, rfl⟩

def named (f : Fields α) (items : List Json) : List (String × Json) := f.names.zip items

/-- Where the names differ, the items that are read are the first ones, and they are read as
members of these names. -/
def Positional (f : Fields α) : Prop :=
  f.names.Nodup → ∀ short i items a j rest, f.ofItems short i items = .ok (a, j, rest) →
    rest = items.drop f.names.length ∧
      ∀ ms, (∀ k ∈ f.names, Assoc.get? k ms = Assoc.get? k (f.named items)) → f.ofMembers ms = .ok a

theorem positional_constant (a : α) : (constant a).Positional := by
  rintro _ short i items _ j rest ⟨⟩
  exact ⟨rfl, fun _ _ => rfl⟩

theorem positional_field {missing : Option α} : (field name dec missing missing).Positional := by
  intro _ short i items a j rest read
  cases items with
  | nil =>
    cases missing with
    | none => cases read
    | some b =>
      cases read
      refine ⟨rfl, fun ms alike => ?_⟩
      have absent : Assoc.get? name ms = none := alike name List.mem_cons_self
      simp only [field, absent]
  | cons v more =>
    obtain ⟨b, taken, done⟩ : ∃ b, dec.ofJson v = .ok b ∧ (b, i + 1, more) = (a, j, rest) := by
      change (dec.ofJson v).map _ = _ at read
      cases taken : dec.ofJson v with
      | error e =>
        rw [taken] at read
        cases read
      | ok b =>
        rw [taken] at read
        exact ⟨b, rfl, Except.ok.inj read⟩
    cases done
    refine ⟨rfl, fun ms alike => ?_⟩
    have found : Assoc.get? name ms = some v := (alike name List.mem_cons_self).trans (if_pos rfl)
    simp only [field, found]
    exact taken

theorem get?_zip_append {front back : List String} (nodup : (front ++ back).Nodup)
    (items : List Json) (k : String) :
    (k ∈ front → Assoc.get? k ((front ++ back).zip items) = Assoc.get? k (front.zip items)) ∧
    (k ∈ back → Assoc.get? k ((front ++ back).zip items) =
      Assoc.get? k (back.zip (items.drop front.length))) := by
  induction front generalizing items with
  | nil => exact ⟨fun mem => absurd mem List.not_mem_nil, fun _ => rfl⟩
  | cons l front ih =>
    obtain ⟨fresh, nodup⟩ := List.nodup_cons.mp nodup
    cases items with
    | nil => simp [Assoc.get?]
    | cons v items =>
      by_cases here : k = l
      · subst here
        refine ⟨fun _ => ?_, fun mem => absurd (List.mem_append_right _ mem) fresh⟩
        simp [Assoc.get?]
      · obtain ⟨first, second⟩ := ih nodup items
        refine ⟨fun mem => ?_, fun mem => ?_⟩
        · simpa [Assoc.get?, here] using first ((List.mem_cons.mp mem).resolve_left here)
        · simpa [Assoc.get?, here] using second mem

theorem Positional.apply (first : f.Positional) (second : x.Positional) :
    (f.apply x).Positional := by
  intro nodup short i items b j rest read
  rw [names_apply] at nodup
  obtain ⟨nodupF, nodupX, _⟩ := List.nodup_append.mp nodup
  obtain ⟨g, l, between, a, readG, readA, rfl⟩ := apply_ofItems.mp read
  obtain ⟨rfl, alikeG⟩ := first nodupF _ _ _ _ _ _ readG
  obtain ⟨rfl, alikeA⟩ := second nodupX _ _ _ _ _ _ readA
  refine ⟨by rw [List.drop_drop, names_apply, List.length_append], fun ms alike => ?_⟩
  refine apply_ofMembers.mpr ⟨g, a, alikeG ms fun k mem => ?_, alikeA ms fun k mem => ?_, rfl⟩
  · rw [alike k (by rw [names_apply]; exact List.mem_append_left _ mem), named, names_apply]
    exact (get?_zip_append nodup items k).1 mem
  · rw [alike k (by rw [names_apply]; exact List.mem_append_right _ mem), named, names_apply]
    exact (get?_zip_append nodup items k).2 mem

def membersOf (f : Fields α) : Json → List (String × Json)
  | .obj ms => ms
  | .arr items => f.named items
  | _ => []

theorem readMembers_ok {f : Fields α} (read : readMembers f ms = .ok a) :
    f.ofMembers ms = .ok a := by
  obtain ⟨_, _, rest⟩ := Plan.bind_eq_ok.mp read
  split at rest
  · cases rest
  · exact rest

theorem ofMembers_of_read {f : Fields α} {v : Json} {title : String} (positional : f.Positional)
    (nodup : f.names.Nodup) (read : (Fields.read title f).ofJson v = .ok a) :
    f.ofMembers (f.membersOf v) = .ok a := by
  cases v with
  | obj ms => exact readMembers_ok read
  | arr items =>
    obtain ⟨⟨b, j, rest⟩, taken, done⟩ := Plan.bind_eq_ok.mp read
    have same : b = a := by
      simp only at done
      split at done
      · exact Except.ok.inj done
      · cases done
    subst same
    exact (positional nodup _ _ _ _ _ _ taken).2 _ fun _ _ => rfl
  | _ => cases read

theorem ofMembers_of_readObject {f : Fields α} {v : Json} {title : String}
    (read : (readObject title f).ofJson v = .ok a) : f.ofMembers v.members = .ok a := by
  cases v with
  | obj ms =>
    obtain ⟨_, _, rest⟩ := Plan.bind_eq_ok.mp read
    exact rest
  | _ => cases read

end Fields

/-! What is written and what is read. -/

theorem twoTo_eq (n : Nat) : twoTo n = 2 ^ n := rfl

namespace Double

theorem isFinite_withSign {negative : Bool} {magnitude : Nat} (small : magnitude < infinity.word) :
    (withSign negative magnitude).isFinite = true := by
  have bound : infinity.word = 2047 * 2 ^ 52 := by decide
  rw [bound] at small
  have word : (withSign negative magnitude).word = magnitude + if negative then 2 ^ 63 else 0 := by
    rw [withSign, Double.word, UInt64.toNat_ofNat']
    simp only [twoTo_eq]
    split <;> omega
  simp only [isFinite, exponentField, word, twoTo_eq, decide_eq_true_eq]
  split <;> omega

theorem roundHalfEven_le (num den : Nat) : roundHalfEven num den ≤ num / den + 1 := by
  unfold roundHalfEven
  simp only
  split
  · omega
  · split
    · omega
    · omega

theorem roundHalfEven_one (num : Nat) : roundHalfEven num 1 = num := by
  simp [roundHalfEven, Nat.mod_one]

theorem floorLog2_one (num : Nat) (positive : num ≠ 0) : floorLog2 num 1 = num.log2 := by
  have within : 2 ^ num.log2 ≤ num := Nat.log2_self_le positive
  have one : Nat.log2 1 = 0 := by decide
  simp only [floorLog2, twoTo_eq, one]
  rw [if_pos]
  · rfl
  · simpa using within

theorem steps_le {num k : Nat} (above : num < 2 ^ (k + 1)) :
    roundHalfEven (num * 2 ^ (52 - k)) (2 ^ (k - 52)) ≤ 2 ^ 53 := by
  rcases Nat.le_total k 52 with few | many
  · have exact : k - 52 = 0 := by omega
    have whole : 2 ^ (k + 1) * 2 ^ (52 - k) = 2 ^ 53 := by
      rw [← Nat.pow_add]
      congr 1
      omega
    rw [exact, Nat.pow_zero, roundHalfEven_one, ← whole]
    exact Nat.mul_le_mul_right _ (Nat.le_of_lt above)
  · have none : 52 - k = 0 := by omega
    have whole : 2 ^ (k + 1) = 2 ^ 53 * 2 ^ (k - 52) := by
      rw [← Nat.pow_add]
      congr 1
      omega
    have below : num / 2 ^ (k - 52) < 2 ^ 53 :=
      (Nat.div_lt_iff_lt_mul (Nat.two_pow_pos _)).mpr (whole ▸ above)
    rw [none, Nat.pow_zero, Nat.mul_one]
    exact Nat.le_trans (roundHalfEven_le _ _) below

theorem isFinite_ofRatio {negative : Bool} {num : Nat} (small : num < 2 ^ 64) :
    (ofRatio negative num 1).isFinite = true := by
  unfold ofRatio
  split
  · exact isFinite_withSign (by decide)
  · rename_i positive
    have digits : num.log2 < 64 := (Nat.log2_lt positive).mpr small
    have steps := steps_le (k := num.log2) Nat.lt_log2_self
    have unit : max ((num.log2 : Int) - 52) (-1074) = (num.log2 : Int) - 52 := by omega
    have up : ((num.log2 : Int) - 52).toNat = num.log2 - 52 := by omega
    have down : (-((num.log2 : Int) - 52)).toNat = 52 - num.log2 := by omega
    have infinite : infinity.word = 2047 * 2 ^ 52 := by decide
    refine isFinite_withSign ?_
    simp only [floorLog2_one num positive, twoTo_eq, unit, up, down, Nat.one_mul, infinite]
    split <;> omega

end Double

namespace Json

mutual
/-- Every number is one that a document holds: a finite double, or an integer of 64 bits, with
a sign or without. -/
def Bounded : Json → Prop
  | .int n => -2 ^ 63 ≤ n ∧ n < 2 ^ 64
  | .double x => x.isFinite = true
  | .arr items => BoundedItems items
  | .obj members => BoundedMembers members
  | _ => True

def BoundedItems : List Json → Prop
  | [] => True
  | v :: rest => v.Bounded ∧ BoundedItems rest

def BoundedMembers : List (String × Json) → Prop
  | [] => True
  | (_, v) :: rest => v.Bounded ∧ BoundedMembers rest
end

theorem bounded_arr {items : List Json} : (arr items).Bounded ↔ ∀ v ∈ items, v.Bounded := by
  change BoundedItems items ↔ _
  induction items with
  | nil => simp [BoundedItems]
  | cons v rest ih => simp [BoundedItems, ih]

theorem bounded_obj {ms : List (String × Json)} : (obj ms).Bounded ↔ ∀ m ∈ ms, m.2.Bounded := by
  change BoundedMembers ms ↔ _
  induction ms with
  | nil => simp [BoundedMembers]
  | cons m rest ih => simp [BoundedMembers, ih]

end Json

/-- Of the values that `P` holds of, `dec` reads what `write` writes; and it reads no others. -/
structure Decoder.Inverts (dec : Decoder α) (write : α → Json) (P : α → Prop) : Prop where
  shown : ∀ a, P a → write a ≠ .null
  reads : ∀ a, P a → dec.ofJson (write a) = .ok a
  yields : ∀ v a, v.Bounded → dec.ofJson v = .ok a → P a

namespace Decode

theorem inverts_text : text.Inverts .str fun _ => True where
  shown _ _ := nofun
  reads _ _ := rfl
  yields _ _ _ _ := trivial

theorem inverts_boolean : boolean.Inverts .bool fun _ => True where
  shown _ _ := nofun
  reads _ _ := rfl
  yields _ _ _ _ := trivial

theorem inverts_integer {low high : Int} {wanted : String} :
    (integer low high wanted).Inverts .int fun n => low ≤ n ∧ n ≤ high where
  shown _ _ := nofun
  reads _ range := integer_reads range
  yields _ _ _ read := (of_integer read).2

theorem inverts_int64 : int64.Inverts .word fun _ => True where
  shown _ _ := nofun
  reads n _ := by
    have range : -9223372036854775808 ≤ n.toInt ∧ n.toInt ≤ 9223372036854775807 :=
      ⟨n.le_toInt, Int.le_of_lt_add_one n.toInt_lt⟩
    change ((integer _ _ "i64").ofJson (.int n.toInt)).map Int64.ofInt = _
    rw [integer_reads range]
    exact congrArg Except.ok n.ofInt_toInt
  yields _ _ _ _ := trivial

theorem inverts_double : double.Inverts .ofDouble fun x => x.isFinite = true where
  shown x finite := by
    rw [Json.ofDouble, if_pos finite]
    nofun
  reads _ finite := double_reads finite
  yields v x bounded read := by
    cases v with
    | double y =>
      cases read
      exact bounded
    | int n =>
      cases read
      have range : -2 ^ 63 ≤ n ∧ n < 2 ^ 64 := bounded
      exact Double.isFinite_ofRatio (by omega)
    | _ => cases read

theorem inverts_textMap : (map text).Inverts .textMap Assoc.Ascending where
  shown _ _ := nofun
  reads _ order := textMap_reads order
  yields v m _ read := by
    cases v with
    | obj ms =>
      change (entriesOf text ms).map Assoc.ofList = _ at read
      cases entries : entriesOf text ms with
      | error e =>
        rw [entries] at read
        cases read
      | ok m' =>
        rw [entries] at read
        cases read
        exact Assoc.ascending_ofList m'
    | _ => cases read

theorem itemsOf_iff {dec : Decoder α} {items : List Json} {as : List α} :
    itemsOf dec items = .ok as ↔ List.Forall₂ (fun v a => dec.ofJson v = .ok a) items as := by
  induction items generalizing as with
  | nil =>
    rw [itemsOf, Except.ok.injEq, List.forall₂_nil_left_iff, eq_comm]
  | cons v rest ih =>
    change (dec.ofJson v >>= fun a => itemsOf dec rest >>= fun more => .ok (a :: more)) = _ ↔ _
    simp only [Plan.bind_eq_ok, List.forall₂_cons_left_iff, Except.ok.injEq]
    constructor
    · rintro ⟨a, first, more, others, rfl⟩
      exact ⟨a, more, first, ih.mp others, rfl⟩
    · rintro ⟨a, more, first, others, rfl⟩
      exact ⟨a, first, more, ih.mpr others, rfl⟩

theorem inverts_list {dec : Decoder α} {write : α → Json} {P : α → Prop}
    (inverts : dec.Inverts write P) :
    (list dec).Inverts (fun as => .arr (as.map write)) fun as => ∀ a ∈ as, P a where
  shown _ _ := nofun
  reads _ each := list_reads fun a mem => inverts.reads a (each a mem)
  yields v as bounded read := by
    cases v with
    | arr items =>
      have each : List.Forall₂ (fun v a => dec.ofJson v = .ok a) items as := itemsOf_iff.mp read
      clear read
      induction each with
      | nil => exact nofun
      | cons taken _ ih =>
        obtain ⟨here, later⟩ := List.forall_mem_cons.mp (Json.bounded_arr.mp bounded)
        exact List.forall_mem_cons.mpr
          ⟨inverts.yields _ _ here taken, ih (Json.bounded_arr.mpr later)⟩
    | _ => cases read

end Decode

namespace Fields
variable {f : Fields (α → β)} {x : Fields α} {dec : Decoder α} {write : α → Json} {P : α → Prop}
  {name : String} {listed : List (String × Option Json)} {ms : List (String × Json)} {a : α}

/-! A record is inverted by what writes its fields in the order of their names. -/

def Yields (f : Fields α) (P : α → Prop) : Prop :=
  ∀ ms a, (∀ m ∈ ms, m.2.Bounded) → f.ofMembers ms = .ok a → P a

theorem yields_constant (holds : P a) : (constant a).Yields P := by
  rintro ms _ _ ⟨⟩
  exact holds

theorem Yields.apply {Q : β → Prop} (first : f.Yields fun g => ∀ a, P a → Q (g a))
    (second : x.Yields P) : (f.apply x).Yields Q := by
  intro ms b bounded read
  obtain ⟨g, a, readG, readA, rfl⟩ := apply_ofMembers.mp read
  exact first ms g bounded readG a (second ms a bounded readA)

theorem yields_field {missing tooShort : Option α} (inverts : dec.Inverts write P)
    (holds : ∀ a ∈ missing, P a) : (field name dec missing tooShort).Yields P := by
  intro ms a bounded read
  cases found : Assoc.get? name ms with
  | some v =>
    simp only [field, found] at read
    exact inverts.yields v a (bounded _ (Assoc.mem_of_get? found)) read
  | none =>
    cases missing with
    | none =>
      simp only [field, found] at read
      cases read
    | some b =>
      simp only [field, found] at read
      cases read
      exact holds a rfl

theorem yields_required (inverts : dec.Inverts write P) : (required name dec).Yields P :=
  yields_field inverts nofun

theorem yields_defaulted (inverts : dec.Inverts write P) (holds : P a) :
    (defaulted name dec a).Yields P := by
  refine yields_field inverts ?_
  rintro _ ⟨⟩
  exact holds

theorem yields_optional (inverts : dec.Inverts write P) :
    (Fields.optional name dec).Yields fun o => ∀ a ∈ o, P a := by
  intro ms o bounded read a there
  cases found : Assoc.get? name ms with
  | some v =>
    simp only [Fields.optional, defaulted, field, found] at read
    rcases Decode.of_optional read with ⟨_, rfl⟩ | ⟨_, b, rfl, taken⟩
    · cases there
    · cases there
      exact inverts.yields v a (bounded _ (Assoc.mem_of_get? found)) taken
  | none =>
    simp only [Fields.optional, defaulted, field, found] at read
    cases read
    cases there

def Holds (f : Fields α) (listed : List (String × Option Json)) (ms : List (String × Json)) :
    Prop :=
  ∀ k ∈ f.names, Assoc.get? k ms = (Assoc.get? k listed).join

theorem holds_present {f : Fields α} (order : Assoc.Ascending listed) :
    f.Holds listed (Json.present listed).members := fun k _ => Json.get?_present order k

theorem Holds.apply (holds : (f.apply x).Holds listed ms) :
    f.Holds listed ms ∧ x.Holds listed ms := by
  rw [Holds, names_apply] at holds
  exact ⟨fun k mem => holds k (List.mem_append_left _ mem),
    fun k mem => holds k (List.mem_append_right _ mem)⟩

def Spells (f : Fields α) (write : α → Json) (a : α) : Prop :=
  ∃ ms, write a = .obj ms ∧ Assoc.Unique ms ∧ f.Reads ms a

theorem inverts_read {f : Fields α} {title : String} (positional : f.Positional)
    (nodup : f.names.Nodup) (spells : ∀ a, P a → f.Spells write a) (yields : f.Yields P) :
    (Fields.read title f).Inverts write P where
  shown a holds := by
    obtain ⟨ms, same, _⟩ := spells a holds
    rw [same]
    nofun
  reads a holds := by
    obtain ⟨ms, same, unique, reads⟩ := spells a holds
    rw [same]
    exact reads.ofJson unique title
  yields v a bounded read := by
    refine yields (f.membersOf v) a ?_ (ofMembers_of_read positional nodup read)
    cases v with
    | obj ms => exact Json.bounded_obj.mp bounded
    | arr items => exact fun m mem => Json.bounded_arr.mp bounded m.2 (List.of_mem_zip mem).2
    | _ => exact nofun

theorem inverts_readObject {f : Fields α} {title : String}
    (spells : ∀ a, P a → f.Spells write a) (yields : f.Yields P) :
    (readObject title f).Inverts write P where
  shown a holds := by
    obtain ⟨ms, same, _⟩ := spells a holds
    rw [same]
    nofun
  reads a holds := by
    obtain ⟨ms, same, unique, reads⟩ := spells a holds
    rw [same]
    exact reads.ofObject unique title
  yields v a bounded read := by
    refine yields v.members a ?_ (ofMembers_of_readObject read)
    cases v with
    | obj ms => exact Json.bounded_obj.mp bounded
    | _ => exact nofun

/-- Fields that agree with what is listed of records: of a record for which `Q` holds they are
read as `part` of it, and whatever they are read from, they are as `P` says. -/
structure Agrees {ρ : Type} (listing : ρ → List (String × Option Json)) (Q : ρ → Prop)
    (f : Fields α) (part : ρ → α) (P : α → Prop) : Prop where
  reads : ∀ r ms, f.Holds (listing r) ms → Q r → f.Reads ms (part r)
  yields : f.Yields P
  positional : f.Positional

section
variable {ρ : Type} {listing : ρ → List (String × Option Json)} {Q : ρ → Prop}

theorem Agrees.constant (holds : P a) : Agrees listing Q (constant a) (fun _ => a) P where
  reads _ _ _ _ := reads_constant a
  yields := yields_constant holds
  positional := positional_constant a

theorem Agrees.apply {R : β → Prop} {first : ρ → α → β} {second : ρ → α}
    (agrees : Agrees listing Q f first fun g => ∀ a, P a → R (g a))
    (agrees' : Agrees listing Q x second P) :
    Agrees listing Q (f.apply x) (fun r => first r (second r)) R where
  reads r ms holds sound := by
    obtain ⟨left, right⟩ := holds.apply
    exact (agrees.reads r ms left sound).apply (agrees'.reads r ms right sound)
  yields := agrees.yields.apply agrees'.yields
  positional := agrees.positional.apply agrees'.positional

theorem Agrees.required (part : ρ → α) (inverts : dec.Inverts write P)
    (here : ∀ r, Assoc.get? name (listing r) = some (some (write (part r))))
    (sound : ∀ r, Q r → P (part r)) : Agrees listing Q (required name dec) part P where
  reads r ms holds q := by
    have found := holds name List.mem_cons_self
    rw [here r] at found
    exact reads_field found (inverts.reads _ (sound r q))
  yields := yields_required inverts
  positional := positional_field

theorem Agrees.defaulted (part : ρ → α) (inverts : dec.Inverts write P)
    (here : ∀ r, Assoc.get? name (listing r) = some (some (write (part r))) ∨
      Assoc.get? name (listing r) = some none ∧ part r = a)
    (sound : ∀ r, Q r → P (part r)) (missing : P a) :
    Agrees listing Q (defaulted name dec a) part P where
  reads r ms holds q := by
    have found := holds name List.mem_cons_self
    rcases here r with written | ⟨skipped, same⟩
    · rw [written] at found
      exact reads_field found (inverts.reads _ (sound r q))
    · rw [skipped] at found
      rw [same]
      exact reads_missing found
  yields := yields_defaulted inverts missing
  positional := positional_field

theorem Agrees.optional (part : ρ → Option α) (inverts : dec.Inverts write P)
    (here : ∀ r, Assoc.get? name (listing r) = some ((part r).map write))
    (sound : ∀ r, Q r → ∀ a ∈ part r, P a) :
    Agrees listing Q (Fields.optional name dec) part fun o => ∀ a ∈ o, P a where
  reads r ms holds q := by
    have found := holds name List.mem_cons_self
    rw [here r] at found
    exact reads_optional found fun a there =>
      ⟨inverts.shown a (sound r q a there), inverts.reads a (sound r q a there)⟩
  yields := yields_optional inverts
  positional := positional_field

theorem Agrees.spells {f : Fields ρ} {part : ρ → ρ} {R : ρ → Prop} {keys : List String}
    (sorted : keys.Pairwise (· < ·)) (listed : ∀ r, (listing r).map Prod.fst = keys)
    (agrees : Agrees listing Q f part R) (whole : ∀ r, part r = r) :
    ∀ r, Q r → f.Spells (fun r => .present (listing r)) r := by
  intro r sound
  have order : Assoc.Ascending (listing r) := by
    rw [Assoc.Ascending, listed]
    exact sorted
  have reads := agrees.reads r _ (holds_present order) sound
  rw [whole r] at reads
  exact ⟨_, rfl, List.Nodup.sublist (Json.filterMap_present_keys _) order.unique, reads⟩

/-- A record all fields of which agree with what is written of it is inverted. -/
theorem Agrees.inverts {f : Fields ρ} {part : ρ → ρ} {title : String} (keys : List String)
    (sorted : keys.Pairwise (· < ·)) (listed : ∀ r, (listing r).map Prod.fst = keys)
    (agrees : Agrees listing Q f part Q) (whole : ∀ r, part r = r) (nodup : f.names.Nodup) :
    (Fields.read title f).Inverts (fun r => .present (listing r)) Q :=
  inverts_read agrees.positional nodup (agrees.spells sorted listed whole) agrees.yields

theorem Agrees.invertsObject {f : Fields ρ} {part : ρ → ρ} {title : String} (keys : List String)
    (sorted : keys.Pairwise (· < ·)) (listed : ∀ r, (listing r).map Prod.fst = keys)
    (agrees : Agrees listing Q f part Q) (whole : ∀ r, part r = r) :
    (readObject title f).Inverts (fun r => .present (listing r)) Q :=
  inverts_readObject (agrees.spells sorted listed whole) agrees.yields

end
end Fields

end SchedulerOperator
