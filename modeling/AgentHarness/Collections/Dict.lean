import Mathlib.Algebra.GroupWithZero.Nat
import Mathlib.Algebra.Order.BigOperators.Group.List
import Mathlib.Algebra.Order.Group.Int
import Mathlib.Algebra.Ring.Int.Defs
import Mathlib.Data.List.Nodup

/-!
Dictionaries in insertion order: overwriting a key keeps its place, a new key
goes to the end.
-/

namespace Collections

open List Option

structure Dict (Key Value : Type) where
  entries : List (Key × Value)
  distinct : (entries.map Prod.fst).Nodup

namespace Dict

variable {Key Value : Type} [DecidableEq Key]

def empty : Dict Key Value := ⟨[], nodup_nil⟩

def getIn (key : Key) : List (Key × Value) → Option Value
  | [] => none
  | (other, value) :: rest => if other = key then some value else getIn key rest

def setIn (key : Key) (value : Value) : List (Key × Value) → List (Key × Value)
  | [] => [(key, value)]
  | (other, old) :: rest =>
    if other = key then (key, value) :: rest else (other, old) :: setIn key value rest

variable {entries : List (Key × Value)} {key : Key} {value : Value} {dict : Dict Key Value}

theorem mem_keys_setIn {other : Key} : other ∈ (setIn key value entries).map Prod.fst ↔
  other = key ∨ other ∈ entries.map Prod.fst := by
  induction entries with
  | nil => simp [setIn]
  | cons entry rest ih =>
    obtain ⟨first, old⟩ := entry
    by_cases same : first = key
    · subst first
      simp [setIn]
    simp only [setIn, if_neg same, map_cons, mem_cons, ih]
    tauto

theorem setIn_distinct (key : Key) (value : Value)
  (distinct : (entries.map Prod.fst).Nodup) : ((setIn key value entries).map Prod.fst).Nodup := by
  induction entries with
  | nil => exact nodup_singleton key
  | cons entry rest ih =>
    obtain ⟨first, old⟩ := entry
    obtain ⟨absent, tail⟩ := nodup_cons.mp distinct
    by_cases same : first = key
    · subst first
      simpa only [setIn, ↓reduceIte, map_cons] using distinct
    rw [setIn, if_neg same]
    refine nodup_cons.mpr ⟨fun present => ?_, ih tail⟩
    rcases mem_keys_setIn.mp present with equal | later
    · exact same equal
    exact absent later

def get? (dict : Dict Key Value) (key : Key) : Option Value := getIn key dict.entries

def set (dict : Dict Key Value) (key : Key) (value : Value) : Dict Key Value :=
  ⟨setIn key value dict.entries, setIn_distinct key value dict.distinct⟩

def setDefault (dict : Dict Key Value) (key : Key) (value : Value) : Dict Key Value :=
  match dict.get? key with
  | none => dict.set key value
  | some _ => dict

/-- `pop(key, None)`. -/
def erase (dict : Dict Key Value) (key : Key) : Dict Key Value where
  entries := dict.entries.filter (fun entry => entry.1 ≠ key)
  distinct := (filter_sublist.map Prod.fst).nodup dict.distinct

def values (dict : Dict Key Value) : List Value := dict.entries.map Prod.snd

@[simp] theorem get?_empty (key : Key) : (empty : Dict Key Value).get? key = none := rfl

theorem getIn_setIn (key other : Key) (value : Value) (entries : List (Key × Value)) :
  getIn other (setIn key value entries) =
    if other = key then some value else getIn other entries := by
  induction entries with
  | nil =>
    by_cases same : other = key
    · subst other
      simp [setIn, getIn]
    simp [setIn, getIn, same, Ne.symm same]
  | cons entry rest ih =>
    obtain ⟨first, old⟩ := entry
    by_cases same : first = key
    · subst first
      by_cases equal : other = key
      · subst other
        simp [setIn, getIn]
      simp [setIn, getIn, equal, Ne.symm equal]
    by_cases here : first = other
    · subst first
      simp [setIn, getIn, same]
    simp [setIn, if_neg same, getIn, if_neg here, ih]

theorem get?_set (dict : Dict Key Value) (key other : Key) (value : Value) :
  (dict.set key value).get? other = if other = key then some value else dict.get? other :=
  getIn_setIn key other value dict.entries

@[simp] theorem get?_set_self (dict : Dict Key Value) (key : Key) (value : Value) :
  (dict.set key value).get? key = some value := by
  rw [get?_set, if_pos rfl]

theorem get?_set_other (dict : Dict Key Value) {other : Key} (value : Value)
  (distinct : other ≠ key) : (dict.set key value).get? other = dict.get? other := by
  rw [get?_set, if_neg distinct]

theorem getIn_eq_some (distinct : (entries.map Prod.fst).Nodup) :
  getIn key entries = some value ↔ (key, value) ∈ entries := by
  induction entries with
  | nil => simp [getIn]
  | cons entry rest ih =>
    obtain ⟨first, old⟩ := entry
    obtain ⟨absent, tail⟩ := nodup_cons.mp distinct
    by_cases same : first = key
    · subst first
      have missing : (key, value) ∉ rest := fun present =>
        absent (mem_map.mpr ⟨(key, value), present, rfl⟩)
      simp [getIn, missing, eq_comm]
    simp [getIn, same, Ne.symm same, ih tail]

theorem get?_eq_some : dict.get? key = some value ↔ (key, value) ∈ dict.entries :=
  getIn_eq_some dict.distinct

theorem mem_values : value ∈ dict.values ↔ ∃ key, dict.get? key = some value := by
  rw [values, List.mem_map]
  constructor
  · rintro ⟨⟨key, stored⟩, present, rfl⟩
    exact ⟨key, get?_eq_some.mpr present⟩
  rintro ⟨key, found⟩
  exact ⟨(key, value), get?_eq_some.mp found, rfl⟩

theorem getIn_filter (key other : Key) (entries : List (Key × Value)) :
  getIn other (entries.filter fun entry => entry.1 ≠ key) =
    if other = key then none else getIn other entries := by
  induction entries with
  | nil => simp [getIn]
  | cons entry rest ih =>
    obtain ⟨first, value⟩ := entry
    by_cases erased : first = key
    · subst first
      rw [filter_cons_of_neg (by simp), ih]
      by_cases same : other = key
      · simp [same]
      simp [same, getIn, Ne.symm same]
    rw [filter_cons_of_pos (by simpa using erased), getIn, getIn, ih]
    by_cases here : first = other
    · subst first
      simp [erased]
    simp [here]

theorem get?_erase (dict : Dict Key Value) (key other : Key) :
  (dict.erase key).get? other = if other = key then none else dict.get? other :=
  getIn_filter key other dict.entries

theorem get?_of_erase {erased : Key} (found : (dict.erase erased).get? key = some value) :
  dict.get? key = some value := by
  rw [get?_erase] at found
  split at found
  · cases found
  exact found

theorem forall_set {holds : Key → Value → Prop} (own : holds key value)
  (others : ∀ key value, dict.get? key = some value → holds key value) :
  ∀ other found, (dict.set key value).get? other = some found → holds other found := by
  intro other found stored
  rw [get?_set] at stored
  split at stored
  case isTrue same =>
    cases stored
    rw [same]
    exact own
  · exact others other found stored

def filter (dict : Dict Key Value) (keep : Key → Value → Bool) : Dict Key Value where
  entries := dict.entries.filter (fun entry => keep entry.1 entry.2)
  distinct := (filter_sublist.map Prod.fst).nodup dict.distinct

theorem get?_filter {keep : Key → Value → Bool} :
  (dict.filter keep).get? key = some value ↔ dict.get? key = some value ∧ keep key value := by
  rw [get?_eq_some, get?_eq_some, filter, mem_filter]

section

def total (weight : Key → Value → Int) (dict : Dict Key Value) : Int :=
  (dict.entries.map fun entry => weight entry.1 entry.2).sum

variable (weight : Key → Value → Int)

omit [DecidableEq Key] in
@[simp] theorem total_empty : total weight (empty : Dict Key Value) = 0 := rfl

theorem sum_setIn (key : Key) (value : Value) (entries : List (Key × Value)) :
  ((setIn key value entries).map fun entry => weight entry.1 entry.2).sum =
    (entries.map fun entry => weight entry.1 entry.2).sum + weight key value -
    (getIn key entries).elim 0 (weight key) := by
  induction entries with
  | nil => simp [setIn, getIn]
  | cons entry rest ih =>
    obtain ⟨first, old⟩ := entry
    by_cases same : first = key
    · subst first
      simp only [setIn, getIn, ↓reduceIte, map_cons, sum_cons, elim_some]
      omega
    simp only [setIn, getIn, if_neg same, map_cons, sum_cons, ih]
    omega

theorem total_set (dict : Dict Key Value) (key : Key) (value : Value) :
  total weight (dict.set key value) =
    total weight dict + weight key value - (dict.get? key).elim 0 (weight key) :=
  sum_setIn weight key value dict.entries

variable {dict : Dict Key Value} {weight : Key → Value → Int}

theorem total_congr {weight' : Key → Value → Int}
  (agree : ∀ key value, dict.get? key = some value → weight key value = weight' key value) :
  total weight dict = total weight' dict := by
  refine congrArg List.sum (map_congr_left ?_)
  rintro ⟨key, value⟩ present
  exact agree key value (get?_eq_some.mpr present)

theorem total_nonneg (nonneg : ∀ key value, dict.get? key = some value → 0 ≤ weight key value) :
  0 ≤ total weight dict := by
  refine sum_nonneg ?_
  intro term present
  obtain ⟨⟨key, value⟩, stored, rfl⟩ := mem_map.mp present
  exact nonneg key value (get?_eq_some.mpr stored)

theorem le_total {key : Key} {value : Value}
  (nonneg : ∀ key value, dict.get? key = some value → 0 ≤ weight key value)
  (stored : dict.get? key = some value) : weight key value ≤ total weight dict := by
  apply single_le_sum
  · intro term present
    obtain ⟨⟨other, known⟩, stored, rfl⟩ := mem_map.mp present
    exact nonneg other known (get?_eq_some.mpr stored)
  exact mem_map.mpr ⟨(key, value), get?_eq_some.mp stored, rfl⟩

end

end Dict

namespace Dict

variable {Key Value : Type} [DecidableEq Key] {condition : Key → Value → Bool}

omit [DecidableEq Key] in
def countWhere (condition : Key → Value → Bool) (dict : Dict Key Value) : Nat :=
  dict.entries.countP fun entry => condition entry.1 entry.2

def weigh (condition : Key → Value → Bool) (key : Key) (value : Option Value) : Nat :=
  if value.any (condition key) then 1 else 0

variable (dict : Dict Key Value)

omit [DecidableEq Key] in
theorem countWhere_eq_total : (dict.countWhere condition : Int) =
  total (fun key value => (weigh condition key (some value) : Int)) dict := by
  unfold countWhere total
  induction dict.entries with
  | nil => rfl
  | cons entry rest ih =>
    rw [countP_cons, map_cons, sum_cons, Int.natCast_add, ih, add_comm]
    simp [weigh]

theorem countWhere_set (key : Key) (value : Value) :
  (dict.set key value).countWhere condition + weigh condition key (dict.get? key) =
    dict.countWhere condition + weigh condition key (some value) := by
  have counted := @countWhere_eq_total _ _ condition (dict.set key value)
  have before := @countWhere_eq_total _ _ condition dict
  rw [total_set] at counted
  cases stored : dict.get? key with
  | none =>
    rw [stored, elim_none] at counted
    have nothing : weigh condition key none = 0 := rfl
    omega
  | some old =>
    rw [stored, elim_some] at counted
    omega

theorem countWhere_congr {dict other : Dict Key Value}
  (same : ∀ key, dict.get? key = other.get? key) :
  dict.countWhere condition = other.countWhere condition := by
  apply List.Perm.countP_eq
  rw [perm_ext_iff_of_nodup (List.Nodup.of_map Prod.fst dict.distinct)
    (List.Nodup.of_map Prod.fst other.distinct)]
  intro (key, value)
  rw [← get?_eq_some, ← get?_eq_some, same]

theorem countWhere_erase (key : Key) :
  (dict.erase key).countWhere condition + weigh condition key (dict.get? key) =
    dict.countWhere condition := by
  have missing : (dict.erase key).get? key = none := by
    rw [get?_erase, if_pos rfl]
  cases stored : dict.get? key with
  | none =>
    have unchanged : (dict.erase key).countWhere condition = dict.countWhere condition := by
      apply countWhere_congr
      intro other
      rw [get?_erase]
      split
      case isTrue same => rw [same, stored]
      · rfl
    rw [unchanged]
    rfl
  | some value =>
    have restored : ((dict.erase key).set key value).countWhere condition =
      dict.countWhere condition := by
      apply countWhere_congr
      intro other
      rw [get?_set, get?_erase]
      split
      case isTrue same => rw [same, stored]
      · rfl
    have counted := @countWhere_set _ _ _ condition (dict.erase key) key value
    rw [missing, restored] at counted
    exact counted.symm

theorem countWhere_pos {dict : Dict Key Value} : 0 < dict.countWhere condition ↔
  ∃ key value, dict.get? key = some value ∧ condition key value = true := by
  rw [countWhere, countP_pos_iff]
  constructor
  · intro ⟨entry, member, holds⟩
    exact ⟨entry.1, entry.2, get?_eq_some.mpr member, holds⟩
  intro ⟨key, value, stored, holds⟩
  exact ⟨(key, value), get?_eq_some.mp stored, holds⟩

section

variable {related : Value → Value → Prop} {dict later last : Dict Key Value} {key : Key}
  {value : Value}

/-- No entry is gone, and what became of each is `related` to it. -/
def Evolves (related : Value → Value → Prop) (dict later : Dict Key Value) : Prop :=
  ∀ key value, dict.get? key = some value →
    ∃ newer, later.get? key = some newer ∧ related value newer

theorem evolves_refl (stays : ∀ value, related value value) : Evolves related dict dict :=
  fun _ value found => ⟨value, found, stays value⟩

theorem Evolves.trans
  (joins : ∀ {first second third}, related first second → related second third → related first third)
  (before : Evolves related dict later) (after : Evolves related later last) :
  Evolves related dict last := by
  intro key value found
  obtain ⟨newer, present, first⟩ := before key value found
  obtain ⟨newest, there, second⟩ := after key newer present
  exact ⟨newest, there, joins first second⟩

theorem evolves_set (stays : ∀ value, related value value)
  (replaces : ∀ old, dict.get? key = some old → related old value) :
  Evolves related dict (dict.set key value) := by
  intro other old found
  rw [get?_set]
  by_cases same : other = key
  · rw [if_pos same]
    exact ⟨value, rfl, replaces old (same ▸ found)⟩
  rw [if_neg same]
  exact ⟨old, found, stays old⟩

/-- The version rises with every change. -/
def Versioned (version : Value → Nat) (old value : Value) : Prop :=
  version old < version value ∨ value = old

theorem versioned_trans {version : Value → Nat} {first second third : Value}
  (before : Versioned version first second) (after : Versioned version second third) :
  Versioned version first third := by
  rcases before with less | rfl
  · rcases after with more | rfl
    · exact .inl (less.trans more)
    exact .inl less
  exact after

end

end Dict

end Collections
