import LintLedger.Keyed
import Mathlib.Data.List.Induction

/-!
# Lookups in lists of entries

A list of entries is any list of keys with values, in any order and with any repetitions. Made into a map,
it is looked up from its end (`LintLedger.Keyed.get?_ofList`), since of entries with one key the last
counts; in ascending entries there is nothing to choose, and the end does not matter
(`LintLedger.Keyed.valueAt_reverse`). The entries of a map are such, and a key stands in one of them if it has
a value and in none else (`LintLedger.Keyed.filter_entries`).
-/

namespace LintLedger.Keyed

variable {α β : Type}

theorem valueAt_append (k : String) (es fs : List (String × α)) :
    valueAt k (es ++ fs) = (valueAt k es).or (valueAt k fs) := by
  induction es with
  | nil => rfl
  | cons e es ih =>
    rw [List.cons_append, valueAt, valueAt, ih]
    split <;> rfl

theorem valueAt_eq_none_iff {k : String} {es : List (String × α)} :
    valueAt k es = none ↔ ∀ e ∈ es, e.1 ≠ k := by
  induction es with
  | nil => simp [valueAt]
  | cons e es ih =>
    rw [valueAt, List.forall_mem_cons, ← ih]
    split <;> simp [*, eq_comm]

theorem mem_of_valueAt {k : String} {v : α} {es : List (String × α)} (h : valueAt k es = some v) :
    (k, v) ∈ es := by
  induction es with
  | nil => simp [valueAt] at h
  | cons e es ih =>
    rw [valueAt] at h
    split at h
    · next heq =>
      obtain rfl := Option.some.inj h
      simp [heq]
    · exact List.mem_cons_of_mem _ (ih h)

theorem valueAt_map (f : String → α → β) (k : String) (es : List (String × α)) :
    valueAt k (es.map fun e => (e.1, f e.1 e.2)) = (valueAt k es).map (f k) := by
  induction es with
  | nil => rfl
  | cons e es ih =>
    rw [List.map_cons, valueAt, valueAt, ih]
    split
    · next heq => rw [heq, Option.map_some]
    · rfl

theorem valueAt_filter (p : String → Bool) (k : String) (es : List (String × α)) :
    valueAt k (es.filter fun e => p e.1) = if p k then valueAt k es else none := by
  induction es with
  | nil => simp [valueAt]
  | cons e es ih =>
    rw [List.filter_cons]
    by_cases hk : k = e.1
    · subst hk
      cases hp : p e.1 <;> simp [valueAt, ih, hp]
    · cases hp : p e.1 <;> simp [valueAt, ih, hk]

/-- Of entries in ascending order the first and the last with a key are the same. -/
theorem valueAt_reverse {es : List (String × α)} (h : es.Pairwise fun a b => a.1 < b.1) (k : String) :
    valueAt k es.reverse = valueAt k es := by
  cases hback : valueAt k es.reverse with
  | some v => exact ((mem_iff_valueAt h).mp (List.mem_reverse.mp (mem_of_valueAt hback))).symm
  | none =>
    rw [valueAt_eq_none_iff] at hback
    exact (valueAt_eq_none_iff.mpr fun e he => hback e (List.mem_reverse.mpr he)).symm

/-! ### The keys of a map -/

theorem nodup_keys (m : Keyed α) : m.keys.Nodup := by
  rw [keys, List.Nodup, List.pairwise_map]
  refine m.ascending.imp fun {a b} hlt heq => ?_
  rw [heq] at hlt
  exact String.lt_irrefl b.1 hlt

theorem mem_keys_iff {m : Keyed α} {k : String} : k ∈ m.keys ↔ (m.get? k).isSome := by
  rw [keys, List.mem_map, Option.isSome_iff_exists]
  constructor
  · rintro ⟨e, he, rfl⟩
    exact ⟨e.2, (mem_entries_iff ..).mp he⟩
  · rintro ⟨v, hget⟩
    exact ⟨(k, v), (mem_entries_iff ..).mpr hget, rfl⟩

/-- **A key with a value stands in one entry**, with its value, and any other key in none. -/
theorem filter_entries (m : Keyed α) (k : String) :
    m.entries.filter (fun e => e.1 = k) = ((m.get? k).map fun v => (k, v)).toList := by
  have hothers : ∀ e ∈ m.entries, e.1 ≠ k → Option.guard (fun e => decide (e.1 = k)) e = none :=
    fun e _ hne => by simp [hne]
  rw [← List.filterMap_eq_filter, filterMap_entries m hothers]
  cases m.get? k <;> simp

/-! ### The map of a list of entries -/

theorem ofList_append_singleton (es : List (String × α)) (e : String × α) :
    ofList (es ++ [e]) = (ofList es).insert e.1 e.2 := by
  rw [ofList, List.foldl_append]
  rfl

/-- Of entries with one key the last counts. -/
theorem get?_ofList (es : List (String × α)) (k : String) :
    (ofList es).get? k = valueAt k es.reverse := by
  induction es using List.reverseRecOn with
  | nil => rfl
  | append_singleton es e ih =>
    rw [ofList_append_singleton, get?_insert, ih, List.reverse_append, List.reverse_singleton,
      List.singleton_append, valueAt]

/-- A map is that of its entries. -/
theorem ofList_entries (m : Keyed α) : ofList m.entries = m := by
  refine ext_get? fun k => ?_
  rw [get?_ofList, valueAt_reverse m.ascending]
  rfl

/-- Ascending entries are those of their map. -/
theorem entries_ofList {es : List (String × α)} (h : es.Pairwise fun a b => a.1 < b.1) :
    (ofList es).entries = es :=
  congrArg entries (ofList_entries ⟨es, h⟩)

theorem mem_of_mem_ofList {es : List (String × α)} {e : String × α} (h : e ∈ (ofList es).entries) :
    e ∈ es := by
  obtain ⟨k, v⟩ := e
  rw [mem_entries_iff, get?_ofList] at h
  exact List.mem_reverse.mp (mem_of_valueAt h)

end LintLedger.Keyed
