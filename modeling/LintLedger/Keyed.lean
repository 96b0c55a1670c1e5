/-!
# Finite maps in key order

A finite map from texts, kept as the list of its entries in ascending order of the keys. Texts are
ordered by code points, which is also the order of their UTF-8 bytes. The order is part of the type,
so a map has exactly one representation: two maps with the same lookups are equal (`Keyed.ext_get?`),
however they came about, and whatever is printed from one is printed from the other.
-/

namespace LintLedger

/-- A finite map from texts, as its entries in ascending key order. -/
structure Keyed (α : Type) where
  /-- Keys with their values. -/
  entries : List (String × α)
  /-- Every key is greater than the keys before it. -/
  ascending : entries.Pairwise fun a b => a.1 < b.1
deriving DecidableEq

namespace Keyed

variable {α β : Type}

/-- The map without entries. -/
def empty : Keyed α := ⟨[], .nil⟩

instance : Inhabited (Keyed α) := ⟨empty⟩

/-- The keys in ascending order. -/
def keys (m : Keyed α) : List String := m.entries.map (·.1)

/-- The number of entries. -/
def size (m : Keyed α) : Nat := m.entries.length

/-- The value at a key in a list of entries. -/
def valueAt (k : String) : List (String × α) → Option α
  | [] => none
  | (l, v) :: rest => if k = l then some v else valueAt k rest

/-- The value of a key, if it has one. -/
def get? (m : Keyed α) (k : String) : Option α := valueAt k m.entries

/-- Does the key have a value? -/
def contains (m : Keyed α) (k : String) : Bool := (m.get? k).isSome

/-! ### Writing -/

/-- The entries with a value written at a key, old or new. -/
def insertEntry (k : String) (v : α) : List (String × α) → List (String × α)
  | [] => [(k, v)]
  | (l, w) :: rest =>
    if k < l then (k, v) :: (l, w) :: rest
    else if k = l then (k, v) :: rest
    else (l, w) :: insertEntry k v rest

theorem mem_insertEntry {k : String} {v : α} {e : String × α} {es : List (String × α)}
    (h : e ∈ insertEntry k v es) : e = (k, v) ∨ e ∈ es := by
  induction es with
  | nil => simpa [insertEntry] using h
  | cons hd tl ih =>
    unfold insertEntry at h
    split at h
    · simpa using h
    · split at h
      · rcases List.mem_cons.1 h with h | h
        · exact .inl h
        · exact .inr (List.mem_cons_of_mem _ h)
      · rcases List.mem_cons.1 h with h | h
        · exact .inr (h ▸ List.mem_cons_self)
        · rcases ih h with h | h
          · exact .inl h
          · exact .inr (List.mem_cons_of_mem _ h)

theorem insertEntry_ascending (k : String) (v : α) {es : List (String × α)}
    (h : es.Pairwise fun a b => a.1 < b.1) :
    (insertEntry k v es).Pairwise fun a b => a.1 < b.1 := by
  induction es with
  | nil => simp [insertEntry]
  | cons hd tl ih =>
    obtain ⟨hhd, htl⟩ := List.pairwise_cons.1 h
    unfold insertEntry
    split
    · next hlt =>
      refine List.pairwise_cons.2 ⟨fun e he => ?_, h⟩
      rcases List.mem_cons.1 he with rfl | he
      · exact hlt
      · exact String.lt_trans hlt (hhd e he)
    · next hnlt =>
      split
      · next heq =>
        subst heq
        exact List.pairwise_cons.2 ⟨hhd, htl⟩
      · next hne =>
        refine List.pairwise_cons.2 ⟨fun e he => ?_, ih htl⟩
        rcases mem_insertEntry he with rfl | he
        · rcases Std.lt_trichotomy hd.1 k with hl | he | hg
          · exact hl
          · exact absurd he.symm hne
          · exact absurd hg hnlt
        · exact hhd e he

/-- Writes a value at a key, in place of the old one if there is one. -/
def insert (m : Keyed α) (k : String) (v : α) : Keyed α :=
  ⟨insertEntry k v m.entries, insertEntry_ascending k v m.ascending⟩

/-- Removes a key with its value. -/
def erase (m : Keyed α) (k : String) : Keyed α :=
  ⟨m.entries.filter fun e => e.1 ≠ k, m.ascending.filter _⟩

/-- The map of a list of entries; of entries with one key the last counts. -/
def ofList (es : List (String × α)) : Keyed α := es.foldl (fun m e => m.insert e.1 e.2) empty

/-- The map with every value replaced. -/
def map (f : α → β) (m : Keyed α) : Keyed β :=
  ⟨m.entries.map fun e => (e.1, f e.2), by
    rw [List.pairwise_map]
    exact m.ascending⟩

/-! ### Lookups after writing -/

@[simp] theorem get?_empty (k : String) : (empty : Keyed α).get? k = none := rfl

theorem valueAt_insertEntry (k l : String) (v : α) (es : List (String × α)) :
    valueAt l (insertEntry k v es) = if l = k then some v else valueAt l es := by
  induction es with
  | nil => simp [insertEntry, valueAt]
  | cons hd tl ih =>
    obtain ⟨j, w⟩ := hd
    unfold insertEntry
    split
    · simp [valueAt]
    · split
      · next heq =>
        subst heq
        by_cases h : l = k <;> simp [valueAt, h]
      · next hne =>
        by_cases h : l = j
        · subst h; simp [valueAt, Ne.symm hne]
        · simp [valueAt, h, ih]

@[simp] theorem get?_insert (m : Keyed α) (k l : String) (v : α) :
    (m.insert k v).get? l = if l = k then some v else m.get? l :=
  valueAt_insertEntry k l v m.entries

theorem valueAt_filter_ne (k l : String) (es : List (String × α)) :
    valueAt l (es.filter fun e => e.1 ≠ k) = if l = k then none else valueAt l es := by
  induction es with
  | nil => simp [valueAt]
  | cons hd tl ih =>
    obtain ⟨j, w⟩ := hd
    by_cases hk : j = k
    · rw [List.filter_cons_of_neg (by simp [hk]), ih]
      subst hk
      by_cases h : l = j <;> simp [valueAt, h]
    · rw [List.filter_cons_of_pos (by simp [hk])]
      by_cases h : l = j
      · subst h; simp [valueAt, hk]
      · simp only [valueAt, h, if_false, ih]

@[simp] theorem get?_erase (m : Keyed α) (k l : String) :
    (m.erase k).get? l = if l = k then none else m.get? l :=
  valueAt_filter_ne k l m.entries

/-! ### One map, one representation -/

theorem valueAt_eq_none_of_lt {k : String} {es : List (String × α)} (h : ∀ e ∈ es, k < e.1) :
    valueAt k es = none := by
  induction es with
  | nil => rfl
  | cons hd tl ih =>
    obtain ⟨j, w⟩ := hd
    have hj : k < j := h (j, w) List.mem_cons_self
    have hne : k ≠ j := fun heq => String.lt_irrefl k (heq ▸ hj)
    simp only [valueAt, hne, if_false]
    exact ih fun e he => h e (List.mem_cons_of_mem _ he)

theorem entries_eq_of_valueAt_eq {es fs : List (String × α)}
    (he : es.Pairwise fun a b => a.1 < b.1) (hf : fs.Pairwise fun a b => a.1 < b.1)
    (h : ∀ k, valueAt k es = valueAt k fs) : es = fs := by
  induction es generalizing fs with
  | nil =>
    cases fs with
    | nil => rfl
    | cons e fs => simpa [valueAt] using h e.1
  | cons d ds ih =>
    obtain ⟨j, v⟩ := d
    cases fs with
    | nil => simpa [valueAt] using h j
    | cons e fs =>
      obtain ⟨k, w⟩ := e
      obtain ⟨hd, hds⟩ := List.pairwise_cons.1 he
      obtain ⟨hes, hfs⟩ := List.pairwise_cons.1 hf
      have hkey : j = k := by
        rcases Std.lt_trichotomy j k with hl | heq | hg
        · have hn : valueAt j ((k, w) :: fs) = none := by
            refine valueAt_eq_none_of_lt fun x hx => ?_
            rcases List.mem_cons.1 hx with rfl | hx
            · exact hl
            · exact String.lt_trans hl (hes x hx)
          have := h j
          rw [hn] at this
          simp [valueAt] at this
        · exact heq
        · have hn : valueAt k ((j, v) :: ds) = none := by
            refine valueAt_eq_none_of_lt fun x hx => ?_
            rcases List.mem_cons.1 hx with rfl | hx
            · exact hg
            · exact String.lt_trans hg (hd x hx)
          have := h k
          rw [hn] at this
          simp [valueAt] at this
      subst hkey
      have hval : v = w := by simpa [valueAt] using h j
      subst hval
      have htail : ds = fs := by
        refine ih hds hfs fun k => ?_
        by_cases hk : k = j
        · subst hk
          rw [valueAt_eq_none_of_lt hd, valueAt_eq_none_of_lt hes]
        · simpa [valueAt, hk] using h k
      rw [htail]

/-- The entries with a key are those that a lookup finds: a key stands in one entry only. -/
theorem mem_iff_valueAt {k : String} {v : α} {es : List (String × α)}
    (h : es.Pairwise fun a b => a.1 < b.1) : (k, v) ∈ es ↔ valueAt k es = some v := by
  induction es with
  | nil => simp [valueAt]
  | cons hd tl ih =>
    obtain ⟨j, w⟩ := hd
    obtain ⟨hhd, htl⟩ := List.pairwise_cons.1 h
    rw [List.mem_cons, valueAt]
    split
    · next heq =>
      subst heq
      have hnot : (k, v) ∉ tl := fun hmem => String.lt_irrefl k (hhd (k, v) hmem)
      constructor
      · rintro (heq | hmem)
        · rw [(Prod.mk.inj heq).2]
        · exact absurd hmem hnot
      · intro heq
        rw [Option.some.inj heq]
        exact .inl rfl
    · next hne =>
      rw [← ih htl]
      exact ⟨fun hmem => hmem.resolve_left fun heq => hne (Prod.mk.inj heq).1, .inr⟩

theorem mem_entries_iff (m : Keyed α) (k : String) (v : α) :
    (k, v) ∈ m.entries ↔ m.get? k = some v :=
  mem_iff_valueAt m.ascending

/-- What is collected from the entries, if no key but one gives anything. -/
theorem filterMap_entries (m : Keyed α) {f : String × α → Option β} {k : String}
    (h : ∀ e ∈ m.entries, e.1 ≠ k → f e = none) :
    m.entries.filterMap f = ((m.get? k).bind fun v => f (k, v)).toList := by
  obtain ⟨es, hes⟩ := m
  change es.filterMap f = ((valueAt k es).bind fun v => f (k, v)).toList
  change ∀ e ∈ es, e.1 ≠ k → f e = none at h
  induction es with
  | nil => rfl
  | cons hd tl ih =>
    obtain ⟨j, v⟩ := hd
    obtain ⟨hhd, htl⟩ := List.pairwise_cons.1 hes
    unfold valueAt
    split
    · next heq =>
      subst heq
      have hnone : tl.filterMap f = [] := by
        rw [List.filterMap_eq_nil_iff]
        intro e he
        refine h e (List.mem_cons_of_mem _ he) fun hkey => ?_
        exact String.lt_irrefl e.1 (hkey ▸ hhd e he)
      rw [List.filterMap_cons, hnone, Option.bind_some]
      cases f (k, v) <;> rfl
    · next hne =>
      rw [List.filterMap_cons_none (h (j, v) List.mem_cons_self (Ne.symm hne))]
      exact ih htl fun e he => h e (List.mem_cons_of_mem _ he)

/-- Maps with the same lookups are the same map. -/
theorem ext_get? {m n : Keyed α} (h : ∀ k, m.get? k = n.get? k) : m = n := by
  obtain ⟨es, he⟩ := m
  obtain ⟨fs, hf⟩ := n
  have := entries_eq_of_valueAt_eq he hf h
  subst this
  rfl

end Keyed
end LintLedger
