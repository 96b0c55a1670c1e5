import LintLedger.Proofs.Json.Commented
import LintLedger.Proofs.Json.Decode

/-!
# Leaving members out

A value can be abridged: members are left out, at any depth, as a test of their paths tells. What the reader
finds in an abridged object is what the object gives for the members that are kept, each abridged in turn
(`LintLedger.Json.field?_abridged`).
-/

namespace LintLedger.Json

open Decode

/-- What a value has at the end of a path of names. -/
def at? : List String → Json → Option Json
  | [], j => some j
  | k :: ks, j => (j.member? k).bind (at? ks)

mutual

/-- The value without the members at the paths that are dropped. The items of an array have no paths. -/
def without (drop : List String → Bool) : Json → Json
  | .object members => .object (withoutMembers drop members)
  | j => j

/-- The members that are kept, each without what is dropped below it. -/
def withoutMembers (drop : List String → Bool) : List (String × Json) → List (String × Json)
  | [] => []
  | (k, j) :: ms =>
    if drop [k] then withoutMembers drop ms
    else (k, without (fun path => drop (k :: path)) j) :: withoutMembers drop ms

end

/-- **What the reader finds in an abridged value.** -/
def abridged (drop : List String → Bool) (j : Json) : Json := (j.without drop).sorted

variable {drop : List String → Bool}

theorem withoutMembers_eq (ms : List (String × Json)) :
    withoutMembers drop ms = (ms.filter fun m => !drop [m.1]).map fun m =>
      (m.1, m.2.without fun path => drop (m.1 :: path)) := by
  induction ms with
  | nil => rfl
  | cons m ms ih =>
    rw [withoutMembers, ih]
    split
    · next hdrop => simp [hdrop]
    · next hkeep => simp [hkeep]

theorem IsTextual.without {j : Json} (h : j.IsTextual) : (j.without drop).IsTextual := by
  induction h generalizing drop with
  | text s => exact .text s
  | array h _ => exact .array h
  | object _ ih =>
    refine .object fun m hm => ?_
    rw [withoutMembers_eq] at hm
    obtain ⟨n, hn, rfl⟩ := List.mem_map.mp hm
    exact ih n (List.mem_filter.mp hn).1

@[simp] theorem abridged_text (s : String) : abridged drop (.text s) = .text s := rfl

@[simp] theorem abridged_array (items : List Json) :
    abridged drop (.array items) = .array (items.map sorted) := by
  rw [← sortedItems_eq_map]
  rfl

/-- The members of an abridged object, before they are put in order. -/
def keptMembers (drop : List String → Bool) (ms : List (String × Json)) : List (String × Json) :=
  (ms.filter fun m => !drop [m.1]).map fun m => (m.1, abridged (fun path => drop (m.1 :: path)) m.2)

theorem abridged_object (ms : List (String × Json)) :
    abridged drop (.object ms) = ofMembers (keptMembers drop ms) := by
  rw [abridged, without, sorted, withoutMembers_eq, sortedMembers_eq_map, List.map_map]
  rfl

/-- **What an abridged object gives for a field**: nothing if the member is dropped, else what the object
gives, abridged. -/
theorem field?_abridged (names : List String) (name : String) (ms : List (String × Json)) :
    field? names name (abridged drop (.object ms)) =
      if drop [name] then none
      else (Keyed.valueAt name ms.reverse).map (abridged fun path => drop (name :: path)) := by
  have hkept : Keyed.valueAt name (keptMembers drop ms).reverse =
      if drop [name] then none
      else (Keyed.valueAt name ms.reverse).map (abridged fun path => drop (name :: path)) := by
    rw [keptMembers, ← List.map_reverse, ← List.filter_reverse,
      Keyed.valueAt_map (fun k j => abridged (fun path => drop (k :: path)) j),
      Keyed.valueAt_filter fun k => !drop [k]]
    cases drop [name] <;> rfl
  rw [abridged_object, ← hkept, ← Keyed.get?_ofList, Keyed.get?,
    ← Keyed.valueAt_reverse (Keyed.ofList _).ascending]
  rfl

/-- An abridged object has the form of a record of which everything may be left out, if its members have the
forms of the fields when they are abridged. -/
theorem isRecord_abridged {second others : Bool} {slots : List Slot} {ms : List (String × Json)}
    (hoptional : ∀ s ∈ slots, s.optional = true) (hknown : ∀ m ∈ ms, ∃ s ∈ slots, s.name = m.1)
    (hformed : ∀ m ∈ ms, ∀ s ∈ slots, s.name = m.1 →
      s.form (abridged (fun path => drop (m.1 :: path)) m.2)) :
    IsRecord second others slots (abridged drop (.object ms)) := by
  have hmem : ∀ m ∈ (Keyed.ofList (keptMembers drop ms)).entries, ∃ n ∈ ms, n.1 = m.1 ∧
      abridged (fun path => drop (n.1 :: path)) n.2 = m.2 := by
    intro m hm
    obtain ⟨n, hn, rfl⟩ := List.mem_map.mp (Keyed.mem_of_mem_ofList hm)
    exact ⟨n, (List.mem_filter.mp hn).1, rfl, rfl⟩
  rw [abridged_object]
  refine .object (fun _ m hm => ?_) (fun m hm s hs hname => ?_) fun s hs hfalse => ?_
  · obtain ⟨n, hn, hkey, -⟩ := hmem m hm
    exact hkey ▸ hknown n hn
  · obtain ⟨n, hn, hkey, hvalue⟩ := hmem m hm
    exact hvalue ▸ hformed n hn s hs (hname.trans hkey.symm)
  · exact absurd (hoptional s hs) (by simp [hfalse])

end LintLedger.Json
