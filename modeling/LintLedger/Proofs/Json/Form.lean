import LintLedger.Json.Value
import Mathlib.Data.List.Forall2

/-!
# Forms of JSON values

A form is a predicate on values. The forms of texts, lists, choices and records are put together from those of
their parts (`LintLedger.Json.IsText`, `LintLedger.Json.IsList`, `LintLedger.Json.IsChoice`,
`LintLedger.Json.IsRecord`). For choices and records there is a second way of writing, and a form says
whether it is allowed; for records it also says whether an object may have members that are no fields. What
has a form has every weaker one (`LintLedger.Json.IsRecord.imp`).
-/

namespace LintLedger.Json

/-! ### Forms -/

/-- The value is a text. -/
def IsText (j : Json) : Prop := ∃ s, j = .text s

/-- The value is an array, and its items have the form. -/
def IsList (form : Json → Prop) (j : Json) : Prop := ∃ items, j = .array items ∧ ∀ i ∈ items, form i

/-- **The value names one of a few.** There is a second way to do so, which may or may not be allowed: an
object with this one name and the value `null`. -/
inductive IsChoice (second : Bool) (names : List String) : Json → Prop where
  /-- The name as a text. -/
  | text {s : String} (known : s ∈ names) : IsChoice second names (.text s)
  /-- The name as that of the only member of an object. -/
  | member {s : String} (allowed : second = true) (known : s ∈ names) :
      IsChoice second names (.object [(s, .null)])

@[simp] theorem isChoice_text_iff {second : Bool} {names : List String} {s : String} :
    IsChoice second names (.text s) ↔ s ∈ names :=
  ⟨fun h => by cases h; assumption, .text⟩

/-- A field of a record as it is written. -/
structure Slot where
  /-- The name of the field. -/
  name : String
  /-- May the field be left out? -/
  optional : Bool
  /-- The form of its values. -/
  form : Json → Prop

/-- **The value has the form of a record** with the given fields. It is an object, which may or may not
have other members; or, where this second way is allowed, an array of the fields in their order. -/
inductive IsRecord (second others : Bool) (slots : List Slot) : Json → Prop where
  /-- The members are fields of the record, each with a value of its form. -/
  | object {members : List (String × Json)}
      (known : others = false → ∀ m ∈ members, ∃ s ∈ slots, s.name = m.1)
      (formed : ∀ m ∈ members, ∀ s ∈ slots, s.name = m.1 → s.form m.2)
      (complete : ∀ s ∈ slots, s.optional = false → ∃ m ∈ members, m.1 = s.name) :
      IsRecord second others slots (.object members)
  /-- The items are the fields one by one, and those that are not there can be left out. -/
  | array {items : List Json} (allowed : second = true) (short : items.length ≤ slots.length)
      (formed : ∀ p ∈ slots.zip items, p.1.form p.2)
      (complete : ∀ s ∈ slots.drop items.length, s.optional = true) :
      IsRecord second others slots (.array items)

/-! ### Weaker forms -/

theorem IsList.imp {form form' : Json → Prop} (h : ∀ j, form j → form' j) {j : Json} :
    IsList form j → IsList form' j := by
  rintro ⟨items, rfl, hitems⟩
  exact ⟨items, rfl, fun i hi => h i (hitems i hi)⟩

theorem IsChoice.imp {second second' : Bool} (h : second = true → second' = true)
    {names : List String} {j : Json} : IsChoice second names j → IsChoice second' names j
  | text known => .text known
  | member allowed known => .member (h allowed) known

/-- The second slot is written like the first one, and has a weaker form. -/
structure Slot.Weakens (a b : Slot) : Prop where
  /-- The names are the same. -/
  name : a.name = b.name
  /-- Both may be left out, or neither. -/
  optional : a.optional = b.optional
  /-- What has the form of the first has that of the second. -/
  form : ∀ j, a.form j → b.form j

theorem exists_mem_of_forall₂ {α β : Type} {R : α → β → Prop} {xs : List α} {ys : List β}
    (h : List.Forall₂ R xs ys) {y : β} (hy : y ∈ ys) : ∃ x ∈ xs, R x y := by
  induction h with
  | nil => simp at hy
  | cons hxy _ ih =>
    rcases List.mem_cons.mp hy with rfl | hy
    · exact ⟨_, List.mem_cons_self, hxy⟩
    · obtain ⟨x, hx, hrel⟩ := ih hy
      exact ⟨x, List.mem_cons_of_mem _ hx, hrel⟩

/-- Items that have the forms of slots have weaker ones. -/
theorem Slot.Weakens.forall_zip {slots slots' : List Slot} (h : List.Forall₂ Slot.Weakens slots slots')
    {items : List Json} (hitems : ∀ p ∈ slots.zip items, p.1.form p.2) :
    ∀ p ∈ slots'.zip items, p.1.form p.2 := by
  induction h generalizing items with
  | nil => simp
  | cons hab _ ih =>
    cases items with
    | nil => simp
    | cons j items =>
      rw [List.zip_cons_cons, List.forall_mem_cons] at hitems ⊢
      exact ⟨hab.form j hitems.1, ih hitems.2⟩

/-- A record has a weaker form if its fields have weaker forms and more is allowed. -/
theorem IsRecord.imp {second second' others others' : Bool} {slots slots' : List Slot}
    (hsecond : second = true → second' = true) (hothers : others = true → others' = true)
    (hslots : List.Forall₂ Slot.Weakens slots slots') {j : Json} :
    IsRecord second others slots j → IsRecord second' others' slots' j := by
  rintro (⟨hknown, hformed, hcomplete⟩ | ⟨hallowed, hshort, hformed, hcomplete⟩)
  · refine .object (fun hfalse m hm => ?_) (fun m hm b hb hname => ?_) fun b hb hoptional => ?_
    · have hfalse' : others = false := by
        rw [← Bool.not_eq_true]
        exact fun htrue => by simp [hothers htrue] at hfalse
      obtain ⟨a, ha, hname⟩ := hknown hfalse' m hm
      obtain ⟨b, hb, hweak⟩ := exists_mem_of_forall₂ hslots.flip ha
      exact ⟨b, hb, hweak.name.symm.trans hname⟩
    · obtain ⟨a, ha, hweak⟩ := exists_mem_of_forall₂ hslots hb
      exact hweak.form _ (hformed m hm a ha (hweak.name.trans hname))
    · obtain ⟨a, ha, hweak⟩ := exists_mem_of_forall₂ hslots hb
      rw [← hweak.name]
      exact hcomplete a ha (hweak.optional.trans hoptional)
  · refine .array (hsecond hallowed) (hslots.length_eq ▸ hshort) (Slot.Weakens.forall_zip hslots hformed)
      fun b hb => ?_
    obtain ⟨a, ha, hweak⟩ := exists_mem_of_forall₂ (List.forall₂_drop _ hslots) hb
    exact hweak.optional.symm.trans (hcomplete a ha)

end LintLedger.Json
