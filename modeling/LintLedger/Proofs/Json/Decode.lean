import LintLedger.Json.Decode
import LintLedger.Proofs.Json.Form
import LintLedger.Proofs.Keyed
import Mathlib.Data.List.Nodup

/-!
# What can be decoded, and what it says

Decoding a value is described from two sides, without the order in which it goes on. *Which* values can be
decoded is a matter of their form: a record can be decoded exactly from the values that have the form of its
fields (`LintLedger.Json.Decode.Shape.IsSound.exists_decode_iff`). *What* a record says when it was decoded
is told part by part: it is what the value gives for the field of the part (`LintLedger.Json.field?`), and
what it was before if the value gives nothing (`LintLedger.Json.Decode.Shape.Tells.isTold_bind`).

Both rest on two facts about a shape: whether a value can be stored in a field does not depend on the
record, and no two fields have one name (`LintLedger.Json.Decode.Shape.IsSound`).
-/

namespace LintLedger.Json

/-! ### What is given for a field -/

/-- **What a value gives for a field** of a record with fields of the given names. Of members with one name
the last counts. -/
def field? (names : List String) (name : String) : Json → Option Json
  | .object members => Keyed.valueAt name members.reverse
  | .array items => Keyed.valueAt name (names.zip items)
  | _ => none

namespace Decode

/-! ### Steps that can end with a fault -/

@[simp] theorem bind_eq_ok_iff {α β ε : Type} {x : Except ε α} {f : α → Except ε β} {b : β} :
    x >>= f = .ok b ↔ ∃ a, x = .ok a ∧ f a = .ok b := by
  cases x <;> simp [bind, Except.bind]

@[simp] theorem map_eq_ok_iff {α β ε : Type} {x : Except ε α} {f : α → β} {b : β} :
    f <$> x = .ok b ↔ ∃ a, x = .ok a ∧ f a = b := by
  cases x <;> simp [Functor.map, Except.map]

@[simp] theorem pure_eq_ok_iff {α ε : Type} {a b : α} : (pure a : Except ε α) = .ok b ↔ a = b := by
  simp [pure, Except.pure]

@[simp] theorem throw_ne_ok {α ε : Type} {e : ε} {a : α} : ¬(throw e : Except ε α) = .ok a := by
  simp [throw, throwThe, MonadExceptOf.throw]

theorem mapM_eq_ok_iff {α β ε : Type} {f : α → Except ε β} {xs : List α} {ys : List β} :
    xs.mapM f = .ok ys ↔ List.Forall₂ (fun x y => f x = .ok y) xs ys := by
  induction xs generalizing ys with
  | nil =>
    rw [List.mapM_nil, pure_eq_ok_iff, List.forall₂_nil_left_iff]
    exact eq_comm
  | cons x xs ih =>
    simp only [List.mapM_cons, bind_eq_ok_iff, pure_eq_ok_iff, ih, List.forall₂_cons_left_iff]
    constructor
    · rintro ⟨y, hy, zs, hzs, rfl⟩
      exact ⟨y, zs, hy, hzs, rfl⟩
    · rintro ⟨y, zs, hy, hzs, rfl⟩
      exact ⟨y, hy, zs, hzs, rfl⟩

theorem exists_mapM_iff {α β ε : Type} {f : α → Except ε β} {xs : List α} :
    (∃ ys, xs.mapM f = .ok ys) ↔ ∀ x ∈ xs, ∃ y, f x = .ok y := by
  simp only [mapM_eq_ok_iff]
  induction xs with
  | nil => simp
  | cons x xs ih => simp [List.forall₂_cons_left_iff, ← ih]

/-! ### Texts, lists and choices -/

theorem text_eq_ok_iff {j : Json} {s : String} : text j = .ok s ↔ j = .text s := by
  cases j <;> simp [text]

theorem exists_text_iff {j : Json} : (∃ s, text j = .ok s) ↔ IsText j :=
  exists_congr fun _ => text_eq_ok_iff

section List

variable {α : Type} {item : Json → Except Fault α} {j : Json}

theorem list_eq_ok_iff {xs : List α} :
    list item j = .ok xs ↔ ∃ items, j = .array items ∧ List.Forall₂ (fun i x => item i = .ok x) items xs := by
  cases j <;> simp [list, mapM_eq_ok_iff]

theorem exists_list_iff {form : Json → Prop} (hitem : ∀ i, (∃ x, item i = .ok x) ↔ form i) :
    (∃ xs, list item j = .ok xs) ↔ IsList form j := by
  cases j <;> simp [list, IsList, exists_mapM_iff, hitem]

end List

section Choice

variable {α : Type} {name : α → String} {all : List α}

theorem named_eq_ok_iff (hname : Function.Injective name) {s : String} {a : α} :
    named name all s = .ok a ↔ a ∈ all ∧ name a = s := by
  unfold named
  cases hfind : all.find? fun b => name b = s with
  | none =>
    have hnone : ∀ b ∈ all, name b ≠ s := by simpa using hfind
    simpa using hnone a
  | some b =>
    have hb : name b = s := by simpa using List.find?_some hfind
    have hmem := List.mem_of_find?_eq_some hfind
    simp only [pure_eq_ok_iff]
    exact ⟨fun heq => heq ▸ ⟨hmem, hb⟩, fun ha => hname (hb.trans ha.2.symm)⟩

theorem choice_eq_ok_iff (hname : Function.Injective name) {j : Json} {a : α} :
    choice name all j = .ok a ↔ a ∈ all ∧ (j = .text (name a) ∨ j = .object [(name a, .null)]) := by
  unfold choice
  split
  · next s =>
    rw [named_eq_ok_iff hname]
    simp [@eq_comm _ s]
  · next s j =>
    cases j <;> simp [named_eq_ok_iff hname, @eq_comm _ s]
  · next members hmany =>
    suffices members ≠ [(name a, .null)] by simp [this]
    exact fun heq => hmany _ _ heq
  · next htext _ hobject =>
    suffices j ≠ .text (name a) ∧ j ≠ .object [(name a, .null)] by simp [this.1, this.2]
    exact ⟨htext _, hobject _⟩

theorem exists_choice_iff (hname : Function.Injective name) {j : Json} :
    (∃ a, choice name all j = .ok a) ↔ IsChoice true (all.map name) j := by
  simp only [choice_eq_ok_iff hname]
  constructor
  · rintro ⟨a, ha, rfl | rfl⟩
    · exact .text (List.mem_map_of_mem ha)
    · exact .member rfl (List.mem_map_of_mem ha)
  · rintro (hmem | ⟨-, hmem⟩)
    · obtain ⟨a, ha, rfl⟩ := List.mem_map.mp hmem
      exact ⟨a, ha, Or.inl rfl⟩
    · obtain ⟨a, ha, rfl⟩ := List.mem_map.mp hmem
      exact ⟨a, ha, Or.inr rfl⟩

end Choice

/-! ### What is told -/

section Told

variable {α : Type} {decode : Json → Except Fault α} {a b c : α} {first last : Option Json}

/-- **What is told about a part of a record**: what the given value is decoded to, and the default if no
value is given. -/
def IsTold (decode : Json → Except Fault α) (default : α) : Option Json → α → Prop
  | some j, a => decode j = .ok a
  | none, a => a = default

/-- What is told last counts. -/
theorem IsTold.trans (hfirst : IsTold decode a first b) (hlast : IsTold decode b last c) :
    IsTold decode a (last.or first) c := by
  cases last with
  | some j => exact hlast
  | none =>
    obtain rfl : c = b := hlast
    exact hfirst

end Told

/-! ### Fields -/

section Record

variable {σ : Type}

/-- Whether a value can be stored in the field does not depend on the record. -/
def Field.IsSteady (f : Field σ) : Prop :=
  ∀ j r, (∃ r', f.store j r = .ok r') → ∀ q, ∃ q', f.store j q = .ok q'

/-- The field as it is written. -/
def Field.slot (f : Field σ) : Slot := ⟨f.name, f.optional, fun j => ∃ r r', f.store j r = .ok r'⟩

@[simp] theorem Field.slot_name (f : Field σ) : f.slot.name = f.name := rfl

@[simp] theorem Field.slot_optional (f : Field σ) : f.slot.optional = f.optional := rfl

theorem Field.IsSteady.exists_store_iff {f : Field σ} (hf : f.IsSteady) {j : Json} (r : σ) :
    (∃ r', f.store j r = .ok r') ↔ f.slot.form j :=
  ⟨fun h => ⟨r, h⟩, fun ⟨q, h⟩ => hf j q h r⟩

/-- **The field is written as a slot tells.** Whether a value can be stored is a matter of its form alone. -/
structure Field.Fits (f : Field σ) (slot : Slot) : Prop where
  /-- The name is that of the slot. -/
  name : f.name = slot.name
  /-- The field may be left out if the slot may be. -/
  optional : f.optional = slot.optional
  /-- A value can be stored if it has the form. -/
  form : ∀ j r, (∃ r', f.store j r = .ok r') ↔ slot.form j

theorem Field.Fits.isSteady {f : Field σ} {slot : Slot} (h : f.Fits slot) : f.IsSteady :=
  fun j r hr q => (h.form j q).mpr ((h.form j r).mp hr)

theorem Field.Fits.slot_eq {f : Field σ} {slot : Slot} (h : f.Fits slot) (r : σ) : f.slot = slot := by
  obtain ⟨name, optional, form⟩ := slot
  obtain ⟨rfl, rfl, hform⟩ := h
  have heq : (fun j => ∃ r r', f.store j r = .ok r') = form :=
    funext fun j => propext ⟨fun ⟨r, hr⟩ => (hform j r).mp hr, fun hj => ⟨r, (hform j r).mpr hj⟩⟩
  rw [Field.slot, heq]

theorem Field.isSteady_of_fits {fs : List (Field σ)} {slots : List Slot}
    (h : List.Forall₂ Field.Fits fs slots) : ∀ f ∈ fs, f.IsSteady := by
  intro f hf
  obtain ⟨slot, -, hfits⟩ := exists_mem_of_forall₂ h.flip hf
  exact Field.Fits.isSteady hfits

theorem Field.map_slot_of_fits {fs : List (Field σ)} {slots : List Slot}
    (h : List.Forall₂ Field.Fits fs slots) (r : σ) : fs.map Field.slot = slots := by
  induction h with
  | nil => rfl
  | cons hf _ ih => rw [List.map_cons, hf.slot_eq r, ih]

/-- Whether something is stored after it was decoded is a matter of the decoding. -/
theorem exists_set_iff {α : Type} {x : Except Fault α} {set : α → σ} :
    (∃ r, (do pure (set (← x))) = .ok r) ↔ ∃ a, x = .ok a := by
  simp

/-- What the shape of a record has to be for its fields not to come into each other's way. -/
structure Shape.IsSound (s : Shape σ) : Prop where
  /-- Whether a value can be stored does not depend on what was stored before. -/
  steady : ∀ f ∈ s.fields, f.IsSteady
  /-- No two fields have one name. -/
  names : (s.fields.map Field.name).Nodup

namespace Shape

variable {s : Shape σ}

theorem IsSound.of_fits {slots : List Slot} (hfits : List.Forall₂ Field.Fits s.fields slots)
    (hnames : (s.fields.map Field.name).Nodup) : s.IsSound :=
  ⟨Field.isSteady_of_fits hfits, hnames⟩

/-- The names of the fields. -/
def fieldNames (s : Shape σ) : List String := s.fields.map Field.name

/-- The fields as they are written. -/
def slots (s : Shape σ) : List Slot := s.fields.map Field.slot

/-! ### Which values can be decoded -/

theorem IsSound.find?_eq_some_iff (hs : s.IsSound) {name : String} {f : Field σ} :
    (s.fields.find? fun f => f.name = name) = some f ↔ f ∈ s.fields ∧ f.name = name := by
  constructor
  · intro hf
    exact ⟨List.mem_of_find?_eq_some hf, by simpa using List.find?_some hf⟩
  · rintro ⟨hf, rfl⟩
    cases hfind : s.fields.find? fun g => g.name = f.name with
    | none => simpa using List.find?_eq_none.mp hfind f hf
    | some g =>
      have hg : g.name = f.name := by simpa using List.find?_some hfind
      rw [List.inj_on_of_nodup_map hs.names (List.mem_of_find?_eq_some hfind) hf hg]

/-- Whether a member can be stored does not depend on the record. -/
theorem IsSound.exists_storeMember_iff (hs : s.IsSound) {m : String × Json} {r : σ} :
    (∃ r', s.storeMember r m = .ok r') ↔
      (s.closed = true → ∃ f ∈ s.fields, f.name = m.1) ∧
        ∀ f ∈ s.fields, f.name = m.1 → f.slot.form m.2 := by
  unfold storeMember
  cases hfind : s.fields.find? fun f => f.name = m.1 with
  | none =>
    have hnone : ∀ f ∈ s.fields, f.name ≠ m.1 := by simpa using hfind
    have hvacuous : ∀ f ∈ s.fields, f.name = m.1 → f.slot.form m.2 :=
      fun f hf hname => absurd hname (hnone f hf)
    -- Only an open record passes over a member that is no field.
    cases hclosed : s.closed
    · simpa using hvacuous
    · simpa using fun f hf hname => absurd hname (hnone f hf)
  | some f =>
    obtain ⟨hf, hname⟩ := hs.find?_eq_some_iff.mp hfind
    simp only
    rw [(hs.steady f hf).exists_store_iff]
    -- No other field has the name.
    refine ⟨fun hform => ⟨fun _ => ⟨f, hf, hname⟩, fun g hg hgname => ?_⟩, fun h => h.2 f hf hname⟩
    rwa [List.inj_on_of_nodup_map hs.names hg hf (hgname.trans hname.symm)]

theorem IsSound.exists_foldlM_iff (hs : s.IsSound) {members : List (String × Json)} {r : σ} :
    (∃ r', members.foldlM s.storeMember r = .ok r') ↔
      ∀ m ∈ members, (s.closed = true → ∃ f ∈ s.fields, f.name = m.1) ∧
        ∀ f ∈ s.fields, f.name = m.1 → f.slot.form m.2 := by
  induction members generalizing r with
  | nil => simp
  | cons m members ih =>
    rw [List.forall_mem_cons, ← hs.exists_storeMember_iff (r := r)]
    simp only [List.foldlM_cons, bind_eq_ok_iff]
    constructor
    · rintro ⟨r', q, hq, hrest⟩
      exact ⟨⟨q, hq⟩, ih.mp ⟨r', hrest⟩⟩
    · rintro ⟨⟨q, hq⟩, hrest⟩
      obtain ⟨r', hr'⟩ := ih.mpr hrest
      exact ⟨r', q, hq, hr'⟩

theorem missing?_eq_none_iff {members : List (String × Json)} :
    s.missing? members = none ↔
      ∀ f ∈ s.fields, f.optional = false → ∃ m ∈ members, m.1 = f.name := by
  simp [missing?]

/-- Items can be stored in steady fields if there are not more of them than fields, each has the form of its
field, and the fields behind them may be left out. -/
theorem exists_storeItems_iff {length index : Nat} {fs : List (Field σ)}
    (hsteady : ∀ f ∈ fs, f.IsSteady) {items : List Json} {r : σ} :
    (∃ r', s.storeItems length index fs items r = .ok r') ↔
      items.length ≤ fs.length ∧ (∀ p ∈ fs.zip items, p.1.slot.form p.2) ∧
        ∀ f ∈ fs.drop items.length, f.optional = true := by
  induction fs generalizing index items r with
  | nil => cases items <;> simp [storeItems]
  | cons f fs ih =>
    obtain ⟨hf, hfs⟩ := List.forall_mem_cons.mp hsteady
    cases items with
    | nil =>
      cases hoptional : f.optional
      · simp [storeItems, hoptional]
      · simpa [storeItems, hoptional] using @ih (index + 1) hfs [] r
    | cons j items =>
      simp only [storeItems, bind_eq_ok_iff, List.length_cons, List.zip_cons_cons,
        List.forall_mem_cons, List.drop_succ_cons, Nat.add_le_add_iff_right]
      rw [← hf.exists_store_iff r]
      constructor
      · rintro ⟨r', q, hq, hrest⟩
        obtain ⟨hshort, hformed, hcomplete⟩ := (ih hfs).mp ⟨r', hrest⟩
        exact ⟨hshort, ⟨⟨q, hq⟩, hformed⟩, hcomplete⟩
      · rintro ⟨hshort, ⟨⟨q, hq⟩, hformed⟩, hcomplete⟩
        obtain ⟨r', hr'⟩ := (ih hfs).mpr ⟨hshort, hformed, hcomplete⟩
        exact ⟨r', q, hq, hr'⟩

/-- **A record can be decoded exactly from what has its form.** -/
theorem IsSound.exists_decode_iff (hs : s.IsSound) {start : σ} {j : Json} :
    (∃ r, s.decode start j = .ok r) ↔ IsRecord true (!s.closed) s.slots j := by
  cases j with
  | object members =>
    have hdecode : (∃ r, s.decode start (.object members) = .ok r) ↔
        (∃ r, members.foldlM s.storeMember start = .ok r) ∧ s.missing? members = none := by
      unfold decode
      cases hmissing : s.missing? members <;> simp [hmissing]
    rw [hdecode, hs.exists_foldlM_iff, missing?_eq_none_iff]
    constructor
    · rintro ⟨hstored, hcomplete⟩
      refine .object (fun hothers m hm => ?_) (fun m hm => ?_) ?_
      · simpa [slots] using (hstored m hm).1 (by simpa using hothers)
      · simpa [slots] using (hstored m hm).2
      · simpa [slots] using hcomplete
    · rintro (⟨hknown, hformed, hcomplete⟩ | _)
      refine ⟨fun m hm => ⟨fun hclosed => ?_, ?_⟩, ?_⟩
      · simpa [slots] using hknown (by simpa using hclosed) m hm
      · simpa [slots] using hformed m hm
      · simpa [slots] using hcomplete
  | array items =>
    unfold decode
    rw [exists_storeItems_iff hs.steady]
    constructor
    · rintro ⟨hshort, hformed, hcomplete⟩
      refine .array rfl (by simpa [slots] using hshort) ?_ ?_
      · rw [slots, List.zip_map_left, List.forall_mem_map]
        exact hformed
      · simpa [slots, ← List.map_drop] using hcomplete
    · rintro (_ | ⟨-, hshort, hformed, hcomplete⟩)
      rw [slots, List.zip_map_left, List.forall_mem_map] at hformed
      refine ⟨by simpa [slots] using hshort, hformed, ?_⟩
      · simpa [slots, ← List.map_drop] using hcomplete
  | null | boolean b | number n | text t =>
    refine iff_of_false (by simp [decode]) ?_
    rintro ⟨⟩

/-- The form of a record, with the forms of its fields. -/
theorem exists_decode_iff_of_fits {slots : List Slot} (hfits : List.Forall₂ Field.Fits s.fields slots)
    (hnames : (s.fields.map Field.name).Nodup) {start : σ} {j : Json} :
    (∃ r, s.decode start j = .ok r) ↔ IsRecord true (!s.closed) slots j := by
  rw [(IsSound.of_fits hfits hnames).exists_decode_iff, Shape.slots, Field.map_slot_of_fits hfits start]

/-! ### One step of decoding -/

/-- A member is stored in the field of its name, or it is none of the fields' and is passed over. -/
theorem storeMember_cases {r r' : σ} {m : String × Json} (h : s.storeMember r m = .ok r') :
    (∃ f ∈ s.fields, f.name = m.1 ∧ f.store m.2 r = .ok r') ∨
      (∀ f ∈ s.fields, f.name ≠ m.1) ∧ r' = r := by
  unfold storeMember at h
  split at h
  · next f hfind =>
    exact Or.inl ⟨f, List.mem_of_find?_eq_some hfind, by simpa using List.find?_some hfind, h⟩
  · next hfind =>
    split at h
    · simp at h
    · exact Or.inr ⟨by simpa using hfind, (pure_eq_ok_iff.mp h).symm⟩

/-- Looking for missing fields changes nothing. -/
theorem foldlM_of_decode {start r : σ} {members : List (String × Json)}
    (h : s.decode start (.object members) = .ok r) : members.foldlM s.storeMember start = .ok r := by
  simp only [decode, bind_eq_ok_iff] at h
  obtain ⟨q, hfold, h⟩ := h
  split at h
  · simp at h
  · exact pure_eq_ok_iff.mp h ▸ hfold

/-! ### What every field leaves alone -/

section Invariant

variable {P : σ → Prop}

theorem storeMember_induction
    (hstep : ∀ f ∈ s.fields, ∀ j r r', f.store j r = .ok r' → P r → P r') {r r' : σ} {m : String × Json}
    (hr : P r) (hstore : s.storeMember r m = .ok r') : P r' := by
  obtain ⟨f, hf, -, hstored⟩ | ⟨-, rfl⟩ := storeMember_cases hstore
  · exact hstep f hf m.2 r r' hstored hr
  · exact hr

theorem foldlM_induction
    (hstep : ∀ f ∈ s.fields, ∀ j r r', f.store j r = .ok r' → P r → P r')
    {members : List (String × Json)} {r r' : σ} (hr : P r)
    (hfold : members.foldlM s.storeMember r = .ok r') : P r' := by
  induction members generalizing r with
  | nil => exact pure_eq_ok_iff.mp hfold ▸ hr
  | cons m members ih =>
    rw [List.foldlM_cons, bind_eq_ok_iff] at hfold
    obtain ⟨q, hstore, hfold⟩ := hfold
    exact ih (storeMember_induction hstep hr hstore) hfold

theorem storeItems_induction {fs : List (Field σ)}
    (hstep : ∀ f ∈ fs, ∀ j r r', f.store j r = .ok r' → P r → P r') {length index : Nat}
    {items : List Json} {r r' : σ} (hr : P r)
    (hstore : s.storeItems length index fs items r = .ok r') : P r' := by
  induction fs generalizing index items r with
  | nil =>
    cases items with
    | nil => exact pure_eq_ok_iff.mp hstore ▸ hr
    | cons j items => simp [storeItems] at hstore
  | cons f fs ih =>
    obtain ⟨hf, hfs⟩ := List.forall_mem_cons.mp hstep
    cases items with
    | nil =>
      simp only [storeItems] at hstore
      split at hstore
      · exact ih hfs hr hstore
      · simp at hstore
    | cons j items =>
      simp only [storeItems, bind_eq_ok_iff] at hstore
      obtain ⟨q, hfirst, hstore⟩ := hstore
      exact ih hfs (hf j r q hfirst hr) hstore

/-- **What holds at the start, and is left alone by every field, holds of the decoded record.** -/
theorem decode_induction
    (hstep : ∀ f ∈ s.fields, ∀ j r r', f.store j r = .ok r' → P r → P r') {start r : σ} {j : Json}
    (hstart : P start) (hdecode : s.decode start j = .ok r) : P r := by
  cases j with
  | object members => exact foldlM_induction hstep hstart (foldlM_of_decode hdecode)
  | array items => exact storeItems_induction hstep hstart hdecode
  | null | boolean b | number n | text t => simp [Shape.decode] at hdecode

end Invariant

/-! ### What a record says -/

/-- **A part of the record is what the field of the given name says**: that field stores in it what it has
decoded, and the other fields leave it alone. -/
structure Tells {α : Type} (s : Shape σ) (name : String) (decode : Json → Except Fault α)
    (get : σ → α) : Prop where
  /-- There is a field of the name. -/
  known : name ∈ s.fieldNames
  /-- It stores what it has decoded. -/
  own : ∀ f ∈ s.fields, f.name = name → ∀ j r, get <$> f.store j r = decode j
  /-- The others leave it alone. -/
  other : ∀ f ∈ s.fields, f.name ≠ name → ∀ j r r', f.store j r = .ok r' → get r' = get r

section Tells

variable {α : Type} {name : String} {decode : Json → Except Fault α} {get : σ → α}

theorem Tells.isTold_storeMember (ht : s.Tells name decode get) {m : String × Json} {r r' : σ}
    (hstore : s.storeMember r m = .ok r') :
    IsTold decode (get r) (Keyed.valueAt name [m]) (get r') := by
  rw [Keyed.valueAt]
  obtain ⟨f, hf, hname, hstored⟩ | ⟨hnone, rfl⟩ := storeMember_cases hstore
  · split
    · next heq =>
      have hown := ht.own f hf (hname.trans heq.symm) m.2 r
      rw [hstored] at hown
      exact hown.symm
    · next hne => exact ht.other f hf (fun heq => hne (heq.symm.trans hname)) m.2 r r' hstored
  · -- The member is passed over, and so it has not the name, which is that of a field.
    obtain ⟨f, hf, hname⟩ := List.mem_map.mp ht.known
    rw [if_neg (hname ▸ hnone f hf)]
    rfl

/-- Of members with one name the last counts. -/
theorem Tells.isTold_foldlM (ht : s.Tells name decode get) {members : List (String × Json)} {r r' : σ}
    (hfold : members.foldlM s.storeMember r = .ok r') :
    IsTold decode (get r) (Keyed.valueAt name members.reverse) (get r') := by
  induction members generalizing r with
  | nil =>
    obtain rfl : r = r' := by simpa using hfold
    rfl
  | cons m members ih =>
    rw [List.foldlM_cons, bind_eq_ok_iff] at hfold
    obtain ⟨q, hstore, hfold⟩ := hfold
    rw [List.reverse_cons, Keyed.valueAt_append]
    exact (ht.isTold_storeMember hstore).trans (ih hfold)

/-- Items tell about the fields of their places. -/
theorem Tells.isTold_storeItems (ht : s.Tells name decode get) {length index : Nat}
    {fs : List (Field σ)} (hfs : ∀ f ∈ fs, f ∈ s.fields) (hnames : (fs.map Field.name).Nodup)
    {items : List Json} {r r' : σ} (hstore : s.storeItems length index fs items r = .ok r') :
    IsTold decode (get r) (Keyed.valueAt name ((fs.map Field.name).zip items)) (get r') := by
  induction fs generalizing index items r with
  | nil =>
    cases items with
    | nil =>
      obtain rfl : r = r' := by simpa [storeItems] using hstore
      rfl
    | cons j items => simp [storeItems] at hstore
  | cons f fs ih =>
    obtain ⟨hf, hfs⟩ := List.forall_mem_cons.mp hfs
    rw [List.map_cons, List.nodup_cons] at hnames
    obtain ⟨hnew, hnames⟩ := hnames
    cases items with
    | nil =>
      simp only [storeItems] at hstore
      split at hstore
      · simpa [List.zip_nil_right] using ih hfs hnames hstore
      · simp at hstore
    | cons j items =>
      simp only [storeItems, bind_eq_ok_iff] at hstore
      obtain ⟨q, hfirst, hstore⟩ := hstore
      have hrest := ih hfs hnames hstore
      rw [List.map_cons, List.zip_cons_cons, Keyed.valueAt]
      split
      · next heq =>
        -- No later field has the name.
        have hnone : Keyed.valueAt name ((fs.map Field.name).zip items) = none :=
          Keyed.valueAt_eq_none_iff.mpr fun e he hkey =>
            hnew (heq ▸ hkey ▸ (List.of_mem_zip he).1)
        rw [hnone] at hrest
        rw [show get r' = get q from hrest]
        have hown := ht.own f hf heq.symm j r
        rw [hfirst] at hown
        exact hown.symm
      · next hne =>
        rwa [ht.other f hf (Ne.symm hne) j r q hfirst] at hrest

/-- **What a decoded record says**: what the value gives for the field of the name, and what stood there
before if it gives nothing, or if there is no value. -/
theorem Tells.isTold_bind (hs : s.IsSound) (ht : s.Tells name decode get) {start r : σ}
    {given : Option Json} (htold : IsTold (s.decode start) start given r) :
    IsTold decode (get start) (given.bind (field? s.fieldNames name)) (get r) := by
  cases given with
  | none => exact congrArg get htold
  | some j =>
    have hdecode : s.decode start j = .ok r := htold
    rw [Option.bind_some]
    cases j with
    | object members => exact ht.isTold_foldlM (foldlM_of_decode hdecode)
    | array items => exact ht.isTold_storeItems (fun _ hf => hf) hs.names hdecode
    | null | boolean b | number n | text t => simp [Shape.decode] at hdecode

end Tells

end Shape
end Record
end Decode
end LintLedger.Json
