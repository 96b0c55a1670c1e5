import LintLedger.Proofs.Json.Commented
import LintLedger.Proofs.Text.Digits
import Mathlib.Data.List.TakeWhile

/-!
# Spread-out JSON is read

What the writer spreads over lines is JSON, and the reader of plain JSON finds the value that was written,
with the members of its objects in order (`LintLedger.Json.read?_pretty`). This is shown for all values
whose numbers are whole ones of 64 bits (`LintLedger.Json.IsWhole`).

The reader knows where a text ends from its closing mark, but a number ends where no further digit, point or
exponent follows (`LintLedger.Json.EndsNumber`). The writer goes on behind a value with a comma or a line
break only, so a value is read whatever is written behind it (`LintLedger.Json.IsRead`).
-/

namespace LintLedger.Json

open LintLedger.Text (isDigit digits)

/-! ### Values without fractions -/

/-- **The value has no fractions**: all its numbers are whole ones that take 64 bits. -/
inductive IsWhole : Json → Prop where
  /-- No value. -/
  | null : IsWhole .null
  /-- A truth value. -/
  | boolean (b : Bool) : IsWhole (.boolean b)
  /-- A whole number. -/
  | integer {n : Int} (low : -0x8000000000000000 ≤ n) (high : n < 0x10000000000000000) :
      IsWhole (.number (.integer n))
  /-- A text. -/
  | text (s : String) : IsWhole (.text s)
  /-- An array of such values. -/
  | array {items : List Json} (whole : ∀ j ∈ items, IsWhole j) : IsWhole (.array items)
  /-- An object of such values. -/
  | object {members : List (String × Json)} (whole : ∀ m ∈ members, IsWhole m.2) :
      IsWhole (.object members)

/-! ### Numbers -/

/-- **No number goes on with the text.** -/
def EndsNumber (rest : List Char) : Prop :=
  ∀ c ∈ rest.head?, isDigit c = false ∧ c ≠ '.' ∧ c ≠ 'e' ∧ c ≠ 'E'

section Number

variable {rest : List Char}

theorem scanDigits_append {ds : List Char} (hne : ds ≠ []) (hds : ∀ c ∈ ds, isDigit c = true)
    (hrest : EndsNumber rest) : scanDigits (ds ++ rest) = .ok (ds, rest) := by
  have hstop : rest.takeWhile isDigit = [] ∧ rest.dropWhile isDigit = rest := by
    cases rest with
    | nil => exact ⟨rfl, rfl⟩
    | cons c rest =>
      have hc : isDigit c = false := (hrest c rfl).1
      exact ⟨List.takeWhile_cons_of_neg (by simp [hc]), List.dropWhile_cons_of_neg (by simp [hc])⟩
  have hempty : ds.isEmpty = false := by simpa using hne
  unfold scanDigits
  rw [List.takeWhile_append_of_pos hds, List.dropWhile_append_of_pos hds, hstop.1, hstop.2,
    List.append_nil]
  simp [hempty, pure, Except.pure]

theorem scanExponent_of_endsNumber (hrest : EndsNumber rest) : scanExponent rest = .ok (none, rest) := by
  unfold scanExponent
  cases rest with
  | nil => rfl
  | cons c rest =>
    obtain ⟨-, -, he, hE⟩ := hrest c rfl
    simp [he, hE, pure, Except.pure]

theorem isDigit_of_mem_digits {n : ℕ} {c : Char} (hc : c ∈ digits n) : isDigit c = true :=
  (Text.isDigit_iff c).mpr (Text.mem_digits hc)

/-- **The digits of a number are read as a numeral without fraction and exponent.** -/
theorem scanNumeral_digits (negative : Bool) (n : ℕ) (hrest : EndsNumber rest) :
    scanNumeral negative (digits n ++ rest) = .ok (⟨negative, digits n, none, none⟩, rest) := by
  have hexponent := scanExponent_of_endsNumber hrest
  have hpoint : ∀ cs, rest ≠ '.' :: cs := by
    rintro cs rfl
    exact (hrest '.' rfl).2.1 rfl
  by_cases hn : n = 0
  · subst hn
    have hzero : digits 0 = ['0'] := rfl
    rw [hzero]
    simp [scanNumeral, hexponent, Except.map, Functor.map]
  · -- The first digit is no zero, so the reader takes all of them.
    have hscan := scanDigits_append (Text.digits_ne_nil n) (fun c => isDigit_of_mem_digits) hrest
    have hhead := Text.head?_digits_ne_zero hn
    obtain ⟨d, ds, hds⟩ := List.exists_cons_of_ne_nil (Text.digits_ne_nil n)
    rw [hds] at hscan hhead ⊢
    have hd : d ≠ '0' := fun heq => hhead (by rw [heq, List.head?_cons])
    rw [List.cons_append] at hscan
    simp [scanNumeral, hexponent, hd, hscan, bind, Except.bind, pure, Except.pure]

theorem chars_ofNat (n : ℕ) : (Number.integer (.ofNat n)).chars = digits n := by
  simp [Number.chars, digits, Int.repr_eq_if]

theorem chars_negSucc (n : ℕ) : (Number.integer (.negSucc n)).chars = '-' :: digits (n + 1) := by
  simp [Number.chars, digits, Int.repr_eq_if]

/-- **A whole number is read as it was written.** -/
theorem readNumber?_chars {n : Int} (hlow : -0x8000000000000000 ≤ n) (hhigh : n < 0x10000000000000000)
    (hrest : EndsNumber rest) :
    readNumber? ((Number.integer n).chars ++ rest) = some (.number (.integer n), rest) := by
  have hvalue : ∀ m : ℕ, Text.digitsValue (digits m) = m := fun m => by
    rw [Text.digitsValue_eq_placeValue, Text.placeValue_digits]
  cases n with
  | ofNat m =>
    have hm : m < 0x10000000000000000 := by
      rw [Int.ofNat_eq_natCast] at hhigh
      omega
    -- The first digit is no sign.
    have hsign : ∀ cs, digits m ++ rest ≠ '-' :: cs := by
      obtain ⟨d, ds, hds⟩ := List.exists_cons_of_ne_nil (Text.digits_ne_nil m)
      have hd : isDigit d = true := isDigit_of_mem_digits (n := m) (by simp [hds])
      rw [hds, List.cons_append]
      rintro cs heq
      rw [(List.cons.inj heq).1] at hd
      exact absurd hd (by decide)
    rw [chars_ofNat]
    simp [readNumber?, scanNumeral_digits false m hrest, Numeral.value?, hvalue, hm]
  | negSucc m =>
    have hm : m + 1 ≤ 0x8000000000000000 := by omega
    have hn : -1 + -(m : Int) = Int.negSucc m := by omega
    rw [chars_negSucc, List.cons_append]
    simp [readNumber?, scanNumeral_digits true (m + 1) hrest, Numeral.value?, hvalue, hm, hn]

end Number

/-! ### Values -/

theorem skipBlanks_cons {c : Char} (hc : isJsonBlank c = false) (cs : List Char) :
    skipBlanks (c :: cs) = c :: cs :=
  List.dropWhile_cons_of_neg (by simp [hc])

theorem skipBlanks_newline (level : ℕ) (cs : List Char) :
    skipBlanks (newline level ++ cs) = skipBlanks cs := by
  refine List.dropWhile_append_of_pos fun c hc => ?_
  rcases List.mem_cons.mp hc with rfl | hc
  · rfl
  · rw [List.eq_of_mem_replicate hc]
    rfl

theorem quoteChars_append (k : String) (rest : List Char) :
    quoteChars k ++ rest = '"' :: (k.toList.flatMap escapeChar ++ '"' :: rest) := by
  simp [quoteChars]

theorem skipBlanks_quoteChars (k : String) (cs : List Char) :
    skipBlanks (quoteChars k ++ cs) = quoteChars k ++ cs :=
  skipBlanks_cons (by decide) _

/-- A number starts with its sign or with a digit, and so with no other character. -/
theorem exists_chars_eq (n : Int) :
    ∃ c cs, (Number.integer n).chars = c :: cs ∧ ∀ d, d ≠ '-' → isDigit d = false → c ≠ d := by
  cases n with
  | ofNat m =>
    obtain ⟨c, cs, hcs⟩ := List.exists_cons_of_ne_nil (Text.digits_ne_nil m)
    have hc : isDigit c = true := isDigit_of_mem_digits (n := m) (by simp [hcs])
    refine ⟨c, cs, (chars_ofNat m).trans hcs, ?_⟩
    rintro d - hd rfl
    exact absurd hc (by simp [hd])
  | negSucc m =>
    refine ⟨'-', digits (m + 1), chars_negSucc m, ?_⟩
    rintro d hd - rfl
    exact hd rfl

/-- **A value is read as it is written**, at any level, behind blanks, and whatever comes behind it as long as
no number goes on. Each character takes two levels of reading. -/
structure IsRead (j : Json) : Prop where
  /-- What is written starts with neither a blank nor a closing bracket. -/
  starts : ∀ level, ∃ c cs, prettyChars level j = c :: cs ∧ isJsonBlank c = false ∧ c ≠ ']'
  /-- It is read. -/
  read : ∀ {level depth : ℕ} {cs rest : List Char}, 2 * (prettyChars level j).length < depth →
    EndsNumber rest → skipBlanks cs = prettyChars level j ++ rest →
      readValue? depth cs = some (j.sorted, rest)

theorem IsRead.of_step {j : Json}
    (starts : ∀ level, ∃ c cs, prettyChars level j = c :: cs ∧ isJsonBlank c = false ∧ c ≠ ']')
    (read : ∀ {level depth : ℕ} {cs rest : List Char}, 2 * (prettyChars level j).length ≤ depth →
      EndsNumber rest → skipBlanks cs = prettyChars level j ++ rest →
        readValue? (depth + 1) cs = some (j.sorted, rest)) : IsRead j where
  starts := starts
  read {level depth cs rest} hdepth hrest hcs := by
    obtain ⟨depth, rfl⟩ : ∃ n, depth = n + 1 := ⟨depth - 1, by omega⟩
    exact read (by omega) hrest hcs

theorem IsRead.skipBlanks_eq {j : Json} (h : IsRead j) (level : ℕ) (rest : List Char) :
    skipBlanks (prettyChars level j ++ rest) = prettyChars level j ++ rest := by
  obtain ⟨c, cs, hcs, hc, -⟩ := h.starts level
  rw [hcs, List.cons_append, skipBlanks_cons hc]

theorem IsRead.skipBlanks_newline {j : Json} (h : IsRead j) (level : ℕ) (rest : List Char) :
    skipBlanks (newline level ++ (prettyChars level j ++ rest)) = prettyChars level j ++ rest := by
  rw [Json.skipBlanks_newline, h.skipBlanks_eq]

theorem IsRead.skipBlanks_space {j : Json} (h : IsRead j) (level : ℕ) (rest : List Char) :
    skipBlanks (' ' :: (prettyChars level j ++ rest)) = prettyChars level j ++ rest :=
  h.skipBlanks_eq level rest

/-! ### Containers

The first part of a container is written at the same place as each of the others: what is read from it on is
told by one statement for the items, and by one for the members. -/

/-- Behind an item no number goes on. -/
theorem endsNumber_prettyItems (level : ℕ) (js : List Json) (rest : List Char) :
    EndsNumber (prettyItems level js ++ rest) := by
  cases js <;> simp [EndsNumber, prettyItems, newline, isDigit]

/-- Behind the value of a member no number goes on. -/
theorem endsNumber_prettyMembers (level : ℕ) (ms : List (String × Json)) (rest : List Char) :
    EndsNumber (prettyMembers level ms ++ rest) := by
  cases ms <;> simp [EndsNumber, prettyMembers, newline, isDigit]

/-- What is written of an item and those behind it is longer than what is written from the item on. -/
theorem length_lt_prettyItems (level : ℕ) (j : Json) (js : List Json) :
    (prettyChars (level + 1) j).length + (prettyItems level js).length <
      (prettyItems level (j :: js)).length := by
  simp only [prettyItems, List.length_append, List.length_cons]
  omega

theorem length_lt_prettyMembers (level : ℕ) (k : String) (j : Json) (ms : List (String × Json)) :
    (prettyChars (level + 1) j).length + (prettyMembers level ms).length <
      (prettyMembers level ((k, j) :: ms)).length := by
  simp only [prettyMembers, List.length_append, List.length_cons]
  omega

/-- The items from the first on are read up to the closing bracket. -/
theorem readItems?_of_isRead {js : List Json} (hjs : ∀ i ∈ js, IsRead i) {j : Json} (hj : IsRead j)
    {level depth : ℕ} {found : List Json} {cs rest : List Char}
    (hdepth : 2 * ((prettyChars (level + 1) j).length + (prettyItems level js).length) + 1 < depth)
    (hcs : skipBlanks cs = prettyChars (level + 1) j ++ (prettyItems level js ++ rest)) :
    readItems? depth found cs = some (.array (found.reverse ++ (j :: js).map sorted), rest) := by
  induction js generalizing j depth found cs with
  | nil =>
    obtain ⟨depth, rfl⟩ : ∃ n, depth = n + 1 := ⟨depth - 1, by omega⟩
    have hread := @hj.read (level + 1) depth cs _ (by omega) (endsNumber_prettyItems _ _ _) hcs
    have hclose : skipBlanks (prettyItems level [] ++ rest) = ']' :: rest := by
      rw [prettyItems, List.append_assoc, skipBlanks_newline]
      rfl
    simp [readItems?, hread, hclose]
  | cons i js ih =>
    obtain ⟨hi, hjs⟩ := List.forall_mem_cons.mp hjs
    obtain ⟨depth, rfl⟩ : ∃ n, depth = n + 1 := ⟨depth - 1, by omega⟩
    have hlength := length_lt_prettyItems level i js
    have hread := @hj.read (level + 1) depth cs _ (by omega) (endsNumber_prettyItems _ _ _) hcs
    have hcomma : skipBlanks (prettyItems level (i :: js) ++ rest) =
        ',' :: (newline (level + 1) ++
          (prettyChars (level + 1) i ++ (prettyItems level js ++ rest))) := by
      rw [prettyItems, List.append_assoc, List.append_assoc, List.cons_append,
        skipBlanks_cons (by decide)]
    have hrest := @ih hjs i hi depth (j.sorted :: found) _ (by omega) (hi.skipBlanks_newline ..)
    simp [readItems?, hread, hcomma, hrest]

/-- The members from the first on are read up to the closing brace. -/
theorem readMembers?_of_isRead {ms : List (String × Json)} (hms : ∀ m ∈ ms, IsRead m.2) {k : String}
    {j : Json} (hj : IsRead j) {level depth : ℕ} {found : List (String × Json)} {cs rest : List Char}
    (hdepth : 2 * ((prettyChars (level + 1) j).length + (prettyMembers level ms).length) + 1 < depth)
    (hcs : skipBlanks cs = quoteChars k ++ ':' :: ' ' ::
      (prettyChars (level + 1) j ++ (prettyMembers level ms ++ rest))) :
    readMembers? depth found cs =
      some (ofMembers (found.reverse ++ sortedMembers ((k, j) :: ms)), rest) := by
  induction ms generalizing k j depth found cs with
  | nil =>
    obtain ⟨depth, rfl⟩ : ∃ n, depth = n + 1 := ⟨depth - 1, by omega⟩
    have hread := @hj.read (level + 1) depth _ _ (by omega) (endsNumber_prettyMembers level [] rest)
      (hj.skipBlanks_space ..)
    have hclose : skipBlanks (prettyMembers level [] ++ rest) = '\x7d' :: rest := by
      rw [prettyMembers, List.append_assoc, skipBlanks_newline]
      rfl
    simp [readMembers?, hcs, quoteChars_append, readText?_escaped, skipBlanks_cons, isJsonBlank, hread,
      hclose, sortedMembers]
  | cons m ms ih =>
    obtain ⟨k', i⟩ := m
    obtain ⟨hi, hms⟩ := List.forall_mem_cons.mp hms
    obtain ⟨depth, rfl⟩ : ∃ n, depth = n + 1 := ⟨depth - 1, by omega⟩
    have hlength := length_lt_prettyMembers level k' i ms
    have hread := @hj.read (level + 1) depth _ _ (by omega)
      (endsNumber_prettyMembers level ((k', i) :: ms) rest) (hj.skipBlanks_space ..)
    have hcomma : skipBlanks (prettyMembers level ((k', i) :: ms) ++ rest) =
        ',' :: (newline (level + 1) ++ (quoteChars k' ++ ':' :: ' ' ::
          (prettyChars (level + 1) i ++ (prettyMembers level ms ++ rest)))) := by
      simp [prettyMembers, skipBlanks_cons (show isJsonBlank ',' = false by decide)]
    have hrest := @ih hms k' i hi depth ((k, j.sorted) :: found) _ (by omega)
      ((skipBlanks_newline (level + 1) _).trans (skipBlanks_quoteChars ..))
    rw [quoteChars_append] at hrest
    simp [readMembers?, hcs, quoteChars_append, readText?_escaped, skipBlanks_cons, isJsonBlank, hread,
      hcomma, hrest, sortedMembers]

theorem isRead_array {items : List Json} (h : ∀ j ∈ items, IsRead j) : IsRead (.array items) := by
  cases items with
  | nil =>
    refine .of_step (fun level => ⟨_, _, rfl, by decide, by decide⟩) fun _ _ hcs => ?_
    rw [readValue?, hcs]
    rfl
  | cons j js =>
    obtain ⟨hj, hjs⟩ := List.forall_mem_cons.mp h
    refine .of_step (fun level => ⟨_, _, rfl, by decide, by decide⟩) ?_
    intro level depth cs rest hdepth hrest hcs
    have hfirst := hj.skipBlanks_newline (level + 1) (prettyItems level js ++ rest)
    have hlength : (prettyChars (level + 1) j).length + (prettyItems level js).length <
        (prettyChars level (.array (j :: js))).length := by
      simp only [prettyChars, List.length_append, List.length_cons]
      omega
    have hitems := @readItems?_of_isRead js hjs j hj level depth [] _ rest (by omega)
      (hj.skipBlanks_eq ..)
    obtain ⟨c, cs', hstart, -, hbracket⟩ := hj.starts (level + 1)
    rw [hstart, List.cons_append] at hfirst hitems
    simp [readValue?, hcs, prettyChars, hstart, hfirst, hbracket, hitems, sorted, sortedItems_eq_map]

theorem isRead_object {members : List (String × Json)} (h : ∀ m ∈ members, IsRead m.2) :
    IsRead (.object members) := by
  cases members with
  | nil =>
    refine .of_step (fun level => ⟨_, _, rfl, by decide, by decide⟩) fun _ _ hcs => ?_
    rw [readValue?, hcs]
    rfl
  | cons m ms =>
    obtain ⟨k, j⟩ := m
    obtain ⟨hj, hms⟩ := List.forall_mem_cons.mp h
    refine .of_step (fun level => ⟨_, _, rfl, by decide, by decide⟩) ?_
    intro level depth cs rest hdepth hrest hcs
    have hstart : prettyChars level (.object ((k, j) :: ms)) ++ rest =
        '\x7b' :: (newline (level + 1) ++ (quoteChars k ++ ':' :: ' ' ::
          (prettyChars (level + 1) j ++ (prettyMembers level ms ++ rest)))) := by
      simp [prettyChars]
    have hlength : (prettyChars (level + 1) j).length + (prettyMembers level ms).length <
        (prettyChars level (.object ((k, j) :: ms))).length := by
      simp only [prettyChars, List.length_append, List.length_cons]
      omega
    have hmembers := @readMembers?_of_isRead ms hms k j hj level depth [] _ rest (by omega)
      (skipBlanks_quoteChars ..)
    rw [quoteChars_append] at hmembers
    simp [readValue?, hcs, hstart, skipBlanks_newline, skipBlanks_cons, isJsonBlank, quoteChars_append,
      hmembers, sorted]

/-- **Every value is read as it is written.** -/
theorem isRead_of_isWhole {j : Json} (h : j.IsWhole) : IsRead j := by
  induction h with
  | null =>
    refine .of_step (fun level => ⟨_, _, rfl, by decide, by decide⟩) fun _ _ hcs => ?_
    rw [readValue?, hcs]
    rfl
  | boolean b =>
    refine .of_step (fun level => ?_) fun _ _ hcs => ?_
    · cases b <;> exact ⟨_, _, rfl, by decide, by decide⟩
    · rw [readValue?, hcs]
      cases b <;> rfl
  | @integer n hlow hhigh =>
    obtain ⟨c, cs', hc, hfirst⟩ := exists_chars_eq n
    have hblank : isJsonBlank c = false := by simp [isJsonBlank, hfirst, isDigit]
    refine .of_step (fun level => ⟨c, cs', hc, hblank, hfirst _ (by decide) (by decide)⟩) ?_
    intro _ depth cs rest _ hrest hcs
    have hread := readNumber?_chars hlow hhigh hrest
    rw [prettyChars] at hcs
    rw [hc, List.cons_append] at hcs hread
    simp [readValue?, hcs, hfirst, isDigit, hread, sorted]
  | text s =>
    refine .of_step (fun level => ⟨_, _, rfl, by decide, by decide⟩) fun _ _ hcs => ?_
    rw [readValue?, hcs]
    simp [prettyChars, quoteChars, readText?_escaped]
  | array _ ih => exact isRead_array ih
  | object _ ih => exact isRead_object ih

/-- **What is spread over lines is read**, with the members of the objects in order, whatever blanks come
behind it. -/
theorem read?_pretty {j : Json} (h : j.IsWhole) {tail : String}
    (htail : ∀ c ∈ tail.toList, isJsonBlank c = true) : read? (j.pretty ++ tail) = some j.sorted := by
  have hjson := isRead_of_isWhole h
  have hends : EndsNumber tail.toList := by
    intro c hc
    have hblank := htail c (List.mem_of_mem_head? hc)
    simp only [isJsonBlank, Bool.or_eq_true, decide_eq_true_eq] at hblank
    rcases hblank with ((rfl | rfl) | rfl) | rfl <;> decide
  have hskip : skipBlanks tail.toList = [] := List.dropWhile_eq_nil_iff.mpr htail
  have hread := @hjson.read 0 (2 * (prettyChars 0 j ++ tail.toList).length + 2) _ tail.toList
    (by rw [List.length_append]; omega) hends (hjson.skipBlanks_eq 0 tail.toList)
  unfold read? pretty
  rw [String.toList_append, String.toList_ofList]
  simp only [hread, hskip, List.isEmpty_nil, if_true]

end LintLedger.Json
