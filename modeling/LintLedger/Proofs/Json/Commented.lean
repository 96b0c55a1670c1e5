import LintLedger.Proofs.Json.Text
import LintLedger.Proofs.Keyed

/-!
# Written JSON is read

What the writer of compact JSON writes is commented JSON, and the reader finds the value that was written,
with the members of its objects in order (`LintLedger.Json.Commented.read_compact`). This is shown for the
values that are put together from texts alone (`LintLedger.Json.IsTextual`).

The way goes over the tokens of a value (`LintLedger.Json.tokens`), as the reader's own does. That the
writer's characters are cut into these tokens is a matter of one token at a time; that the grammar makes the
value of them is an induction on the value, in which no character occurs.
-/

namespace LintLedger.Json

/-! ### Texts and what is made of them -/

/-- **The value is put together from texts alone.** -/
inductive IsTextual : Json → Prop where
  /-- A text. -/
  | text (s : String) : IsTextual (.text s)
  /-- An array of such values. -/
  | array {items : List Json} (textual : ∀ j ∈ items, IsTextual j) : IsTextual (.array items)
  /-- An object of such values. -/
  | object {members : List (String × Json)} (textual : ∀ m ∈ members, IsTextual m.2) :
      IsTextual (.object members)

@[simp] theorem isTextual_text (s : String) : (Json.text s).IsTextual := .text s

@[simp] theorem isTextual_array_iff {items : List Json} :
    (Json.array items).IsTextual ↔ ∀ j ∈ items, j.IsTextual :=
  ⟨fun h => by cases h; assumption, .array⟩

@[simp] theorem isTextual_object_iff {members : List (String × Json)} :
    (Json.object members).IsTextual ↔ ∀ m ∈ members, m.2.IsTextual :=
  ⟨fun h => by cases h; assumption, .object⟩

mutual

/-- The value with the members of every object in ascending order of their names. Of members with one name
only the last is kept. -/
def sorted : Json → Json
  | .array items => .array (sortedItems items)
  | .object members => ofMembers (sortedMembers members)
  | j => j

/-- Every item with its members in order. -/
def sortedItems : List Json → List Json
  | [] => []
  | j :: js => sorted j :: sortedItems js

/-- Every member with the members of its value in order. -/
def sortedMembers : List (String × Json) → List (String × Json)
  | [] => []
  | (k, j) :: ms => (k, sorted j) :: sortedMembers ms

end

@[simp] theorem sorted_text (s : String) : sorted (.text s) = .text s := rfl

theorem sortedItems_eq_map (js : List Json) : sortedItems js = js.map sorted := by
  induction js with
  | nil => rfl
  | cons j js ih => rw [sortedItems, ih, List.map_cons]

theorem sortedMembers_eq_map (ms : List (String × Json)) :
    sortedMembers ms = ms.map fun m => (m.1, sorted m.2) := by
  induction ms with
  | nil => rfl
  | cons m ms ih => rw [sortedMembers, ih, List.map_cons]

/-! ### The tokens of a value -/

open Commented (Token Stream)

mutual

/-- The tokens of a value, written without anything that could be left out, and with nothing added. -/
def tokens : Json → List Token
  | .null => [.constant .null]
  | .boolean b => [.constant (.boolean b)]
  | .number n => [.number (String.ofList n.chars) (.number n)]
  | .text s => [.text s]
  | .array [] => [.openBracket, .closeBracket]
  | .array (j :: js) => .openBracket :: (tokens j ++ itemTokens js)
  | .object [] => [.openBrace, .closeBrace]
  | .object ((k, j) :: ms) => .openBrace :: .text k :: .colon :: (tokens j ++ memberTokens ms)

/-- The tokens of the items behind the first. -/
def itemTokens : List Json → List Token
  | [] => [.closeBracket]
  | j :: js => .comma :: (tokens j ++ itemTokens js)

/-- The tokens of the members behind the first. -/
def memberTokens : List (String × Json) → List Token
  | [] => [.closeBrace]
  | (k, j) :: ms => .comma :: .text k :: .colon :: (tokens j ++ memberTokens ms)

end

namespace Commented

/-- How a token is written. -/
inductive Token.IsWritten : Token → List Char → Prop where
  | openBrace : IsWritten .openBrace ['\x7b']
  | closeBrace : IsWritten .closeBrace ['\x7d']
  | openBracket : IsWritten .openBracket ['[']
  | closeBracket : IsWritten .closeBracket [']']
  | comma : IsWritten .comma [',']
  | colon : IsWritten .colon [':']
  | text (s : String) : IsWritten (.text s) (quoteChars s)

/-- How tokens are written, one behind the other. -/
inductive AreWritten : List Token → List Char → Prop where
  | nil : AreWritten [] []
  | cons {t : Token} {w : List Char} {ts : List Token} {cs : List Char} (token : t.IsWritten w)
      (rest : AreWritten ts cs) : AreWritten (t :: ts) (w ++ cs)

theorem AreWritten.append {ts us : List Token} {cs ds : List Char} (h : AreWritten ts cs)
    (h' : AreWritten us ds) : AreWritten (ts ++ us) (cs ++ ds) := by
  induction h with
  | nil => exact h'
  | cons htoken _ ih =>
    rw [List.cons_append, List.append_assoc]
    exact .cons htoken ih

theorem Token.IsWritten.length_pos {t : Token} {w : List Char} (h : t.IsWritten w) : 0 < w.length := by
  cases h <;> simp [quoteChars]

theorem AreWritten.length_le {ts : List Token} {cs : List Char} (h : AreWritten ts cs) :
    ts.length ≤ cs.length := by
  induction h with
  | nil => simp
  | cons htoken _ ih =>
    have hpos := htoken.length_pos
    rw [List.length_cons, List.length_append]
    omega

theorem areWritten_itemTokens {js : List Json}
    (h : ∀ j ∈ js, AreWritten (tokens j) (compactChars j)) :
    AreWritten (itemTokens js) (compactItems js) := by
  induction js with
  | nil => exact .cons .closeBracket .nil
  | cons j js ih =>
    obtain ⟨hj, hjs⟩ := List.forall_mem_cons.mp h
    simpa [itemTokens, compactItems] using AreWritten.cons .comma (hj.append (ih hjs))

theorem areWritten_memberTokens {ms : List (String × Json)}
    (h : ∀ m ∈ ms, AreWritten (tokens m.2) (compactChars m.2)) :
    AreWritten (memberTokens ms) (compactMembers ms) := by
  induction ms with
  | nil => exact .cons .closeBrace .nil
  | cons m ms ih =>
    obtain ⟨hm, hms⟩ := List.forall_mem_cons.mp h
    have hmember := AreWritten.cons (.text m.1) (.cons .colon (hm.append (ih hms)))
    simpa [memberTokens, compactMembers] using AreWritten.cons .comma hmember

/-- **The writer writes the tokens of a value.** -/
theorem areWritten_tokens {j : Json} (h : j.IsTextual) : AreWritten (tokens j) (compactChars j) := by
  induction h with
  | text s => simpa [tokens, compactChars] using AreWritten.cons (.text s) .nil
  | @array items _ ih =>
    cases items with
    | nil => exact .cons .openBracket (.cons .closeBracket .nil)
    | cons j js =>
      obtain ⟨hj, hjs⟩ := List.forall_mem_cons.mp ih
      have hrest := hj.append (areWritten_itemTokens hjs)
      simpa [tokens, compactChars] using AreWritten.cons .openBracket hrest
  | @object members _ ih =>
    cases members with
    | nil => exact .cons .openBrace (.cons .closeBrace .nil)
    | cons m ms =>
      obtain ⟨hm, hms⟩ := List.forall_mem_cons.mp ih
      have hrest := AreWritten.cons .colon (hm.append (areWritten_memberTokens hms))
      simpa [tokens, compactChars] using AreWritten.cons .openBrace (.cons (.text m.1) hrest)

/-! ### Cutting a text into tokens -/

/-- **The stream is that of the given tokens**, wherever in the text they stand. -/
inductive Stream.Holds : Stream → List Token → Prop where
  /-- Nothing is left. -/
  | stop : Holds .stop []
  /-- The first token is there, and the others behind it. -/
  | next {t : Token} {ts : List Token} {s : Stream} (left : Nat) (rest : Holds s ts) :
      Holds (.next t left s) (t :: ts)

/-- A round cuts off the token at the start of a text. -/
theorem ofChars_of_scanToken {c : Char} {cs rest : List Char} {t : Token} (hblank : Text.isBlank c = false)
    (hslash : c ≠ '/') (htoken : scanToken (c :: cs) = .ok (t, rest)) (rounds : Nat) :
    Stream.ofChars (rounds + 1) (c :: cs) = .next t (cs.length + 1) (Stream.ofChars rounds rest) := by
  rw [Stream.ofChars, List.dropWhile_cons_of_neg (by simp [hblank])]
  simp [hslash, htoken]

/-- One round cuts off one written token. -/
theorem ofChars_of_isWritten {t : Token} {w : List Char} (h : t.IsWritten w) (rounds : Nat)
    (cs : List Char) :
    ∃ left, Stream.ofChars (rounds + 1) (w ++ cs) = .next t left (Stream.ofChars rounds cs) := by
  cases h with
  | text s =>
    have hwritten : quoteChars s ++ cs = '"' :: (s.toList.flatMap escapeChar ++ '"' :: cs) := by
      simp [quoteChars]
    have htoken : scanToken ('"' :: (s.toList.flatMap escapeChar ++ '"' :: cs)) = .ok (.text s, cs) := by
      simp [scanToken, scanText_escaped, bind, Except.bind, pure, Except.pure]
    rw [hwritten]
    exact ⟨_, ofChars_of_scanToken (by decide) (by decide) htoken rounds⟩
  | _ => exact ⟨_, rfl⟩

/-- What is written is cut into its tokens. -/
theorem holds_ofChars {ts : List Token} {cs : List Char} (h : AreWritten ts cs) {rounds : Nat}
    (hrounds : ts.length < rounds) : (Stream.ofChars rounds cs).Holds ts := by
  induction h generalizing rounds with
  | nil =>
    obtain ⟨rounds, rfl⟩ := Nat.exists_eq_add_of_lt hrounds
    exact .stop
  | cons htoken _ ih =>
    obtain ⟨rounds, rfl⟩ : ∃ n, rounds = n + 1 := ⟨rounds - 1, by omega⟩
    obtain ⟨left, hleft⟩ := ofChars_of_isWritten htoken rounds _
    rw [hleft]
    exact .next left (ih (by simpa using hrounds))

/-! ### Making a value of tokens -/

/-- **A value is read from its tokens**, and what is behind them is left. There have to be more levels than
tokens. -/
def IsRead (j : Json) : Prop :=
  ∀ {depth : Nat} {s : Stream} {ts : List Token}, (tokens j).length < depth → s.Holds (tokens j ++ ts) →
    ∃ t left rest behind, s = .next t left rest ∧ t ≠ .closeBracket ∧
      readValue depth t left rest = .ok (j.sorted, behind) ∧ behind.Holds ts

theorem readItems_next {t : Token} (ht : t ≠ .closeBracket) (depth opened : Nat) (found : List Json)
    (left : Nat) (rest : Stream) :
    readItems (depth + 1) opened found (.next t left rest) = (do
      let (value, rest) ← readValue depth t left rest
      readItems depth opened (value :: found) rest.dropComma) := by
  cases t <;> first | exact absurd rfl ht | rfl

/-- The items behind some others are read up to the closing bracket. -/
theorem readItems_of_holds {js : List Json} (hjs : ∀ j ∈ js, IsRead j) {depth opened : Nat}
    {found : List Json} {s : Stream} {ts : List Token} (hdepth : (itemTokens js).length ≤ depth)
    (hs : s.Holds (itemTokens js ++ ts)) :
    ∃ behind, readItems depth opened found s.dropComma =
      .ok (.array (found.reverse ++ js.map sorted), behind) ∧ behind.Holds ts := by
  induction js generalizing depth found s with
  | nil =>
    obtain ⟨depth, rfl⟩ := Nat.exists_eq_succ_of_ne_zero (Nat.ne_of_gt hdepth)
    cases hs with
    | next left hrest => exact ⟨_, by simp [Stream.dropComma, readItems, pure, Except.pure], hrest⟩
  | cons j js ih =>
    obtain ⟨hj, hjs⟩ := List.forall_mem_cons.mp hjs
    rw [itemTokens, List.length_cons, List.length_append] at hdepth
    obtain ⟨depth, rfl⟩ : ∃ n, depth = n + 1 := ⟨depth - 1, by omega⟩
    -- A closing bracket at least is still to come, which leaves a level for the item.
    have hpos : 0 < (itemTokens js).length := by cases js <;> simp [itemTokens]
    rw [itemTokens, List.cons_append, List.append_assoc] at hs
    cases hs with
    | next left hrest =>
      obtain ⟨t, left, rest, behind, rfl, ht, hread, hbehind⟩ := @hj depth _ _ (by omega) hrest
      obtain ⟨last, hlast, hholds⟩ := @ih hjs depth (j.sorted :: found) behind (by omega) hbehind
      refine ⟨last, ?_, hholds⟩
      rw [Stream.dropComma, readItems_next ht, hread]
      simpa [bind, Except.bind] using hlast

theorem readMembers_next (depth opened : Nat) (found : List (String × Json)) (name : String)
    (left colon start : Nat) (t : Token) (rest : Stream) :
    readMembers (depth + 1) opened found
        (.next (.text name) left (.next .colon colon (.next t start rest))) = (do
      let (value, rest) ← readValue depth t start rest
      readMembers depth opened ((name, value) :: found) rest.dropComma) := rfl

/-- The members behind some others are read up to the closing brace. -/
theorem readMembers_of_holds {ms : List (String × Json)} (hms : ∀ m ∈ ms, IsRead m.2)
    {depth opened : Nat} {found : List (String × Json)} {s : Stream} {ts : List Token}
    (hdepth : (memberTokens ms).length ≤ depth) (hs : s.Holds (memberTokens ms ++ ts)) :
    ∃ behind, readMembers depth opened found s.dropComma =
      .ok (ofMembers (found.reverse ++ sortedMembers ms), behind) ∧ behind.Holds ts := by
  induction ms generalizing depth found s with
  | nil =>
    obtain ⟨depth, rfl⟩ := Nat.exists_eq_succ_of_ne_zero (Nat.ne_of_gt hdepth)
    cases hs with
    | next left hrest =>
      exact ⟨_, by simp [Stream.dropComma, readMembers, sortedMembers, pure, Except.pure], hrest⟩
  | cons m ms ih =>
    obtain ⟨k, j⟩ := m
    obtain ⟨hj, hms⟩ := List.forall_mem_cons.mp hms
    change IsRead j at hj
    simp only [memberTokens, List.length_cons, List.length_append] at hdepth
    obtain ⟨depth, rfl⟩ : ∃ n, depth = n + 1 := ⟨depth - 1, by omega⟩
    simp only [memberTokens, List.cons_append, List.append_assoc] at hs
    -- The comma, the name and the colon.
    rcases hs with _ | ⟨left, _ | ⟨name, _ | ⟨colon, hrest⟩⟩⟩
    obtain ⟨t, left, rest, behind, rfl, -, hread, hbehind⟩ := @hj depth _ _ (by omega) hrest
    obtain ⟨last, hlast, hholds⟩ := @ih hms depth ((k, j.sorted) :: found) behind (by omega) hbehind
    refine ⟨last, ?_, hholds⟩
    rw [Stream.dropComma, readMembers_next, hread]
    simpa [bind, Except.bind, sortedMembers] using hlast

/-- The tokens `ys` are `xs` with a comma before them, which is left out before a closing token. -/
def IsLed (xs ys : List Token) : Prop :=
  ys = .comma :: xs ∨ ys = xs ∧ ∃ t, xs = [t] ∧ t ≠ .comma

/-- What starts a container is read as what follows behind a comma. -/
theorem IsLed.exists_dropComma_eq {xs ys ts : List Token} (h : IsLed xs ys) {s : Stream}
    (hs : s.Holds (xs ++ ts)) : ∃ q : Stream, q.dropComma = s ∧ q.Holds (ys ++ ts) := by
  rcases h with rfl | ⟨rfl, t, rfl, ht⟩
  · exact ⟨.next .comma 0 s, rfl, .next 0 hs⟩
  · refine ⟨s, ?_, hs⟩
    cases hs
    cases t <;> first | exact absurd rfl ht | rfl

theorem IsLed.length_le {xs ys : List Token} (h : IsLed xs ys) : ys.length ≤ xs.length + 1 := by
  rcases h with rfl | ⟨rfl, -⟩ <;> simp

theorem exists_tokens_array (items : List Json) :
    ∃ xs, tokens (.array items) = .openBracket :: xs ∧ IsLed xs (itemTokens items) := by
  cases items with
  | nil => exact ⟨_, rfl, Or.inr ⟨rfl, _, rfl, by simp⟩⟩
  | cons j js => exact ⟨_, rfl, Or.inl rfl⟩

theorem exists_tokens_object (members : List (String × Json)) :
    ∃ xs, tokens (.object members) = .openBrace :: xs ∧ IsLed xs (memberTokens members) := by
  cases members with
  | nil => exact ⟨_, rfl, Or.inr ⟨rfl, _, rfl, by simp⟩⟩
  | cons m ms => exact ⟨_, rfl, Or.inl rfl⟩

theorem isRead_array {items : List Json} (h : ∀ j ∈ items, IsRead j) : IsRead (.array items) := by
  intro depth s ts hdepth hs
  obtain ⟨depth, rfl⟩ : ∃ n, depth = n + 1 := ⟨depth - 1, by omega⟩
  obtain ⟨xs, hxs, hled⟩ := exists_tokens_array items
  have hlength := hled.length_le
  rw [hxs, List.length_cons] at hdepth
  rw [hxs] at hs
  rcases hs with _ | ⟨left, hrest⟩
  obtain ⟨q, rfl, hq⟩ := hled.exists_dropComma_eq hrest
  obtain ⟨behind, hread, hbehind⟩ := @readItems_of_holds items h depth left [] q ts (by omega) hq
  refine ⟨_, _, _, behind, rfl, by simp, ?_, hbehind⟩
  rw [readValue, hread, sorted, sortedItems_eq_map]
  rfl

theorem isRead_object {members : List (String × Json)} (h : ∀ m ∈ members, IsRead m.2) :
    IsRead (.object members) := by
  intro depth s ts hdepth hs
  obtain ⟨depth, rfl⟩ : ∃ n, depth = n + 1 := ⟨depth - 1, by omega⟩
  obtain ⟨xs, hxs, hled⟩ := exists_tokens_object members
  have hlength := hled.length_le
  rw [hxs, List.length_cons] at hdepth
  rw [hxs] at hs
  rcases hs with _ | ⟨left, hrest⟩
  obtain ⟨q, rfl, hq⟩ := hled.exists_dropComma_eq hrest
  obtain ⟨behind, hread, hbehind⟩ := @readMembers_of_holds members h depth left [] q ts (by omega) hq
  refine ⟨_, _, _, behind, rfl, by simp, ?_, hbehind⟩
  rw [readValue, hread, sorted]
  rfl

/-- **Every value is read from its tokens.** -/
theorem isRead_of_isTextual {j : Json} (h : j.IsTextual) : IsRead j := by
  induction h with
  | text s =>
    intro depth stream ts hdepth hs
    obtain ⟨depth, rfl⟩ : ∃ n, depth = n + 1 := ⟨depth - 1, by omega⟩
    cases hs with
    | next left hrest => exact ⟨_, _, _, _, rfl, by simp, rfl, hrest⟩
  | array _ ih => exact isRead_array ih
  | object _ ih => exact isRead_object ih

/-- **What is written is read**, with the members of the objects in order. -/
theorem read_compact {j : Json} (h : j.IsTextual) : read j.compact = .ok (some j.sorted) := by
  have hwritten := areWritten_tokens h
  have hlength := hwritten.length_le
  have hholds : (Stream.ofText (compactChars j)).Holds (tokens j ++ []) := by
    rw [List.append_nil]
    exact holds_ofChars hwritten (by omega)
  obtain ⟨t, left, rest, behind, hstream, -, hread, hbehind⟩ :=
    @isRead_of_isTextual j h (2 * (compactChars j).length + 2) _ [] (by omega) hholds
  have hchars : readChars (compactChars j) = .ok (some j.sorted) := by
    unfold readChars
    rw [hstream]
    simp only [hread, bind, Except.bind]
    -- No token is left behind the value.
    cases hbehind
    rfl
  rw [read, compact, String.toList_ofList, hchars]

end Commented
end LintLedger.Json
