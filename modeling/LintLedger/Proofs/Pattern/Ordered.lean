import LintLedger.Pattern
import LintLedger.Proofs.Json.Decode
import LintLedger.Proofs.Pattern.Matcher

/-!
# Patterns are in order

The matcher is right about expressions in which the bounds of every repetition are in order
(`LintLedger.Pattern.Regex.occursIn_iff`). The reader sees to that: `?`, `*` and `+` have such bounds, and
counts that descend are a fault of the pattern (`LintLedger.Pattern.Reader.ordered_of_readCounts`). Nothing
else that it reads is a repetition, and giving an expression its meaning changes no bounds
(`LintLedger.Pattern.Expr.IsOrdered.meaning`).

So a pattern that has been read occurs in a text for the matcher exactly if what it means covers some stretch
of it, without any condition (`LintLedger.Pattern.occursIn_iff`).
-/

namespace LintLedger.Pattern

open LintLedger.Unicode (CodeSet)
open Json.Decode (bind_eq_ok_iff pure_eq_ok_iff throw_ne_ok)

/-! ### Expressions and their meaning -/

/-- The bounds of every repetition are in order. -/
def Expr.IsOrdered : Expr → Prop
  | .repetition e least most => e.IsOrdered ∧ ∀ bound ∈ most, least ≤ bound
  | .group e _ _ => e.IsOrdered
  | .concat a b | .alternation a b => a.IsOrdered ∧ b.IsOrdered
  | .empty | .setFlags _ | .literal _ | .dot | .anchor _ | .shorthand .. | .property .. | .brackets .. => True

theorem Expr.isOrdered_ofItems {es : List Expr} (h : ∀ e ∈ es, e.IsOrdered) : (Expr.ofItems es).IsOrdered := by
  induction es with
  | nil => trivial
  | cons e es ih =>
    obtain ⟨he, hes⟩ := List.forall_mem_cons.mp h
    cases es with
    | nil => exact he
    | cons d es => exact ⟨he, ih hes⟩

theorem Expr.isOrdered_ofBranches {es : List Expr} (h : ∀ e ∈ es, e.IsOrdered) :
    (Expr.ofBranches es).IsOrdered := by
  induction es with
  | nil => trivial
  | cons e es ih =>
    obtain ⟨he, hes⟩ := List.forall_mem_cons.mp h
    cases es with
    | nil => exact he
    | cons d es => exact ⟨he, ih hes⟩

/-- What an expression means is in order if it is. -/
theorem Expr.IsOrdered.meaning {e : Expr} (he : e.IsOrdered) {f f' : Flags} {r : Regex CodeSet Guard}
    (h : e.meaning f = .ok (r, f')) : r.IsOrdered := by
  induction e generalizing f f' r with
  | repetition e least most ih =>
    rw [Expr.meaning, bind_eq_ok_iff] at h
    obtain ⟨⟨s, g⟩, hs, hr⟩ := h
    obtain ⟨rfl, -⟩ := Prod.mk.inj (Except.ok.inj hr)
    exact ⟨ih he.1 hs, he.2⟩
  | group e captures settings ih =>
    rw [Expr.meaning, bind_eq_ok_iff] at h
    obtain ⟨⟨s, g⟩, hs, hr⟩ := h
    obtain ⟨rfl, -⟩ := Prod.mk.inj (Except.ok.inj hr)
    have hbody : s.IsOrdered := ih he hs
    exact hbody
  | concat a b iha ihb | alternation a b iha ihb =>
    rw [Expr.meaning, bind_eq_ok_iff] at h
    obtain ⟨⟨s, g⟩, hs, h⟩ := h
    obtain ⟨⟨t, g'⟩, ht, hr⟩ := bind_eq_ok_iff.mp h
    obtain ⟨rfl, -⟩ := Prod.mk.inj (Except.ok.inj hr)
    exact ⟨iha he.1 hs, ihb he.2 ht⟩
  | empty | setFlags settings | anchor a =>
    obtain ⟨rfl, -⟩ := Prod.mk.inj (Except.ok.inj h)
    trivial
  | literal l | dot | shorthand kind negated | property query negated =>
    rw [Expr.meaning, bind_eq_ok_iff] at h
    obtain ⟨s, -, hr⟩ := h
    obtain ⟨rfl, -⟩ := Prod.mk.inj (Except.ok.inj hr)
    trivial
  | brackets set negated =>
    rw [Expr.meaning, bind_eq_ok_iff] at h
    obtain ⟨s, -, h⟩ := h
    obtain ⟨t, -, hr⟩ := bind_eq_ok_iff.mp h
    obtain ⟨rfl, -⟩ := Prod.mk.inj (Except.ok.inj hr)
    trivial

/-! ### Readers -/

namespace Reader

theorem fail_ne_ok {α : Type} {cause : Cause} {start stop : List Char} {a : α} :
    fail cause start stop ≠ .ok a := by
  intro h
  cases h

theorem failAt_ne_ok {α : Type} {cause : Cause} {rest : List Char} {a : α} : failAt cause rest ≠ .ok a :=
  fail_ne_ok

theorem failOn_ne_ok {α : Type} {cause : Cause} {rest : List Char} {a : α} : failOn cause rest ≠ .ok a := by
  intro h
  cases h

variable {e : Expr} {verbose : Bool} {cs rest : List Char}

theorem isOrdered_of_pure {a : Expr} {stop : List Char}
    (h : (pure (a, stop) : Except Fault (Expr × List Char)) = .ok (e, rest)) (ha : a.IsOrdered) :
    e.IsOrdered := by
  obtain ⟨rfl, -⟩ := Prod.mk.inj (Except.ok.inj h)
  exact ha

theorem isOrdered_of_readProperty {negated : Bool} (h : readProperty verbose negated cs = .ok (e, rest)) :
    e.IsOrdered := by
  rw [readProperty.eq_def] at h
  split at h
  · simp only at h
    split at h
    · exact isOrdered_of_pure h trivial
    · cases h
  · cases h
  · exact isOrdered_of_pure h trivial
  · cases h

theorem isOrdered_of_readWordEdge {start : List Char} (h : readWordEdge verbose start cs = .ok (e, rest)) :
    e.IsOrdered := by
  rw [readWordEdge.eq_def] at h
  simp only at h
  split at h
  · split at h
    · cases h
    · split at h
      · split at h
        · exact isOrdered_of_pure h trivial
        · cases h
        · cases h
      · exact isOrdered_of_pure h trivial
  · exact isOrdered_of_pure h trivial

/-- An escape is no repetition, whatever it is. -/
theorem isOrdered_of_readEscape (h : readEscape verbose cs = .ok (e, rest)) : e.IsOrdered := by
  rw [readEscape.eq_def] at h
  split at h
  · cases h
  · simp only at h
    split at h
    -- Code points, properties, word edges and what a backslash makes literal; all others are one leaf each.
    case h_1 | h_2 | h_3 =>
      obtain ⟨⟨l, stop⟩, -, h⟩ := bind_eq_ok_iff.mp h
      exact isOrdered_of_pure h trivial
    case h_4 | h_5 => exact isOrdered_of_readProperty h
    case h_20 => exact isOrdered_of_readWordEdge h
    case h_24 =>
      split at h
      · exact isOrdered_of_pure h trivial
      · cases h
    all_goals exact isOrdered_of_pure h trivial

theorem isOrdered_of_repeatLast {here : List Char} {least : ℕ} {most : Option ℕ} {items items' : List Expr}
    (hitems : ∀ e ∈ items, e.IsOrdered) (hbounds : ∀ bound ∈ most, least ≤ bound)
    (h : repeatLast here least most items = .ok items') : ∀ e ∈ items', e.IsOrdered := by
  rw [repeatLast.eq_def] at h
  split at h
  · cases h
  · cases h
  · cases h
  · obtain rfl := Except.ok.inj h
    obtain ⟨he, hes⟩ := List.forall_mem_cons.mp hitems
    exact List.forall_mem_cons.mpr ⟨⟨he, hbounds⟩, hes⟩

/-- Nothing follows a failure. -/
theorem bind_fail_ne_ok {α β : Type} {cause : Cause} {start stop : List Char} {f : α → Except Fault β} {b : β} :
    (fail cause start stop >>= f) ≠ .ok b := by
  intro h
  obtain ⟨a, ha, -⟩ := bind_eq_ok_iff.mp h
  exact fail_ne_ok ha

/-- What is looked at last are the bounds. -/
theorem ordered_of_bounds {range found : ℕ × Option ℕ} {start behind : List Char}
    (h : (if range.2.any (· < range.1) then do
        fail .countsDescend start behind
        pure (range, behind)
      else pure (range, behind) : Except Fault ((ℕ × Option ℕ) × List Char)) = .ok (found, rest)) :
    ∀ bound ∈ found.2, found.1 ≤ bound := by
  split at h
  · exact absurd h bind_fail_ne_ok
  · next hbounds =>
    obtain ⟨rfl, -⟩ := Prod.mk.inj (Except.ok.inj h)
    rintro bound hbound
    rw [Option.mem_def.mp hbound] at hbounds
    simpa using hbounds

/-- **Counts are in order**, whichever of their forms is written. -/
theorem ordered_of_readCounts {start : List Char} {found : ℕ × Option ℕ}
    (h : readCounts verbose start cs = .ok (found, rest)) : ∀ bound ∈ found.2, found.1 ≤ bound := by
  rw [readCounts.eq_def] at h
  simp only at h
  split at h
  · exact absurd h bind_fail_ne_ok
  · split at h
    · exact absurd h bind_fail_ne_ok
    · split at h
      · exact absurd h bind_fail_ne_ok
      · obtain ⟨least, -, h⟩ := bind_eq_ok_iff.mp h
        obtain ⟨x, -, h⟩ := bind_eq_ok_iff.mp h
        split at h
        · exact ordered_of_bounds h
        · exact absurd h fail_ne_ok
      · obtain ⟨least, -, h⟩ := bind_eq_ok_iff.mp h
        obtain ⟨most, -, h⟩ := bind_eq_ok_iff.mp h
        obtain ⟨x, -, h⟩ := bind_eq_ok_iff.mp h
        split at h
        · exact ordered_of_bounds h
        · exact absurd h fail_ne_ok
    · obtain ⟨least, -, h⟩ := bind_eq_ok_iff.mp h
      obtain ⟨x, -, h⟩ := bind_eq_ok_iff.mp h
      split at h
      · exact ordered_of_bounds h
      · exact absurd h fail_ne_ok

theorem isOrdered_of_readBrackets (h : readBrackets verbose cs = .ok (e, rest)) : e.IsOrdered := by
  rw [readBrackets] at h
  obtain ⟨start, -, h⟩ := bind_eq_ok_iff.mp h
  obtain ⟨set, -, h⟩ := bind_eq_ok_iff.mp h
  exact isOrdered_of_pure h trivial

theorem isOrdered_closeBranches {branches items : List Expr} (hbranches : ∀ e ∈ branches, e.IsOrdered)
    (hitems : ∀ e ∈ items, e.IsOrdered) : (closeBranches branches items).IsOrdered := by
  have hlast : (Expr.ofItems items.reverse).IsOrdered :=
    Expr.isOrdered_ofItems fun e he => hitems e (List.mem_reverse.mp he)
  refine Expr.isOrdered_ofBranches fun e he => ?_
  rcases List.mem_cons.mp (List.mem_reverse.mp he) with rfl | he
  · exact hlast
  · exact hbranches e he

/-- **What a group holds is in order.** The induction is on the rounds of the loop over its items; what has
been read so far is in order. -/
theorem isOrdered_of_readGroup {rounds : ℕ} {opened : Option Stretch} {taken taken' : List Name}
    {branches items : List Expr} (hbranches : ∀ e ∈ branches, e.IsOrdered) (hitems : ∀ e ∈ items, e.IsOrdered)
    (h : readGroup rounds opened verbose taken branches items cs = .ok (e, taken', rest)) : e.IsOrdered := by
  induction rounds generalizing opened verbose taken taken' branches items cs e rest with
  | zero => exact absurd h failAt_ne_ok
  | succ rounds ih =>
    have hnone : ∀ e ∈ ([] : List Expr), e.IsOrdered := fun _ he => absurd he List.not_mem_nil
    have hnext : ∀ {x : Expr} {verbose : Bool} {names : List Name} {cs : List Char},
        readGroup rounds opened verbose names branches (x :: items) cs = .ok (e, taken', rest) →
          x.IsOrdered → e.IsOrdered :=
      fun h hx => ih hbranches (List.forall_mem_cons.mpr ⟨hx, hitems⟩) h
    rw [readGroup.eq_def] at h
    simp only at h
    split at h
    -- The end of the text.
    case h_1 =>
      cases opened with
      | some place => cases h
      | none =>
        obtain ⟨rfl, -⟩ := Prod.mk.inj (Except.ok.inj h)
        exact isOrdered_closeBranches hbranches hitems
    -- An opening parenthesis: flags, or a group inside.
    case h_2 =>
      obtain ⟨⟨opening, stop⟩, -, h⟩ := bind_eq_ok_iff.mp h
      cases opening with
      | settings fs => exact hnext h trivial
      | group captures fs =>
        obtain ⟨⟨inner, names, stop⟩, hinner, h⟩ := bind_eq_ok_iff.mp h
        have hbody : inner.IsOrdered := ih hnone hnone hinner
        exact hnext h hbody
      | named name =>
        obtain ⟨⟨inner, names, stop⟩, hinner, h⟩ := bind_eq_ok_iff.mp h
        have hbody : inner.IsOrdered := ih hnone hnone hinner
        exact hnext h hbody
    -- A closing parenthesis, and the next branch.
    case h_3 =>
      split at h
      · obtain ⟨rfl, -⟩ := Prod.mk.inj (Except.ok.inj h)
        exact isOrdered_closeBranches hbranches hitems
      · exact absurd h failOn_ne_ok
    case h_4 =>
      have hbranch : (Expr.ofItems items.reverse).IsOrdered :=
        Expr.isOrdered_ofItems fun e he => hitems e (List.mem_reverse.mp he)
      exact ih (List.forall_mem_cons.mpr ⟨hbranch, hbranches⟩) hnone h
    case h_5 =>
      obtain ⟨⟨x, stop⟩, hx, h⟩ := bind_eq_ok_iff.mp h
      exact hnext h (isOrdered_of_readBrackets hx)
    -- The repetitions `?`, `*`, `+` and those with counts.
    case h_6 =>
      obtain ⟨items', hitems', h⟩ := bind_eq_ok_iff.mp h
      refine ih hbranches (isOrdered_of_repeatLast hitems ?_ hitems') h
      exact fun bound _ => Nat.zero_le bound
    case h_7 | h_8 =>
      obtain ⟨items', hitems', h⟩ := bind_eq_ok_iff.mp h
      refine ih hbranches (isOrdered_of_repeatLast hitems ?_ hitems') h
      rintro bound ⟨⟩
    case h_9 =>
      obtain ⟨_, -, h⟩ := bind_eq_ok_iff.mp h
      obtain ⟨⟨found, stop⟩, hfound, h⟩ := bind_eq_ok_iff.mp h
      obtain ⟨items', hitems', h⟩ := bind_eq_ok_iff.mp h
      exact ih hbranches (isOrdered_of_repeatLast hitems (ordered_of_readCounts hfound) hitems') h
    case h_10 =>
      obtain ⟨⟨x, stop⟩, hx, h⟩ := bind_eq_ok_iff.mp h
      exact hnext h (isOrdered_of_readEscape hx)
    case h_11 | h_12 | h_13 | h_14 => exact hnext h trivial

end Reader

/-- **A pattern that is read is in order.** -/
theorem isOrdered_of_compile {source : String} {p : Pattern} (h : compile source = .ok p) :
    p.regex.IsOrdered := by
  rw [compile] at h
  obtain ⟨e, hread, h⟩ := bind_eq_ok_iff.mp h
  rw [Expr.read] at hread
  obtain ⟨⟨e', taken, rest⟩, hgroup, hread⟩ := bind_eq_ok_iff.mp hread
  have hordered : e'.IsOrdered :=
    Reader.isOrdered_of_readGroup (fun _ he => absurd he List.not_mem_nil)
      (fun _ he => absurd he List.not_mem_nil) hgroup
  simp only at hread
  split at hread
  · obtain rfl := Except.ok.inj hread
    split at h
    · next r f hmeaning =>
      split at h
      · obtain rfl := Except.ok.inj h
        exact hordered.meaning hmeaning
      · cases h
    · cases h
  · exact absurd hread Reader.fail_ne_ok

/-- **What it is that a pattern occurs**: what it means covers some stretch of the text. -/
theorem occursIn_iff {source : String} {p : Pattern} (h : compile source = .ok p) (text : String) :
    p.occursIn text = true ↔ p.regex.Occurs text.toList :=
  Regex.occursIn_iff (isOrdered_of_compile h) text.toList

end LintLedger.Pattern
