import LintLedger.Pattern.Matcher
import Mathlib.Data.Nat.Bitwise

/-!
# The matcher finds what expressions cover

The matcher of `LintLedger.Pattern.Matcher` computes with sets of places, held as the bits of a number, and
never looks at a stretch of the text; `LintLedger.Pattern.Regex.Matches` tells the stretches that an
expression covers, and knows no sets. They come to the same: started from the places of a set, the matcher
ends at the places to which the expression covers a stretch from one of them
(`LintLedger.Pattern.Regex.realizes_ends`), and so an expression occurs in a text for the matcher exactly if
it covers some stretch of it (`LintLedger.Pattern.Regex.occursIn_iff`).

Two things about repetitions need an argument. The matcher steps on from *fresh* places only, those that it
has reached in the last round: from every other place it has stepped already, and this invariant is what a
round keeps (`LintLedger.Pattern.IsFrontier.next`). And it stops after one round more than the text has
characters, though a repetition without a bound has none: a copy that covers nothing can be left out, and
every other one moves on (`LintLedger.Pattern.Copies.exists_le`).

The bounds of a repetition have to be in order (`LintLedger.Pattern.Regex.IsOrdered`): with more copies needed
than allowed an expression covers nothing, but the matcher makes the copies that are needed.
-/

namespace LintLedger.Pattern

open LintLedger.Unicode (CodeSet)

/-! ### Sets of places -/

namespace Places

@[simp] theorem testBit_push_zero (present : Bool) (ps : Places) :
    (push present ps).testBit 0 = present := by
  cases present <;> simp [push]

@[simp] theorem testBit_push_succ (present : Bool) (ps : Places) (i : ℕ) :
    (push present ps).testBit (i + 1) = ps.testBit i := by
  have hhalf : push present ps / 2 = ps := by
    rw [push, Nat.mul_add_div Nat.two_pos, Nat.div_eq_of_lt present.toNat_lt, Nat.add_zero]
  rw [Nat.testBit_succ, hhalf]

/-- The places of a set of characters are those in front of its members. -/
theorem testBit_ofSet {s : CodeSet} {text : List Char} {i : ℕ} :
    (ofSet s text).testBit i = true ↔ ∃ c, text[i]? = some c ∧ s.has c = true := by
  induction text generalizing i with
  | nil => simp [ofSet]
  | cons c cs ih =>
    rw [ofSet]
    cases i with
    | zero =>
      rw [testBit_push_zero, List.getElem?_cons_zero]
      simp only [Option.some.injEq, exists_eq_left']
    | succ i => rw [testBit_push_succ, ih, List.getElem?_cons_succ]

/-- The places of a condition are those where it holds between the neighbours. -/
theorem testBit_ofGuard {g : Guard} {before : Option Char} {text : List Char} {i : ℕ} :
    (ofGuard g before text).testBit i = true ↔
      i ≤ text.length ∧ g.holds (if i = 0 then before else text[i - 1]?) text[i]? = true := by
  induction text generalizing before i with
  | nil =>
    have hpush : ofGuard g before [] = push (g.holds before none) 0 := (Nat.zero_add _).symm
    rw [hpush]
    cases i with
    | zero =>
      rw [testBit_push_zero]
      simp only [List.length_nil, le_refl, if_true, List.getElem?_nil, true_and]
    | succ i =>
      rw [testBit_push_succ]
      simp
  | cons c cs ih =>
    rw [ofGuard]
    cases i with
    | zero =>
      rw [testBit_push_zero]
      simp only [Nat.zero_le, if_true, List.getElem?_cons_zero, true_and]
    | succ i =>
      rw [testBit_push_succ, ih]
      cases i <;> simp

theorem testBit_all {length i : ℕ} : (all length).testBit i = true ↔ i ≤ length := by
  rw [all, Nat.one_shiftLeft, Nat.testBit_two_pow_sub_one, decide_eq_true_iff, Nat.lt_succ_iff]

theorem ne_zero_iff {ps : Places} : ps ≠ 0 ↔ ∃ i, ps.testBit i = true := by
  refine ⟨Nat.exists_testBit_of_ne_zero, ?_⟩
  rintro ⟨i, hi⟩ rfl
  simp at hi

end Places

/-! ### Copies of an expression -/

/-- The bounds of every repetition are in order. -/
def Regex.IsOrdered {σ γ : Type} : Regex σ γ → Prop
  | .empty | .step _ | .guard _ => True
  | .group _ a => a.IsOrdered
  | .concat a b | .alternation a b => a.IsOrdered ∧ b.IsOrdered
  | .repetition a least most => a.IsOrdered ∧ ∀ bound ∈ most, least ≤ bound

variable {text : List Char} {a : Regex CodeSet Guard}

/-- A stretch goes forwards, and stays in the text. -/
theorem Regex.Matches.bounds {r : Regex CodeSet Guard} {i j : ℕ} (h : r.Matches text i j) :
    i ≤ j ∧ j ≤ text.length := by
  induction h with
  | empty h => exact ⟨le_rfl, h⟩
  | @step s i c hc hs =>
    obtain ⟨hi, -⟩ := List.getElem?_eq_some_iff.mp hc
    exact ⟨Nat.le_succ i, hi⟩
  | guard hi hg => exact ⟨le_rfl, hi⟩
  | group h ih => exact ih
  | concat ha hb iha ihb => exact ⟨iha.1.trans ihb.1, ihb.2⟩
  | left h ih => exact ih
  | right h ih => exact ih
  | stop h => exact ⟨le_rfl, h⟩
  | again hmost ha hr iha ihr => exact ⟨iha.1.trans ihr.1, ihr.2⟩

/-- **So many copies** of the expression, one after the other, cover the stretch. -/
inductive Copies (text : List Char) (a : Regex CodeSet Guard) : ℕ → ℕ → ℕ → Prop where
  /-- No copy covers nothing. -/
  | none {i : ℕ} (h : i ≤ text.length) : Copies text a 0 i i
  /-- A copy more stands in front. -/
  | more {n i j k : ℕ} (first : a.Matches text i j) (rest : Copies text a n j k) :
      Copies text a (n + 1) i k

theorem copies_zero_iff {i j : ℕ} : Copies text a 0 i j ↔ i = j ∧ i ≤ text.length := by
  constructor
  · rintro ⟨⟩
    exact ⟨rfl, by assumption⟩
  · rintro ⟨rfl, hi⟩
    exact .none hi

theorem copies_succ_iff {n i k : ℕ} :
    Copies text a (n + 1) i k ↔ ∃ j, a.Matches text i j ∧ Copies text a n j k := by
  constructor
  · rintro ⟨⟩
    exact ⟨_, by assumption, by assumption⟩
  · rintro ⟨j, hfirst, hrest⟩
    exact .more hfirst hrest

theorem Copies.bounds {n i j : ℕ} (h : Copies text a n i j) : i ≤ j ∧ j ≤ text.length := by
  induction h with
  | none h => exact ⟨le_rfl, h⟩
  | more first rest ih => exact ⟨first.bounds.1.trans ih.1, ih.2⟩

/-- Copies behind copies. -/
theorem copies_add_iff {m n i k : ℕ} :
    Copies text a (m + n) i k ↔ ∃ j, Copies text a m i j ∧ Copies text a n j k := by
  induction m generalizing i with
  | zero =>
    rw [Nat.zero_add]
    constructor
    · intro h
      exact ⟨i, .none (h.bounds.1.trans h.bounds.2), h⟩
    · rintro ⟨j, hzero, h⟩
      obtain ⟨rfl, -⟩ := copies_zero_iff.mp hzero
      exact h
  | succ m ih =>
    rw [Nat.succ_add, copies_succ_iff]
    simp only [ih, copies_succ_iff]
    constructor
    · rintro ⟨j, hfirst, l, hm, hn⟩
      exact ⟨l, ⟨j, hfirst, hm⟩, hn⟩
    · rintro ⟨l, ⟨j, hfirst, hm⟩, hn⟩
      exact ⟨j, hfirst, l, hm, hn⟩

/-- **Copies that cover nothing can be left out**, so that no more are needed than there are characters. -/
theorem Copies.exists_le {n i k : ℕ} (h : Copies text a n i k) :
    ∃ m ≤ k - i, Copies text a m i k := by
  induction h with
  | none h => exact ⟨0, Nat.zero_le _, .none h⟩
  | @more n i j k first rest ih =>
    obtain ⟨m, hm, hcopies⟩ := ih
    have hij : i ≤ j := first.bounds.1
    have hjk : j ≤ k := rest.bounds.1
    rcases Nat.eq_or_lt_of_le hij with rfl | hlt
    · -- The first copy covers nothing, and is left out.
      exact ⟨m, hm, hcopies⟩
    · exact ⟨m + 1, by omega, .more first hcopies⟩

/-- **A repetition covers what a number of copies within its bounds covers.** -/
theorem matches_repetition_iff {least : ℕ} {most : Option ℕ} {i k : ℕ} :
    (Regex.repetition a least most).Matches text i k ↔
      ∃ n, least ≤ n ∧ (∀ bound ∈ most, n ≤ bound) ∧ Copies text a n i k := by
  constructor
  · intro h
    generalize hr : Regex.repetition a least most = r at h
    induction h generalizing least most with
    | stop hi =>
      obtain ⟨rfl, rfl, rfl⟩ := Regex.repetition.inj hr
      exact ⟨0, le_rfl, fun bound _ => Nat.zero_le bound, .none hi⟩
    | again hmost hfirst _ _ ih =>
      obtain ⟨rfl, rfl, rfl⟩ := Regex.repetition.inj hr
      obtain ⟨n, hleast, hbound, hcopies⟩ := ih rfl
      refine ⟨n + 1, by omega, fun bound hb => ?_, .more hfirst hcopies⟩
      have hpos : bound ≠ 0 := by
        rintro rfl
        exact hmost hb
      have hn : n ≤ bound - 1 := hbound _ (Option.mem_map_of_mem (· - 1) hb)
      omega
    | _ => cases hr
  · rintro ⟨n, hleast, hbound, hcopies⟩
    induction hcopies generalizing least most with
    | none hi =>
      obtain rfl : least = 0 := Nat.le_zero.mp hleast
      exact .stop hi
    | @more n i j k first rest ih =>
      refine .again ?_ first (ih (by omega) fun bound hb => ?_)
      · rintro rfl
        exact absurd (hbound 0 rfl) (by omega)
      · obtain ⟨upper, hupper, rfl⟩ := Option.mem_map.mp hb
        have hn : n + 1 ≤ upper := hbound upper hupper
        omega

/-- The copies within the bounds are those that are needed and then some more; where there is no bound, as
many more are enough as the matcher makes rounds. -/
theorem matches_repetition_iff_more {least : ℕ} {most : Option ℕ} (hbounds : ∀ bound ∈ most, least ≤ bound)
    {i k : ℕ} :
    (Regex.repetition a least most).Matches text i k ↔
      ∃ j, Copies text a least i j ∧
        ∃ m ≤ most.elim (text.length + 1) (· - least), Copies text a m j k := by
  rw [matches_repetition_iff]
  constructor
  · rintro ⟨n, hleast, hmost, hcopies⟩
    obtain ⟨m, rfl⟩ := Nat.exists_eq_add_of_le hleast
    obtain ⟨j, hneeded, hmore⟩ := copies_add_iff.mp hcopies
    cases most with
    | some bound =>
      have hbound : least + m ≤ bound := hmost bound rfl
      exact ⟨j, hneeded, m, Nat.le_sub_of_add_le' hbound, hmore⟩
    | none =>
      -- The matcher stops after its rounds, which are more than the places that copies can move over.
      obtain ⟨m', hm', hfewer⟩ := hmore.exists_le
      have hend : k ≤ text.length := hmore.bounds.2
      have hrounds : m' ≤ text.length + 1 := by omega
      exact ⟨j, hneeded, m', hrounds, hfewer⟩
  · rintro ⟨j, hneeded, m, hm, hmore⟩
    refine ⟨least + m, Nat.le_add_right least m, ?_, copies_add_iff.mpr ⟨j, hneeded, hmore⟩⟩
    rintro bound rfl
    have hbound : least ≤ bound := hbounds bound rfl
    have hm' : m ≤ bound - least := hm
    omega

/-! ### From sets of places to sets of places -/

/-- All the places are places of the text. -/
def Within (text : List Char) (ps : Places) : Prop := ∀ i, ps.testBit i = true → i ≤ text.length

/-- The function goes from the places of a set **to the ends of the stretches** that start in it. -/
def Realizes (text : List Char) (step : Places → Places) (covers : ℕ → ℕ → Prop) : Prop :=
  ∀ ps, Within text ps → ∀ j, (step ps).testBit j = true ↔ ∃ i, ps.testBit i = true ∧ covers i j

section Steps

variable {step : Places → Places} {ps reached fresh : Places}

theorem Places.power_of_fixed (h : step ps = ps) (n : ℕ) : Places.power step n ps = ps := by
  cases n with
  | zero => rfl
  | succ n => exact if_pos h

/-- Stopping where a step changes nothing makes no difference. -/
theorem Places.power_succ (step : Places → Places) (n : ℕ) (ps : Places) :
    Places.power step (n + 1) ps = Places.power step n (step ps) := by
  by_cases h : step ps = ps
  · rw [h, Places.power_of_fixed h, Places.power_of_fixed h]
  · exact if_neg h

theorem Realizes.within (h : Realizes text step (a.Matches text)) (hps : Within text ps) :
    Within text (step ps) := by
  intro j hj
  obtain ⟨i, -, hij⟩ := (h ps hps j).mp hj
  exact hij.bounds.2

/-- **Stepping a number of times goes over so many copies.** -/
theorem Realizes.power (h : Realizes text step (a.Matches text)) (n : ℕ) :
    Realizes text (Places.power step n) (Copies text a n) := by
  induction n with
  | zero =>
    intro ps hps j
    constructor
    · intro hj
      exact ⟨j, hj, .none (hps j hj)⟩
    · rintro ⟨i, hi, hcopies⟩
      obtain ⟨rfl, -⟩ := copies_zero_iff.mp hcopies
      exact hi
  | succ n ih =>
    intro ps hps j
    rw [Places.power_succ, ih (step ps) (h.within hps)]
    constructor
    · rintro ⟨l, hl, hrest⟩
      obtain ⟨i, hi, hfirst⟩ := (h ps hps l).mp hl
      exact ⟨i, hi, .more hfirst hrest⟩
    · rintro ⟨i, hi, hcopies⟩
      obtain ⟨l, hfirst, hrest⟩ := copies_succ_iff.mp hcopies
      exact ⟨l, (h ps hps l).mpr ⟨i, hi, hfirst⟩, hrest⟩

/-- From a set that the expression does not lead out of, no number of copies leads out. -/
theorem Copies.testBit (hclosed : ∀ i j, ps.testBit i = true → a.Matches text i j → ps.testBit j = true)
    {n i j : ℕ} (h : Copies text a n i j) (hi : ps.testBit i = true) : ps.testBit j = true := by
  induction h with
  | none _ => exact hi
  | more first rest ih => exact ih (hclosed _ _ hi first)

/-- **Which places the matcher may forget**: every reached place that is not fresh has been stepped from, so
that what it leads to has been reached as well. -/
structure IsFrontier (text : List Char) (a : Regex CodeSet Guard) (reached fresh : Places) : Prop where
  /-- The places are places of the text. -/
  within : Within text reached
  /-- Fresh places have been reached. -/
  subset : ∀ i, fresh.testBit i = true → reached.testBit i = true
  /-- The others have been stepped from. -/
  stepped : ∀ i j, reached.testBit i = true → fresh.testBit i = false → a.Matches text i j →
    reached.testBit j = true

namespace IsFrontier

theorem testBit_next {i : ℕ} :
    (step fresh ||| reached).testBit i = true ↔
      (step fresh).testBit i = true ∨ reached.testBit i = true := by
  rw [Nat.testBit_or, Bool.or_eq_true]

theorem testBit_new {i : ℕ} :
    ((step fresh ||| reached) ^^^ reached).testBit i = true ↔
      (step fresh).testBit i = true ∧ reached.testBit i = false := by
  rw [Nat.testBit_xor, Nat.testBit_or]
  cases (step fresh).testBit i <;> cases reached.testBit i <;> simp

/-- What a fresh place leads to is where a step from the fresh places ends. -/
theorem testBit_step (h : Realizes text step (a.Matches text)) (hf : IsFrontier text a reached fresh)
    {j : ℕ} : (step fresh).testBit j = true ↔ ∃ i, fresh.testBit i = true ∧ a.Matches text i j :=
  h fresh (fun i hi => hf.within i (hf.subset i hi)) j

/-- After a step from the fresh places, whatever the reached places lead to has been reached. -/
theorem leads (h : Realizes text step (a.Matches text)) (hf : IsFrontier text a reached fresh) {i j : ℕ}
    (hi : reached.testBit i = true) (hij : a.Matches text i j) :
    (step fresh ||| reached).testBit j = true := by
  rw [testBit_next]
  cases hi' : fresh.testBit i with
  | true => exact Or.inl ((hf.testBit_step h).mpr ⟨i, hi', hij⟩)
  | false => exact Or.inr (hf.stepped i j hi hi' hij)

/-- After a step, the places that are new are the fresh ones. -/
theorem next (h : Realizes text step (a.Matches text)) (hf : IsFrontier text a reached fresh) :
    IsFrontier text a (step fresh ||| reached) ((step fresh ||| reached) ^^^ reached) where
  within := by
    intro j hj
    rcases testBit_next.mp hj with hj | hj
    · obtain ⟨i, -, hij⟩ := (hf.testBit_step h).mp hj
      exact hij.bounds.2
    · exact hf.within j hj
  subset := fun i hi => testBit_next.mpr (Or.inl (testBit_new.mp hi).1)
  stepped := by
    intro i j hi hold hij
    refine hf.leads h ?_ hij
    cases hreached : reached.testBit i with
    | true => rfl
    | false =>
      have hi' : (step fresh).testBit i = true := by simpa [hreached] using testBit_next.mp hi
      have hnew := testBit_new.mpr ⟨hi', hreached⟩
      exact absurd (hnew.symm.trans hold) Bool.noConfusion

end IsFrontier

/-- **Stepping on from fresh places goes over up to so many copies.** -/
theorem Realizes.testBit_grow (h : Realizes text step (a.Matches text)) (n : ℕ)
    (hf : IsFrontier text a reached fresh) (k : ℕ) :
    (Places.grow step n reached fresh).testBit k = true ↔
      ∃ i, reached.testBit i = true ∧ ∃ m ≤ n, Copies text a m i k := by
  induction n generalizing reached fresh with
  | zero =>
    constructor
    · intro hk
      exact ⟨k, hk, 0, le_rfl, .none (hf.within k hk)⟩
    · rintro ⟨i, hi, m, hm, hcopies⟩
      obtain rfl : m = 0 := Nat.le_zero.mp hm
      obtain ⟨rfl, -⟩ := copies_zero_iff.mp hcopies
      exact hi
  | succ n ih =>
    by_cases hnew : (step fresh ||| reached) ^^^ reached = 0
    · -- Nothing is new: no copy leads out of what has been reached.
      have hclosed : ∀ i j, reached.testBit i = true → a.Matches text i j → reached.testBit j = true := by
        intro i j hi hij
        have hj := hf.leads h hi hij
        rwa [Nat.xor_eq_zero_iff.mp hnew] at hj
      have hstop : Places.grow step (n + 1) reached fresh = reached := if_pos hnew
      rw [hstop]
      constructor
      · intro hk
        exact ⟨k, hk, 0, Nat.zero_le _, .none (hf.within k hk)⟩
      · rintro ⟨i, hi, m, -, hcopies⟩
        exact hcopies.testBit hclosed hi
    · have hgoOn : Places.grow step (n + 1) reached fresh =
          Places.grow step n (step fresh ||| reached) ((step fresh ||| reached) ^^^ reached) := if_neg hnew
      rw [hgoOn, ih (hf.next h)]
      -- A place that is reached after the step has been reached before, or one copy leads to it.
      constructor
      · rintro ⟨i, hi, m, hm, hcopies⟩
        rcases IsFrontier.testBit_next.mp hi with hi | hi
        · obtain ⟨l, hl, hli⟩ := (hf.testBit_step h).mp hi
          exact ⟨l, hf.subset l hl, m + 1, Nat.succ_le_succ hm, .more hli hcopies⟩
        · exact ⟨i, hi, m, Nat.le_succ_of_le hm, hcopies⟩
      · rintro ⟨i, hi, m, hm, hcopies⟩
        cases hcopies with
        | none hi' => exact ⟨_, IsFrontier.testBit_next.mpr (Or.inr hi), 0, Nat.zero_le n, .none hi'⟩
        | more first rest => exact ⟨_, hf.leads h hi first, _, Nat.le_of_succ_le_succ hm, rest⟩

end Steps

/-! ### The matcher -/

namespace Regex

/-- **The matcher goes from the places of a set to the ends of what the expression covers from there.** -/
theorem realizes_ends {r : Regex CodeSet Guard} (hr : r.IsOrdered) :
    Realizes text (ends (text.length + 1) (r.place text)) (r.Matches text) := by
  induction r with
  | empty =>
    intro ps hps j
    constructor
    · intro hj
      exact ⟨j, hj, .empty (hps j hj)⟩
    · rintro ⟨i, hi, ⟨⟩⟩
      exact hi
  | step s =>
    intro ps hps j
    have hends : ends (text.length + 1) (place (.step s) text) ps = (ps &&& Places.ofSet s text) <<< 1 := rfl
    rw [hends, Nat.testBit_shiftLeft]
    constructor
    · intro hj
      simp only [Nat.testBit_and, Bool.and_eq_true, decide_eq_true_iff, Places.testBit_ofSet] at hj
      obtain ⟨hpos, hi, c, hc, hs⟩ := hj
      refine ⟨j - 1, hi, ?_⟩
      obtain ⟨i, rfl⟩ := Nat.exists_eq_add_of_le' hpos
      exact .step hc hs
    · rintro ⟨i, hi, hij⟩
      cases hij with
      | step hc hs =>
        simp only [Nat.testBit_and, Bool.and_eq_true, decide_eq_true_iff, Places.testBit_ofSet]
        exact ⟨Nat.le_add_left 1 i, hi, _, hc, hs⟩
  | guard g =>
    intro ps hps j
    have hends : ends (text.length + 1) (place (.guard g) text) ps = ps &&& Places.ofGuard g none text := rfl
    have hbefore : (if j = 0 then none else text[j - 1]?) = charBefore text j := by cases j <;> rfl
    rw [hends, Nat.testBit_and, Bool.and_eq_true, Places.testBit_ofGuard, hbefore]
    constructor
    · rintro ⟨hj, hle, hholds⟩
      exact ⟨j, hj, .guard hle hholds⟩
    · rintro ⟨i, hi, hij⟩
      cases hij with
      | guard hle hholds => exact ⟨hi, hle, hholds⟩
  | group captures a iha =>
    intro ps hps j
    have hends := iha hr ps hps j
    constructor
    · intro hj
      obtain ⟨i, hi, hij⟩ := hends.mp hj
      exact ⟨i, hi, .group hij⟩
    · rintro ⟨i, hi, hij⟩
      cases hij with
      | group hij => exact hends.mpr ⟨i, hi, hij⟩
  | concat a b iha ihb =>
    intro ps hps k
    have hfirst := iha hr.1
    have hsecond := ihb hr.2 _ (hfirst.within hps) k
    constructor
    · intro hk
      obtain ⟨j, hj, hjk⟩ := hsecond.mp hk
      obtain ⟨i, hi, hij⟩ := (hfirst ps hps j).mp hj
      exact ⟨i, hi, .concat hij hjk⟩
    · rintro ⟨i, hi, hik⟩
      cases hik with
      | @concat _ _ _ j _ hij hjk => exact hsecond.mpr ⟨j, (hfirst ps hps j).mpr ⟨i, hi, hij⟩, hjk⟩
  | alternation a b iha ihb =>
    intro ps hps j
    have hends : ends (text.length + 1) (place (.alternation a b) text) ps =
        ends (text.length + 1) (place a text) ps ||| ends (text.length + 1) (place b text) ps := rfl
    rw [hends, Nat.testBit_or, Bool.or_eq_true, iha hr.1 ps hps j, ihb hr.2 ps hps j]
    constructor
    · rintro (⟨i, hi, hij⟩ | ⟨i, hi, hij⟩)
      · exact ⟨i, hi, .left hij⟩
      · exact ⟨i, hi, .right hij⟩
    · rintro ⟨i, hi, hij⟩
      cases hij with
      | left hij => exact Or.inl ⟨i, hi, hij⟩
      | right hij => exact Or.inr ⟨i, hi, hij⟩
  | repetition a least most iha =>
    intro ps hps k
    have hstep := iha hr.1
    have hneeded := hstep.power least ps hps
    have hwithin : Within text
        (Places.power (ends (text.length + 1) (place a text)) least ps) := by
      intro j hj
      obtain ⟨i, -, hcopies⟩ := (hneeded j).mp hj
      exact hcopies.bounds.2
    -- At first all places are fresh, so that there is nothing to say about others.
    have hfrontier : IsFrontier text a (Places.power (ends (text.length + 1) (place a text)) least ps)
        (Places.power (ends (text.length + 1) (place a text)) least ps) :=
      ⟨hwithin, fun _ hi => hi, fun i _ hi hi' => absurd (hi.symm.trans hi') Bool.noConfusion⟩
    have hgrow := hstep.testBit_grow (most.elim (text.length + 1) (· - least)) hfrontier k
    have hends : ends (text.length + 1) (place (.repetition a least most) text) ps =
        Places.grow (ends (text.length + 1) (place a text)) (most.elim (text.length + 1) (· - least))
          (Places.power (ends (text.length + 1) (place a text)) least ps)
          (Places.power (ends (text.length + 1) (place a text)) least ps) := by
      cases most <;> rfl
    simp only [hends, matches_repetition_iff_more hr.2]
    refine hgrow.trans ?_
    constructor
    · rintro ⟨j, hj, m, hm, hmore⟩
      obtain ⟨i, hi, hij⟩ := (hneeded j).mp hj
      exact ⟨i, hi, j, hij, m, hm, hmore⟩
    · rintro ⟨i, hi, j, hij, m, hm, hmore⟩
      exact ⟨j, (hneeded j).mpr ⟨i, hi, hij⟩, m, hm, hmore⟩

/-- **The matcher finds an expression exactly where it covers a stretch.** -/
theorem occursIn_iff {r : Regex CodeSet Guard} (hr : r.IsOrdered) (text : List Char) :
    r.occursIn text = true ↔ r.Occurs text := by
  have hall : Within text (Places.all text.length) := fun i hi => Places.testBit_all.mp hi
  have hends := realizes_ends hr _ hall
  rw [occursIn, decide_eq_true_iff, Places.ne_zero_iff]
  constructor
  · rintro ⟨j, hj⟩
    obtain ⟨i, -, hij⟩ := (hends j).mp hj
    exact ⟨i, j, hij⟩
  · rintro ⟨i, j, hij⟩
    have hi : i ≤ text.length := hij.bounds.1.trans hij.bounds.2
    exact ⟨j, (hends j).mpr ⟨i, Places.testBit_all.mpr hi, hij⟩⟩

end Regex
end LintLedger.Pattern
