import LintLedger.Proofs.Pattern.Ordered
import Mathlib.Data.List.Infix

/-!
# Patterns that stand for themselves

A pattern in which no character has a meaning of its own stands for the characters that it is written with,
one after the other (`LintLedger.Pattern.Regex.ofChars`). Nothing can go wrong in reading it, so that it is a
pattern unless it takes too much room (`LintLedger.Pattern.compile_of_plain`); there is room for more than
three hundred thousand letters and digits (`LintLedger.Pattern.exists_compile_iff`). It occurs in a text
exactly if it is a contiguous part of it (`LintLedger.Pattern.occursIn_of_plain`).
-/

namespace LintLedger.Pattern

open LintLedger.Unicode (CodeSet)
open Reader (isSpecial)

/-- Letters and digits are ASCII characters. -/
theorem toNat_lt_of_isAlphanum {c : Char} (hc : c.isAlphanum = true) : c.toNat < 0x80 := by
  have hranges : c.isAlphanum = ((decide (65 ≤ c.val ∧ c.val ≤ 90) ||
      decide (97 ≤ c.val) && decide (c.val ≤ 122)) || decide (48 ≤ c.val) && decide (c.val ≤ 57)) := rfl
  have hval : c.toNat = c.val.toNat := rfl
  rw [hranges] at hc
  simp only [Bool.or_eq_true, Bool.and_eq_true, decide_eq_true_eq, UInt32.le_iff_toNat_le,
    UInt32.reduceToNat] at hc
  omega

/-- Letters and digits have no meaning of their own. -/
theorem Reader.isSpecial_of_isAlphanum {c : Char} (hc : c.isAlphanum = true) : isSpecial c = false := by
  have hothers : ("\\.+*?()|[]\x7b\x7d^$#&-~".toList.all fun d => !d.isAlphanum) = true := by decide
  by_contra hspecial
  have hmem : c ∈ "\\.+*?()|[]\x7b\x7d^$#&-~".toList :=
    List.contains_iff_mem.mp (Bool.eq_true_of_not_eq_false hspecial)
  have hnot := List.all_eq_true.mp hothers c hmem
  rw [hc] at hnot
  exact Bool.noConfusion hnot

/-! ### Reading -/

/-- The character as an expression. -/
def Expr.ofChar (c : Char) : Expr := .literal ⟨c, false⟩

/-- A character without a meaning of its own is an item of its branch. -/
theorem Reader.readGroup_cons {c : Char} (hc : isSpecial c = false) (rounds : ℕ) (opened : Option Stretch)
    (taken : List Name) (branches items : List Expr) (cs : List Char) :
    readGroup (rounds + 1) opened false taken branches items (c :: cs) =
      readGroup rounds opened false taken branches (.ofChar c :: items) cs := by
  rw [readGroup.eq_def]
  simp only [skip, Bool.false_eq_true, if_false]
  split
  case h_1 heq => exact absurd heq (List.cons_ne_nil c cs)
  all_goals
    next heq =>
      obtain ⟨rfl, rfl⟩ := List.cons.inj heq
      first
      | exact absurd hc (by decide)
      | rfl

theorem Reader.readGroup_of_plain {cs : List Char} (hcs : ∀ c ∈ cs, isSpecial c = false) {rounds : ℕ}
    (hrounds : cs.length < rounds) (items : List Expr) :
    readGroup rounds none false [] [] items cs =
      .ok (Expr.ofItems (items.reverse ++ cs.map Expr.ofChar), [], []) := by
  induction cs generalizing rounds items with
  | nil =>
    obtain ⟨n, rfl⟩ := Nat.exists_eq_succ_of_ne_zero (Nat.ne_of_gt hrounds)
    simp [readGroup, skip, closeBranches, Expr.ofBranches, pure, Except.pure]
  | cons c cs ih =>
    obtain ⟨n, rfl⟩ := Nat.exists_eq_succ_of_ne_zero (Nat.ne_zero_of_lt hrounds)
    obtain ⟨hc, hcs⟩ := List.forall_mem_cons.mp hcs
    rw [Reader.readGroup_cons hc, ih hcs (Nat.lt_of_succ_lt_succ hrounds)]
    simp

theorem Expr.depth_ofItems_le (cs : List Char) : (Expr.ofItems (cs.map Expr.ofChar)).depth ≤ 1 := by
  induction cs with
  | nil => exact Nat.zero_le 1
  | cons c cs ih =>
    match cs, ih with
    | [], _ => exact Nat.zero_le 1
    | [_], _ => exact le_rfl
    | d :: e :: cs, ih =>
      have hdepth : (Expr.ofItems ((c :: d :: e :: cs).map Expr.ofChar)).depth =
          max 1 (Expr.ofItems ((d :: e :: cs).map Expr.ofChar)).depth := rfl
      rw [hdepth]
      exact max_le le_rfl ih

theorem Expr.read_of_plain {cs : List Char} (hcs : ∀ c ∈ cs, isSpecial c = false) :
    Expr.read cs = .ok (Expr.ofItems (cs.map Expr.ofChar)) := by
  have hdepth : (Expr.ofItems (cs.map Expr.ofChar)).depth ≤ nestingLimit :=
    (Expr.depth_ofItems_le cs).trans (by decide)
  have hread := Reader.readGroup_of_plain hcs (Nat.lt_succ_self cs.length) []
  rw [List.reverse_nil, List.nil_append] at hread
  rw [Expr.read, hread]
  exact if_pos hdepth

/-! ### Meaning -/

/-- **The characters one after the other.** -/
def Regex.ofChars : List Char → Regex CodeSet Guard
  | [] => .empty
  | [c] => .step (CodeSet.single c.toNat)
  | c :: cs => .concat (.step (CodeSet.single c.toNat)) (ofChars cs)

theorem Expr.meaning_ofItems (cs : List Char) :
    (Expr.ofItems (cs.map Expr.ofChar)).meaning {} = .ok (Regex.ofChars cs, {}) := by
  induction cs with
  | nil => rfl
  | cons c cs ih =>
    cases cs with
    | nil => rfl
    | cons d cs =>
      have hcons : Expr.ofItems ((c :: d :: cs).map Expr.ofChar) =
          .concat (.ofChar c) (Expr.ofItems ((d :: cs).map Expr.ofChar)) := rfl
      have hfirst : (Expr.ofChar c).meaning {} = .ok (.step (CodeSet.single c.toNat), {}) := rfl
      rw [hcons, Expr.meaning, hfirst]
      simp only [bind, Except.bind, ih]
      rfl

/-- A pattern without characters of a meaning of their own can be read unless it takes too much room. -/
theorem compile_of_plain {source : String} (hplain : ∀ c ∈ source.toList, isSpecial c = false) :
    compile source =
      if (Regex.ofChars source.toList).fits then .ok ⟨source, Regex.ofChars source.toList⟩
      else .error .size := by
  rw [compile, Expr.read_of_plain hplain]
  simp only [bind, Except.bind, Expr.meaning_ofItems]
  rfl

/-! ### Matching -/

theorem has_single {n : ℕ} {c : Char} : (CodeSet.single n).has c = true ↔ c.toNat = n := by
  have hflips : CodeSet.single n = ⟨[n, n + 1]⟩ := if_neg (Nat.lt_irrefl n)
  rw [CodeSet.has, CodeSet.contains, hflips]
  simp only [CodeSet.contains.go]
  split_ifs <;> simp <;> omega

variable {text : List Char}

theorem matches_char_iff {c : Char} {i j : ℕ} :
    (Regex.step (CodeSet.single c.toNat) : Regex CodeSet Guard).Matches text i j ↔
      j = i + 1 ∧ text[i]? = some c := by
  constructor
  · intro h
    cases h with
    | step hd hs =>
      obtain rfl := Char.toNat_inj.mp (has_single.mp hs)
      exact ⟨rfl, hd⟩
  · rintro ⟨rfl, hc⟩
    exact .step hc (has_single.mpr rfl)

theorem cons_prefix_drop_iff {c : Char} {cs : List Char} {i : ℕ} :
    c :: cs <+: text.drop i ↔ text[i]? = some c ∧ cs <+: text.drop (i + 1) := by
  rcases Nat.lt_or_ge i text.length with hi | hi
  · rw [List.drop_eq_getElem_cons hi, List.cons_prefix_cons, List.getElem?_eq_getElem hi, Option.some.injEq,
      eq_comm]
  · rw [List.drop_eq_nil_of_le hi, List.getElem?_eq_none hi]
    simp

/-- **Characters cover the stretch that they are.** -/
theorem matches_ofChars_iff {cs : List Char} {i j : ℕ} :
    (Regex.ofChars cs).Matches text i j ↔ i ≤ text.length ∧ j = i + cs.length ∧ cs <+: text.drop i := by
  induction cs generalizing i with
  | nil =>
    constructor
    · rintro ⟨hi⟩
      exact ⟨hi, rfl, List.nil_prefix⟩
    · rintro ⟨hi, rfl, -⟩
      exact .empty hi
  | cons c cs ih =>
    rw [cons_prefix_drop_iff]
    cases cs with
    | nil =>
      refine matches_char_iff.trans ⟨?_, ?_⟩
      · rintro ⟨rfl, hc⟩
        obtain ⟨hi, -⟩ := List.getElem?_eq_some_iff.mp hc
        exact ⟨hi.le, rfl, hc, List.nil_prefix⟩
      · rintro ⟨-, rfl, hc, -⟩
        exact ⟨rfl, hc⟩
    | cons d cs =>
      have hcons : Regex.ofChars (c :: d :: cs) =
          .concat (.step (CodeSet.single c.toNat)) (Regex.ofChars (d :: cs)) := rfl
      rw [hcons]
      constructor
      · intro h
        cases h with
        | concat hfirst hrest =>
          obtain ⟨rfl, hc⟩ := matches_char_iff.mp hfirst
          obtain ⟨hi, rfl, hprefix⟩ := ih.mp hrest
          exact ⟨Nat.le_of_succ_le hi, by rw [List.length_cons, Nat.add_right_comm]; rfl, hc, hprefix⟩
      · rintro ⟨-, rfl, hc, hrest⟩
        obtain ⟨hi, -⟩ := List.getElem?_eq_some_iff.mp hc
        refine .concat (matches_char_iff.mpr ⟨rfl, hc⟩) (ih.mpr ⟨hi, ?_, hrest⟩)
        rw [List.length_cons, Nat.add_right_comm]
        rfl

/-- **Characters cover some stretch of the texts of which they are a contiguous part.** -/
theorem occurs_ofChars_iff {cs : List Char} : (Regex.ofChars cs).Occurs text ↔ cs <:+: text := by
  constructor
  · rintro ⟨i, j, hij⟩
    obtain ⟨-, -, hprefix⟩ := matches_ofChars_iff.mp hij
    exact hprefix.isInfix.trans (List.drop_suffix i text).isInfix
  · rintro ⟨before, after, rfl⟩
    refine ⟨before.length, before.length + cs.length, matches_ofChars_iff.mpr ⟨?_, rfl, ?_⟩⟩
    · simp
    · rw [List.append_assoc, List.drop_left]
      exact List.prefix_append cs after

/-- **A pattern without characters of a meaning of their own occurs exactly in the texts that contain
it.** -/
theorem occursIn_of_plain {source : String} (hplain : ∀ c ∈ source.toList, isSpecial c = false)
    {p : Pattern} (hp : compile source = .ok p) (m : String) :
    p.occursIn m = true ↔ source.toList <:+: m.toList := by
  rw [occursIn_iff hp]
  rw [compile_of_plain hplain] at hp
  split at hp
  · obtain rfl := Except.ok.inj hp
    exact occurs_ofChars_iff
  · exact absurd hp (by simp)

/-! ### Room -/

/-- A set of one ASCII character is planned as the character. -/
theorem Plan.ofSet_single {c : Char} (hc : c.toNat < 0x80) : Plan.ofSet (CodeSet.single c.toNat) = .text [c] := by
  have hranges : ∀ n < 0x80, (Plan.characters (CodeSet.single n)).ranges = [(n, n)] := by decide +kernel
  rw [Plan.ofSet, hranges c.toNat hc]
  simp

/-- ASCII characters one after the other are planned as one text. -/
theorem plan_ofChars {cs : List Char} (hne : cs ≠ []) (hascii : ∀ c ∈ cs, c.toNat < 0x80) :
    (Regex.ofChars cs).plan = .text cs := by
  induction cs with
  | nil => exact absurd rfl hne
  | cons c cs ih =>
    obtain ⟨hc, hcs⟩ := List.forall_mem_cons.mp hascii
    have hfirst : (Regex.step (CodeSet.single c.toNat) : Regex CodeSet Guard).plan = .text [c] :=
      Plan.ofSet_single hc
    cases cs with
    | nil => exact hfirst
    | cons d cs =>
      have hcons : (Regex.ofChars (c :: d :: cs)).plan =
          (Regex.step (CodeSet.single c.toNat) : Regex CodeSet Guard).plan.append
            (Regex.ofChars (d :: cs)).plan := rfl
      rw [hcons, hfirst, ih (List.cons_ne_nil d cs) hcs]
      rfl

/-- An ASCII character is one byte. -/
theorem length_bytesOf {cs : List Char} (hascii : ∀ c ∈ cs, c.toNat < 0x80) :
    (Plan.bytesOf cs).length = cs.length := by
  induction cs with
  | nil => rfl
  | cons c cs ih =>
    obtain ⟨hc, hcs⟩ := List.forall_mem_cons.mp hascii
    have hone : (Unicode.ByteRanges.bytes c.toNat).length = 1 := by
      simp [Unicode.ByteRanges.bytes, Unicode.ByteRanges.byteCount, hc]
    have hcons : Plan.bytesOf (c :: cs) = Unicode.ByteRanges.bytes c.toNat ++ Plan.bytesOf cs := rfl
    rw [hcons, List.length_append, hone, ih hcs, List.length_cons, Nat.add_comm]

/-- A text takes a state for each byte, besides those that look for its start and remember where it is. -/
theorem room_text (limit : ℕ) (backwards : Bool) (cs : List Char) :
    ((Plan.text cs).machine limit backwards).room =
      ((Plan.bytesOf cs).length + if backwards then 4 else 6) * 32 + 16 := by
  cases backwards <;>
    simp [Plan.machine, Plan.beginsAtStart, Plan.endsAtEnd, Plan.count, Machine.addFork, Machine.addPlain,
      Machine.add, Machine.room, Machine.stateRoom, Machine.edgeRoom, Machine.rangeRoom] <;>
    omega

/-- The greatest number of ASCII characters for which there is room. -/
def literalLimit : ℕ := 327673

theorem fits_ofChars_iff {cs : List Char} (hne : cs ≠ []) (hascii : ∀ c ∈ cs, c.toNat < 0x80) :
    (Regex.ofChars cs).fits = true ↔ cs.length ≤ literalLimit := by
  have hlong : (Plan.text cs).isLongList = false := rfl
  have hlimit : sizeLimit = 10485760 := rfl
  have hliteral : literalLimit = 327673 := rfl
  rw [Regex.fits, plan_ofChars hne hascii]
  simp only [hlong, room_text, length_bytesOf hascii, Bool.false_or, Bool.and_eq_true, decide_eq_true_eq,
    if_true, Bool.false_eq_true, if_false]
  omega

/-- **Letters and digits are a pattern** up to the limit. -/
theorem exists_compile_iff {source : String} (hne : source ≠ "")
    (hsource : ∀ c ∈ source.toList, c.isAlphanum = true) :
    (∃ p, compile source = .ok p) ↔ source.toList.length ≤ literalLimit := by
  have hne' : source.toList ≠ [] := fun hnil => hne (String.toList_eq_nil_iff.mp hnil)
  have hplain : ∀ c ∈ source.toList, isSpecial c = false :=
    fun c hc => Reader.isSpecial_of_isAlphanum (hsource c hc)
  have hascii : ∀ c ∈ source.toList, c.toNat < 0x80 := fun c hc => toNat_lt_of_isAlphanum (hsource c hc)
  rw [compile_of_plain hplain, ← fits_ofChars_iff hne' hascii]
  split <;> simp_all

end LintLedger.Pattern
