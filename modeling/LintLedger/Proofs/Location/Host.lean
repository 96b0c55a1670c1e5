import LintLedger.Location.Host
import Mathlib.Data.List.Basic
import Mathlib.Data.Option.Basic

/-!
# Hosts do not start with a slash

The slash behind the authority of a URL is the start of the path. That a reader can tell the two apart
rests on what hosts are made of: an address of version 6 starts with a bracket, one of version 4 with a
digit, and a name with a character of its first label, with the mark of a code or with a dot. None of
these is a slash (`LintLedger.Location.Host.head_readKnown`).
-/

namespace LintLedger.Location

theorem HostName.head_written {label : List Char} (h : '/' ∉ label) :
    (HostName.written label).head? ≠ some '/' := by
  unfold written
  split
  · exact fun hhead => h (List.mem_of_head? hhead)
  · simp [codeMark]

/-- The first character of joined pieces is the separator or that of the first piece. -/
theorem head_join {p : List Char} (h : p.head? ≠ some '/') (ps : List (List Char)) :
    (Text.join '.' (p :: ps)).head? ≠ some '/' := by
  cases ps with
  | nil => exact h
  | cons q qs =>
    change (p ++ '.' :: Text.join '.' (q :: qs)).head? ≠ some '/'
    cases p with
    | nil => simp
    | cons c cs => exact h

/-- **A name does not start with a slash**: no label holds one, and none comes with a code. -/
theorem HostName.head_normalize {cs name : List Char} (h : HostName.normalize? cs = some name) :
    name.head? ≠ some '/' := by
  unfold normalize? at h
  obtain ⟨counted, -, h⟩ := Option.bind_eq_some_iff.mp h
  obtain ⟨labels, -, h⟩ := Option.bind_eq_some_iff.mp h
  split at h
  · exact absurd h (by simp)
  · next hproper =>
    split at h
    · exact absurd h (by simp)
    · rw [← Option.some.inj h]
      cases labels with
      | nil => simp [Text.join]
      | cons label labels =>
        refine head_join (head_written fun hslash => hproper ?_) _
        have hforbidden : label.any isForbidden = true := List.any_eq_true.mpr ⟨'/', hslash, rfl⟩
        simp [hforbidden]

namespace Host

theorem head_address4 (n : ℕ) : (address4 n).toList.head? ≠ some '/' := by
  intro h
  have hne : Nat.toDigits 10 (n / 0x1000000) ≠ [] := Nat.toDigits_ne_nil
  obtain ⟨c, cs, hc⟩ := List.exists_cons_of_ne_nil hne
  have hdigit : c.isDigit = true := by
    refine Nat.isDigit_of_mem_toDigits (b := 10) (n := n / 0x1000000) (by decide) (by decide) ?_
    rw [hc]
    exact List.mem_cons_self
  have hhead : (address4 n).toList.head? = some c := by
    simp [address4, String.toList_append, hc, toString]
  rw [hhead] at h
  obtain rfl := Option.some.inj h
  exact absurd hdigit (by decide)

theorem head_readBrackets {cs : List Char} {host : String} (h : readBrackets? cs = some (.ok host)) :
    host.toList.head? ≠ some '/' := by
  unfold readBrackets? at h
  split at h
  · split at h
    · split at h
      · next ps _ =>
        obtain rfl : address6 ps = host := by simpa using h
        unfold address6
        split
        · simp
        · simp
      · simp at h
    · simp at h
  · simp at h

/-- **No host that every client knows starts with a slash.** -/
theorem head_readKnown {cs : List Char} {host : String} (h : readKnown cs = .ok host) :
    host.toList.head? ≠ some '/' := by
  unfold readKnown at h
  split at h
  · next result hresult =>
    rw [h] at hresult
    exact head_readBrackets hresult
  · split at h
    · simp at h
    · split at h
      · simp at h
      · simp at h
      · next name _ hname =>
        split at h
        · split at h
          · next n _ =>
            obtain rfl : address4 n = host := by simpa using h
            exact head_address4 n
          · simp at h
        · obtain rfl : String.ofList name = host := by simpa using h
          rw [String.toList_ofList]
          exact HostName.head_normalize hname

end Host
end LintLedger.Location
