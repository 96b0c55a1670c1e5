import LintLedger.Files.Path
import LintLedger.Proofs.Text.Split
import LintLedger.Proofs.Text.Utf8
import Mathlib.Data.List.Basic

/-!
# Paths as texts and as bytes

A path that is typed is a text, and one that comes out of a location is a sequence of bytes. A text and its
bytes have the same names (`LintLedger.Path.namesOfBytes_encode`) and are alike in all that the file tree
asks about a path, so it makes no difference in which of the two forms the path is given. This is because
slashes and zero characters are written with one byte each, and this byte is no part of another character.

Of bytes that are no text nothing is lost either: they are got back from the names
(`LintLedger.Path.join_namesOfBytes`), so paths that differ in a byte have different names.
-/

namespace LintLedger

namespace Text.Utf8

variable {b : UInt8} {sep : Char} {cs : List Char}

/-- The bytes of joined texts are the joined bytes of the texts. -/
theorem flatMap_encodeChar_join (hsep : String.utf8EncodeChar sep = [b]) (ps : List (List Char)) :
    (Text.join sep ps).flatMap String.utf8EncodeChar =
      Text.join b (ps.map fun p => p.flatMap String.utf8EncodeChar) := by
  cases ps with
  | nil => rfl
  | cons p ps =>
    rw [Text.join_cons_eq, List.map_cons, Text.join_cons_eq, List.flatMap_append]
    congr 1
    induction ps with
    | nil => rfl
    | cons q ps ih => simp [hsep, ih]

theorem encodeChar_of_lt (hb : b.toNat < 128) : String.utf8EncodeChar (Char.ofNat b.toNat) = [b] := by
  rw [encodeChar_one hb, UInt8.ofNat_toNat]

/-- A byte below 128 is among the bytes of a text if its character is in the text. -/
theorem mem_flatMap_encodeChar_iff (hb : b.toNat < 128) :
    b ∈ cs.flatMap String.utf8EncodeChar ↔ Char.ofNat b.toNat ∈ cs := by
  rw [List.mem_flatMap]
  constructor
  · rintro ⟨c, hc, hmem⟩
    exact (eq_of_mem_encodeChar hb hmem).1 ▸ hc
  · intro hmem
    exact ⟨_, hmem, by rw [encodeChar_of_lt hb]; exact List.mem_singleton_self b⟩

/-- **Cutting a text and cutting its bytes** gives the same pieces. -/
theorem split_flatMap_encodeChar (hb : b.toNat < 128) (cs : List Char) :
    Text.split b (cs.flatMap String.utf8EncodeChar) =
      (Text.split (Char.ofNat b.toNat) cs).map fun p => p.flatMap String.utf8EncodeChar := by
  have hjoined : cs.flatMap String.utf8EncodeChar =
      Text.join b ((Text.split (Char.ofNat b.toNat) cs).map fun p =>
        p.flatMap String.utf8EncodeChar) := by
    rw [← flatMap_encodeChar_join (encodeChar_of_lt hb), Text.join_split]
  rw [hjoined]
  refine Text.split_join (by simpa using Text.split_ne_nil _ cs) fun p hp => ?_
  obtain ⟨q, hq, rfl⟩ := List.mem_map.mp hp
  exact mt (mem_flatMap_encodeChar_iff hb).mp (Text.not_mem_of_mem_split hq)

/-- The bytes of a text start with a byte below 128 if the text starts with its character. -/
theorem head?_flatMap_encodeChar_iff (hb : b.toNat < 128) :
    (cs.flatMap String.utf8EncodeChar).head? = some b ↔ cs.head? = some (Char.ofNat b.toNat) := by
  cases cs with
  | nil => simp
  | cons c cs =>
    rw [List.flatMap_cons, List.head?_append_of_ne_nil _ String.utf8EncodeChar_ne_nil, List.head?_cons,
      Option.some.injEq]
    constructor
    · exact fun h => (eq_of_mem_encodeChar hb (List.mem_of_head? h)).1
    · rintro rfl
      rw [encodeChar_of_lt hb, List.head?_cons]

/-- The bytes of a text end with a byte below 128 if the text ends with its character. -/
theorem getLast?_flatMap_encodeChar_iff (hb : b.toNat < 128) :
    (cs.flatMap String.utf8EncodeChar).getLast? = some b ↔
      cs.getLast? = some (Char.ofNat b.toNat) := by
  rcases List.eq_nil_or_concat cs with rfl | ⟨cs, c, rfl⟩
  · simp
  · rw [List.concat_eq_append, List.flatMap_append, List.flatMap_singleton,
      List.getLast?_append_of_ne_nil _ String.utf8EncodeChar_ne_nil, List.getLast?_concat, Option.some.injEq]
    constructor
    · exact fun h => (eq_of_mem_encodeChar hb (List.mem_of_getLast? h)).1
    · rintro rfl
      rw [encodeChar_of_lt hb, List.getLast?_singleton]

end Text.Utf8

namespace Path

open Text.Utf8 (encode decode?)

/-! ### A text and its bytes -/

theorem nameOfBytes_encode (name : String) : nameOfBytes (encode name) = name := by
  unfold nameOfBytes
  rw [Text.Utf8.decode?_encode, Option.getD_some]

/-- **A text and its bytes have the same names.** -/
theorem namesOfBytes_encode (path : String) : namesOfBytes (encode path) = names path := by
  have hsplit : Text.split 0x2F (encode path) =
      (Text.split '/' path.toList).map fun p => p.flatMap String.utf8EncodeChar :=
    Text.Utf8.split_flatMap_encodeChar (by decide) path.toList
  unfold namesOfBytes names
  rw [hsplit, List.map_map]
  refine List.map_congr_left fun p _ => ?_
  rw [Function.comp_apply, ← nameOfBytes_encode (String.ofList p), encode, String.toList_ofList]

theorem hasZero_encode (path : String) : Form.hasZero (encode path) = Form.hasZero path := by
  rw [Bool.eq_iff_iff, Form.hasZero_text, List.contains_iff_mem]
  exact List.contains_iff_mem.trans (Text.Utf8.mem_flatMap_encodeChar_iff (by decide))

theorem isAbsolute_encode (path : String) : Form.isAbsolute (encode path) = Form.isAbsolute path :=
  decide_eq_decide.mpr (Text.Utf8.head?_flatMap_encodeChar_iff (by decide))

theorem size_encode (path : String) : Form.size (encode path) = Form.size path :=
  Text.Utf8.length_encode path

theorem joinBytes_encode (folder name : String) :
    joinBytes (encode folder) name = encode (join folder name) := by
  have hempty : (encode folder).isEmpty = folder.isEmpty := by
    rw [Bool.eq_iff_iff, String.isEmpty_iff, List.isEmpty_iff, ← List.length_eq_zero_iff,
      Text.Utf8.length_encode, String.utf8ByteSize_eq_zero_iff]
  have hlast : (encode folder).getLast? = some 0x2F ↔ folder.toList.getLast? = some '/' :=
    Text.Utf8.getLast?_flatMap_encodeChar_iff (by decide)
  have hslash : encode "/" = [0x2F] := by decide
  unfold joinBytes join
  simp only [hempty, hlast]
  split_ifs
  · rfl
  · rw [Text.Utf8.encode_append]
  · rw [Text.Utf8.encode_append, Text.Utf8.encode_append, hslash, List.append_assoc,
      List.singleton_append]

/-! ### Names that are no text -/

/-- **A name keeps the bytes that it was given with.** -/
theorem nameBytes_nameOfBytes {bs : List UInt8} (h : 0 ∉ bs) : nameBytes (nameOfBytes bs) = bs := by
  unfold nameOfBytes
  cases hdecode : decode? bs with
  | none =>
    unfold nameBytes
    rw [Option.getD_none, String.toList_ofList]
    exact Text.Raw.bytes_ofBytes bs
  | some name =>
    obtain rfl := Text.Utf8.decode?_eq_some_iff.mp hdecode
    unfold nameBytes
    rw [Option.getD_some]
    split
    · next raw hraw =>
      refine absurd ((Text.Utf8.mem_flatMap_encodeChar_iff (by decide)).mpr ?_) h
      rw [hraw]
      exact List.mem_cons_self
    · rfl

/-- **A path is got back from its names**, byte by byte. -/
theorem join_namesOfBytes {path : List UInt8} (h : 0 ∉ path) :
    Text.join 0x2F ((namesOfBytes path).map nameBytes) = path := by
  have hkept : (namesOfBytes path).map nameBytes = Text.split 0x2F path := by
    unfold namesOfBytes
    rw [List.map_map]
    refine (List.map_congr_left fun piece hpiece => ?_).trans (List.map_id _)
    exact nameBytes_nameOfBytes fun hzero => h (Text.mem_of_mem_split hpiece hzero)
  rw [hkept, Text.join_split]

end Path

end LintLedger
