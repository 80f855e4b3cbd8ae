import TelemetryCharts.Proofs.Traversal
import TelemetryCharts.Text.Utf8

/-!
# Decoding what was encoded

The decoder gives back every text from its UTF-8 bytes, without a gap.
-/

namespace TelemetryCharts.Text

theorem toNat_ofNat_of_lt {n : Nat} (hn : n < 256) : (UInt8.ofNat n).toNat = n := by
  rw [UInt8.toNat_ofNat']
  exact Nat.mod_eq_of_lt hn

/-- The last byte of a character completes it. -/
theorem decodeFrom_last {bits n : Nat} {low high : UInt8} (hn : n < 64)
    (hlow : low.toNat ≤ n + 0x80) (hhigh : n + 0x80 ≤ high.toNat) (rest : List UInt8) :
    decodeFrom (some ⟨bits, 1, low, high⟩) (UInt8.ofNat (n + 0x80) :: rest) =
      some (Char.ofNat (64 * bits + n)) :: decodeFrom none rest := by
  have hbyte := toNat_ofNat_of_lt (show n + 0x80 < 256 by omega)
  have hin : low ≤ UInt8.ofNat (n + 0x80) ∧ UInt8.ofNat (n + 0x80) ≤ high := by
    rw [UInt8.le_iff_toNat_le, UInt8.le_iff_toNat_le, hbyte]
    exact ⟨hlow, hhigh⟩
  simp only [decodeFrom, advance, if_pos hin, hbyte, Nat.add_sub_cancel, if_true,
    List.singleton_append]

/-- Any other byte that continues a character adds its six bits. -/
theorem decodeFrom_inner {bits missing n : Nat} {low high : UInt8} (hn : n < 64)
    (hlow : low.toNat ≤ n + 0x80) (hhigh : n + 0x80 ≤ high.toNat) (rest : List UInt8) :
    decodeFrom (some ⟨bits, missing + 2, low, high⟩) (UInt8.ofNat (n + 0x80) :: rest) =
      decodeFrom (some ⟨64 * bits + n, missing + 1, 0x80, 0xbf⟩) rest := by
  have hbyte := toNat_ofNat_of_lt (show n + 0x80 < 256 by omega)
  have hin : low ≤ UInt8.ofNat (n + 0x80) ∧ UInt8.ofNat (n + 0x80) ≤ high := by
    rw [UInt8.le_iff_toNat_le, UInt8.le_iff_toNat_le, hbyte]
    exact ⟨hlow, hhigh⟩
  have hmore : missing + 2 ≠ 1 := by omega
  simp only [decodeFrom, advance, if_pos hin, hbyte, Nat.add_sub_cancel, if_neg hmore,
    List.nil_append]
  rfl

theorem decodeFrom_whole {n : Nat} (hn : n < 0x80) (rest : List UInt8) :
    decodeFrom none (UInt8.ofNat n :: rest) = some (Char.ofNat n) :: decodeFrom none rest := by
  have hbyte := toNat_ofNat_of_lt (show n < 256 by omega)
  simp only [decodeFrom, advance, begin, First.of, hbyte, if_pos hn, List.singleton_append]

/-- The first byte of a character of several bytes. The bounds of the second byte exclude what is
encoded in another way, so they depend on the first. -/
theorem decodeFrom_first {n : Nat} (hlow : 0xc2 ≤ n) (hhigh : n < 0xf5) (rest : List UInt8) :
    decodeFrom none (UInt8.ofNat n :: rest) =
      decodeFrom (some (
        if n < 0xe0 then ⟨n - 0xc0, 1, 0x80, 0xbf⟩
        else if n < 0xf0 then
          ⟨n - 0xe0, 2, if n = 0xe0 then 0xa0 else 0x80, if n = 0xed then 0x9f else 0xbf⟩
        else ⟨n - 0xf0, 3, if n = 0xf0 then 0x90 else 0x80, if n = 0xf4 then 0x8f else 0xbf⟩))
        rest := by
  have hbyte := toNat_ofNat_of_lt (show n < 256 by omega)
  have h80 : ¬ n < 0x80 := by omega
  have hc2 : ¬ n < 0xc2 := by omega
  simp only [decodeFrom, advance, begin, First.of, hbyte, if_neg h80, if_neg hc2, if_pos hhigh]
  by_cases h2 : n < 0xe0
  · simp only [if_pos h2, List.nil_append]
  by_cases h3 : n < 0xf0
  · simp only [if_neg h2, if_pos h3, List.nil_append]
  · simp only [if_neg h2, if_neg h3, List.nil_append]

/-- The bytes of a character are decoded as that character and nothing else, whatever follows. -/
theorem decodeFrom_encodeChar (c : Char) (rest : List UInt8) :
    decodeFrom none (String.utf8EncodeChar c ++ rest) = some c :: decodeFrom none rest := by
  have hvalid := c.valid
  have hchar : Char.ofNat c.val.toNat = c := Char.ofNat_toNat c
  simp only [UInt32.isValidChar, Nat.isValidChar] at hvalid
  generalize hv : c.val.toNat = v at *
  simp only [String.utf8EncodeChar, hv]
  by_cases h1 : v ≤ 0x7f
  · rw [if_pos h1, List.singleton_append, decodeFrom_whole (by omega), hchar]
  rw [if_neg h1]
  by_cases h2 : v ≤ 0x7ff
  · rw [if_pos h2, List.cons_append, List.singleton_append, decodeFrom_first (by omega) (by omega),
      if_pos (by omega), decodeFrom_last (by omega) (by simp) (by simp; omega), ← hchar]
    congr 3
    omega
  rw [if_neg h2]
  by_cases h3 : v ≤ 0xffff
  · have hlow : (if v / 4096 % 16 + 0xe0 = 0xe0 then (0xa0 : UInt8) else 0x80).toNat ≤
        v / 64 % 64 + 0x80 := by
      split
      · rw [show (0xa0 : UInt8).toNat = 0xa0 from rfl]
        omega
      · simp
    have hhigh : v / 64 % 64 + 0x80 ≤
        (if v / 4096 % 16 + 0xe0 = 0xed then (0x9f : UInt8) else 0xbf).toNat := by
      split
      · rw [show (0x9f : UInt8).toNat = 0x9f from rfl]
        omega
      · rw [show (0xbf : UInt8).toNat = 0xbf from rfl]
        omega
    rw [if_pos h3, List.cons_append, List.cons_append, List.singleton_append,
      decodeFrom_first (by omega) (by omega), if_neg (by omega), if_pos (by omega),
      decodeFrom_inner (by omega) hlow hhigh,
      decodeFrom_last (by omega) (by simp) (by simp; omega), ← hchar]
    congr 3
    omega
  · have hlow : (if v / 262144 % 8 + 0xf0 = 0xf0 then (0x90 : UInt8) else 0x80).toNat ≤
        v / 4096 % 64 + 0x80 := by
      split
      · rw [show (0x90 : UInt8).toNat = 0x90 from rfl]
        omega
      · simp
    have hhigh : v / 4096 % 64 + 0x80 ≤
        (if v / 262144 % 8 + 0xf0 = 0xf4 then (0x8f : UInt8) else 0xbf).toNat := by
      split
      · rw [show (0x8f : UInt8).toNat = 0x8f from rfl]
        omega
      · rw [show (0xbf : UInt8).toNat = 0xbf from rfl]
        omega
    rw [if_neg h3, List.cons_append, List.cons_append, List.cons_append, List.singleton_append,
      decodeFrom_first (by omega) (by omega), if_neg (by omega), if_neg (by omega),
      decodeFrom_inner (by omega) hlow hhigh,
      decodeFrom_inner (by omega) (by simp) (by simp; omega),
      decodeFrom_last (by omega) (by simp) (by simp; omega), ← hchar]
    congr 3
    omega

theorem toList_loop (bytes : ByteArray) (i : Nat) (done : List UInt8) :
    ByteArray.toList.loop bytes i done = done.reverse ++ bytes.data.toList.drop i := by
  fun_induction ByteArray.toList.loop bytes i done with
  | case1 i done h ih =>
    have hi : i < bytes.data.toList.length := h
    rw [ih, List.drop_eq_getElem_cons hi, List.reverse_cons, List.append_assoc,
      List.singleton_append]
    congr
    exact getElem!_pos bytes.data i h
  | case2 i done h =>
    have hi : bytes.data.toList.length ≤ i := Nat.le_of_not_lt h
    rw [List.drop_eq_nil_of_le hi, List.append_nil]

/-- The bytes of an array, one after the other. -/
theorem toList_eq_data (bytes : ByteArray) : bytes.toList = bytes.data.toList := by
  rw [ByteArray.toList, toList_loop, List.reverse_nil, List.nil_append, List.drop_zero]

theorem toList_toUTF8 (cs : List Char) :
    (String.ofList cs).toUTF8.toList = cs.flatMap String.utf8EncodeChar := by
  rw [String.toUTF8_eq_toByteArray, String.toByteArray_ofList, List.utf8Encode, toList_eq_data,
    List.toList_data_toByteArray]

/-- Every text is decoded from its UTF-8 bytes as it was. -/
theorem decode_toUTF8 (cs : List Char) :
    decode (String.ofList cs).toUTF8.toList = cs.map some := by
  rw [toList_toUTF8, decode]
  induction cs with
  | nil => rfl
  | cons c cs ih => rw [List.flatMap_cons, decodeFrom_encodeChar, ih, List.map_cons]

theorem gapless?_eq_some_iff {cs : List (Option Char)} {text : List Char} :
    gapless? cs = some text ↔ cs = text.map some :=
  mapM_id_eq_some_iff

theorem gapless?_map_some (text : List Char) : gapless? (text.map some) = some text :=
  gapless?_eq_some_iff.2 rfl

theorem ofBytes?_toUTF8 (text : String) : ofBytes? text.toUTF8 = some text.toList := by
  have hdecode := decode_toUTF8 text.toList
  rw [String.ofList_toList] at hdecode
  rw [ofBytes?, hdecode, gapless?_map_some]

end TelemetryCharts.Text
