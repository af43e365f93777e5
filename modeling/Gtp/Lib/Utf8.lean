/-
# Cutting a UTF-8 string at a character boundary

A byte string that encodes characters may be cut wherever the byte after the cut does not carry
the continuation mark `10xxxxxx`: the part before the cut encodes some of the characters
(`exists_take_encode`).  The statement needs no decoder, only the shape of one character's encoding
-- a first byte (`not_isContinuation_head`) and then continuation bytes
(`isContinuation_of_mem_tail`).

`fromUTF8?_encode` is the bridge to `String`: what was cut off that way is accepted by the decoder
of the library, as the characters it encodes.  Nothing is said of byte strings that encode no
characters.
-/
import Mathlib.Tactic.Common

namespace Utf8

/-- A continuation byte, `10xxxxxx`. -/
def IsContinuation (b : UInt8) : Prop := b &&& 0xC0 = 0x80

/-- The bytes of a list of characters. -/
def encode (cs : List Char) : List UInt8 := cs.flatMap String.utf8EncodeChar

theorem isContinuation_mark (b : UInt8) : IsContinuation (b &&& 0x3f ||| 0x80) := by
  have hbits : ∀ v : BitVec 8, (v &&& 0x3f#8 ||| 0x80#8) &&& 0xC0#8 = 0x80#8 := by decide
  exact UInt8.toBitVec_inj.mp (hbits b.toBitVec)

/-- After its first byte, the encoding of a character has continuation bytes only. -/
theorem isContinuation_of_mem_tail (c : Char) :
    ∀ b ∈ (String.utf8EncodeChar c).tail, IsContinuation b := by
  intro b hb
  rcases c.utf8Size_eq with h | h | h | h
  · rw [String.utf8EncodeChar_eq_singleton h] at hb
    cases hb
  · rw [String.utf8EncodeChar_eq_cons_cons h] at hb
    obtain rfl := List.mem_singleton.mp hb
    exact isContinuation_mark _
  · rw [String.utf8EncodeChar_eq_cons_cons_cons h] at hb
    rcases List.mem_cons.mp hb with rfl | hb
    · exact isContinuation_mark _
    · obtain rfl := List.mem_singleton.mp hb
      exact isContinuation_mark _
  · rw [String.utf8EncodeChar_eq_cons_cons_cons_cons h] at hb
    rcases List.mem_cons.mp hb with rfl | hb
    · exact isContinuation_mark _
    rcases List.mem_cons.mp hb with rfl | hb
    · exact isContinuation_mark _
    · obtain rfl := List.mem_singleton.mp hb
      exact isContinuation_mark _

/-- The first byte of a character is no continuation byte. -/
theorem not_isContinuation_head (c : Char) {b : UInt8} {bs : List UInt8}
    (h : String.utf8EncodeChar c = b :: bs) : ¬ IsContinuation b := by
  have hlead : ∀ v : BitVec 8, (v &&& 0x1f#8 ||| 0xc0#8) &&& 0xC0#8 ≠ 0x80#8 ∧
      (v &&& 0x0f#8 ||| 0xe0#8) &&& 0xC0#8 ≠ 0x80#8 ∧
      (v &&& 0x07#8 ||| 0xf0#8) &&& 0xC0#8 ≠ 0x80#8 := by decide
  rcases c.utf8Size_eq with hsize | hsize | hsize | hsize
  · rw [String.utf8EncodeChar_eq_singleton hsize] at h
    obtain ⟨rfl, -⟩ := List.cons.inj h
    -- below 0x80 the top bit is clear
    have hlow : ∀ v : BitVec 8, v.toNat ≤ 0x7f → v &&& 0xC0#8 ≠ 0x80#8 := by decide
    have hval : c.val.toUInt8.toNat ≤ 0x7f := by
      have hle := Char.utf8Size_eq_one_iff.mp hsize
      have hnat : c.val.toNat ≤ 0x7f := hle
      rw [UInt32.toNat_toUInt8]
      omega
    exact fun hcont => hlow _ hval (UInt8.toBitVec_inj.mpr hcont)
  · rw [String.utf8EncodeChar_eq_cons_cons hsize] at h
    obtain ⟨rfl, -⟩ := List.cons.inj h
    exact fun hcont => (hlead _).1 (UInt8.toBitVec_inj.mpr hcont)
  · rw [String.utf8EncodeChar_eq_cons_cons_cons hsize] at h
    obtain ⟨rfl, -⟩ := List.cons.inj h
    exact fun hcont => (hlead _).2.1 (UInt8.toBitVec_inj.mpr hcont)
  · rw [String.utf8EncodeChar_eq_cons_cons_cons_cons hsize] at h
    obtain ⟨rfl, -⟩ := List.cons.inj h
    exact fun hcont => (hlead _).2.2 (UInt8.toBitVec_inj.mpr hcont)

theorem encode_split (cs : List Char) (k : Nat) :
    encode cs = encode (cs.take k) ++ encode (cs.drop k) := by
  rw [encode, encode, encode, ← List.flatMap_append, List.take_append_drop]

theorem length_encode_take_le (cs : List Char) (k : Nat) :
    (encode (cs.take k)).length ≤ (encode cs).length := by
  rw [encode_split cs k, List.length_append]
  exact Nat.le_add_right _ _

/-- The byte after some first characters is no continuation byte. -/
theorem not_isContinuation_after (cs : List Char) (k : Nat) {b : UInt8}
    (h : (encode cs)[(encode (cs.take k)).length]? = some b) : ¬ IsContinuation b := by
  rw [encode_split cs k, List.getElem?_append_right (Nat.le_refl _), Nat.sub_self] at h
  cases hdrop : cs.drop k with
  | nil =>
    rw [hdrop] at h
    cases h
  | cons c rest =>
    rw [hdrop, show encode (c :: rest) = String.utf8EncodeChar c ++ encode rest from rfl] at h
    cases hc : String.utf8EncodeChar c with
    | nil => exact absurd hc (by simp)
    | cons b' bs =>
      rw [hc] at h
      obtain rfl := Option.some.inj h
      exact not_isContinuation_head c hc

/-- **The cut.**  If the byte after the cut is no continuation byte, what stands before it encodes
some first characters of the list. -/
theorem exists_take_encode (cs : List Char) (n : Nat)
    (h : ∀ b, (encode cs)[n]? = some b → ¬ IsContinuation b) :
    ∃ k, (encode cs).take n = encode (cs.take k) := by
  induction cs generalizing n with
  | nil => exact ⟨0, by simp [encode]⟩
  | cons c cs ih =>
    have hsplit : encode (c :: cs) = String.utf8EncodeChar c ++ encode cs := rfl
    rw [hsplit] at h ⊢
    by_cases hn : n < (String.utf8EncodeChar c).length
    · -- inside the first character only the position in front of it is a boundary
      cases n with
      | zero => exact ⟨0, rfl⟩
      | succ n =>
        have hget : (String.utf8EncodeChar c ++ encode cs)[n + 1]? =
            some (String.utf8EncodeChar c)[n + 1] := by
          rw [List.getElem?_append_left hn, List.getElem?_eq_getElem hn]
        refine absurd ?_ (h _ hget)
        apply isContinuation_of_mem_tail c
        have htail : (String.utf8EncodeChar c).tail[n]? = some (String.utf8EncodeChar c)[n + 1] := by
          rw [List.getElem?_tail, List.getElem?_eq_getElem hn]
        exact List.mem_of_getElem? htail
    · have hle : (String.utf8EncodeChar c).length ≤ n := Nat.le_of_not_lt hn
      obtain ⟨k, hk⟩ := ih (n - (String.utf8EncodeChar c).length) (by
        intro b hb
        apply h b
        rw [List.getElem?_append_right hle]
        exact hb)
      refine ⟨k + 1, ?_⟩
      rw [List.take_append, List.take_of_length_le hle, hk]
      rfl

/-- The bytes of a string are those of its characters. -/
theorem toList_toByteArray_ofList (cs : List Char) :
    (String.ofList cs).toByteArray.data.toList = encode cs := by
  rw [String.toByteArray_ofList, List.utf8Encode, List.data_toByteArray, encode]

/-- Decoding the bytes of some characters gives the string of these characters. -/
theorem fromUTF8?_encode (cs : List Char) :
    String.fromUTF8? ⟨(encode cs).toArray⟩ = some (String.ofList cs) := by
  have hbytes : (⟨(encode cs).toArray⟩ : ByteArray) = cs.utf8Encode := by
    rw [List.utf8Encode, ← List.data_toByteArray]
    rfl
  have hvalid : ByteArray.IsValidUTF8 ⟨(encode cs).toArray⟩ := by
    rw [hbytes]
    exact ByteArray.isValidUTF8_utf8Encode
  rw [String.fromUTF8?, dif_pos hvalid]
  congr 1
  rw [← String.toByteArray_inj, String.toByteArray_ofList]
  exact hbytes

end Utf8
