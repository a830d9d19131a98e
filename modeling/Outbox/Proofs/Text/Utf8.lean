import Mathlib.Tactic.Common
import Outbox.Text.Hex
import Outbox.Text.Utf8

/-!
# Bytes of texts

A text is read back from its bytes, character by character: the lead byte says how many bytes follow,
and the bounds that it sets hold for what a character is written as.

* `Utf8.scalarsFrom_encodeChar` — one character, in each of the four lengths;
* `Utf8.scalars_encode` — a whole text;
* `Utf8.byteLength_of_ascii` — texts of which every character is one byte, as hexadecimal digits are.
-/

namespace Outbox.Text

namespace Utf8

/-! ### The bytes of a text -/

/-- The bytes of an array are taken one by one, the first of them last. -/
theorem toList_loop (bs : ByteArray) (i : Nat) (r : List UInt8) :
    ByteArray.toList.loop bs i r = r.reverse ++ bs.data.toList.drop i := by
  induction i, r using ByteArray.toList.loop.induct bs with
  | case1 i r hlt ih =>
      have hsize : i < bs.data.size := hlt
      have hget : bs.data.toList.drop i = bs.get! i :: bs.data.toList.drop (i + 1) := by
        rw [List.drop_eq_getElem_cons (by simpa using hsize)]
        show _ = bs.data[i]! :: _
        rw [getElem!_pos bs.data i hsize]
        rfl
      rw [ByteArray.toList.loop, if_pos hlt, ih, List.reverse_cons, List.append_assoc, hget]
      rfl
  | case2 i r hge =>
      rw [ByteArray.toList.loop, if_neg hge, List.drop_of_length_le (by simpa using hge),
        List.append_nil]

theorem encode_eq (s : String) : encode s = s.toList.flatMap String.utf8EncodeChar := by
  have hbytes : s.toUTF8 = (s.toList.flatMap String.utf8EncodeChar).toByteArray := by
    rw [String.toUTF8_eq_toByteArray, ← String.utf8Encode_toList, List.utf8Encode]
  rw [encode, hbytes, ByteArray.toList, toList_loop, List.toList_data_toByteArray]
  rfl

/-! ### Reading a character -/

theorem toNat_ofNat {n : Nat} (h : n < 256) : (UInt8.ofNat n).toNat = n := by
  rw [UInt8.toNat_ofNat', Nat.mod_eq_of_lt h]

section

variable {b low high count : Nat} (bs : List UInt8)

/-- A lead byte opens a sequence. -/
theorem scalarsFrom_lead (hb : 0x80 ≤ b ∧ b < 256) (h : leadShape b = some (low, high, count)) :
    scalarsFrom none (UInt8.ofNat b :: bs)
      = scalarsFrom (some ⟨leadBits b count, count, low, high⟩) bs := by
  have hstart : start (UInt8.ofNat b) = .inr ⟨leadBits b count, count, low, high⟩ := by
    rw [start, toNat_ofNat hb.2, if_neg (by omega), h]
  rw [scalarsFrom, hstart]

theorem isContinuation_ofNat (h : low ≤ b ∧ b ≤ high) (hb : b < 256) :
    isContinuation low high (UInt8.ofNat b) = true := by
  rw [isContinuation, toNat_ofNat hb]
  simpa using h

/-- A continuation byte that is not the last. -/
theorem scalarsFrom_next {value missing : Nat} (h : low ≤ b ∧ b ≤ high) (hb : b < 256)
    (hmissing : 1 < missing) :
    scalarsFrom (some ⟨value, missing, low, high⟩) (UInt8.ofNat b :: bs)
      = scalarsFrom (some ⟨value * 64 + b % 64, missing - 1, 0x80, 0xbf⟩) bs := by
  rw [scalarsFrom, if_pos (isContinuation_ofNat h hb), toNat_ofNat hb]
  dsimp only
  rw [if_neg (by omega)]

/-- The last continuation byte. -/
theorem scalarsFrom_last {value : Nat} (h : low ≤ b ∧ b ≤ high) (hb : b < 256) :
    scalarsFrom (some ⟨value, 1, low, high⟩) (UInt8.ofNat b :: bs)
      = some (Char.ofNat (value * 64 + b % 64)) :: scalarsFrom none bs := by
  rw [scalarsFrom, if_pos (isContinuation_ofNat h hb), toNat_ofNat hb]
  rfl

end

/-- Two bytes. -/
theorem leadShape_two {n : Nat} (h : 127 < n ∧ n ≤ 2047) :
    leadShape (n / 64 % 32 + 192) = some (0x80, 0xbf, 1) := by
  rw [leadShape, if_pos (by simp; omega)]

/-- Three bytes; the bounds of the second leave out what is shorter, and the halves of pairs. -/
theorem leadShape_three {n : Nat} (h : 2047 < n ∧ n ≤ 65535) (hvalid : n < 0xd800 ∨ 0xdfff < n) :
    ∃ low high, leadShape (n / 4096 % 16 + 224) = some (low, high, 2) ∧
      low ≤ n / 64 % 64 + 128 ∧ n / 64 % 64 + 128 ≤ high := by
  unfold leadShape
  simp only [Bool.and_eq_true, decide_eq_true_eq, beq_iff_eq]
  split_ifs <;> first | omega | exact ⟨_, _, rfl, by omega, by omega⟩

/-- Four bytes; the bounds of the second leave out what is shorter, and what is no character. -/
theorem leadShape_four {n : Nat} (h : 65535 < n ∧ n < 0x110000) :
    ∃ low high, leadShape (n / 262144 % 8 + 240) = some (low, high, 3) ∧
      low ≤ n / 4096 % 64 + 128 ∧ n / 4096 % 64 + 128 ≤ high := by
  unfold leadShape
  simp only [Bool.and_eq_true, decide_eq_true_eq, beq_iff_eq]
  split_ifs <;> first | omega | exact ⟨_, _, rfl, by omega, by omega⟩

/-- **Characters read back** from their bytes. -/
theorem scalarsFrom_encodeChar (c : Char) (bs : List UInt8) :
    scalarsFrom none (String.utf8EncodeChar c ++ bs) = some c :: scalarsFrom none bs := by
  have hvalid : c.toNat < 0xd800 ∨ (0xdfff < c.toNat ∧ c.toNat < 0x110000) := c.valid
  have hc : Char.ofNat c.toNat = c := Char.ofNat_toNat c
  have hval : c.val.toNat = c.toNat := rfl
  rw [String.utf8EncodeChar, hval]
  generalize c.toNat = n at hvalid hc
  split_ifs with hone htwo hthree
  · have hstart : start (UInt8.ofNat n) = .inl (some (Char.ofNat n)) := by
      rw [start, toNat_ofNat (by omega), if_pos (by omega)]
    rw [List.singleton_append, scalarsFrom, hstart, hc]
  · rw [List.cons_append, List.singleton_append,
      scalarsFrom_lead _ (by omega) (leadShape_two (by omega)),
      scalarsFrom_last _ (by omega) (by omega)]
    have hvalue : leadBits (n / 64 % 32 + 192) 1 * 64 + (n % 64 + 128) % 64 = n := by
      show (n / 64 % 32 + 192) % 32 * 64 + _ = _
      omega
    rw [hvalue, hc]
  · obtain ⟨low, high, hlead, hsecond⟩ := leadShape_three (n := n) (by omega) (by omega)
    rw [List.cons_append, List.cons_append, List.singleton_append,
      scalarsFrom_lead _ (by omega) hlead, scalarsFrom_next _ hsecond (by omega) (by decide),
      scalarsFrom_last _ (by omega) (by omega)]
    have hvalue : (leadBits (n / 4096 % 16 + 224) 2 * 64 + (n / 64 % 64 + 128) % 64) * 64
        + (n % 64 + 128) % 64 = n := by
      show ((n / 4096 % 16 + 224) % 16 * 64 + _) * 64 + _ = _
      omega
    rw [hvalue, hc]
  · obtain ⟨low, high, hlead, hsecond⟩ := leadShape_four (n := n) (by omega)
    rw [List.cons_append, List.cons_append, List.cons_append, List.singleton_append,
      scalarsFrom_lead _ (by omega) hlead, scalarsFrom_next _ hsecond (by omega) (by decide),
      scalarsFrom_next _ (by omega) (by omega) (by decide), scalarsFrom_last _ (by omega) (by omega)]
    have hvalue : ((leadBits (n / 262144 % 8 + 240) 3 * 64 + (n / 4096 % 64 + 128) % 64) * 64
        + (n / 64 % 64 + 128) % 64) * 64 + (n % 64 + 128) % 64 = n := by
      show (((n / 262144 % 8 + 240) % 8 * 64 + _) * 64 + _) * 64 + _ = _
      omega
    rw [hvalue, hc]

/-- **Texts read back** from their bytes. -/
theorem scalars_encode (s : String) : scalars (encode s) = s.toList.map some := by
  rw [encode_eq, scalars]
  induction s.toList with
  | nil => rfl
  | cons c cs ih => rw [List.flatMap_cons, scalarsFrom_encodeChar, ih, List.map_cons]

/-! ### Texts in ASCII -/

theorem byteLength_of_ascii {cs : List Char} (h : ∀ c ∈ cs, c.utf8Size = 1) :
    byteLength cs = cs.length := by
  induction cs with
  | nil => rfl
  | cons c cs ih =>
      rw [byteLength, h c List.mem_cons_self, ih fun d hd => h d (List.mem_cons_of_mem c hd),
        List.length_cons, Nat.add_comm]

end Utf8

namespace Hex

theorem exists_digit_of_mem {width n : Nat} {c : Char} (h : c ∈ digits width n) :
    ∃ k < 16, c = digit k := by
  induction width generalizing n with
  | zero => cases h
  | succ width ih =>
      rw [digits, List.mem_append, List.mem_singleton] at h
      cases h with
      | inl h => exact ih h
      | inr h => exact ⟨n % 16, Nat.mod_lt _ (by decide), h⟩

/-- A hexadecimal digit is a character of ASCII, and no control. -/
theorem digit_ascii : ∀ n < 16, (digit n).utf8Size = 1 ∧ 0x20 ≤ (digit n).toNat := by decide

end Hex

end Outbox.Text
