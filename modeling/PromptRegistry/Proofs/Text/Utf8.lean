import PromptRegistry.Text.Utf8

/-!
# Texts as bytes and back

The bytes of a text read back as its characters, each of them whole.
-/

namespace PromptRegistry.Text.Utf8

-- ---------------------------------------------------------------------------
-- Bytes of a text
-- ---------------------------------------------------------------------------

theorem toList_loop (bytes : ByteArray) (i : Nat) (read : List UInt8) :
    ByteArray.toList.loop bytes i read = read.reverse ++ bytes.data.toList.drop i := by
  fun_induction ByteArray.toList.loop bytes i read with
  | case1 i read hi ih =>
    have hget : bytes.get! i = bytes.data[i]! := by cases bytes; rfl
    have hi' : i < bytes.data.toList.length := by simpa using hi
    rw [ih, List.drop_eq_getElem_cons hi', hget, getElem!_pos bytes.data i hi]
    simp
  | case2 i read hi =>
    rw [List.drop_eq_nil_of_le (by simpa using Nat.le_of_not_lt hi), List.append_nil]

theorem encode_eq_flatMap (s : String) : encode s = s.toList.flatMap String.utf8EncodeChar := by
  have hbytes : s.toUTF8.data.toList = s.toList.flatMap String.utf8EncodeChar := by
    conv => lhs; rw [← String.ofList_toList (s := s)]
    rw [String.toUTF8_eq_toByteArray, String.toByteArray_ofList]
    exact List.toList_data_toByteArray
  rw [encode, ByteArray.toList, toList_loop, hbytes]
  rfl

theorem length_encode_le (s : String) : (encode s).length ≤ 4 * s.toList.length := by
  rw [encode_eq_flatMap]
  induction s.toList with
  | nil => exact Nat.le_refl 0
  | cons c cs ih =>
    have hc : (String.utf8EncodeChar c).length ≤ 4 := by
      rw [String.length_utf8EncodeChar]
      exact c.utf8Size_le_four
    simp only [List.flatMap_cons, List.length_append, List.length_cons]
    omega

-- ---------------------------------------------------------------------------
-- Characters of the bytes
-- ---------------------------------------------------------------------------

section
variable {read : List (Option Char)} {low high point : Nat} {b : UInt8}

theorem step_more (h : low ≤ b.toNat ∧ b.toNat ≤ high) (owed : Nat) :
    Decoding.step ⟨read, .inside (owed + 2) low high point⟩ b =
      ⟨read, .inside (owed + 1) 0x80 0xBF (point * 64 + (b.toNat - 0x80))⟩ := by
  simp [Decoding.step, h]

theorem step_last (h : low ≤ b.toNat ∧ b.toNat ≤ high) :
    Decoding.step ⟨read, .inside 1 low high point⟩ b =
      ⟨some (Char.ofNat (point * 64 + (b.toNat - 0x80))) :: read, .between⟩ := by
  simp [Decoding.step, h]

end

/-- A first byte for three bytes; the second one keeps clear of shorter spellings and of halves of
characters. -/
theorem begin_three (read : List (Option Char)) {b : Nat} (h : 0xE0 ≤ b ∧ b ≤ 0xEF) :
    begin read b = ⟨read, .inside 2 (if b = 0xE0 then 0xA0 else 0x80)
      (if b = 0xED then 0x9F else 0xBF) (b - 0xE0)⟩ := by
  unfold begin
  rw [if_neg (by omega), if_neg (by omega)]
  by_cases h0 : b = 0xE0
  · simp [h0]
  · by_cases h1 : b = 0xED
    · simp [h1]
    · rw [if_neg h0, if_neg h1, if_pos (by omega), if_neg h0, if_neg h1]

theorem begin_four (read : List (Option Char)) {b : Nat} (h : 0xF0 ≤ b ∧ b ≤ 0xF4) :
    begin read b = ⟨read, .inside 3 (if b = 0xF0 then 0x90 else 0x80)
      (if b = 0xF4 then 0x8F else 0xBF) (b - 0xF0)⟩ := by
  unfold begin
  rw [if_neg (by omega), if_neg (by omega), if_neg (by omega), if_neg (by omega),
    if_neg (by omega)]
  by_cases h0 : b = 0xF0
  · simp [h0]
  · by_cases h1 : b = 0xF4
    · simp [h1]
    · rw [if_neg h0, if_neg h1, if_pos (by omega), if_neg h0, if_neg h1]

theorem toNat_following (n : Nat) : (UInt8.ofNat (n % 0x40 + 0x80)).toNat = n % 0x40 + 0x80 := by
  simp
  omega

theorem foldl_step_utf8EncodeChar (read : List (Option Char)) (c : Char) :
    (String.utf8EncodeChar c).foldl Decoding.step ⟨read, .between⟩ =
      ⟨some c :: read, .between⟩ := by
  have hvalid : c.toNat < 0xD800 ∨ 0xDFFF < c.toNat ∧ c.toNat < 0x110000 := c.valid
  have hc : Char.ofNat c.toNat = c := Char.ofNat_toNat c
  generalize hv : c.toNat = v at hvalid hc
  have hval : c.val.toNat = v := hv
  have h0 := toNat_following v
  have h1 := toNat_following (v / 64)
  have h2 := toNat_following (v / 4096)
  simp only [String.utf8EncodeChar, hval]
  split
  · have hb : (UInt8.ofNat v).toNat = v := by simp; omega
    simp only [List.foldl_cons, List.foldl_nil, Decoding.step, hb, begin]
    rw [if_pos (by omega), hc]
  split
  · have hb : (UInt8.ofNat (v / 64 % 0x20 + 0xC0)).toNat = v / 64 + 0xC0 := by simp; omega
    have hbegin : Decoding.step ⟨read, .between⟩ (UInt8.ofNat (v / 64 % 0x20 + 0xC0)) =
        ⟨read, .inside 1 0x80 0xBF (v / 64)⟩ := by
      simp only [Decoding.step, hb, begin]
      rw [if_neg (by omega), if_pos (by omega), Nat.add_sub_cancel]
    rw [List.foldl_cons, hbegin, List.foldl_cons, step_last (by omega), List.foldl_nil, h0,
      show v / 64 * 64 + (v % 0x40 + 0x80 - 0x80) = v by omega, hc]
  split
  · have hb : (UInt8.ofNat (v / 4096 % 0x10 + 0xE0)).toNat = v / 4096 + 0xE0 := by simp; omega
    have hbegin : Decoding.step ⟨read, .between⟩ (UInt8.ofNat (v / 4096 % 0x10 + 0xE0)) =
        begin read (v / 4096 + 0xE0) := by simp only [Decoding.step, hb]
    rw [List.foldl_cons, hbegin, begin_three read (by omega), List.foldl_cons,
      step_more (by rw [h1]; split <;> split <;> omega), List.foldl_cons, step_last (by omega),
      List.foldl_nil, h0, h1, show ((v / 4096 + 0xE0 - 0xE0) * 64 +
        (v / 64 % 0x40 + 0x80 - 0x80)) * 64 + (v % 0x40 + 0x80 - 0x80) = v by omega, hc]
  · have hb : (UInt8.ofNat (v / 262144 % 0x08 + 0xF0)).toNat = v / 262144 + 0xF0 := by
      simp; omega
    have hbegin : Decoding.step ⟨read, .between⟩ (UInt8.ofNat (v / 262144 % 0x08 + 0xF0)) =
        begin read (v / 262144 + 0xF0) := by simp only [Decoding.step, hb]
    rw [List.foldl_cons, hbegin, begin_four read (by omega), List.foldl_cons,
      step_more (by rw [h2]; split <;> split <;> omega), List.foldl_cons, step_more (by omega),
      List.foldl_cons, step_last (by omega), List.foldl_nil, h0, h1, h2,
      show (((v / 262144 + 0xF0 - 0xF0) * 64 + (v / 4096 % 0x40 + 0x80 - 0x80)) * 64 +
        (v / 64 % 0x40 + 0x80 - 0x80)) * 64 + (v % 0x40 + 0x80 - 0x80) = v by omega, hc]

theorem decode_encode (s : String) : decode (encode s) = s.toList.map some := by
  have hrun (cs : List Char) (read : List (Option Char)) :
      (cs.flatMap String.utf8EncodeChar).foldl Decoding.step ⟨read, .between⟩ =
        ⟨(cs.map some).reverse ++ read, .between⟩ := by
    induction cs generalizing read with
    | nil => rfl
    | cons c cs ih =>
      rw [List.flatMap_cons, List.foldl_append, foldl_step_utf8EncodeChar, ih]
      simp
  rw [decode, encode_eq_flatMap, hrun]
  simp [Decoding.finish]

end PromptRegistry.Text.Utf8
