import PromptRegistry.Proofs.Text.Utf8

/-!
# The order of bytes

Texts in the order of their characters are in the order of their bytes (`encode_lt`).
-/

namespace PromptRegistry.Text.Utf8

theorem ofNat_cons_lt {x y : Nat} {as bs : List UInt8} (hxy : x ≤ y ∧ y < 256)
    (h : x = y → as < bs) : UInt8.ofNat x :: as < UInt8.ofNat y :: bs := by
  rw [List.cons_lt_cons_iff]
  by_cases heq : x = y
  · exact .inr ⟨congrArg _ heq, h heq⟩
  · refine .inl ?_
    rw [UInt8.lt_iff_toNat_lt, UInt8.toNat_ofNat', UInt8.toNat_ofNat']
    omega

/-- A longer spelling begins with a greater byte; in spellings of one length the first digits that
differ decide. -/
theorem utf8EncodeChar_append_lt {c d : Char} (h : c < d) (as bs : List UInt8) :
    String.utf8EncodeChar c ++ as < String.utf8EncodeChar d ++ bs := by
  have hd : d.val.toNat < 0x110000 := by
    have hvalid : d.toNat < 0xD800 ∨ 0xDFFF < d.toNat ∧ d.toNat < 0x110000 := d.valid
    show d.toNat < 0x110000
    omega
  have hlt : c.val.toNat < d.val.toNat := h
  simp only [String.utf8EncodeChar]
  generalize c.val.toNat = v at hlt
  generalize d.val.toNat = w at hlt hd
  -- the last bytes, the last two and the last three, where the digits before them are equal
  have hone (h : w / 64 = v / 64) :
      UInt8.ofNat (v % 64 + 128) :: as < UInt8.ofNat (w % 64 + 128) :: bs :=
    ofNat_cons_lt (by omega) fun heq => absurd heq (by omega)
  have htwo (h : w / 4096 = v / 4096) :
      UInt8.ofNat (v / 64 % 64 + 128) :: UInt8.ofNat (v % 64 + 128) :: as <
        UInt8.ofNat (w / 64 % 64 + 128) :: UInt8.ofNat (w % 64 + 128) :: bs :=
    ofNat_cons_lt (by omega) fun heq => hone (by omega)
  have hthree (h : w / 262144 = v / 262144) :
      UInt8.ofNat (v / 4096 % 64 + 128) :: UInt8.ofNat (v / 64 % 64 + 128) ::
          UInt8.ofNat (v % 64 + 128) :: as <
        UInt8.ofNat (w / 4096 % 64 + 128) :: UInt8.ofNat (w / 64 % 64 + 128) ::
          UInt8.ofNat (w % 64 + 128) :: bs :=
    ofNat_cons_lt (by omega) fun heq => htwo (by omega)
  split
  · split
    · exact ofNat_cons_lt (by omega) fun heq => absurd heq (by omega)
    split
    · exact ofNat_cons_lt (by omega) fun heq => absurd heq (by omega)
    split <;> exact ofNat_cons_lt (by omega) fun heq => absurd heq (by omega)
  split
  · rw [if_neg (show ¬w ≤ 0x7f by omega)]
    split
    · exact ofNat_cons_lt (by omega) fun heq => hone (by omega)
    split <;> exact ofNat_cons_lt (by omega) fun heq => absurd heq (by omega)
  split
  · rw [if_neg (show ¬w ≤ 0x7f by omega), if_neg (show ¬w ≤ 0x7ff by omega)]
    split
    · exact ofNat_cons_lt (by omega) fun heq => htwo (by omega)
    · exact ofNat_cons_lt (by omega) fun heq => absurd heq (by omega)
  · rw [if_neg (show ¬w ≤ 0x7f by omega), if_neg (show ¬w ≤ 0x7ff by omega),
      if_neg (show ¬w ≤ 0xffff by omega)]
    exact ofNat_cons_lt (by omega) fun heq => hthree (by omega)

theorem utf8EncodeChar_flatMap_lt {cs ds : List Char} (h : cs < ds) :
    cs.flatMap String.utf8EncodeChar < ds.flatMap String.utf8EncodeChar := by
  induction cs generalizing ds with
  | nil =>
    cases ds with
    | nil => exact absurd h (List.lt_irrefl _)
    | cons d ds =>
      obtain ⟨b, bs, hb⟩ := List.exists_cons_of_ne_nil (String.utf8EncodeChar_ne_nil (c := d))
      rw [List.flatMap_cons, hb]
      exact List.nil_lt_cons ..
  | cons c cs ih =>
    cases ds with
    | nil => cases h
    | cons d ds =>
      rw [List.flatMap_cons, List.flatMap_cons]
      rcases List.cons_lt_cons_iff.1 h with hlt | ⟨rfl, hlt⟩
      · exact utf8EncodeChar_append_lt hlt _ _
      · exact List.append_left_lt (ih hlt)

theorem encode_lt {s t : String} (h : s < t) : encode s < encode t := by
  rw [encode_eq_flatMap, encode_eq_flatMap]
  exact utf8EncodeChar_flatMap_lt h

end PromptRegistry.Text.Utf8
