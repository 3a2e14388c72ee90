import PromptRegistry.Text.Base64Url

/-!
# Bytes written in base64 and back

Every sequence of bytes reads back from its written form, which holds letters, digits, `-` and `_`
only.
-/

namespace PromptRegistry.Text.Base64Url

theorem ofNat_eq {a : UInt8} {n : Nat} (h : n = a.toNat) : UInt8.ofNat n = a := by
  rw [h, UInt8.ofNat_toNat]

theorem decode?_encode (bytes : List UInt8) : decode? (encode bytes) = some bytes := by
  fun_induction encode bytes with
  | case1 => rfl
  | case2 a =>
    have ha := a.toNat_lt
    simp only [decode?, sextet?_sextetChar (n := a.toNat / 4) (by omega),
      sextet?_sextetChar (n := a.toNat % 4 * 16) (by omega), Option.bind_eq_bind,
      Option.bind_some]
    rw [if_pos (by omega), ofNat_eq (a := a) (by omega)]
  | case3 a b =>
    have ha := a.toNat_lt
    have hb := b.toNat_lt
    simp only [decode?, sextet?_sextetChar (n := a.toNat / 4) (by omega),
      sextet?_sextetChar (n := a.toNat % 4 * 16 + b.toNat / 16) (by omega),
      sextet?_sextetChar (n := b.toNat % 16 * 4) (by omega), Option.bind_eq_bind,
      Option.bind_some]
    rw [if_pos (by omega), ofNat_eq (a := a) (by omega), ofNat_eq (a := b) (by omega)]
  | case4 a b c rest ih =>
    have ha := a.toNat_lt
    have hb := b.toNat_lt
    have hc := c.toNat_lt
    simp only [decode?, ih, sextet?_sextetChar (n := a.toNat / 4) (by omega),
      sextet?_sextetChar (n := a.toNat % 4 * 16 + b.toNat / 16) (by omega),
      sextet?_sextetChar (n := b.toNat % 16 * 4 + c.toNat / 64) (by omega),
      sextet?_sextetChar (n := c.toNat % 64) (by omega), Option.bind_eq_bind, Option.bind_some]
    rw [ofNat_eq (a := a) (by omega), ofNat_eq (a := b) (by omega), ofNat_eq (a := c) (by omega)]

theorem encode_ne_nil {bytes : List UInt8} (h : bytes ≠ []) : encode bytes ≠ [] := by
  fun_cases encode bytes with
  | case1 => exact absurd rfl h
  | case2 => exact List.cons_ne_nil _ _
  | case3 => exact List.cons_ne_nil _ _
  | case4 => exact List.cons_ne_nil _ _

-- ---------------------------------------------------------------------------
-- The alphabet
-- ---------------------------------------------------------------------------

def IsWebSafe (c : Char) : Prop := c.isAlphanum = true ∨ c = '-' ∨ c = '_'

instance (c : Char) : Decidable (IsWebSafe c) := inferInstanceAs (Decidable (_ ∨ _))

theorem isWebSafe_sextetChar (n : Nat) : IsWebSafe (sextetChar n) := by
  by_cases h : n < 64
  · have hchar : ∀ n, n < 64 → IsWebSafe (sextetChar n) := by decide
    exact hchar n h
  · have hlast : sextetChar n = '_' := by grind [sextetChar]
    exact .inr (.inr hlast)

theorem isWebSafe_encode (bytes : List UInt8) : ∀ c ∈ encode bytes, IsWebSafe c := by
  fun_induction encode bytes with
  | case1 => simp
  | case2 | case3 => simp [isWebSafe_sextetChar]
  | case4 a b c rest ih => simpa [isWebSafe_sextetChar] using ih

end PromptRegistry.Text.Base64Url
