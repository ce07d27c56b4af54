import Mandate.Proofs.Text.Bytes
import Mandate.Text.Base64Url

/-! # Base64url is read back

The bytes of a text in base64url are those that were written, and the text has no dot in it.
-/

namespace Mandate.Text.Base64Url

theorem value?_symbol {n : Nat} (hn : n < 64) : value? (symbol n) = some n := by
  have hall : ∀ n < 64, value? (symbol n) = some n := by decide
  exact hall n hn

theorem symbol_ne_dot (n : Nat) : symbol n ≠ '.' := by
  by_cases hn : n < 64
  · have hall : ∀ n < 64, symbol n ≠ '.' := by decide
    exact hall n hn
  · have hlast : symbol n = '_' := by
      rw [symbol, if_neg (by omega), if_neg (by omega), if_neg (by omega), if_neg (by omega)]
    rw [hlast]
    decide

theorem ofNat_eq {n : Nat} {byte : UInt8} (hn : n = byte.toNat) : UInt8.ofNat n = byte := by
  rw [hn, UInt8.ofNat_toNat]

/-- The characters of some bytes are read as these bytes. -/
theorem decodeChars?_encodeChars (bytes : List UInt8) :
    decodeChars? (encodeChars bytes) = some bytes := by
  fun_induction encodeChars bytes with
  | case1 => rfl
  | case2 a =>
      have ha := a.toNat_lt
      have hfirst : UInt8.ofNat (a.toNat / 4 * 4 + a.toNat % 4 * 16 / 16) = a :=
        ofNat_eq (by omega)
      simp only [decodeChars?, value?_symbol (show a.toNat / 4 < 64 by omega),
        value?_symbol (show a.toNat % 4 * 16 < 64 by omega), Option.bind_eq_bind,
        Option.bind_some, Nat.mul_mod_left, ↓reduceIte, hfirst]
  | case3 a b =>
      have ha := a.toNat_lt
      have hb := b.toNat_lt
      have hfirst : UInt8.ofNat (a.toNat / 4 * 4 + (a.toNat % 4 * 16 + b.toNat / 16) / 16) = a :=
        ofNat_eq (by omega)
      have hsecond : UInt8.ofNat ((a.toNat % 4 * 16 + b.toNat / 16) % 16 * 16 +
          b.toNat % 16 * 4 / 4) = b := ofNat_eq (by omega)
      simp only [decodeChars?, value?_symbol (show a.toNat / 4 < 64 by omega),
        value?_symbol (show a.toNat % 4 * 16 + b.toNat / 16 < 64 by omega),
        value?_symbol (show b.toNat % 16 * 4 < 64 by omega), Option.bind_eq_bind,
        Option.bind_some, Nat.mul_mod_left, ↓reduceIte, hfirst, hsecond]
  | case4 a b c rest ih =>
      have ha := a.toNat_lt
      have hb := b.toNat_lt
      have hc := c.toNat_lt
      have hfirst : UInt8.ofNat (a.toNat / 4 * 4 + (a.toNat % 4 * 16 + b.toNat / 16) / 16) = a :=
        ofNat_eq (by omega)
      have hsecond : UInt8.ofNat ((a.toNat % 4 * 16 + b.toNat / 16) % 16 * 16 +
          (b.toNat % 16 * 4 + c.toNat / 64) / 4) = b := ofNat_eq (by omega)
      have hthird : UInt8.ofNat ((b.toNat % 16 * 4 + c.toNat / 64) % 4 * 64 +
          c.toNat % 64) = c := ofNat_eq (by omega)
      simp only [decodeChars?, value?_symbol (show a.toNat / 4 < 64 by omega),
        value?_symbol (show a.toNat % 4 * 16 + b.toNat / 16 < 64 by omega),
        value?_symbol (show b.toNat % 16 * 4 + c.toNat / 64 < 64 by omega),
        value?_symbol (show c.toNat % 64 < 64 by omega), ih, Option.bind_eq_bind,
        Option.bind_some, hfirst, hsecond, hthird]
      rfl

theorem decode?_encode (bytes : List UInt8) : decode? (encode bytes) = some bytes := by
  rw [decode?, encode, String.toList_ofList, decodeChars?_encodeChars]

/-- The text has no dot in it. -/
theorem dot_notMem_encodeChars (bytes : List UInt8) : '.' ∉ encodeChars bytes := by
  fun_induction encodeChars bytes with
  | case1 => exact List.not_mem_nil
  | case2 a => simp [(symbol_ne_dot _).symm]
  | case3 a b => simp [(symbol_ne_dot _).symm]
  | case4 a b c rest ih => simp [(symbol_ne_dot _).symm, ih]

theorem encodeChars_eq_nil_iff {bytes : List UInt8} : encodeChars bytes = [] ↔ bytes = [] := by
  fun_cases encodeChars bytes <;> simp

end Mandate.Text.Base64Url
