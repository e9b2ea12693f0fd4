/-!
# Hexadecimal text

Octets are written as two lower-case digits each.
-/

namespace Stencil.Digest

/-- The digit for a number below sixteen. -/
def hexDigit (n : Nat) : Char :=
  if n < 10 then Char.ofNat (48 + n) else Char.ofNat (87 + n)

/-- The value of a hexadecimal digit of either case. -/
def hexValue? (c : Char) : Option Nat :=
  if '0' ≤ c ∧ c ≤ '9' then some (c.toNat - 48)
  else if 'a' ≤ c ∧ c ≤ 'f' then some (c.toNat - 87)
  else if 'A' ≤ c ∧ c ≤ 'F' then some (c.toNat - 55)
  else none

/-- Octets as hexadecimal digits. -/
def hex (content : List UInt8) : List Char :=
  content.flatMap fun octet => [hexDigit (octet.toNat / 16), hexDigit (octet.toNat % 16)]

/-- The octets that hexadecimal digits spell. -/
def ofHex? : List Char → Option (List UInt8)
  | [] => some []
  | [_] => none
  | high :: low :: rest => do
    let h ← hexValue? high
    let l ← hexValue? low
    let content ← ofHex? rest
    return UInt8.ofNat (16 * h + l) :: content

theorem hexValue?_hexDigit : ∀ n : Fin 16, hexValue? (hexDigit n) = some n.val := by
  decide

/-- The digits of octets spell these octets. -/
theorem ofHex?_hex (content : List UInt8) : ofHex? (hex content) = some content := by
  induction content with
  | nil => rfl
  | cons octet rest ih =>
    have bound : octet.toNat < 256 := octet.toNat_lt
    have high := hexValue?_hexDigit ⟨octet.toNat / 16, by omega⟩
    have low := hexValue?_hexDigit ⟨octet.toNat % 16, by omega⟩
    have digits : UInt8.ofNat (16 * (octet.toNat / 16) + octet.toNat % 16) = octet := by
      rw [Nat.div_add_mod]
      exact UInt8.ofNat_toNat
    have spelled : ofHex? (hex (octet :: rest)) =
        some (UInt8.ofNat (16 * (octet.toNat / 16) + octet.toNat % 16) :: rest) := by
      simp only [hex, List.flatMap_cons, List.cons_append, List.nil_append, ofHex?] at ih ⊢
      rw [high, low, ih]
      rfl
    rw [spelled, digits]

end Stencil.Digest
