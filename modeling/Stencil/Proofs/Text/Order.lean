import Stencil.Proofs.Text.Utf8

/-!
# Texts are ordered as their octets

Texts are compared character by character, and a character with a greater
number has greater octets.  The order of the texts is therefore the order of
the octets that they are written with.
-/

namespace Stencil.Text

/-- The greater of two numbers is greater before its last digit of six bits, or
only in it. -/
private theorem div_lt_or_mod_lt {m n : Nat} (below : m < n) :
    m / 64 < n / 64 ∨ m / 64 = n / 64 ∧ m % 64 < n % 64 := by
  omega

/-- Numbers are compared by their digits of six bits, the first one first. -/
private theorem digits_lt {m n : Nat} (below : m < n) :
    m / 262144 < n / 262144 ∨ m / 262144 = n / 262144 ∧
      (m / 4096 % 64 < n / 4096 % 64 ∨ m / 4096 % 64 = n / 4096 % 64 ∧
        (m / 64 % 64 < n / 64 % 64 ∨ m / 64 % 64 = n / 64 % 64 ∧ m % 64 < n % 64)) := by
  have second : m / 64 / 64 = m / 4096 ∧ n / 64 / 64 = n / 4096 := by omega
  have third : m / 4096 / 64 = m / 262144 ∧ n / 4096 / 64 = n / 262144 := by omega
  rcases div_lt_or_mod_lt below with upper | lower
  · rcases div_lt_or_mod_lt upper with upper | lower
    · rw [second.1, second.2] at upper
      rcases div_lt_or_mod_lt upper with upper | lower
      · left
        omega
      · omega
    · omega
  · omega

private theorem cons_lt_cons {m n : Nat} (small : m < 256) (otherSmall : n < 256)
    {rest others : List UInt8} (below : m < n ∨ m = n ∧ rest < others) :
    UInt8.ofNat m :: rest < UInt8.ofNat n :: others := by
  rw [List.cons_lt_cons_iff, UInt8.lt_iff_toNat_lt, UInt8.toNat_ofNat_of_lt' small,
    UInt8.toNat_ofNat_of_lt' otherSmall]
  rcases below with below | ⟨rfl, below⟩
  · exact .inl below
  · exact .inr ⟨rfl, below⟩

private theorem four_octets_lt {m n : Nat} (below : m < n) (bound : n < 0x110000)
    (rest others : List UInt8) :
    UInt8.ofNat (m / 262144 % 8 + 240) :: UInt8.ofNat (m / 4096 % 64 + 128) ::
        UInt8.ofNat (m / 64 % 64 + 128) :: UInt8.ofNat (m % 64 + 128) :: rest <
      UInt8.ofNat (n / 262144 % 8 + 240) :: UInt8.ofNat (n / 4096 % 64 + 128) ::
        UInt8.ofNat (n / 64 % 64 + 128) :: UInt8.ofNat (n % 64 + 128) :: others := by
  apply cons_lt_cons (by omega) (by omega)
  rcases digits_lt below with first | ⟨same, more⟩
  · left
    omega
  · refine .inr ⟨by rw [same], cons_lt_cons (by omega) (by omega) ?_⟩
    rcases more with second | ⟨same, more⟩
    · exact .inl (Nat.add_lt_add_right second 128)
    · refine .inr ⟨by rw [same], cons_lt_cons (by omega) (by omega) ?_⟩
      rcases more with third | ⟨same, last⟩
      · exact .inl (Nat.add_lt_add_right third 128)
      · refine .inr ⟨by rw [same], cons_lt_cons (by omega) (by omega) ?_⟩
        exact .inl (Nat.add_lt_add_right last 128)

/-- The octets of a character are below those of a greater one, whatever follows. -/
theorem encodeChar_lt {c d : Char} (below : c < d) (rest others : List UInt8) :
    String.utf8EncodeChar c ++ rest < String.utf8EncodeChar d ++ others := by
  have numbers : c.val.toNat < d.val.toNat := below
  have bound : d.val.toNat < 0x110000 := by
    have valid := d.valid
    simp only [UInt32.isValidChar, Nat.isValidChar] at valid
    omega
  unfold String.utf8EncodeChar
  generalize c.val.toNat = m at numbers
  generalize d.val.toNat = n at numbers bound
  by_cases wide : m ≤ 65535
  · simp only
    split_ifs <;>
      simp only [List.cons_append, List.nil_append, List.cons_lt_cons_iff,
        UInt8.lt_iff_toNat_lt, ← UInt8.toNat_inj, UInt8.toNat_ofNat'] <;>
      omega
  · simp only
    rw [if_neg (by omega), if_neg (by omega), if_neg wide, if_neg (by omega), if_neg (by omega),
      if_neg (by omega)]
    exact four_octets_lt numbers bound rest others

/-- The order of texts is the order of their octets. -/
theorem octets_lt {first second : String} (below : first < second) :
    octets first < octets second := by
  have chars : first.toList < second.toList := below
  unfold octets
  generalize first.toList = left at chars
  generalize second.toList = right at chars
  induction left generalizing right with
  | nil =>
    cases right with
    | nil => exact absurd chars (List.not_lt_nil [])
    | cons d others =>
      rw [List.flatMap_cons]
      unfold String.utf8EncodeChar
      simp only
      split_ifs <;> exact List.nil_lt_cons _ _
  | cons c rest ih =>
    cases right with
    | nil => exact absurd chars (List.not_lt_nil (c :: rest))
    | cons d others =>
      rcases List.cons_lt_cons_iff.mp chars with lower | ⟨rfl, later⟩
      · exact encodeChar_lt lower _ _
      · exact List.append_left_lt (ih others later)

end Stencil.Text
