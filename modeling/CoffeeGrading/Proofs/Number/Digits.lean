import CoffeeGrading.Text.Quoted

/-!
Numbers written with a fixed number of digits.  The digits are worth the number again, as long as
there are enough of them.
-/

namespace CoffeeGrading

/-- The last digits of a number, as many as the width says. -/
def lastDigits (base : Nat) : Nat → Nat → List Char
  | 0, _ => []
  | width + 1, value => lastDigits base width (value / base) ++ [Nat.digitChar (value % base)]

theorem hexDigits_eq_lastDigits (width value : Nat) :
    Text.hexDigits width value = lastDigits 16 width value := by
  induction width generalizing value with
  | zero => rfl
  | succ width ih => rw [Text.hexDigits, lastDigits, ih]

theorem length_lastDigits (base width value : Nat) :
    (lastDigits base width value).length = width := by
  induction width generalizing value with
  | zero => rfl
  | succ width ih => rw [lastDigits, List.length_append, ih, List.length_singleton]

theorem digit_of_mem_lastDigits {base width value : Nat} (positive : 0 < base) {character : Char}
    (listed : character ∈ lastDigits base width value) :
    ∃ digit < base, character = Nat.digitChar digit := by
  induction width generalizing value with
  | zero => exact absurd listed List.not_mem_nil
  | succ width ih =>
      rcases List.mem_append.1 listed with earlier | last
      · exact ih earlier
      · exact ⟨value % base, Nat.mod_lt _ positive, List.mem_singleton.1 last⟩

theorem foldl_lastDigits {base : Nat} {worth : Char → Nat} (positive : 0 < base)
    (worth_digit : ∀ digit < base, worth (Nat.digitChar digit) = digit) (width value : Nat) :
    (lastDigits base width value).foldl (fun sum digit => sum * base + worth digit) 0 =
      value % Nat.pow base width := by
  -- the last digit is cut off the number, so that the induction is over all values
  induction width generalizing value with
  | zero => exact (Nat.mod_one value).symm
  | succ width ih =>
      have last := worth_digit (value % base) (Nat.mod_lt _ positive)
      have power : Nat.pow base (width + 1) = base * Nat.pow base width := Nat.mul_comm _ _
      rw [lastDigits, List.foldl_append, ih, List.foldl_cons, List.foldl_nil, last, power,
        Nat.mod_mul, Nat.mul_comm, Nat.add_comm]

theorem lastDigits_succ (base width value : Nat) :
    lastDigits base (width + 1) value =
      Nat.digitChar (value / Nat.pow base width % base) :: lastDigits base width value := by
  induction width generalizing value with
  | zero => exact congrArg (fun digit => [Nat.digitChar (digit % base)]) (Nat.div_one value).symm
  | succ width ih =>
      have power : Nat.pow base (width + 1) = base * Nat.pow base width := Nat.mul_comm _ _
      rw [lastDigits, ih, power, ← Nat.div_div_eq_div_mul]
      rfl

theorem lastDigits_zero (width : Nat) : lastDigits 10 width 0 = List.replicate width '0' := by
  induction width with
  | zero => rfl
  | succ width ih =>
      rw [lastDigits, Nat.zero_div, ih, List.replicate_succ']
      rfl

theorem replicate_append_toDigits {width value : Nat} (small : value < Nat.pow 10 (width + 1)) :
    List.replicate (width + 1 - (Nat.toDigits 10 value).length) '0' ++ Nat.toDigits 10 value =
      lastDigits 10 (width + 1) value := by
  induction width generalizing value with
  | zero =>
      have digit : value < 10 := small
      rw [Nat.toDigits_of_lt_base digit, lastDigits, Nat.mod_eq_of_lt digit]
      rfl
  | succ width ih =>
      by_cases digit : value < 10
      · rw [Nat.toDigits_of_lt_base digit, lastDigits, Nat.div_eq_of_lt digit, lastDigits_zero,
          Nat.mod_eq_of_lt digit]
        rfl
      · have shorter : value / 10 < Nat.pow 10 (width + 1) :=
          Nat.div_lt_of_lt_mul (Nat.mul_comm _ _ ▸ small)
        rw [Nat.toDigits_of_base_le (by decide) (Nat.not_lt.1 digit), lastDigits, ← ih shorter,
          List.length_append, List.length_singleton, Nat.add_sub_add_right, List.append_assoc]

end CoffeeGrading
