/-!
Numbers of a fixed width in a given base, most significant digit first. Within
the width, writing and reading are inverse (`ofDigits_fixedDigits`,
`fixedDigits_ofDigits`).
-/

namespace Casework.Text

/-- The last `width` digits of a number. -/
def fixedDigits (base : Nat) : Nat → Nat → List Nat
  | 0, _ => []
  | width + 1, n => fixedDigits base width (n / base) ++ [n % base]

/-- The number that a list of digits stands for. -/
def ofDigits (base : Nat) (digits : List Nat) : Nat :=
  digits.foldl (fun n d => n * base + d) 0

@[simp] theorem length_fixedDigits (base width n : Nat) :
    (fixedDigits base width n).length = width := by
  induction width generalizing n with
  | zero => rfl
  | succ width ih => simp [fixedDigits, ih]

theorem fixedDigits_lt {base width n d : Nat} (positive : 0 < base)
    (member : d ∈ fixedDigits base width n) : d < base := by
  induction width generalizing n with
  | zero => simp [fixedDigits] at member
  | succ width ih =>
    rcases List.mem_append.1 member with inner | last
    · exact ih inner
    · rw [List.mem_singleton.1 last]
      exact Nat.mod_lt _ positive

theorem ofDigits_fixedDigits {base width n : Nat} (fits : n < base.pow width) :
    ofDigits base (fixedDigits base width n) = n := by
  induction width generalizing n with
  | zero =>
    have : n = 0 := by simpa [Nat.pow] using fits
    simp [fixedDigits, ofDigits, this]
  | succ width ih =>
    have smaller : n / base < base.pow width := by
      change n < base.pow width * base at fits
      exact Nat.div_lt_of_lt_mul (by rwa [Nat.mul_comm])
    have quotient := ih smaller
    unfold ofDigits at quotient ⊢
    rw [fixedDigits, List.foldl_append, quotient]
    simp only [List.foldl_cons, List.foldl_nil]
    rw [Nat.mul_comm]
    exact Nat.div_add_mod n base

theorem fixedDigits_ofDigits {base : Nat} {digits : List Nat} (small : ∀ d ∈ digits, d < base) :
    fixedDigits base digits.length (ofDigits base digits) = digits := by
  rcases Nat.eq_zero_or_pos base with none | positive
  · cases digits with
    | nil => rfl
    | cons d rest => exact absurd (small d List.mem_cons_self) (by simp [none])
  · rw [← List.reverse_reverse digits] at small ⊢
    generalize digits.reverse = reversed at small ⊢
    induction reversed with
    | nil => rfl
    | cons d rest ih =>
      have rest' := ih fun e member => small e (by simp at member ⊢; exact .inl member)
      have d' : d < base := small d (by simp)
      rw [List.reverse_cons] at *
      simp only [List.length_append, List.length_singleton, fixedDigits]
      unfold ofDigits at rest' ⊢
      rw [List.foldl_append]
      simp only [List.foldl_cons, List.foldl_nil]
      have quotient : (List.foldl (fun n d => n * base + d) 0 rest.reverse * base + d) / base =
          List.foldl (fun n d => n * base + d) 0 rest.reverse := by
        rw [Nat.mul_comm, Nat.mul_add_div positive, Nat.div_eq_of_lt d', Nat.add_zero]
      have rem : (List.foldl (fun n d => n * base + d) 0 rest.reverse * base + d) % base = d := by
        rw [Nat.mul_comm, Nat.mul_add_mod, Nat.mod_eq_of_lt d']
      rw [quotient, rem, rest']

/-- The character of a digit below sixteen. -/
def digitChar (n : Nat) : Char :=
  if n < 10 then Char.ofNat (0x30 + n) else Char.ofNat (0x57 + n)

/-- The number zero-padded to a width, in the given base. -/
def padded (base width n : Nat) : List Char := (fixedDigits base width n).map digitChar

/-- The value of a hexadecimal digit of either case. -/
def hexDigit? (c : Char) : Option Nat :=
  if c.isDigit then some (c.toNat - 0x30)
  else if 'a' ≤ c ∧ c ≤ 'f' then some (c.toNat - 0x57)
  else if 'A' ≤ c ∧ c ≤ 'F' then some (c.toNat - 0x37)
  else none

/-- The value of a decimal digit. -/
def digit? (c : Char) : Option Nat := if c.isDigit then some (c.toNat - 0x30) else none

theorem hexDigit?_digitChar : ∀ n < 16, hexDigit? (digitChar n) = some n := by decide

/-- The number of the decimal digits that come first, at most `limit` of them and at least one,
    and the characters behind them. -/
def readDecimal (limit : Nat) (cs : List Char) : Option (Nat × List Char) :=
  let digits := (cs.take limit).takeWhile Char.isDigit
  if digits.isEmpty then none
  else some (ofDigits 10 (digits.map fun c => c.toNat - 0x30), cs.drop digits.length)

end Casework.Text
