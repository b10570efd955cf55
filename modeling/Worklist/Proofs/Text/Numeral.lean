import Mathlib.Algebra.Group.Nat.Defs
import Mathlib.Tactic.ByContra
import Worklist.Text.Numeral

/-!
# Decimal texts read back

The decimal text of a number is read as that number, and a signed word is the word of the integer
it stands for. Decimal texts consist of digits only, so that no sign is found in front of them.
-/

namespace Worklist.Text

theorem digit?_digitChar {d : Nat} (h : d < 10) : digit? d.digitChar = some d := by
  have hAll : ∀ m : Fin 10, digit? (Nat.digitChar m) = some m.val := by decide
  exact hAll ⟨d, h⟩

theorem digitsFrom?_append (acc : Nat) (xs ys : List Char) :
    digitsFrom? acc (xs ++ ys) = (digitsFrom? acc xs).bind fun n => digitsFrom? n ys := by
  induction xs generalizing acc with
  | nil => rfl
  | cons c cs ih =>
    simp only [List.cons_append, digitsFrom?]
    cases digit? c with
    | none => rfl
    | some d => exact ih _

theorem decimal_of_lt {n : Nat} (h : n < 10) : decimal n = [n.digitChar] :=
  Nat.toDigits_of_lt_base h

theorem decimal_of_ge {n : Nat} (h : 10 ≤ n) :
    decimal n = decimal (n / 10) ++ [(n % 10).digitChar] :=
  Nat.toDigits_of_base_le (by decide) h

theorem decimal_ne_nil (n : Nat) : decimal n ≠ [] :=
  Nat.toDigits_ne_nil

theorem isDigit_of_mem_decimal {n : Nat} {c : Char} (h : c ∈ decimal n) : c.isDigit = true :=
  Nat.isDigit_of_mem_toDigits (by decide) (by decide) h

theorem digitsFrom?_decimal (n : Nat) : digitsFrom? 0 (decimal n) = some n := by
  induction n using Nat.strongRecOn with
  | ind n ih =>
    by_cases hn : n < 10
    · rw [decimal_of_lt hn]
      simp [digitsFrom?, digit?_digitChar hn]
    · have hLt : n / 10 < n := by omega
      have hMod : n % 10 < 10 := by omega
      rw [decimal_of_ge (by omega), digitsFrom?_append, ih _ hLt]
      simp only [Option.bind_some, digitsFrom?, digit?_digitChar hMod]
      congr 1
      omega

theorem natural?_decimal (n : Nat) : natural? (decimal n) = some n := by
  have hDigits := digitsFrom?_decimal n
  cases hd : decimal n with
  | nil => exact absurd hd (decimal_ne_nil n)
  | cons c cs =>
    rw [hd] at hDigits
    exact hDigits

theorem decimal_injective {m n : Nat} (h : decimal m = decimal n) : m = n := by
  have hRead := congrArg natural? h
  rw [natural?_decimal, natural?_decimal] at hRead
  exact Option.some.inj hRead

/-- A sign stands at most in front. -/
theorem isDigit_of_mem_tail_decimalInt {n : Int} {c : Char} (h : c ∈ (decimalInt n).tail) :
    c.isDigit = true := by
  cases n with
  | ofNat n => exact isDigit_of_mem_decimal (List.mem_of_mem_tail h)
  | negSucc n => exact isDigit_of_mem_decimal h

theorem mem_decimalInt {n : Int} {c : Char} (h : c ∈ decimalInt n) :
    c = '-' ∨ c.isDigit = true := by
  cases n with
  | ofNat n => exact .inr (isDigit_of_mem_decimal h)
  | negSucc n => exact (List.mem_cons.mp h).imp_right isDigit_of_mem_decimal

theorem decimalInt_injective {m n : Int} (h : decimalInt m = decimalInt n) : m = n := by
  have hSign : ∀ k l : Nat, decimal k ≠ '-' :: decimal l := by
    intro k l hEq
    have hDigit : '-'.isDigit = true := isDigit_of_mem_decimal (hEq ▸ List.mem_cons_self)
    exact absurd hDigit (by decide)
  cases m with
  | ofNat m =>
    cases n with
    | ofNat n => exact congrArg Int.ofNat (decimal_injective h)
    | negSucc n => exact absurd h (hSign _ _)
  | negSucc m =>
    cases n with
    | ofNat n => exact absurd h.symm (hSign _ _)
    | negSucc n => exact congrArg Int.negSucc (Nat.succ.inj (decimal_injective (List.cons.inj h).2))

theorem length_decimal_le {width n : Nat} (hWidth : 0 < width) (h : n < 10 ^ width) :
    (decimal n).length ≤ width := by
  induction width generalizing n with
  | zero => cases hWidth
  | succ width ih =>
    by_cases hn : n < 10
    · rw [decimal_of_lt hn, List.length_singleton]
      omega
    · have hPos : 0 < width := by
        by_contra hZero
        obtain rfl : width = 0 := by omega
        omega
      have hShort : n / 10 < 10 ^ width := by
        rw [Nat.pow_succ] at h
        omega
      rw [decimal_of_ge (by omega), List.length_append, List.length_singleton]
      exact Nat.succ_le_succ (ih hPos hShort)

theorem length_padded {width n : Nat} (hWidth : 0 < width) (h : n < 10 ^ width) :
    (padded width n).length = width := by
  have hLength := length_decimal_le hWidth h
  rw [padded, List.length_append, List.length_replicate]
  omega

theorem isDigit_of_mem_padded (width n : Nat) : ∀ c ∈ padded width n, c.isDigit = true := by
  intro c hc
  rcases List.mem_append.mp hc with hc | hc
  · rw [List.eq_of_mem_replicate hc]
    rfl
  · exact isDigit_of_mem_decimal hc

theorem digitsFrom?_zeros (k : Nat) (cs : List Char) :
    digitsFrom? 0 (List.replicate k '0' ++ cs) = digitsFrom? 0 cs := by
  induction k with
  | zero => rfl
  | succ k ih => simpa [List.replicate_succ, digitsFrom?, digit?] using ih

theorem digitsFrom?_padded (width n : Nat) : digitsFrom? 0 (padded width n) = some n := by
  rw [padded, digitsFrom?_zeros, digitsFrom?_decimal]

/-- A text without a sign in front is read by its digits alone. -/
theorem int64?_of_digits {cs : List Char} (h : ∀ c ∈ cs, c.isDigit = true) :
    int64? cs = (natural? cs).bind fun n => toInt64? n := by
  cases cs with
  | nil => rfl
  | cons c rest =>
    have hc := h c List.mem_cons_self
    unfold int64?
    split
    · rename_i heq
      cases heq
      simp at hc
    · rename_i heq
      cases heq
      simp at hc
    · rfl

theorem int64?_decimal {n : Nat} (h : n ≤ maxInt64) :
    int64? (decimal n) = some (Int64.ofInt n) := by
  have hRange : -0x8000000000000000 ≤ (n : Int) ∧ (n : Int) ≤ 0x7fffffffffffffff := by
    unfold maxInt64 at h
    omega
  rw [int64?_of_digits fun c hc => isDigit_of_mem_decimal hc, natural?_decimal]
  simp only [Option.bind_some, toInt64?, if_pos hRange]

theorem toInt64?_toInt (n : Int64) : toInt64? n.toInt = some n := by
  have hLow := n.le_toInt
  have hHigh := n.toInt_lt
  have hRange : -0x8000000000000000 ≤ n.toInt ∧ n.toInt ≤ 0x7fffffffffffffff := by
    omega
  rw [toInt64?, if_pos hRange, Int64.ofInt_toInt]

end Worklist.Text
