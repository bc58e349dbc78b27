import Mathlib.Data.List.Basic
import Mathlib.Tactic.IntervalCases
import Mathlib.Data.Nat.Digits

/-!
# Go text primitives

The `strings` and `strconv` functions the rescan utilities call, on the runes of a string:
`strings.HasPrefix`, `strings.TrimPrefix`, `strings.TrimSpace`, `strconv.Atoi`, and `%d`
formatting as `fmt.Sprintf` and `strconv.Itoa` do it.
-/

set_option autoImplicit false

namespace BlockCsi.Go

/-- `strings.HasPrefix`. -/
def hasPrefix (s pre : String) : Bool :=
  pre.data.isPrefixOf s.data

/-- `strings.TrimPrefix`: `s` without a leading `pre`, or `s` itself. -/
def trimPrefix (s pre : String) : String :=
  if hasPrefix s pre then ⟨s.data.drop pre.length⟩ else s

/-- `unicode.IsSpace`: the six ASCII spaces, U+0085, U+00A0 and the separators of category Z. -/
def isSpace (c : Char) : Bool :=
  c = '\t' || c = '\n' || c = '\x0b' || c = '\x0c' || c = '\r' || c = ' ' ||
  c = '\x85' || c = '\xa0' || c = '\u1680' || ('\u2000' ≤ c && c ≤ '\u200a') ||
  c = '\u2028' || c = '\u2029' || c = '\u202f' || c = '\u205f' || c = '\u3000'

/-- `strings.TrimSpace`: leading and trailing `unicode.IsSpace` runes removed. -/
def trimSpace (s : String) : String :=
  ⟨((s.data.dropWhile isSpace).reverse.dropWhile isSpace).reverse⟩

/-- The value of the ASCII digits `digits` read after `acc`; `none` at the first other rune. -/
def digitsValue (acc : Nat) : List Char → Option Nat
  | [] => some acc
  | c :: digits => if c.isDigit then digitsValue (10 * acc + (c.toNat - '0'.toNat)) digits else none

/-- `strconv.Atoi` for a 64-bit `int`: an optional sign and at least one ASCII digit, the value
in range; `none` stands for the `*NumError`. -/
def atoi (s : String) : Option Int :=
  let (negative, digits) := match s.data with
    | '-' :: digits => (true, digits)
    | '+' :: digits => (false, digits)
    | digits => (false, digits)
  if digits = [] then none else
    (digitsValue 0 digits).bind fun n =>
      if negative then (if n ≤ 2 ^ 63 then some (-(n : Int)) else none)
      else if n < 2 ^ 63 then some (n : Int) else none

/-- `strconv.Itoa`, and `%d` of an `int`: decimal, with a leading `-` when negative. -/
def itoa (n : Int) : String :=
  toString n

@[simp] theorem hasPrefix_append (pre rest : String) : hasPrefix (pre ++ rest) pre = true := by
  simp [hasPrefix]

theorem hasPrefix_iff {s pre : String} : hasPrefix s pre = true ↔ ∃ rest, s = pre ++ rest := by
  simp only [hasPrefix, List.isPrefixOf_iff_prefix, List.IsPrefix, String.ext_iff,
    String.data_append]
  exact ⟨fun ⟨rest, joined⟩ => ⟨⟨rest⟩, joined.symm⟩, fun ⟨rest, joined⟩ => ⟨rest.data, joined.symm⟩⟩

@[simp] theorem trimPrefix_append (pre rest : String) : trimPrefix (pre ++ rest) pre = rest := by
  obtain ⟨pre⟩ := pre
  obtain ⟨rest⟩ := rest
  simp only [trimPrefix, hasPrefix_append, ite_true, String.length, String.data_append,
    List.drop_left]

/-- Decimal digits of a natural number are ASCII digits, at least one of them. -/
theorem itoa_natCast_digits (n : Nat) :
    (itoa n).data ≠ [] ∧ ∀ c ∈ (itoa n).data, c.isDigit = true := by
  have digit (d : Nat) (small : d < 10) : (Nat.digitChar d).isDigit = true := by
    interval_cases d <;> rfl
  have core (fuel : Nat) : ∀ (m : Nat) (ds : List Char), (∀ c ∈ ds, c.isDigit = true) →
      Nat.toDigitsCore 10 (fuel + 1) m ds ≠ [] ∧
        ∀ c ∈ Nat.toDigitsCore 10 (fuel + 1) m ds, c.isDigit = true := by
    induction fuel with
    | zero =>
      intro m ds digits
      simp only [Nat.toDigitsCore]
      split <;> simp_all [digit _ (Nat.mod_lt m (by decide))]
    | succ fuel ih =>
      intro m ds digits
      simp only [Nat.toDigitsCore] at ih ⊢
      split
      · simp_all [digit _ (Nat.mod_lt m (by decide))]
      · exact ih _ _ (by simp_all [digit _ (Nat.mod_lt m (by decide))])
  exact core n n [] (by simp)

theorem not_mem_of_digits {s : List Char} (digits : ∀ c ∈ s, c.isDigit = true) (c : Char)
    (notDigit : c.isDigit = false) : c ∉ s :=
  fun member => by simp [digits c member] at notDigit

end BlockCsi.Go
