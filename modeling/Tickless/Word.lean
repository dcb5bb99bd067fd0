/-!
# Words and their arithmetic

Counters, reload values and durations are 32- and 64-bit words. Three kinds of arithmetic meet on
them. A counter that wraps uses the operations of `UInt32` and `UInt64` themselves. A budget stops
at its bounds: the operations of `Saturating`. Everything else is `Checked`: a result that does not
fit is an `ArithError` and not a number.

Both families are defined once for every `Word`, through the natural number that a word stands for,
so that a law about them is a law about `Nat`.
-/

namespace Tickless

/-- The reasons why a checked operation has no result. -/
inductive ArithError where
  /-- A sum is too large for its word. -/
  | addOverflow
  /-- A difference is below zero. -/
  | subOverflow
  /-- A product is too large for its word. -/
  | mulOverflow
  /-- A divisor is zero. -/
  | divByZero
deriving DecidableEq

/-- The report made for an arithmetic error. -/
def ArithError.message : ArithError → String
  | .addOverflow => "attempt to add with overflow"
  | .subOverflow => "attempt to subtract with overflow"
  | .mulOverflow => "attempt to multiply with overflow"
  | .divByZero => "attempt to divide by zero"

/-- A type of words: the natural numbers below a fixed size. -/
class Word (w : Type) where
  /-- The number of words. -/
  size : Nat
  /-- The number that a word stands for. -/
  toNat : w → Nat
  /-- The word that stands for a number below the size. -/
  ofNat : Nat → w
  /-- There is a word. -/
  size_pos : 0 < size
  /-- A word stands for a number below the size. -/
  toNat_lt : ∀ a, toNat a < size
  /-- A number below the size is kept. -/
  toNat_ofNat : ∀ n, n < size → toNat (ofNat n) = n
  /-- A word is known by its number. -/
  ofNat_toNat : ∀ a, ofNat (toNat a) = a

instance : Word UInt32 where
  size := UInt32.size
  toNat := UInt32.toNat
  ofNat := UInt32.ofNat
  size_pos := by decide
  toNat_lt := UInt32.toNat_lt_size
  toNat_ofNat _ h := UInt32.toNat_ofNat_of_lt h
  ofNat_toNat _ := UInt32.ofNat_toNat

instance : Word UInt64 where
  size := UInt64.size
  toNat := UInt64.toNat
  ofNat := UInt64.ofNat
  size_pos := by decide
  toNat_lt := UInt64.toNat_lt_size
  toNat_ofNat _ h := UInt64.toNat_ofNat_of_lt h
  ofNat_toNat _ := UInt64.ofNat_toNat

/-! ## The two widths -/

@[simp] theorem toNat_word32 (a : UInt32) : Word.toNat a = a.toNat := rfl

@[simp] theorem ofNat_word32 (n : Nat) : (Word.ofNat n : UInt32) = UInt32.ofNat n := rfl

@[simp] theorem toNat_word64 (a : UInt64) : Word.toNat a = a.toNat := rfl

@[simp] theorem ofNat_word64 (n : Nat) : (Word.ofNat n : UInt64) = UInt64.ofNat n := rfl

variable {w : Type} [Word w]

/-! ## Checked operations -/

namespace Checked

/-- The word for `n`, or `error` when `n` does not fit. -/
def fit (error : ArithError) (n : Nat) : Except ArithError w :=
  if n < Word.size w then .ok (Word.ofNat n) else .error error

/-- The sum of two words. -/
def add (a b : w) : Except ArithError w :=
  fit .addOverflow (Word.toNat a + Word.toNat b)

/-- The difference of two words. -/
def sub (a b : w) : Except ArithError w :=
  if Word.toNat b ≤ Word.toNat a then .ok (Word.ofNat (Word.toNat a - Word.toNat b))
  else .error .subOverflow

/-- The product of two words. -/
def mul (a b : w) : Except ArithError w :=
  fit .mulOverflow (Word.toNat a * Word.toNat b)

/-- The quotient of two words, rounded down. -/
def div (a b : w) : Except ArithError w :=
  if Word.toNat b = 0 then .error .divByZero
  else .ok (Word.ofNat (Word.toNat a / Word.toNat b))

/-- A number fits exactly if it is below the size. -/
theorem fit_eq_ok {e : ArithError} {n : Nat} (h : n < Word.size w) :
    (fit e n : Except ArithError w) = .ok (Word.ofNat n) := if_pos h

theorem add_eq_ok {a b : w} (h : Word.toNat a + Word.toNat b < Word.size w) :
    add a b = .ok (Word.ofNat (Word.toNat a + Word.toNat b)) := fit_eq_ok h

theorem sub_eq_ok {a b : w} (h : Word.toNat b ≤ Word.toNat a) :
    sub a b = .ok (Word.ofNat (Word.toNat a - Word.toNat b)) := if_pos h

theorem mul_eq_ok {a b : w} (h : Word.toNat a * Word.toNat b < Word.size w) :
    mul a b = .ok (Word.ofNat (Word.toNat a * Word.toNat b)) := fit_eq_ok h

theorem div_eq_ok {a b : w} (h : Word.toNat b ≠ 0) :
    div a b = .ok (Word.ofNat (Word.toNat a / Word.toNat b)) := if_neg h

end Checked

/-! ## Saturating operations -/

namespace Saturating

/-- The word for `n`, or the largest word when `n` does not fit. -/
def clip (n : Nat) : w :=
  Word.ofNat (min n (Word.size w - 1))

/-- The sum of two words, at most the largest word. -/
def add (a b : w) : w :=
  clip (Word.toNat a + Word.toNat b)

/-- The difference of two words, at least zero. -/
def sub (a b : w) : w :=
  Word.ofNat (Word.toNat a - Word.toNat b)

/-- The product of two words, at most the largest word. -/
def mul (a b : w) : w :=
  clip (Word.toNat a * Word.toNat b)

/-- A clipped number is the number, up to the largest word. -/
theorem toNat_clip (n : Nat) : Word.toNat (clip n : w) = min n (Word.size w - 1) := by
  have : 0 < Word.size w := Word.size_pos
  exact Word.toNat_ofNat _ (by omega)

theorem toNat_add (a b : w) :
    Word.toNat (add a b) = min (Word.toNat a + Word.toNat b) (Word.size w - 1) := toNat_clip _

theorem toNat_sub (a b : w) : Word.toNat (sub a b) = Word.toNat a - Word.toNat b := by
  have := Word.toNat_lt a
  exact Word.toNat_ofNat _ (by omega)

theorem toNat_mul (a b : w) :
    Word.toNat (mul a b) = min (Word.toNat a * Word.toNat b) (Word.size w - 1) := toNat_clip _

end Saturating

end Tickless
