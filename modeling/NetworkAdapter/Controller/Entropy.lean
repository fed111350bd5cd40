import Mathlib.Algebra.Order.Ring.Rat
import Mathlib.Tactic.NormNum
import NetworkAdapter.Std.Dict

/-!
# Entropies and ratios of a histogram

The detector computes with the interpreter's floats. `EntropyArithmetic` is what
it asks of them: the operations and literals it uses and the two order facts its
thresholds rest on. Doubles have them, and so have the rationals and the reals.
-/

namespace NetworkAdapter

/-- Numbers as the entropy code uses them. -/
class EntropyArithmetic (K : Type) extends Zero K, One K, Sub K, Mul K, LT K where
  /-- `count / total`. -/
  ratio : Nat → Nat → K
  /-- `math.log2`. -/
  log2 : K → K
  /-- The literal `0.5`. -/
  half : K
  /-- The literal `0.3`. -/
  threeTenths : K
  decidableLT : DecidableLT K
  zero_lt_one : (0 : K) < 1
  lt_one_of_lt_half : ∀ value : K, value < half → value < 1

open EntropyArithmetic

variable {K : Type} [EntropyArithmetic K] {κ : Type}

instance decidableLTOfEntropyArithmetic : DecidableLT K := decidableLT

/-- One round of the loop of `calculate_entropy`. -/
def entropyTerm (total : Nat) (entropy : K) (count : Nat) : K :=
  if 0 < count then entropy - ratio count total * log2 (ratio count total : K) else entropy

/-- `calculate_entropy`. -/
def calculateEntropy (counts : Dict κ Nat) : K :=
  counts.values.foldl (entropyTerm counts.values.sum) 0

/-- `calculate_protocol_ratio`. -/
def calculateProtocolRatio (protocolCount : Dict κ Nat) : Dict κ K :=
  protocolCount.mapValues fun count => ratio count protocolCount.values.sum

/-- Rational arithmetic with a logarithm that is exact on the powers of two. -/
instance rationalEntropyArithmetic : EntropyArithmetic Rat where
  ratio count total := count / total
  log2 value := (Nat.log2 value.num.toNat : Int) - (Nat.log2 value.den : Int)
  half := 1 / 2
  threeTenths := 3 / 10
  decidableLT := inferInstance
  zero_lt_one := by norm_num
  lt_one_of_lt_half := fun _ low => lt_trans low (by norm_num)

end NetworkAdapter
