/-!
# Statistics of samples

Mean, median and cut points of a list of samples. They are written for every type of numbers that
has a `Scalar` instance, so that the same definitions serve doubles and exact fractions. Doubles are
sorted by a total order in which minus zero stands below zero and not-a-number above everything.

A cut point interpolates between two neighbours among the sorted samples; `Cut` says between which
ones and with what weight. With fewer samples than parts the largest sample takes its place.
-/

set_option autoImplicit false

namespace EmbeddingLatency

/-- Numbers that samples can be, besides their arithmetic. -/
class Scalar (α : Type) where
  /-- The number of so many things. -/
  count : Nat → α
  /-- What a sum starts from. -/
  sumStart : α
  /-- The order in which samples are sorted. -/
  sorts : α → α → Bool
  /-- Is the number greater than zero? -/
  isPositive : α → Bool

/-- The place of a double in the total order of doubles. -/
def totalOrderKey (x : Float) : Int :=
  let bits := x.toBits.toNat
  if bits < Nat.pow 2 63 then bits else -((bits - Nat.pow 2 63 : Nat) : Int) - 1

instance : Scalar Float where
  count := Float.ofNat
  sumStart := -0.0
  sorts x y := totalOrderKey x ≤ totalOrderKey y
  isPositive x := 0.0 < x

namespace Samples

variable {α : Type} [Add α] [Sub α] [Mul α] [Div α] [Scalar α]

/-- The sum, added up from left to right. -/
def sum (samples : List α) : α := samples.foldl (· + ·) Scalar.sumStart

/-- The arithmetic mean; zero without samples. -/
def mean (samples : List α) : α :=
  match samples with
  | [] => Scalar.count 0
  | _ => sum samples / Scalar.count samples.length

/-- The samples in order. -/
def sorted (samples : List α) : List α := samples.mergeSort Scalar.sorts

/-- The sample at a place, counted from zero; zero where there is none. -/
def atPlace (sorted : List α) (place : Nat) : α := sorted[place]?.getD (Scalar.count 0)

/-- The middle of sorted samples: the middle sample, or the mean of the two in the middle. -/
def median (sorted : List α) : α :=
  let n := sorted.length
  if n = 0 then Scalar.count 0
  else if n % 2 = 1 then atPlace sorted (n / 2)
  else (atPlace sorted (n / 2 - 1) + atPlace sorted (n / 2)) / Scalar.count 2

/-- Where a cut point lies: between the samples at the places `place - 1` and `place`, counted from
    zero, with the second one weighing `weight` out of the number of parts. -/
structure Cut where
  place : Nat
  weight : Nat
  deriving DecidableEq, Repr

/-- The `i`-th of the cut points that divide `n` samples into `parts` groups of equal probability:
    it has `i * (n + 1) / parts` of the samples in front of it. -/
def Cut.of (n i parts : Nat) : Cut :=
  ⟨i * (n + 1) / parts, i * (n + 1) - i * (n + 1) / parts * parts⟩

/-- The value at a cut point of sorted samples. -/
def interpolated (sorted : List α) (i parts : Nat) : α :=
  let cut := Cut.of sorted.length i parts
  let weight : α := Scalar.count cut.weight
  let whole : α := Scalar.count parts
  (atPlace sorted (cut.place - 1) * (whole - weight) + atPlace sorted cut.place * weight) / whole

/-- The value at a cut point if there are as many samples as parts, else the largest sample. -/
def upperQuantile (sorted : List α) (i parts : Nat) : α :=
  if parts ≤ sorted.length then interpolated sorted i parts
  else atPlace sorted (sorted.length - 1)

/-- The number of samples from which on the 95th percentile is a cut point. -/
def p95Parts : Nat := 20

/-- The number of samples from which on the 99th percentile is a cut point. -/
def p99Parts : Nat := 100

/-- The median of the samples. -/
def p50 (samples : List α) : α := median (sorted samples)

/-- The 19th of 20 cut points, or the largest of fewer than 20 samples. -/
def p95 (samples : List α) : α := upperQuantile (sorted samples) 19 p95Parts

/-- The 99th of 100 cut points, or the largest of fewer than 100 samples. -/
def p99 (samples : List α) : α := upperQuantile (sorted samples) 99 p99Parts

/-- Both neighbours of a cut point are among the samples. -/
theorem Cut.place_bounds {n i parts : Nat} (hi : 0 < i) (hp : i < parts) (hn : parts ≤ n) :
    1 ≤ (Cut.of n i parts).place ∧ (Cut.of n i parts).place ≤ n - 1 := by
  simp only [Cut.of]
  have h0 : 0 < parts := by omega
  constructor
  · exact (Nat.le_div_iff_mul_le h0).2 (by
      have : 1 * (n + 1) ≤ i * (n + 1) := Nat.mul_le_mul_right _ hi
      omega)
  · have h1 : i * (n + 1) < n * parts := by
      have : i * (n + 1) ≤ (parts - 1) * (n + 1) := Nat.mul_le_mul_right _ (by omega)
      have h2 : (parts - 1) * (n + 1) + (n + 1) = parts * (n + 1) := by
        rw [← Nat.succ_mul]; congr 1; omega
      have h3 : parts * (n + 1) = n * parts + parts := by rw [Nat.mul_succ, Nat.mul_comm]
      omega
    have := (Nat.div_lt_iff_lt_mul h0).2 h1
    omega

end Samples

/-- The sample standard deviation; zero with fewer than two samples. -/
def Samples.standardDeviation (samples : List Float) : Float :=
  if samples.length < 2 then 0.0
  else
    let m := mean samples
    (sum (samples.map fun x => (x - m) * (x - m)) / Float.ofNat (samples.length - 1)).sqrt

/-- What is reported of the samples of one device. -/
structure LatencySummary (α : Type) where
  mean : α
  deviation : α
  p50 : α
  p95 : α
  p99 : α
  deriving Repr

/-- The figures of a list of samples. -/
def LatencySummary.ofSamples (samples : List Float) : LatencySummary Float where
  mean := Samples.mean samples
  deviation := Samples.standardDeviation samples
  p50 := Samples.p50 samples
  p95 := Samples.p95 samples
  p99 := Samples.p99 samples

end EmbeddingLatency
