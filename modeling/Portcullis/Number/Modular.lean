/-
# Arithmetic modulo a number

Powers by squaring, and what they give: inverses and square roots modulo a prime, and a test that
every prime passes and hardly any other number.
-/

namespace Portcullis.Modular

/-! ## 1. Powers -/

/-- The power of a number modulo another, by squaring; the exponent has at most so many bits. -/
def powerBits : Nat → Nat → Nat → Nat → Nat
  | 0, _, _, m => 1 % m
  | n + 1, b, e, m =>
    let half := powerBits n (b * b % m) (e / 2) m
    if e % 2 = 1 then half * b % m else half

/-- The power of a number modulo another. -/
def power (b e m : Nat) : Nat := powerBits (e.log2 + 1) (b % m) e m

/-- The inverse modulo a prime. -/
def inverse (x prime : Nat) : Nat := power x (prime - 2) prime

/-- A difference modulo a number. -/
def sub (u v m : Nat) : Nat := (u + (m - v % m)) % m

/-! ## 2. Square roots -/

/-- How often two divides a number, at most so many times, and what is left. -/
def splitTwos : Nat → Nat → Nat × Nat
  | 0, q => (0, q)
  | n + 1, q =>
    if q % 2 = 0 then
      let (s, odd) := splitTwos n (q / 2)
      (s + 1, odd)
    else (0, q)

/-- A number below a prime that has no square root, if a small one has none. -/
def nonSquare (prime : Nat) : Nat :=
  ((List.range 256).find? fun z => power z (prime / 2) prime == prime - 1).getD 0

/-- The steps to a square root: `t` is what the square of `r` has too much, and `c` is of the order
that two to the power `m` is. -/
def rootSteps (prime : Nat) : Nat → Nat → Nat → Nat → Nat → Nat
  | 0, _, _, _, r => r
  | n + 1, m, c, t, r =>
    if t = 1 then r
    else
      let i := ((List.range m).find? fun i => power t (Nat.pow 2 i) prime == 1).getD m
      let b := power c (Nat.pow 2 (m - i - 1)) prime
      rootSteps prime n i (b * b % prime) (t * b % prime * b % prime) (r * b % prime)

/-- A square root of a number modulo a prime; of a number without one, some other number. -/
def squareRoot (x prime : Nat) : Nat :=
  let (s, q) := splitTwos prime.log2 (prime - 1)
  rootSteps prime s s (power (nonSquare prime) q prime) (power x q prime)
    (power x ((q + 1) / 2) prime)

/-! ## 3. Primes -/

/-- Whether a number or one of its first squares is one less than the modulus. -/
def reachesMinusOne (m : Nat) : Nat → Nat → Bool
  | 0, _ => false
  | n + 1, x => x == m - 1 || reachesMinusOne m n (x * x % m)

/-- The bases that primes are tested with. -/
def bases : List Nat := [2, 3, 5, 7, 11, 13, 17, 19, 23, 29, 31, 37]

/-- Whether a number passes for a prime: the powers of each base end as they do modulo a prime. -/
def isPrime (n : Nat) : Bool :=
  if n < 2 then false
  else if bases.contains n then true
  else
    let (s, q) := splitTwos n.log2 (n - 1)
    bases.all fun b =>
      let x := power b q n
      x == 1 || reachesMinusOne n s x

end Portcullis.Modular
