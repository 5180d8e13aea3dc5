import BatchBayes.Loop
/-!
The prime numbers in order.
-/

namespace BatchBayes

/-- Whether no number from 2 up to the square root divides `n`. -/
def isPrime (n : Nat) : Bool :=
  decide (2 ≤ n) &&
    ((List.range' 2 n).takeWhile (fun divisor => divisor * divisor ≤ n)).all
      fun divisor => n % divisor != 0

/-- The first primes, kept ready. -/
def firstPrimes : List Nat :=
  [2, 3, 5, 7, 11, 13, 17, 19, 23, 29, 31, 37, 41, 43, 47, 53, 59, 61, 67, 71, 73,
    79, 83, 89, 97, 101, 103, 107, 109, 113, 127, 131]

/-- A search for the prime with the number `index` among the odd numbers: `candidate` is
tried next, and the next prime has the number `count`. -/
structure PrimeSearch (index : Nat) where
  count : Nat
  candidate : Nat
  ahead : count ≤ index
  above : 2 < candidate
  odd : candidate % 2 = 1

namespace PrimeSearch

variable {index : Nat}

/-- Try the candidate. The search goes on with the next odd number unless this is the prime
searched for. -/
def turn (search : PrimeSearch index) : Option (PrimeSearch index) :=
  have above : 2 < search.candidate + 2 := Nat.lt_add_right 2 search.above
  have odd : (search.candidate + 2) % 2 = 1 := by rw [Nat.add_mod_right, search.odd]
  if isPrime search.candidate then
    if last : search.count = index then none
    else
      some
        { count := search.count + 1
          candidate := search.candidate + 2
          ahead := Nat.lt_of_le_of_ne search.ahead last
          above
          odd }
  else
    some
      { count := search.count
        candidate := search.candidate + 2
        ahead := search.ahead
        above
        odd }

/-- The search past the primes that are kept ready. -/
def start (beyond : firstPrimes.length ≤ index) : PrimeSearch index where
  count := firstPrimes.length
  candidate := firstPrimes.getLastD 0 + 2
  ahead := beyond
  above := by decide
  odd := by decide

end PrimeSearch

/-- The prime with `index` primes below it: one of those kept ready, or else the one that a
search after them stops at. -/
def nthPrime (index : Nat) : Nat :=
  match kept : firstPrimes[index]? with
  | some prime => prime
  | none =>
      (Loop.run PrimeSearch.turn
        (PrimeSearch.start (List.getElem?_eq_none_iff.1 kept))).candidate

example : nthPrime 0 = 2 := by decide

end BatchBayes
