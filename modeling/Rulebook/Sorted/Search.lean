/-!
# Search in order

A number is looked for in an increasing array by halving what is left to look through. A number that
is not there has a place all the same: the one where it would have to be put in to keep the array
increasing.
-/

namespace Rulebook

/-- Where a number is in an increasing array, or else where it belongs. -/
inductive SearchResult where
  | found (index : Nat)
  | missing (index : Nat)
  deriving Repr, DecidableEq

/-- How many numbers of the array are not greater than the one that was looked for. -/
def SearchResult.count : SearchResult → Nat
  | found i => i + 1
  | missing i => i

/-- Looks for a number at the places from one up to, but not including, another. -/
def searchWithin (xs : Array Nat) (x lo hi : Nat) (h : hi ≤ xs.size) : SearchResult :=
  if hlt : lo < hi then
    let mid := lo + (hi - lo) / 2
    have hmid : mid < hi := by omega
    if xs[mid] = x then .found mid
    else if xs[mid] < x then searchWithin xs x (mid + 1) hi h
    else searchWithin xs x lo mid (by omega)
  else .missing lo
termination_by hi - lo

/-- Looks for a number in an array. -/
def binarySearch (xs : Array Nat) (x : Nat) : SearchResult :=
  searchWithin xs x 0 xs.size (Nat.le_refl _)

/-! ## What is found -/

/-- A search stays within its bounds. -/
theorem count_searchWithin_le (xs : Array Nat) (x : Nat) {lo hi : Nat} (h : hi ≤ xs.size)
    (hle : lo ≤ hi) : (searchWithin xs x lo hi h).count ≤ hi := by
  fun_induction searchWithin xs x lo hi h with
  | case1 lo hi h hlt mid hmid heq => exact hmid
  | case2 lo hi h hlt mid hmid hne hless ih => exact ih hmid
  | case3 lo hi h hlt mid hmid hne hless ih => exact Nat.le_trans (ih (by omega)) (by omega)
  | case4 lo hi h hlt => exact hle

theorem count_binarySearch_le (xs : Array Nat) (x : Nat) : (binarySearch xs x).count ≤ xs.size :=
  count_searchWithin_le xs x (Nat.le_refl _) (Nat.zero_le _)

/-- Every number is greater than the one before it. -/
def Increasing (xs : Array Nat) : Prop := xs.toList.Pairwise (· < ·)

section

variable {xs : Array Nat} (hxs : Increasing xs) {x : Nat}
include hxs

theorem Increasing.getElem_lt {i j : Nat} (hij : i < j) (hj : j < xs.size) : xs[i] < xs[j] :=
  List.pairwise_iff_getElem.1 hxs i j _ hj hij

theorem Increasing.getElem_le {i j : Nat} (hij : i ≤ j) (hj : j < xs.size) : xs[i] ≤ xs[j] := by
  rcases Nat.lt_or_eq_of_le hij with hlt | rfl
  · exact Nat.le_of_lt (hxs.getElem_lt hlt hj)
  · exact Nat.le_refl _

/-- A number is at least as large as its place. -/
theorem Increasing.le_getElem {i : Nat} (hi : i < xs.size) : i ≤ xs[i] := by
  induction i with
  | zero => exact Nat.zero_le _
  | succ i ih =>
    have hle := ih (by omega)
    have hlt := hxs.getElem_lt (Nat.lt_add_one i) hi
    omega

/-- What a search leaves out on the left is less than the number it looks for, and what it leaves
out on the right is greater. -/
theorem lt_count_searchWithin_iff {lo hi : Nat} (h : hi ≤ xs.size) (hle : lo ≤ hi)
    (hleft : ∀ (j : Nat) (_ : j < xs.size), j < lo → xs[j] < x)
    (hright : ∀ (j : Nat) (_ : j < xs.size), hi ≤ j → x < xs[j]) {i : Nat} (hsize : i < xs.size) :
    i < (searchWithin xs x lo hi h).count ↔ xs[i] ≤ x := by
  fun_induction searchWithin xs x lo hi h with
  | case1 lo hi h hlt mid hmid heq =>
    show i < mid + 1 ↔ xs[i] ≤ x
    constructor
    · intro himid
      have := hxs.getElem_le (Nat.le_of_lt_succ himid) (by omega)
      omega
    · intro hix
      rcases Nat.lt_or_ge mid i with hmidi | himid
      · have := hxs.getElem_lt hmidi hsize
        omega
      · exact Nat.lt_succ_of_le himid
  | case2 lo hi h hlt mid hmid hne hless ih =>
    refine ih (by omega) (fun j hj hjmid => ?_) hright
    have := hxs.getElem_le (Nat.le_of_lt_succ hjmid) (by omega)
    omega
  | case3 lo hi h hlt mid hmid hne hless ih =>
    refine ih (by omega) hleft (fun j hj hmidj => ?_)
    have := hxs.getElem_le hmidj hj
    omega
  | case4 lo hi h hlt =>
    show i < lo ↔ xs[i] ≤ x
    constructor
    · intro hilo
      exact Nat.le_of_lt (hleft i hsize hilo)
    · intro hix
      rcases Nat.lt_or_ge i lo with hilo | hloi
      · exact hilo
      · have := hright i hsize (by omega)
        omega

/-- **What a search counts.** The numbers that are not greater than the one looked for are those
before the place that the count gives. -/
theorem lt_count_binarySearch_iff {i : Nat} (hi : i < xs.size) :
    i < (binarySearch xs x).count ↔ xs[i] ≤ x := by
  refine lt_count_searchWithin_iff hxs (Nat.le_refl _) (Nat.zero_le _) (fun j _ hj => ?_)
    (fun j hj hle => ?_) hi
  · exact absurd hj (Nat.not_lt_zero j)
  · exact absurd hj (Nat.not_lt_of_le hle)

end

end Rulebook
