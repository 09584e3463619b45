import Mathlib.Data.List.Basic
import Mathlib.Data.String.Basic
import Mathlib.Data.Nat.Digits
import Mathlib.Tactic.IntervalCases

/-!
# Runcell — decimal numerals and separated lines

`format!("{}", n)` writes an unsigned integer as Lean's `Nat.toDigits 10` does: its decimal
digits, most significant first, with no sign and no leading zero. `decimalValue` reads such
a numeral back; `decimalValue_toDigits` is the round trip, by induction on the fuel of
`Nat.toDigitsCore`, one digit per step.

Text separated by a character is split with `List.splitOn`; the two lemmas here say that a
piece free of the separator comes back as it was, and that pieces each followed by the
separator come back in order, with one empty piece after the last. `splitOnce` is
`str::split_once`, which cuts at the first separator only.

Main results:

* `decimalValue_toDigits` — a decimal numeral reads back as the number it was written from.
* `splitOn_flatten_terminated` — lines each terminated by the separator split back into
  the lines and a final empty piece.
* `length_splitOn` — one piece more than there are separators.
-/

namespace Runcell

-- ---------------------------------------------------------------------------
-- Decimal numerals
-- ---------------------------------------------------------------------------

/-- The value of an ASCII digit. -/
def digitValue (c : Char) : Nat := c.toNat - '0'.toNat

/-- A decimal numeral read back: a non-empty run of ASCII digits, most significant first. -/
def decimalValue (cs : List Char) : Option Nat :=
  if cs ≠ [] ∧ cs.all Char.isDigit then some (cs.foldl (fun n c => 10 * n + digitValue c) 0)
  else none

theorem digitValue_digitChar {d : Nat} (h : d < 10) : digitValue (Nat.digitChar d) = d := by
  interval_cases d <;> rfl

theorem isDigit_digitChar {d : Nat} (h : d < 10) : (Nat.digitChar d).isDigit = true := by
  interval_cases d <;> rfl

/-- The digits `toDigitsCore` puts in front of `ds` fold to `n`. -/
theorem foldl_toDigitsCore {fuel n : Nat} (hn : n < fuel) (ds : List Char) :
    (Nat.toDigitsCore 10 fuel n ds).foldl (fun a c => 10 * a + digitValue c) 0 =
      ds.foldl (fun a c => 10 * a + digitValue c) n := by
  induction fuel generalizing n ds with
  | zero => omega
  | succ fuel ih =>
    have hd := digitValue_digitChar (Nat.mod_lt n (show 10 > 0 by decide))
    simp only [Nat.toDigitsCore]
    split
    · simp only [List.foldl_cons, hd]
      congr 1
      omega
    · rw [ih (by omega), List.foldl_cons, hd]
      congr 1
      omega

/-- Every character `toDigitsCore` adds is a digit, and it adds at least one. -/
theorem toDigitsCore_digits (fuel n : Nat) {ds : List Char} (hds : ds.all Char.isDigit) :
    (Nat.toDigitsCore 10 (fuel + 1) n ds).all Char.isDigit ∧
      Nat.toDigitsCore 10 (fuel + 1) n ds ≠ [] := by
  induction fuel generalizing n ds with
  | zero =>
    simp only [Nat.toDigitsCore]
    split <;> simp_all [isDigit_digitChar (Nat.mod_lt n (show 10 > 0 by decide))]
  | succ fuel ih =>
    rw [Nat.toDigitsCore]
    split
    · simp_all [isDigit_digitChar (Nat.mod_lt n (show 10 > 0 by decide))]
    · exact ih _ (by simp_all [isDigit_digitChar (Nat.mod_lt n (show 10 > 0 by decide))])

theorem toDigits_isDigit (n : Nat) : (Nat.toDigits 10 n).all Char.isDigit :=
  (toDigitsCore_digits n n (show ([] : List Char).all Char.isDigit from rfl)).1

/-- **Decimal round trip.** -/
theorem decimalValue_toDigits (n : Nat) : decimalValue (Nat.toDigits 10 n) = some n := by
  have h := toDigitsCore_digits n n (show ([] : List Char).all Char.isDigit from rfl)
  rw [decimalValue, if_pos ⟨h.2, h.1⟩, Nat.toDigits, foldl_toDigitsCore (by omega)]
  rfl

theorem not_mem_toDigits {c : Char} (hc : c.isDigit = false) (n : Nat) :
    c ∉ Nat.toDigits 10 n := fun hm => by
  have := List.all_eq_true.mp (toDigits_isDigit n) c hm
  simp_all

-- ---------------------------------------------------------------------------
-- Splitting at a separator
-- ---------------------------------------------------------------------------

variable {c : Char}

theorem splitOn_of_not_mem {l : List Char} (h : c ∉ l) : l.splitOn c = [l] :=
  List.splitOnP_eq_single (· == c) l fun x hx hxc => h (by simpa [eq_of_beq hxc] using hx)

/-- A piece free of the separator, then the separator: the piece comes off first. -/
theorem splitOn_append_cons {l : List Char} (h : c ∉ l) (rest : List Char) :
    (l ++ c :: rest).splitOn c = l :: rest.splitOn c :=
  List.splitOnP_first (· == c) l (fun x hx hxc => h (by simpa [eq_of_beq hxc] using hx)) c
    (beq_self_eq_true c) rest

/-- **Terminated lines.** Pieces free of the separator, each followed by it, split back into
the pieces and one empty piece after the last. -/
theorem splitOn_flatten_terminated {L : List (List Char)} (h : ∀ l ∈ L, c ∉ l) :
    (L.map (· ++ [c])).flatten.splitOn c = L ++ [[]] := by
  induction L with
  | nil => rfl
  | cons l L ih =>
    simp only [List.forall_mem_cons] at h
    rw [List.map_cons, List.flatten_cons, List.append_assoc, List.singleton_append,
      splitOn_append_cons h.1, ih h.2, List.cons_append]

/-- One piece more than there are separators. -/
theorem length_splitOn (l : List Char) : (l.splitOn c).length = l.count c + 1 := by
  induction l with
  | nil => rfl
  | cons x xs ih =>
    simp only [List.splitOn] at ih ⊢
    by_cases hx : x = c
    · simp [hx, ih]
    · simp [hx, ih, List.count_cons, Ne.symm hx]

-- ---------------------------------------------------------------------------
-- Splitting once
-- ---------------------------------------------------------------------------

/-- `s.split_once(c)`: the text before the first `c` and the text after it. -/
def splitOnce (c : Char) : List Char → Option (List Char × List Char)
  | [] => none
  | x :: xs => if x = c then some ([], xs) else (splitOnce c xs).map fun kv => (x :: kv.1, kv.2)

/-- A key free of the separator, the separator, then anything: the key and the rest. -/
theorem splitOnce_append_cons {k : List Char} (h : c ∉ k) (v : List Char) :
    splitOnce c (k ++ c :: v) = some (k, v) := by
  induction k with
  | nil => simp [splitOnce]
  | cons x xs ih =>
    simp only [List.mem_cons, not_or] at h
    simp [splitOnce, Ne.symm h.1, ih h.2]

end Runcell
