import Mathlib.Tactic.IntervalCases
import ModulePack.Json.Parser
import ModulePack.Json.Printer

/-!
# Whole numbers in JSON

A whole number is read back as it was, if it is written in no more digits than are read and no
digit, point or exponent follows it.
-/

namespace ModulePack.Json

variable {c : Char} {cs rest : List Char} {n : Nat}

/-- What may follow a value in a text: its end, a separator or the end of a line. -/
def FollowsValue (rest : List Char) : Prop :=
  ∀ c ∈ rest.head?, c = ',' ∨ c = ']' ∨ c = '\x7d' ∨ c = '\n'

theorem followsValue_nil : FollowsValue [] := by simp [FollowsValue]

theorem followsValue_cons (h : c = ',' ∨ c = ']' ∨ c = '\x7d' ∨ c = '\n') :
    FollowsValue (c :: rest) := by simpa [FollowsValue] using h

theorem FollowsValue.takeWhile_digit (h : FollowsValue rest) :
    rest.takeWhile Decimal.isAsciiDigit = [] := by
  cases rest with
  | nil => rfl
  | cons c rest =>
    have hc : Decimal.isAsciiDigit c = false := by
      rcases h c rfl with rfl | rfl | rfl | rfl <;> decide
    rw [List.takeWhile_cons_of_neg (by simp [hc])]

theorem FollowsValue.dropWhile_digit (h : FollowsValue rest) :
    rest.dropWhile Decimal.isAsciiDigit = rest := by
  have hall := List.takeWhile_append_dropWhile (p := Decimal.isAsciiDigit) (l := rest)
  rwa [h.takeWhile_digit, List.nil_append] at hall

theorem FollowsValue.fraction_eq (h : FollowsValue rest) : fraction rest = (none, rest) := by
  cases rest with
  | nil => rfl
  | cons c rest => rcases h c rfl with rfl | rfl | rfl | rfl <;> rfl

theorem FollowsValue.exponent_eq (h : FollowsValue rest) : exponent rest = (none, rest) := by
  cases rest with
  | nil => rfl
  | cons c rest => rcases h c rfl with rfl | rfl | rfl | rfl <;> rfl

def digitsOf (n : Nat) : List Char := Nat.toDigits 10 n

theorem isAsciiDigit_of_mem_digitsOf (h : c ∈ digitsOf n) : Decimal.isAsciiDigit c = true := by
  have hdigit := Nat.isDigit_of_mem_toDigits (by decide) (by decide) h
  simpa [Char.isDigit, Decimal.isAsciiDigit, Char.le_def] using hdigit

theorem natOfDigits_digitsOf : Decimal.natOfDigits (digitsOf n) = n :=
  Nat.ofDigitChars_ten_toDigits

/-- The digits begin with one that is no zero, unless the number is zero. -/
theorem digitsOf_eq_cons (n : Nat) :
    ∃ c cs, digitsOf n = c :: cs ∧ Decimal.isAsciiDigit c = true ∧ (0 < n → c ≠ '0') := by
  induction n using Nat.strongRecOn with
  | ind n ih =>
    rw [digitsOf, Nat.toDigits_eq_if (by decide)]
    split_ifs with hn
    · exact ⟨_, _, rfl, by interval_cases n <;> decide, by interval_cases n <;> decide⟩
    · obtain ⟨c, cs, hcs, hc, hzero⟩ := ih (n / 10) (by omega)
      refine ⟨c, cs ++ [(n % 10).digitChar], ?_, hc, fun _ => hzero (by omega)⟩
      rw [← digitsOf, hcs, List.cons_append]

theorem digits?_digitsOf (h : FollowsValue rest) :
    digits? (digitsOf n ++ rest) = some (digitsOf n, rest) := by
  have htake : (digitsOf n ++ rest).takeWhile Decimal.isAsciiDigit = digitsOf n := by
    rw [List.takeWhile_append_of_pos fun _ hc => isAsciiDigit_of_mem_digitsOf hc,
      h.takeWhile_digit, List.append_nil]
  have hdrop : (digitsOf n ++ rest).dropWhile Decimal.isAsciiDigit = rest := by
    rw [List.dropWhile_append_of_pos fun _ hc => isAsciiDigit_of_mem_digitsOf hc,
      h.dropWhile_digit]
  obtain ⟨c, cs, hcs, -, -⟩ := digitsOf_eq_cons n
  rw [digits?, htake, hdrop, hcs]

theorem wholePart?_digitsOf (h : FollowsValue rest) :
    wholePart? (digitsOf n ++ rest) = some (digitsOf n, rest) := by
  rcases Nat.eq_zero_or_pos n with rfl | hn
  · rfl
  · obtain ⟨c, cs, hcs, -, hzero⟩ := digitsOf_eq_cons n
    have hdigits := digits?_digitsOf (n := n) h
    rw [hcs, List.cons_append] at hdigits ⊢
    rw [wholePart?]
    · exact hdigits
    · rintro _ heq
      exact hzero hn (List.cons.inj heq).1

theorem length_digitsOf_le {limit : Nat} (hlimit : 0 < limit) (h : n < Nat.pow 10 limit) :
    (digitsOf n).length ≤ limit := by
  rwa [digitsOf, Nat.length_toDigits_le_iff (by decide) hlimit]

theorem longNumberBound_eq : longNumberBound = Nat.pow 10 digitLimit := by
  -- The power is not to be computed.
  delta longNumberBound
  exact rfl

theorem isLongNumber_natAbs (n : Int) : isLongNumber n.natAbs = isLongNumber n := by
  rw [isLongNumber, isLongNumber, Int.natAbs_natCast]

theorem readUnsigned_digitsOf (negative : Bool) (hn : isLongNumber n = false)
    (h : FollowsValue rest) :
    readUnsigned negative (digitsOf n ++ rest) =
      .ok (.int (if negative then -(n : Int) else n), rest) := by
  have hlength : ¬ digitLimit < (digitsOf n).length := by
    have hbound : n < longNumberBound := Nat.lt_of_not_le (of_decide_eq_false hn)
    rw [longNumberBound_eq] at hbound
    exact Nat.not_lt.2 (length_digitsOf_le (by decide) hbound)
  simp only [readUnsigned, wholePart?_digitsOf h, h.fraction_eq, h.exponent_eq, hlength,
    natOfDigits_digitsOf]
  rfl

theorem render_int (l : Layout) (depth : Nat) (n : Int) :
    render l depth (.int n) = if n < 0 then '-' :: digitsOf n.natAbs else digitsOf n.natAbs := by
  rw [render, Int.toString_eq_repr, Int.repr_eq_if, digitsOf]
  by_cases hn : n < 0
  · rw [if_neg (by omega), if_pos hn, String.toList_append, Nat.toList_repr,
      show (-n).toNat = n.natAbs by omega]
    rfl
  · rw [if_pos (by omega), if_neg hn, Nat.toList_repr, show n.toNat = n.natAbs by omega]

theorem word?_eq_none {word : String} (h : ¬ word.toList <+: cs) : word? word cs = none := by
  rw [word?, if_neg]
  simpa using h

/-- The words all begin with a letter, but for one with a sign before it. -/
theorem readScalar_eq_readUnsigned {digit : Char} (hdigit : Decimal.isAsciiDigit digit = true) :
    readScalar (digit :: cs) = readUnsigned false (digit :: cs) ∧
      readScalar ('-' :: digit :: cs) = readUnsigned true (digit :: cs) := by
  have hne {d : Char} (hd : Decimal.isAsciiDigit d = false) : d ≠ digit := by
    rintro rfl
    simp [hd] at hdigit
  have hword {word : String} (d : Char) (ds : List Char) (hd : Decimal.isAsciiDigit d = false)
      (hword : word.toList = d :: ds) : word? word (digit :: cs) = none := by
    apply word?_eq_none
    rw [hword, List.cons_prefix_cons]
    exact fun h => hne hd h.1
  have hsigned {word : String} (d e : Char) (ds : List Char) (h : d ≠ '-' ∨ e ≠ digit)
      (hword : word.toList = d :: e :: ds) : word? word ('-' :: digit :: cs) = none := by
    apply word?_eq_none
    rw [hword, List.cons_prefix_cons, List.cons_prefix_cons]
    tauto
  constructor
  · unfold readScalar
    rw [hword 'n' _ rfl rfl, hword 't' _ rfl rfl, hword 'f' _ rfl rfl, hword 'N' _ rfl rfl,
      hword 'I' _ rfl rfl, hword '-' _ rfl rfl]
    simp only []
    split
    · next heq => exact absurd (List.cons.inj heq).1.symm (hne rfl)
    · rfl
  · unfold readScalar
    rw [hsigned 'n' _ _ (.inl (by decide)) rfl, hsigned 't' _ _ (.inl (by decide)) rfl,
      hsigned 'f' _ _ (.inl (by decide)) rfl, hsigned 'N' _ _ (.inl (by decide)) rfl,
      hsigned 'I' _ _ (.inl (by decide)) rfl, hsigned '-' 'I' _ (.inr (hne rfl)) rfl]
    rfl

/-- A whole number that is not too long is read back. -/
theorem readScalar_render_int (l : Layout) (depth : Nat) {n : Int} (hn : isLongNumber n = false)
    (h : FollowsValue rest) :
    readScalar (render l depth (.int n) ++ rest) = .ok (.int n, rest) := by
  obtain ⟨c, cs, hcs, hc, -⟩ := digitsOf_eq_cons n.natAbs
  have hread (negative : Bool) :=
    readUnsigned_digitsOf negative ((isLongNumber_natAbs n).trans hn) h
  rw [hcs] at hread
  rw [render_int, hcs]
  by_cases hneg : n < 0
  · rw [if_pos hneg, List.cons_append, List.cons_append, (readScalar_eq_readUnsigned hc).2,
      ← List.cons_append, hread true, if_pos rfl, show -(n.natAbs : Int) = n by omega]
  · rw [if_neg hneg, List.cons_append, (readScalar_eq_readUnsigned hc).1, ← List.cons_append,
      hread false, if_neg Bool.false_ne_true, show (n.natAbs : Int) = n by omega]

end ModulePack.Json
