import Mathlib.Tactic.IntervalCases
import ModulePack.Json.Parser
import ModulePack.Json.Printer

/-!
# Texts in JSON

A text that is written between quotes is read back as it was, in each layout: an escape is read as
the character that it stands for, and the two units of a character beyond 16 bits are joined again.
-/

namespace ModulePack.Json

variable {asciiOnly : Bool} {c : Char} {rest : List Char}

/-- What is read for a character: its code point or, where it was written so, its two units. -/
def codesOf (asciiOnly : Bool) (c : Char) : List Nat :=
  if asciiOnly && 0x10000 ≤ c.toNat then
    [0xd800 + (c.toNat - 0x10000) / 0x400, 0xdc00 + (c.toNat - 0x10000) % 0x400]
  else [c.toNat]

theorem codesOf_of_lt (h : c.toNat < 0x10000) : codesOf asciiOnly c = [c.toNat] := by
  rw [codesOf, if_neg]
  simp [h]

theorem hexValue?_hexDigit {n : Nat} (h : n < 16) : hexValue? (Text.hexDigit n) = some n := by
  interval_cases n <;> rfl

theorem unitValue?_hexDigits {n : Nat} (h : n < 0x10000) :
    unitValue? (Text.hexDigit (n / 16 / 16 / 16 % 16)) (Text.hexDigit (n / 16 / 16 % 16))
      (Text.hexDigit (n / 16 % 16)) (Text.hexDigit (n % 16)) = some n := by
  have hvalue (m : Nat) : hexValue? (Text.hexDigit (m % 16)) = some (m % 16) :=
    hexValue?_hexDigit (Nat.mod_lt m (by decide))
  have hn : ((n / 16 / 16 / 16 % 16 * 16 + n / 16 / 16 % 16) * 16 + n / 16 % 16) * 16 + n % 16 =
      n := by omega
  simp [unitValue?, hvalue, hn]

theorem readCodes_escapeUnit {n : Nat} (h : n < 0x10000) :
    readCodes (escapeUnit n ++ rest) = (readCodes rest).map fun (ns, r) => (n :: ns, r) := by
  have hunit : escapeUnit n = ['\\', 'u', Text.hexDigit (n / 16 / 16 / 16 % 16),
      Text.hexDigit (n / 16 / 16 % 16), Text.hexDigit (n / 16 % 16), Text.hexDigit (n % 16)] := rfl
  simp only [hunit, List.cons_append, List.nil_append, readCodes, unitValue?_hexDigits h]

theorem readCodes_escapeUnits :
    readCodes (escapeUnits c ++ rest) =
      (readCodes rest).map fun (ns, r) => (codesOf true c ++ ns, r) := by
  have hvalid : c.toNat < 0xd800 ∨ 0xdfff < c.toNat ∧ c.toNat < 0x110000 := c.valid
  by_cases hc : c.toNat < 0x10000
  · simp [escapeUnits, hc, codesOf_of_lt hc, readCodes_escapeUnit hc]
  · have hhigh : 0xd800 + (c.toNat - 0x10000) / 0x400 < 0x10000 := by omega
    have hlow : 0xdc00 + (c.toNat - 0x10000) % 0x400 < 0x10000 := by omega
    have hcodes : codesOf true c =
        [0xd800 + (c.toNat - 0x10000) / 0x400, 0xdc00 + (c.toNat - 0x10000) % 0x400] := by
      rw [codesOf, if_pos]
      simpa using hc
    simp only [escapeUnits, hc, if_false, List.append_assoc, readCodes_escapeUnit hhigh,
      readCodes_escapeUnit hlow, hcodes, Option.map_map]
    rfl

/-- A backslash and a letter are read as the character that the letter stands for. -/
theorem readCodes_escape {e : Char} (he : e ≠ 'u') (hvalue : escapeValue? e = some c)
    (hc : c.toNat < 0x10000) :
    readCodes (['\\', e] ++ rest) =
      (readCodes rest).map fun (ns, r) => (codesOf asciiOnly c ++ ns, r) := by
  rw [codesOf_of_lt hc, List.cons_append, List.cons_append, List.nil_append, readCodes, hvalue]
  · rfl
  · rintro a b c d r rfl
    exact absurd rfl he

theorem readCodes_plain (hquote : c ≠ '\x22') (hslash : c ≠ '\\') (hcontrol : ¬ c.toNat < 0x20) :
    readCodes (c :: rest) = (readCodes rest).map fun (ns, r) => (c.toNat :: ns, r) := by
  rw [readCodes.eq_def]
  split <;> simp_all

theorem readCodes_escapeChar :
    readCodes (escapeChar asciiOnly c ++ rest) =
      (readCodes rest).map fun (ns, r) => (codesOf asciiOnly c ++ ns, r) := by
  rw [escapeChar]
  split_ifs with hquote hslash hfeed hreturn htab hform hback hcontrol hwide
  -- The first seven are written with a letter of their own.
  any_goals
    subst c
    exact readCodes_escape (by decide) rfl (by decide)
  · have hc : c.toNat < 0x10000 := by omega
    rw [readCodes_escapeUnit hc, codesOf_of_lt hc]
    rfl
  · have hascii : asciiOnly = true := by simp_all
    rw [hascii, readCodes_escapeUnits]
  · have hplain : codesOf asciiOnly c = [c.toNat] := by
      rw [codesOf, if_neg]
      intro h
      apply hwide
      simp only [Bool.and_eq_true, decide_eq_true_eq] at h ⊢
      exact ⟨h.1, by omega⟩
    rw [hplain, List.singleton_append, readCodes_plain hquote hslash hcontrol]
    rfl

/-- A character is no unit of UTF-16. -/
theorem not_unit_toNat : isHighUnit c.toNat = false ∧ isLowUnit c.toNat = false := by
  have hvalid : c.toNat < 0xd800 ∨ 0xdfff < c.toNat ∧ c.toNat < 0x110000 := c.valid
  simp only [isHighUnit, isLowUnit, Bool.and_eq_false_iff, decide_eq_false_iff_not]
  omega

theorem unitChar?_toNat : unitChar? c.toNat = some c := by
  rw [unitChar?, not_unit_toNat.1, not_unit_toNat.2, Bool.or_self, if_neg Bool.false_ne_true,
    Char.ofNat_toNat]

theorem joinUnits?_codesOf {ns : List Nat} :
    joinUnits? (codesOf asciiOnly c ++ ns) = (joinUnits? ns).map (c :: ·) := by
  rw [codesOf]
  split_ifs with hwide
  · have hvalid : c.toNat < 0xd800 ∨ 0xdfff < c.toNat ∧ c.toNat < 0x110000 := c.valid
    have hc : 0x10000 ≤ c.toNat := by simp_all
    have hhigh : isHighUnit (0xd800 + (c.toNat - 0x10000) / 0x400) = true := by
      simp only [isHighUnit, Bool.and_eq_true, decide_eq_true_eq]
      omega
    have hlow : isLowUnit (0xdc00 + (c.toNat - 0x10000) % 0x400) = true := by
      simp only [isLowUnit, Bool.and_eq_true, decide_eq_true_eq]
      omega
    have hpair : pairChar (0xd800 + (c.toNat - 0x10000) / 0x400)
        (0xdc00 + (c.toNat - 0x10000) % 0x400) = c := by
      rw [pairChar, show 0x10000 + (0xd800 + (c.toNat - 0x10000) / 0x400 - 0xd800) * 0x400 +
        (0xdc00 + (c.toNat - 0x10000) % 0x400 - 0xdc00) = c.toNat by omega, Char.ofNat_toNat]
    simp only [List.cons_append, List.nil_append, joinUnits?, hhigh, hlow, Bool.and_self, if_true,
      hpair]
    cases joinUnits? ns <;> rfl
  · cases ns with
    | nil =>
      simp only [List.append_nil, joinUnits?, unitChar?_toNat]
      rfl
    | cons n ns =>
      simp only [List.singleton_append, joinUnits?, not_unit_toNat.1, Bool.false_and,
        Bool.false_eq_true, if_false, unitChar?_toNat]
      cases joinUnits? (n :: ns) <;> rfl

theorem joinUnits?_flatMap_codesOf {cs : List Char} :
    joinUnits? (cs.flatMap (codesOf asciiOnly)) = some cs := by
  induction cs with
  | nil => rfl
  | cons c cs ih => rw [List.flatMap_cons, joinUnits?_codesOf, ih, Option.map_some]

theorem readCodes_flatMap_escapeChar {cs : List Char} :
    readCodes (cs.flatMap (escapeChar asciiOnly) ++ '\x22' :: rest) =
      some (cs.flatMap (codesOf asciiOnly), rest) := by
  induction cs with
  | nil => rfl
  | cons c cs ih =>
    rw [List.flatMap_cons, List.append_assoc, readCodes_escapeChar, ih]
    rfl

/-- A text is read back up to its closing quote. -/
theorem readText_escaped (s : String) :
    readText (s.toList.flatMap (escapeChar asciiOnly) ++ '\x22' :: rest) = .ok (s, rest) := by
  simp only [readText, readCodes_flatMap_escapeChar, joinUnits?_flatMap_codesOf,
    String.ofList_toList]

end ModulePack.Json
