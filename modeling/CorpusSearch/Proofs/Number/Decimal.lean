-- The digits of a whole number: they name the number again, and none of more than one leads with a
-- zero.
import CorpusSearch.Number.Decimal
import Mathlib.Data.List.Basic
import Mathlib.Data.Nat.Digits.Defs

namespace CorpusSearch.Number

theorem isDigit_of_mem_digits {n : Nat} {c : Char} (h : c ∈ digits n) : c.isDigit = true :=
  Nat.isDigit_of_mem_toDigits (by decide) (by decide) h

theorem digits_ne_nil (n : Nat) : digits n ≠ [] := Nat.toDigits_ne_nil

theorem ofDigits_eq_ofDigitChars {text : Text} (h : ∀ c ∈ text, c.isDigit = true) :
    ofDigits text = Nat.ofDigitChars 10 text 0 := by
  rw [ofDigits, Nat.ofDigitChars_eq_foldl]
  refine List.foldl_ext _ _ _ fun n c hc => ?_
  rw [if_pos (h c hc)]

theorem exists_digits_eq_cons (n : Nat) :
    ∃ c figures, digits n = c :: figures ∧ c.isDigit = true := by
  obtain ⟨c, figures, hfigures⟩ := List.exists_cons_of_ne_nil (digits_ne_nil n)
  exact ⟨c, figures, hfigures, isDigit_of_mem_digits (hfigures ▸ List.mem_cons_self)⟩

theorem exists_decimal_eq_cons (i : Int) :
    ∃ c figures, decimal i = c :: figures ∧ (c = '-' ∨ c.isDigit = true) := by
  unfold decimal
  split
  · exact ⟨'-', _, rfl, .inl rfl⟩
  · obtain ⟨c, figures, hfigures, hc⟩ := exists_digits_eq_cons i.natAbs
    exact ⟨c, figures, hfigures, .inr hc⟩

theorem ofDigits_digits (n : Nat) : ofDigits (digits n) = n := by
  rw [ofDigits_eq_ofDigitChars fun c => isDigit_of_mem_digits]
  exact Nat.ofDigitChars_toDigits (by decide) (by decide)

theorem head_digits_ne_zero {n : Nat} (h : 0 < n) : (digits n).head? ≠ some '0' := by
  induction n using Nat.strong_induction_on with
  | _ n ih =>
    rw [digits, Nat.toDigits_eq_if (by decide)]
    split
    · rename_i hsmall
      have hdigit : ∀ m < 10, 0 < m → Nat.digitChar m ≠ '0' := by decide
      exact fun heq => hdigit n hsmall h (Option.some.inj heq)
    · have hlead := ih (n / 10) (Nat.div_lt_self h (by decide)) (by omega)
      rw [List.head?_append_of_ne_nil _ Nat.toDigits_ne_nil]
      exact hlead

end CorpusSearch.Number
