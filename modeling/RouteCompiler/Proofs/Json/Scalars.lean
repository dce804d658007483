import Mathlib.Tactic.SplitIfs
import RouteCompiler.Json.Token
import RouteCompiler.Json.Write

/-! # Written texts and numbers read back

A string literal is read back to the text of which it is made, whatever escapes it has and whatever follows
it. The digits of a whole number are read back to the number, if what follows does not go on with it. -/

namespace RouteCompiler.Json
open Document

/-! ### String literals -/

theorem hexValue?_digitChar : ∀ n < 16, hexValue? (Nat.digitChar n) = some n := by decide

/-- The four digits of a written control character stand for it. -/
theorem unitValue?_control {n : Nat} (h : n < 0x20) :
    unitValue? '0' '0' (Nat.digitChar (n / 16)) (Nat.digitChar (n % 16)) = some n := by
  have hzero : hexValue? '0' = some 0 := by decide
  have hhigh := hexValue?_digitChar (n / 16) (by omega)
  have hlow := hexValue?_digitChar (n % 16) (by omega)
  simp only [unitValue?, hzero, hhigh, hlow, Option.bind_eq_bind, Option.bind_some, Option.pure_def,
    Option.some.injEq]
  omega

/-- What is written for a character is one piece, which stands for the character. -/
theorem pieces_escapedChar (c : Char) (rest : List Char) :
    ∃ p, pieces (escapedChar c ++ rest) = (p :: (pieces rest).1, (pieces rest).2) ∧
      ∀ e ps, decode e (p :: ps) = (decode e ps).map (c :: ·) := by
  rw [escapedChar]
  split_ifs with h₁ h₂ h₃ h₄ h₅ h₆ h₇ h₈
  iterate 7
    subst c
    exact ⟨.char _, by simp [pieces, simpleEscape?], fun _ _ => rfl⟩
  · have hlead : isLeading c.toNat = false := by
      simp only [isLeading, Bool.and_eq_false_iff, decide_eq_false_iff_not]
      omega
    have htrail : isTrailing c.toNat = false := by
      simp only [isTrailing, Bool.and_eq_false_iff, decide_eq_false_iff_not]
      omega
    refine ⟨.unit c.toNat, by simp [pieces, unitValue?_control h₈], fun e ps => ?_⟩
    rw [decode.eq_def]
    simp [hlead, htrail]
  · refine ⟨.char c, ?_, fun _ _ => rfl⟩
    rw [List.singleton_append, pieces.eq_def]
    split <;> simp_all

theorem pieces_flatMap_escapedChar (cs rest : List Char) :
    ∃ ps, pieces (cs.flatMap escapedChar ++ '"' :: rest) = (ps, .closed, rest) ∧ decode .closed ps = .ok cs := by
  induction cs with
  | nil => exact ⟨[], by simp [pieces], rfl⟩
  | cons c cs ih =>
    obtain ⟨ps, hps, hdec⟩ := ih
    obtain ⟨p, hp, hpdec⟩ := pieces_escapedChar c (cs.flatMap escapedChar ++ '"' :: rest)
    refine ⟨p :: ps, ?_, ?_⟩
    · rw [List.flatMap_cons, List.append_assoc, hp, hps]
    · rw [hpdec, hdec]
      rfl

/-- Behind its opening quote, a written text is read to its closing quote. -/
theorem literal_quotedChars (s : String) (rest : List Char) :
    literal (s.toList.flatMap escapedChar ++ '"' :: rest) = (.whole s, rest) := by
  obtain ⟨ps, hps, hdec⟩ := pieces_flatMap_escapedChar s.toList rest
  simp only [literal, hps, hdec, String.ofList_toList]

/-! ### Whole numbers -/

/-- The text does not go on with a number. -/
def EndsNumber (rest : List Char) : Prop := ∀ c cs, rest = c :: cs → c ∈ [',', ']', '\x7d', '\n']

theorem endsNumber_nil : EndsNumber [] := by
  intro c cs h
  cases h

theorem endsNumber_cons {c : Char} {cs : List Char} (h : c ∈ [',', ']', '\x7d', '\n']) : EndsNumber (c :: cs) := by
  intro c' cs' h'
  cases h'
  exact h

theorem EndsNumber.head_ne {rest : List Char} (h : EndsNumber rest) :
    ∀ c ∈ rest.head?, c.isDigit = false ∧ c ≠ '.' ∧ c ≠ 'e' ∧ c ≠ 'E' := by
  intro c hc
  obtain ⟨cs, rfl⟩ := List.head?_eq_some_iff.mp hc
  have hmem := h c cs rfl
  simp only [List.mem_cons, List.not_mem_nil, or_false] at hmem
  rcases hmem with rfl | rfl | rfl | rfl <;> decide

theorem isDigit_toDigits (n : Nat) : ∀ c ∈ Nat.toDigits 10 n, c.isDigit = true := fun _ hc =>
  Nat.isDigit_of_mem_toDigits (by decide) (by decide) hc

theorem natOfDigits_toDigits (n : Nat) : natOfDigits (Nat.toDigits 10 n) = n := by
  have h : natOfDigits (Nat.toDigits 10 n) = Nat.ofDigitChars 10 (Nat.toDigits 10 n) 0 := by
    rw [natOfDigits, Nat.ofDigitChars_eq_foldl]
    congr 1
    funext m c
    rw [digitValue, Nat.mul_comm]
  rw [h, Nat.ofDigitChars_ten_toDigits]

/-- Only the number zero starts with the digit zero. -/
theorem head?_toDigits_ne_zero {n : Nat} (h : 0 < n) : (Nat.toDigits 10 n).head? ≠ some '0' := by
  induction n using Nat.strongRecOn with
  | ind n ih =>
    rw [Nat.toDigits_eq_if (by decide)]
    split
    · simp only [List.head?_cons, ne_eq, Option.some.injEq, Nat.digitChar_eq_zero]
      omega
    · have := ih (n / 10) (by omega) (by omega)
      cases hd : Nat.toDigits 10 (n / 10) with
      | nil => exact absurd hd Nat.toDigits_ne_nil
      | cons c cs => simpa [hd] using this

theorem digits_toDigits (n : Nat) {rest : List Char} (h : EndsNumber rest) :
    digits (Nat.toDigits 10 n ++ rest) = .ok (Nat.toDigits 10 n, rest) := by
  have htake : rest.takeWhile Char.isDigit = [] := by
    cases rest with
    | nil => rfl
    | cons c cs => simp [List.takeWhile, (h.head_ne c rfl).1]
  have hdrop : rest.dropWhile Char.isDigit = rest := by
    cases rest with
    | nil => rfl
    | cons c cs => simp [List.dropWhile, (h.head_ne c rfl).1]
  cases hd : Nat.toDigits 10 n with
  | nil => exact absurd hd Nat.toDigits_ne_nil
  | cons c cs =>
    have hall : ∀ x ∈ c :: cs, x.isDigit = true := hd ▸ isDigit_toDigits n
    have hc : c.isDigit = true := hall c List.mem_cons_self
    rw [digits.eq_def, List.cons_append]
    simp only [hc, if_true]
    rw [← List.cons_append, List.takeWhile_append_of_pos hall, List.dropWhile_append_of_pos hall, htake, hdrop,
      List.append_nil]

theorem wholeDigits_toDigits (n : Nat) {rest : List Char} (h : EndsNumber rest) :
    wholeDigits (Nat.toDigits 10 n ++ rest) = .ok (Nat.toDigits 10 n, rest) := by
  rw [wholeDigits, digits_toDigits n h]
  split
  · rename_i c cs heq
    -- A zero with more digits behind it would be the start of a positive number.
    obtain ⟨hd, -⟩ := Prod.mk.inj (Except.ok.inj heq)
    rcases Nat.eq_zero_or_pos n with rfl | hpos
    · simp at hd
    · exact absurd (by rw [hd]; rfl) (head?_toDigits_ne_zero hpos)
  · rfl

theorem fractionPart_of_endsNumber {rest : List Char} (h : EndsNumber rest) : fractionPart rest = .ok ([], rest) := by
  rw [fractionPart.eq_def]
  split
  · exact absurd rfl (h.head_ne '.' rfl).2.1
  · rfl

theorem exponentPart_of_endsNumber {rest : List Char} (h : EndsNumber rest) :
    exponentPart rest = .ok (none, rest) := by
  cases rest with
  | nil => rfl
  | cons c cs =>
    obtain ⟨-, -, hlow, hup⟩ := h.head_ne c rfl
    simp [exponentPart, hlow, hup]

theorem numeral_minus {cs whole rest : List Char} (h : EndsNumber rest) (hw : wholeDigits cs = .ok (whole, rest)) :
    numeral ('-' :: cs) = .ok (⟨true, whole, [], none⟩, rest) := by
  simp [numeral, hw, fractionPart_of_endsNumber h, exponentPart_of_endsNumber h, bind, Except.bind, pure, Except.pure]

theorem numeral_digit {c : Char} {cs whole rest : List Char} (h : EndsNumber rest) (hc : c.isDigit = true)
    (hw : wholeDigits (c :: cs) = .ok (whole, rest)) : numeral (c :: cs) = .ok (⟨false, whole, [], none⟩, rest) := by
  have hsign : c ≠ '-' := by
    rintro rfl
    cases hc
  simp [numeral, hsign, hw, fractionPart_of_endsNumber h, exponentPart_of_endsNumber h, bind, Except.bind, pure,
    Except.pure]

/-- A written whole number is read as its sign and its digits. -/
theorem numeral_integerChars (n : Int) {rest : List Char} (h : EndsNumber rest) :
    numeral (integerChars n ++ rest) = .ok (⟨decide (n < 0), Nat.toDigits 10 n.natAbs, [], none⟩, rest) := by
  have hw := wholeDigits_toDigits n.natAbs h
  rw [integerChars]
  by_cases hn : n < 0
  · simpa [hn] using numeral_minus h hw
  · rw [if_neg hn, List.nil_append, decide_eq_false hn]
    cases hd : Nat.toDigits 10 n.natAbs with
    | nil => exact absurd hd Nat.toDigits_ne_nil
    | cons c cs =>
      rw [hd] at hw
      exact numeral_digit h (isDigit_toDigits n.natAbs c (hd ▸ List.mem_cons_self)) hw

/-- The whole numbers that are read as such. -/
def InRange (n : Int) : Prop := -signedBound ≤ n ∧ n < UInt64.size

theorem node_of_toDigits {n : Int} (h : InRange n) :
    (Numeral.mk (decide (n < 0)) (Nat.toDigits 10 n.natAbs) [] none).node = .integer n := by
  obtain ⟨hlow, hhigh⟩ := h
  rw [Numeral.node]
  simp only [natOfDigits_toDigits, Option.isNone_none, true_and, decide_eq_true_eq]
  by_cases hn : n < 0
  · have hfit : 0 < n.natAbs ∧ n.natAbs ≤ signedBound := by omega
    simp only [hn, if_true, hfit, and_self]
    congr 1
    omega
  · have hfit : n.natAbs < UInt64.size := by omega
    simp only [hn, if_false, hfit, if_true]
    congr 1
    omega

end RouteCompiler.Json
