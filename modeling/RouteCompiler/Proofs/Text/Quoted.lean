import Mathlib.Tactic.SplitIfs
import RouteCompiler.Text.Quoted

/-! # Quoted texts can be told apart

What is written for a character says where it ends: a backslash tells by the next character what follows, and the digits
of a code point end at a brace, which is no digit. So the characters of a quoted text can be taken off one by one, and
its closing quote is not mistaken for one of them. Whatever stands behind them, different texts are quoted differently. -/

namespace RouteCompiler.Text

/-! ### Taking off a character -/

/-- The value of a hexadecimal digit in lower case. -/
def digitValue (c : Char) : Nat := if c.isDigit then c.toNat - '0'.toNat else c.toNat - 'a'.toNat + 10

/-- The character of a code point of which the digits before make `n`, and what stands behind its brace. -/
def readCode (n : Nat) : List Char → Option (Char × List Char)
  | [] => none
  | '\x7d' :: rest => some (Char.ofNat n, rest)
  | c :: rest => readCode (16 * n + digitValue c) rest

/-- The first character of a text behind its opening quote, and what stands behind this character; nothing at the
    closing quote. -/
def unquoteChar? : List Char → Option (Char × List Char)
  | [] => none
  | '"' :: _ => none
  | '\\' :: 'u' :: '\x7b' :: rest => readCode 0 rest
  | '\\' :: '0' :: rest => some ('\x00', rest)
  | '\\' :: 't' :: rest => some ('\t', rest)
  | '\\' :: 'r' :: rest => some ('\r', rest)
  | '\\' :: 'n' :: rest => some ('\n', rest)
  | '\\' :: c :: rest => some (c, rest)
  | c :: rest => some (c, rest)

theorem digitChar_ne_and_value : ∀ d < 16, Nat.digitChar d ≠ '\x7d' ∧ digitValue (Nat.digitChar d) = d := by decide

theorem readCode_digitChar {d : Nat} (hd : d < 16) (n : Nat) (rest : List Char) :
    readCode n (Nat.digitChar d :: rest) = readCode (16 * n + d) rest := by
  obtain ⟨hne, hvalue⟩ := digitChar_ne_and_value d hd
  rw [readCode.eq_3 _ _ _ hne, hvalue]

theorem readCode_toDigits (n : Nat) (rest : List Char) : readCode 0 (Nat.toDigits 16 n ++ rest) = readCode n rest := by
  induction n using Nat.strongRecOn generalizing rest with
  | ind n ih =>
    by_cases hn : n < 16
    · rw [Nat.toDigits_of_lt_base hn, List.singleton_append, readCode_digitChar hn]
      simp
    · -- All digits but the last make the number of sixteens.
      rw [Nat.toDigits_of_base_le (by decide) (by omega), List.append_assoc, ih (n / 16) (by omega),
        List.singleton_append, readCode_digitChar (Nat.mod_lt _ (by decide)), Nat.div_add_mod]

theorem unquoteChar?_quotedChar (c : Char) (rest : List Char) : unquoteChar? (quotedChar c ++ rest) = some (c, rest) := by
  rw [quotedChar]
  split_ifs with h₁ h₂ h₃ h₄ h₅ h₆ h₇
  iterate 6
    subst c
    rfl
  · have hchars : ['\\', 'u', '\x7b'] ++ Nat.toDigits 16 c.toNat ++ ['\x7d'] ++ rest =
        '\\' :: 'u' :: '\x7b' :: (Nat.toDigits 16 c.toNat ++ '\x7d' :: rest) := by simp
    rw [hchars, unquoteChar?, readCode_toDigits, readCode, Char.ofNat_toNat]
  · rw [List.singleton_append, unquoteChar?.eq_def]
    split <;> simp_all

/-! ### Whole texts -/

/-- Two texts that go on alike from their opening quotes have the same characters up to the closing quotes. -/
theorem quotedChars_inj {s t rest rest' : List Char}
    (h : s.flatMap quotedChar ++ '"' :: rest = t.flatMap quotedChar ++ '"' :: rest') : s = t ∧ rest = rest' := by
  induction s generalizing t with
  | nil =>
    cases t with
    | nil => exact ⟨rfl, (List.cons.inj h).2⟩
    | cons d t =>
      have hread := congrArg unquoteChar? h
      rw [List.flatMap_cons, List.append_assoc, unquoteChar?_quotedChar] at hread
      cases hread
  | cons c s ih =>
    have hread := congrArg unquoteChar? h
    rw [List.flatMap_cons, List.append_assoc, unquoteChar?_quotedChar] at hread
    cases t with
    | nil => cases hread
    | cons d t =>
      rw [List.flatMap_cons, List.append_assoc, unquoteChar?_quotedChar] at hread
      obtain ⟨rfl, hrest⟩ := Prod.mk.inj (Option.some.inj hread)
      obtain ⟨rfl, hafter⟩ := ih hrest
      exact ⟨rfl, hafter⟩

theorem toList_quoted (s : String) : (quoted s).toList = '"' :: (s.toList.flatMap quotedChar ++ ['"']) := by
  simp [quoted]

/-- A quoted text ends where its closing quote is, whatever stands behind it. -/
theorem quoted_append_inj {s t rest rest' : String} (h : quoted s ++ rest = quoted t ++ rest') :
    s = t ∧ rest = rest' := by
  have hchars := congrArg String.toList h
  simp only [String.toList_append, toList_quoted, List.cons_append, List.append_assoc, List.nil_append,
    List.cons.injEq, true_and] at hchars
  obtain ⟨hs, hrest⟩ := quotedChars_inj hchars
  exact ⟨String.toList_inj.mp hs, String.toList_inj.mp hrest⟩

end RouteCompiler.Text
