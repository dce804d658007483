import Mathlib.Data.List.Basic
import Mathlib.Tactic.SplitIfs
import RouteCompiler.Proofs.Json.Scalars
import RouteCompiler.Toml.Value
import RouteCompiler.Toml.Write

/-! # Written texts, keys and numbers read back

A text in quotes is read back whatever escapes it has, a key whether it is bare or quoted, and a whole number
although its digits could have been the start of a date, of a time or of a number to another base. -/

namespace RouteCompiler.Toml
open Document

/-! ### Strings -/

theorem hexDigit?_digitChar : ∀ n < 16, hexDigit? (Nat.digitChar n) = some n := by decide

/-- The four digits of a written control character stand for it. -/
theorem escapedCodePoint?_control {c : Char} (h : c.toNat < 0x80) :
    escapedCodePoint? ['0', '0', Nat.digitChar (c.toNat / 16), Nat.digitChar (c.toNat % 16)] = some c := by
  have hzero : hexDigit? '0' = some 0 := by decide
  have hhigh := hexDigit?_digitChar (c.toNat / 16) (by omega)
  have hlow := hexDigit?_digitChar (c.toNat % 16) (by omega)
  have hsum : c.toNat / 16 * 16 + c.toNat % 16 = c.toNat := by omega
  have hvalid : c.toNat.isValidChar := c.valid
  simp [escapedCodePoint?, hexNumber?, hzero, hhigh, hlow, hsum, hvalid]

/-- What is written for a character is read as the character, whatever follows it. -/
theorem basicText_escapedChar (c : Char) (rest : List Char) :
    basicText (escapedChar c ++ rest) = consText c (basicText rest) := by
  rw [escapedChar]
  split_ifs with h₁ h₂ h₃ h₄ h₅ h₆ h₇ h₈
  iterate 7
    subst c
    simp [basicText, simpleEscape?]
  · simp [basicText, escapedCodePoint?_control (c := c) (by omega)]
  · have hchar : isStringChar c = true := by
      simp only [isStringChar, Bool.or_eq_true, beq_iff_eq, Bool.and_eq_true, decide_eq_true_eq, bne_iff_ne]
      omega
    rw [List.singleton_append, basicText.eq_def]
    split <;> simp_all

theorem basicText_flatMap (cs rest : List Char) :
    basicText (cs.flatMap escapedChar ++ '"' :: rest) = .ok (cs, rest) := by
  induction cs with
  | nil => simp [basicText]
  | cons c cs ih =>
    rw [List.flatMap_cons, List.append_assoc, basicText_escapedChar, ih]
    rfl

theorem escapedChar_eq_cons (c : Char) : ∃ d ds, escapedChar c = d :: ds ∧ d ≠ '"' := by
  rw [escapedChar]
  split_ifs with h₁
  iterate 8 exact ⟨_, _, rfl, by decide⟩
  exact ⟨c, [], rfl, h₁⟩

/-- A text that is written with its quotes is read, if no third quote makes it look like a long one. -/
theorem string_quotedChars (s : String) {rest : List Char} (h : ∀ cs, rest ≠ '"' :: cs) :
    string (quotedChars s ++ rest) = .ok (s, rest) := by
  have hquoted : quotedChars s ++ rest = '"' :: (s.toList.flatMap escapedChar ++ '"' :: rest) := by
    simp [quotedChars]
  -- Two quotes stand side by side only if the text is empty, and `rest` has no third one.
  have hlong : ∀ cs, s.toList.flatMap escapedChar ++ '"' :: rest ≠ '"' :: '"' :: cs := by
    intro cs
    cases s.toList with
    | nil =>
      intro heq
      exact h cs (by simpa using heq)
    | cons c _ =>
      obtain ⟨d, ds, hd, hne⟩ := escapedChar_eq_cons c
      simp [hd, hne]
  rw [hquoted, string, basicText_flatMap]
  · simp [Except.map]
  · exact fun cs heq => hlong cs heq

/-! ### Keys -/

/-- A written key is read up to the blank behind it. -/
theorem key_keyChars (k : String) (rest : List Char) : key (keyChars k ++ ' ' :: rest) = .ok (k, ' ' :: rest) := by
  rw [keyChars]
  split_ifs with hbare
  · obtain ⟨hne, hall⟩ := hbare
    rw [List.all_eq_true] at hall
    have hquote : ∀ c cs, isBareKeyChar c = false → k.toList ++ ' ' :: rest ≠ c :: cs := by
      intro c cs hc heq
      obtain ⟨d, ds, hk⟩ := List.exists_cons_of_ne_nil hne
      rw [hk] at heq hall
      obtain ⟨rfl, -⟩ := List.cons.inj heq
      simp [hall d List.mem_cons_self] at hc
    have hblank : ¬isBareKeyChar ' ' = true := by decide
    rw [key]
    · simp [List.takeWhile_append_of_pos hall, List.dropWhile_append_of_pos hall, List.takeWhile_cons_of_neg hblank,
        List.dropWhile_cons_of_neg hblank, hne]
    · exact fun cs => hquote '"' cs (by decide)
    · exact fun cs => hquote '\'' cs (by decide)
  · have htext : quotedChars k ++ ' ' :: rest = '"' :: (k.toList.flatMap escapedChar ++ '"' :: ' ' :: rest) := by
      simp [quotedChars]
    rw [htext, key, basicText_flatMap]
    simp [Except.map]

/-- The head of a written key is neither a blank nor anything that starts a comment, a line or a header. -/
theorem keyChars_eq_cons (k : String) :
    ∃ c cs, keyChars k = c :: cs ∧ (c = '"' ∨ isBareKeyChar c = true) := by
  rw [keyChars]
  split_ifs with hbare
  · obtain ⟨hne, hall⟩ := hbare
    obtain ⟨c, cs, hk⟩ := List.exists_cons_of_ne_nil hne
    rw [hk, List.all_eq_true] at hall
    exact ⟨c, cs, hk, Or.inr (hall c List.mem_cons_self)⟩
  · exact ⟨'"', _, rfl, Or.inl rfl⟩

theorem dropBlanks_keyChars (k : String) (rest : List Char) : dropBlanks (keyChars k ++ rest) = keyChars k ++ rest := by
  obtain ⟨c, cs, hk, hc⟩ := keyChars_eq_cons k
  have hblank : isBlank c = false := by
    rcases hc with rfl | hc
    · decide
    · rw [isBlank, Bool.or_eq_false_iff, beq_eq_false_iff_ne, beq_eq_false_iff_ne]
      constructor <;> rintro rfl <;> exact absurd hc (by decide)
  rw [hk, dropBlanks, List.cons_append, List.dropWhile_cons_of_neg (by simp [hblank])]

/-- A written key with an equals sign behind it is a path by itself, whatever blanks stand in front of it. -/
theorem keyPath_of_key {cs rest : List Char} {k : String} (h : dropBlanks cs = keyChars k ++ ' ' :: '=' :: rest) :
    keyPath cs = .ok (⟨[], k⟩, '=' :: rest) := by
  have hmore : moreKeys (' ' :: '=' :: rest).length (' ' :: '=' :: rest) = .ok ([], '=' :: rest) := by
    simp [moreKeys, dropBlanks, isBlank, List.dropWhile]
  rw [keyPath, h, key_keyChars]
  simp only [hmore]
  simp [pathLimit]

/-! ### Whole numbers -/

/-- A value ends here: the text does, or its line, or a comma or a closing bracket follows. -/
def EndsValue (rest : List Char) : Prop := ∀ c cs, rest = c :: cs → c ∈ [',', ']', '\x7d', '\n']

theorem endsValue_cons {c : Char} {cs : List Char} (h : c ∈ [',', ']', '\x7d', '\n']) : EndsValue (c :: cs) := by
  intro d ds heq
  obtain ⟨rfl, -⟩ := List.cons.inj heq
  exact h

/-- What may stand behind a value does not go on with a number, a time or a text. -/
theorem EndsValue.ne {c : Char} {cs : List Char} (h : EndsValue (c :: cs)) {d : Char}
    (hd : d ∉ [',', ']', '\x7d', '\n']) : c ≠ d := by
  rintro rfl
  exact hd (h c cs rfl)

theorem EndsValue.not_isDigit {c : Char} {cs : List Char} (h : EndsValue (c :: cs)) : c.isDigit = false := by
  have hc := h c cs rfl
  simp only [List.mem_cons, List.not_mem_nil, or_false] at hc
  rcases hc with rfl | rfl | rfl | rfl <;> decide

section Digits
variable {ds rest : List Char} (hds : ∀ c ∈ ds, c.isDigit = true) (hends : EndsValue rest)
include hds hends

theorem moreDigits_of_digits : moreDigits Char.isDigit (ds ++ rest) = .ok (ds, rest) := by
  induction ds with
  | nil =>
    cases rest with
    | nil => rfl
    | cons c cs =>
      have hne : c ≠ '_' := hends.ne (by decide)
      have hdigit := hends.not_isDigit
      rw [List.nil_append, moreDigits.eq_def]
      split <;> simp_all
  | cons d ds ih =>
    have hd := hds d List.mem_cons_self
    have hne : d ≠ '_' := by
      rintro rfl
      cases hd
    have ih := ih fun c hc => hds c (List.mem_cons_of_mem d hc)
    rw [List.cons_append, moreDigits.eq_def]
    split <;> simp_all [consText, Except.map]

/-- Digits taken one by one come to an end before or where the digits do. -/
theorem fixedDigits_of_digits (count acc : Nat) : (∃ f, fixedDigits count acc (ds ++ rest) = .error f) ∨
    ∃ n ds', (∀ c ∈ ds', c.isDigit = true) ∧ fixedDigits count acc (ds ++ rest) = .ok (n, ds' ++ rest) := by
  induction count generalizing acc ds with
  | zero => exact Or.inr ⟨acc, ds, hds, rfl⟩
  | succ count ih =>
    cases ds with
    | nil =>
      left
      cases rest with
      | nil => exact ⟨_, rfl⟩
      | cons c cs => exact ⟨_, by simp [fixedDigits, hends.not_isDigit]; rfl⟩
    | cons d ds =>
      simpa [fixedDigits, hds d List.mem_cons_self] using ih (fun c hc => hds c (List.mem_cons_of_mem d hc)) _

theorem digits_of_digits (hne : ds ≠ []) : digits Char.isDigit (ds ++ rest) = .ok (ds, rest) := by
  obtain ⟨d, ds, rfl⟩ := List.exists_cons_of_ne_nil hne
  obtain ⟨hd, hds⟩ := List.forall_mem_cons.mp hds
  rw [List.cons_append, digits, if_pos hd, moreDigits_of_digits hds hends]
  rfl

theorem numberIn_of_digits (count low high : Nat) :
    (∃ f, numberIn count low high (ds ++ rest) = .error f ∧ f.firm = false) ∨
    ∃ n ds', (∀ c ∈ ds', c.isDigit = true) ∧ numberIn count low high (ds ++ rest) = .ok (n, ds' ++ rest) := by
  rcases fixedDigits_of_digits hds hends count 0 with ⟨f, hf⟩ | ⟨n, ds', hds', hn⟩
  · exact Or.inl ⟨_, by rw [numberIn, hf], rfl⟩
  · by_cases hrange : low ≤ n ∧ n ≤ high
    · exact Or.inr ⟨n, ds', hds', by simp [numberIn, hn, hrange]⟩
    · exact Or.inl ⟨_, by simp only [numberIn, hn, if_neg hrange]; rfl, rfl⟩

theorem expect_of_digits {c : Char} (hdigit : c.isDigit = false) (hc : c ∉ [',', ']', '\x7d', '\n']) :
    ∃ f, expect c (ds ++ rest) = .error f ∧ f.firm = false := by
  cases ds with
  | nil =>
    cases rest with
    | nil => exact ⟨_, rfl, rfl⟩
    | cons d cs => exact ⟨_, by simp only [List.nil_append, expect, if_neg (hends.ne hc).symm]; rfl, rfl⟩
  | cons d ds =>
    have hne : c ≠ d := by
      rintro rfl
      rw [hds c List.mem_cons_self] at hdigit
      cases hdigit
    exact ⟨_, by simp only [List.cons_append, expect, if_neg hne]; rfl, rfl⟩

/-- Digits with no dash and no colon behind them start neither a date nor a time of day. -/
theorem dateTime_of_digits : ∃ f, dateTime (ds ++ rest) = .error f ∧ f.firm = false := by
  -- There may be enough digits for a year or an hour, but no dash or colon comes behind them.
  have hdate : ∃ f, date (ds ++ rest) = .error f ∧ f.firm = false := by
    rcases numberIn_of_digits hds hends 4 0 9999 with ⟨f, hf, hsoft⟩ | ⟨n, ds', hds', hn⟩
    · exact ⟨f, by rw [date, hf]; rfl, hsoft⟩
    · obtain ⟨f, hf, hsoft⟩ := expect_of_digits hds' hends (c := '-') (by decide) (by decide)
      exact ⟨f, by simp [date, hn, hf, bind, Except.bind], hsoft⟩
  have htime : ∃ f, timeOfDay (ds ++ rest) = .error f ∧ f.firm = false := by
    rcases numberIn_of_digits hds hends 2 0 23 with ⟨f, hf, hsoft⟩ | ⟨n, ds', hds', hn⟩
    · exact ⟨f, by rw [timeOfDay, hf]; rfl, hsoft⟩
    · obtain ⟨f, hf, hsoft⟩ := expect_of_digits hds' hends (c := ':') (by decide) (by decide)
      exact ⟨f, by simp [timeOfDay, hn, hf, bind, Except.bind], hsoft⟩
  obtain ⟨f, hf, hsoft⟩ := hdate
  obtain ⟨g, hg, hgsoft⟩ := htime
  exact ⟨g.within .time, by simp [dateTime, dropDateTime, hf, hsoft, hg, inside, Except.mapError, Except.map], hgsoft⟩

end Digits

section Integers
variable {rest : List Char} (hends : EndsValue rest)

/-- The whole numbers of 64 bits with a sign. -/
def InRange (n : Int) : Prop := -signedBound ≤ n ∧ n < signedBound

theorem natOfDigits_toDigits (n : Nat) : natOfDigits 10 (Nat.toDigits 10 n) = n := by
  have hdigit : ∀ (m : Nat), ∀ c ∈ Nat.toDigits 10 n,
      m * 10 + (hexDigit? c).getD 0 = 10 * m + (c.toNat - '0'.toNat) := by
    intro m c hc
    rw [hexDigit?, if_pos (Json.isDigit_toDigits n c hc), Option.getD_some, Nat.mul_comm]
  rw [natOfDigits, List.foldl_ext _ _ 0 hdigit, ← Nat.ofDigitChars_eq_foldl, Nat.ofDigitChars_ten_toDigits]

theorem integer_natAbs {n : Int} (hn : InRange n) (start : List Char) :
    integer start (decide (n < 0)) n.natAbs = .ok (.integer n) := by
  obtain ⟨hlow, hhigh⟩ := hn
  have hfit : n.natAbs < signedBound ∨ (decide (n < 0) ∧ n.natAbs = signedBound) := by
    rw [decide_eq_true_iff]
    omega
  have hvalue : (if decide (n < 0) = true then -(n.natAbs : Int) else n.natAbs) = n := by
    split_ifs with hneg
    · have := of_decide_eq_true hneg
      omega
    · rw [decide_eq_true_iff] at hneg
      omega
  rw [integer, if_pos hfit, hvalue]

theorem toDigits_append_eq_cons {n : Nat} {c : Char} {tail : List Char} (h : Nat.toDigits 10 n ++ rest = c :: tail) :
    c.isDigit = true := by
  obtain ⟨d, ds, hd⟩ := List.exists_cons_of_ne_nil (Nat.toDigits_ne_nil (n := n) (b := 10))
  rw [hd] at h
  obtain ⟨rfl, -⟩ := List.cons.inj h
  exact Json.isDigit_toDigits n d (hd ▸ List.mem_cons_self)

theorem toDigits_append_ne_zero {n : Nat} (hpos : 0 < n) (tail : List Char) :
    Nat.toDigits 10 n ++ rest ≠ '0' :: tail := by
  intro h
  obtain ⟨d, ds, hd⟩ := List.exists_cons_of_ne_nil (Nat.toDigits_ne_nil (n := n) (b := 10))
  rw [hd] at h
  obtain ⟨rfl, -⟩ := List.cons.inj h
  exact absurd (by rw [hd]; rfl) (Json.head?_toDigits_ne_zero hpos)

include hends

/-- A lone zero and digits that start with another digit are read in different ways. -/
theorem wholeDigits_toDigits (n : Nat) : wholeDigits (Nat.toDigits 10 n ++ rest) = .ok (Nat.toDigits 10 n, rest) := by
  rcases Nat.eq_zero_or_pos n with rfl | hpos
  · rfl
  · rw [wholeDigits, digits_of_digits (Json.isDigit_toDigits n) hends Nat.toDigits_ne_nil]
    exact toDigits_append_ne_zero hpos

theorem fraction_of_endsValue : fraction rest = .ok ([], rest) := by
  cases rest with
  | nil => rfl
  | cons c cs =>
    have hpoint : c ≠ '.' := hends.ne (by decide)
    rw [fraction]
    exact fun _ heq => hpoint (List.cons.inj heq).1

theorem exponent_of_endsValue : exponent rest = .ok (none, rest) := by
  cases rest with
  | nil => rfl
  | cons c cs =>
    have hlow : c ≠ 'e' := hends.ne (by decide)
    have hup : c ≠ 'E' := hends.ne (by decide)
    simp [exponent, hlow, hup]

theorem decimal_toDigits {n : Int} (hn : InRange n) (start : List Char) :
    decimal start (decide (n < 0)) (Nat.toDigits 10 n.natAbs ++ rest) = .ok (.integer n, rest) := by
  simp only [decimal, wholeDigits_toDigits hends, inside_ok, fraction_of_endsValue hends, settle_ok,
    exponent_of_endsValue hends, natOfDigits_toDigits, integer_natAbs hn, bind, Except.bind, pure, Except.pure]
  simp

omit hends in
/-- Without a word and without a letter that tells another base, a number is a decimal one. -/
theorem number_eq_decimal {cs behind : List Char} {negative : Bool} (hsign : sign cs = (negative, behind))
    (hdigit : ∀ c tail, behind = c :: tail → c.isDigit = true)
    (hbase : ∀ c tail, cs = '0' :: c :: tail → c ≠ 'x' ∧ c ≠ 'o' ∧ c ≠ 'b') :
    number cs = decimal cs negative behind := by
  rw [number]
  simp only [hsign]
  split
  · cases hdigit _ _ rfl
  · cases hdigit _ _ rfl
  · split
    · exact absurd rfl (hbase _ _ rfl).1
    · exact absurd rfl (hbase _ _ rfl).2.1
    · exact absurd rfl (hbase _ _ rfl).2.2
    · rfl

/-- Only a lone zero starts with a zero, and no letter of another base stands behind it. -/
theorem not_based_toDigits {n : Nat} {c : Char} {tail : List Char}
    (h : Nat.toDigits 10 n ++ rest = '0' :: c :: tail) : c ≠ 'x' ∧ c ≠ 'o' ∧ c ≠ 'b' := by
  rcases Nat.eq_zero_or_pos n with rfl | hpos
  · obtain rfl : rest = c :: tail := (List.cons.inj h).2
    exact ⟨hends.ne (by decide), hends.ne (by decide), hends.ne (by decide)⟩
  · exact absurd h (toDigits_append_ne_zero hpos _)

/-- A written whole number is neither a date nor a number to another base. -/
theorem scalar_integerChars {n : Int} (hn : InRange n) : scalar (integerChars n ++ rest) = .ok (.integer n, rest) := by
  have hread := decimal_toDigits hends hn (integerChars n ++ rest)
  by_cases hneg : n < 0
  · have hchars : integerChars n ++ rest = '-' :: (Nat.toDigits 10 n.natAbs ++ rest) := by simp [integerChars, hneg]
    have hnumber : number (integerChars n ++ rest) = .ok (.integer n, rest) := by
      rw [← hread, decide_eq_true hneg]
      exact number_eq_decimal (by rw [hchars]; rfl) (fun _ _ => toDigits_append_eq_cons) (by simp [hchars])
    rw [hchars] at hnumber ⊢
    simpa [scalar, timeOrNumber, dateTime, dropDateTime, date, timeOfDay, numberIn, fixedDigits, Fault.here, inside,
      Fault.within, bind, Except.bind, Except.map, Except.mapError] using hnumber
  · have hchars : integerChars n ++ rest = Nat.toDigits 10 n.natAbs ++ rest := by simp [integerChars, hneg]
    obtain ⟨f, hf, hsoft⟩ := dateTime_of_digits (Json.isDigit_toDigits n.natAbs) hends
    obtain ⟨d, ds, hd⟩ : ∃ d ds, Nat.toDigits 10 n.natAbs ++ rest = d :: ds :=
      List.exists_cons_of_ne_nil (by simp [Nat.toDigits_ne_nil])
    have hdigit : d.isDigit = true := toDigits_append_eq_cons hd
    have hother : ∀ c : Char, c.isDigit = false → d ≠ c := by
      rintro c hc rfl
      rw [hdigit] at hc
      cases hc
    have hnumber : number (integerChars n ++ rest) = .ok (.integer n, rest) := by
      rw [← hread, decide_eq_false hneg]
      refine number_eq_decimal ?_ (fun _ _ => toDigits_append_eq_cons) fun c tail heq => ?_
      · simp [hchars, hd, sign, hother]
      · exact not_based_toDigits hends (hchars ▸ heq)
    rw [hchars, hd] at hnumber ⊢
    rw [hd] at hf
    simp [scalar, timeOrNumber, hdigit, hother, hf, hsoft, hnumber]

end Integers

end RouteCompiler.Toml
