import Mathlib
import RouteCompiler.Text.Case

/-! # Texts up to the case of letters

Upper case forgets the case of the 52 ASCII letters and nothing else: texts become equal just if they agree in every
character, up to the two cases of one ASCII letter. -/

namespace RouteCompiler.Text

/-! ### Characters -/

theorem isAlpha_iff {c : Char} :
    c.isAlpha = true ↔ (65 ≤ c.toNat ∧ c.toNat ≤ 90) ∨ (97 ≤ c.toNat ∧ c.toNat ≤ 122) := by
  simp only [Char.isAlpha, Char.isUpper, Char.isLower, Bool.or_eq_true, Bool.and_eq_true, decide_eq_true_eq,
    UInt32.le_iff_toNat_le, ge_iff_le]
  rfl

theorem isLower_iff {c : Char} : c.isLower = true ↔ 97 ≤ c.toNat ∧ c.toNat ≤ 122 := by
  simp only [Char.isLower, Bool.and_eq_true, decide_eq_true_eq, UInt32.le_iff_toNat_le, ge_iff_le]
  rfl

theorem toNat_toUpper (c : Char) :
    c.toUpper.toNat = if 97 ≤ c.toNat ∧ c.toNat ≤ 122 then c.toNat - 32 else c.toNat := by
  by_cases hlower : c.isLower = true
  · have hrange := isLower_iff.mp hlower
    have hvalid : (c.toNat - 32).isValidChar := Or.inl (by omega)
    rw [if_pos hrange, Char.toUpper_eq_of_isLower hlower, Char.toNat_ofNat, if_pos hvalid]
  · rw [if_neg (mt isLower_iff.mpr hlower), Char.toUpper_eq_of_not_isLower hlower]

/-- An ASCII letter in upper case, and the same letter in lower case. -/
def CasesOf (upper lower : Char) : Prop := 65 ≤ upper.toNat ∧ upper.toNat ≤ 90 ∧ lower.toNat = upper.toNat + 32

/-- The same character, or one ASCII letter in both cases. -/
def SameLetter (c d : Char) : Prop := c = d ∨ CasesOf c d ∨ CasesOf d c

theorem toUpper_eq_toUpper_iff {c d : Char} : c.toUpper = d.toUpper ↔ SameLetter c d := by
  have hsame : c = d ↔ c.toNat = d.toNat := ⟨congrArg Char.toNat, Char.toNat_inj.mp⟩
  rw [← Char.toNat_inj, toNat_toUpper, toNat_toUpper, SameLetter, CasesOf, CasesOf, hsame]
  split <;> split <;> omega

namespace SameLetter
variable {c d : Char} (h : SameLetter c d)
include h

theorem symm : SameLetter d c := toUpper_eq_toUpper_iff.mp (toUpper_eq_toUpper_iff.mpr h).symm

theorem isAlpha_eq : c.isAlpha = d.isAlpha := by
  rw [← Char.isAlpha_toUpper_eq_isAlpha c, toUpper_eq_toUpper_iff.mpr h, Char.isAlpha_toUpper_eq_isAlpha]

/-- Only letters have another case. -/
theorem eq_of_not_isAlpha (hc : c.isAlpha = false) : c = d := by
  have hletter : ¬c.isAlpha = true := by simp [hc]
  rw [isAlpha_iff] at hletter
  rcases h with rfl | hcases | hcases
  · rfl
  · exact absurd (Or.inl ⟨hcases.1, hcases.2.1⟩) hletter
  · obtain ⟨hlow, hhigh, hc⟩ := hcases
    exact absurd (Or.inr (by omega)) hletter

end SameLetter

/-! ### Texts -/

/-- The texts agree in every character, up to the case of ASCII letters. -/
def SameLetters (s t : String) : Prop := List.Forall₂ SameLetter s.toList t.toList

theorem sameLetters_iff {s t : String} : SameLetters s t ↔ upper s = upper t := by
  rw [← String.toList_inj, toList_upper, toList_upper, ← List.forall₂_eq_eq_eq, List.forall₂_map_left_iff,
    List.forall₂_map_right_iff]
  simp only [toUpper_eq_toUpper_iff]
  rfl

theorem sameUpToCase_iff {s t : String} : sameUpToCase s t = true ↔ SameLetters s t := by
  rw [sameUpToCase, beq_iff_eq, sameLetters_iff]

theorem sameLetters_upper (s : String) : SameLetters s (upper s) := by
  rw [sameLetters_iff, ← String.toList_inj]
  simp

theorem isLower_of_mem_upper {s : String} {c : Char} (hc : c ∈ (upper s).toList) : c.isLower = false := by
  rw [toList_upper, List.mem_map] at hc
  obtain ⟨d, -, rfl⟩ := hc
  exact Char.isLower_toUpper_eq_false d

namespace SameLetters
variable {s t : String} (h : SameLetters s t)
include h

theorem symm : SameLetters t s := sameLetters_iff.mpr (sameLetters_iff.mp h).symm

theorem exists_of_mem {d : Char} (hd : d ∈ t.toList) : ∃ c ∈ s.toList, SameLetter c d := by
  obtain ⟨i, hi, rfl⟩ := List.mem_iff_getElem.mp hd
  have hlength := List.Forall₂.length_eq h
  exact ⟨_, List.getElem_mem (hlength ▸ hi), List.Forall₂.get h (hlength ▸ hi) hi⟩

theorem letters (hs : ∀ c ∈ s.toList, c.isAlpha = true) : ∀ d ∈ t.toList, d.isAlpha = true := by
  intro d hd
  obtain ⟨c, hc, hsame⟩ := h.exists_of_mem hd
  rw [← hsame.isAlpha_eq, hs c hc]

theorem notMem {d : Char} (hd : d.isAlpha = false) (hs : d ∉ s.toList) : d ∉ t.toList := by
  intro hmem
  obtain ⟨c, hc, hsame⟩ := h.exists_of_mem hmem
  rw [← hsame.symm.eq_of_not_isAlpha hd] at hc
  exact hs hc

/-- A text without letters is written in one way only. -/
theorem eq_of_no_letters (hs : ∀ c ∈ s.toList, c.isAlpha = false) : s = t := by
  have hboth : List.Forall₂ (fun c d => c.isAlpha = false ∧ SameLetter c d) s.toList t.toList :=
    (List.forall₂_and_left _ _).mpr ⟨hs, h⟩
  rw [← String.toList_inj, ← List.forall₂_eq_eq_eq]
  exact hboth.imp fun c d hcd => hcd.2.eq_of_not_isAlpha hcd.1

theorem eq_iff_of_no_letters {u : String} (hu : ∀ c ∈ u.toList, c.isAlpha = false) : s = u ↔ t = u := by
  constructor
  · rintro rfl
    exact (h.eq_of_no_letters hu).symm
  · rintro rfl
    exact (h.symm.eq_of_no_letters hu).symm

end SameLetters
end RouteCompiler.Text
