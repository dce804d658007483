import RouteCompiler.Proofs.Routing.KeyText
import RouteCompiler.Proofs.Text.LetterCase

/-! # The grammar of shorthands

A shorthand is read just if it is the star or is of the form `Shorthand`. A token has no space, so there is one way to
take such a text apart, at its first space, and what is read gives the text back. Every other character that is no
letter and ends no line tells the two sides of this space apart: it may stand anywhere behind, and nowhere before. -/

namespace RouteCompiler

theorem Shorthand.unique {route token path token' path' : String} (h : Shorthand route token path)
    (h' : Shorthand route token' path') : token' = token ∧ path' = path := by
  rw [h.text] at h'
  exact h'.eq_of_notMem h.space_notMem_token

/-- A path may have the character, but a token may not, and it has no meaning of its own. -/
def PathOnly (c : Char) : Prop := c.isAlpha = false ∧ c ∉ [' ', '*', '\n', '\r', '\u2028', '\u2029']

instance (c : Char) : Decidable (PathOnly c) := inferInstanceAs (Decidable (_ ∧ _))

theorem pathOnly_of_unusual {c : Char} (h : c ∈ ['\u0085', '\t', '\x00', '\x0c'] ∨ 128 ≤ c.toNat)
    (hline : c ∉ ['\u2028', '\u2029']) : PathOnly c := by
  rcases h with h | h
  · simp only [List.mem_cons, List.not_mem_nil, or_false] at h
    rcases h with rfl | rfl | rfl | rfl <;> decide
  · have hletter : ¬c.isAlpha = true := by
      rw [Text.isAlpha_iff]
      omega
    refine ⟨by simpa using hletter, fun hc => ?_⟩
    simp only [List.mem_cons, List.not_mem_nil, or_false] at hc hline
    -- Four of the characters are in ASCII, and the other two end a line.
    rcases hc with rfl | rfl | rfl | rfl | hc
    · exact absurd h (by decide)
    · exact absurd h (by decide)
    · exact absurd h (by decide)
    · exact absurd h (by decide)
    · exact hline hc

namespace PathOnly
variable {c : Char} (h : PathOnly c) {before after : String}
include h

theorem oneLine (hbefore : OneLine before) (hafter : OneLine after) :
    OneLine (before ++ String.singleton c ++ after) := by
  intro d hd hend
  simp only [String.toList_append, String.toList_singleton, List.mem_append, List.mem_singleton] at hd
  rcases hd with (hd | rfl) | hd
  · exact hbefore d hd hend
  · exact h.2 (List.mem_cons_of_mem _ (List.mem_cons_of_mem _ hend))
  · exact hafter d hd hend

/-- The text before the first space has the character, so it is no token. -/
theorem not_shorthand (hbefore : ' ' ∉ before.toList) (token path : String) :
    ¬Shorthand (before ++ String.singleton c ++ after) token path := by
  intro hform
  have htoken : token.toList = (before ++ String.singleton c ++ after).toList.takeWhile (· != ' ') :=
    hform.takeWhile_eq.symm
  have hword : ∀ d ∈ before.toList ++ [c], (d != ' ') = true := by
    intro d hd
    rw [bne_iff_ne]
    rintro rfl
    rcases List.mem_append.mp hd with hd | hd
    · exact hbefore hd
    · exact h.2 (by simp [← List.mem_singleton.mp hd])
  have hchars : (before ++ String.singleton c ++ after).toList = before.toList ++ [c] ++ after.toList := by simp
  rw [hchars, List.takeWhile_append_of_pos hword] at htoken
  have hletter := hform.letters c (by simp [htoken])
  rw [h.1] at hletter
  cases hletter

theorem ne_star (before after : String) : before ++ String.singleton c ++ after ≠ "*" := by
  refine ne_star_of_mem (c := c) (by simp) ?_
  rintro rfl
  exact h.2 (by decide)

end PathOnly

namespace RouteBinding

/-- A shorthand is read just if it is the star, or a token of ASCII letters and a path of one line with a space
between. There is then one such token and one such path, these are read, and with the space between them they are the
text again; the star is read as the path `*` without a method. Any other character than a letter, a space, a star or a
line end, be it a control character or one outside ASCII, may stand at every place of the path, and makes the text
malformed at every place before the first space. -/
theorem normalize_shorthand (route : String) :
    ((∃ raw, (shorthand route).normalize = some raw) ↔ route = "*" ∨ ∃ token path, Shorthand route token path) ∧
    (∀ token path, Shorthand route token path →
      (shorthand route).normalize = some ⟨some token, some path⟩ ∧
      ∀ token' path', Shorthand route token' path' → token' = token ∧ path' = path) ∧
    (∀ method path, (shorthand route).normalize = some ⟨some method, some path⟩ → method ++ " " ++ path = route) ∧
    (route = "*" → (shorthand route).normalize = some ⟨none, some "*"⟩ ∧ ∀ token path, ¬Shorthand route token path) ∧
    (∀ c, c ∈ ['\u0085', '\t', '\x00', '\x0c'] ∨ 128 ≤ c.toNat → c ∉ ['\u2028', '\u2029'] → PathOnly c) ∧
    ∀ c, PathOnly c → ∀ before after : String,
      (∀ token : String, token ≠ "" → (∀ d ∈ token.toList, d.isAlpha = true) → OneLine before → OneLine after →
        route = token ++ " " ++ (before ++ String.singleton c ++ after) →
        (shorthand route).normalize = some ⟨some token, some (before ++ String.singleton c ++ after)⟩) ∧
      (' ' ∉ before.toList → route = before ++ String.singleton c ++ after → (shorthand route).normalize = none) := by
  refine ⟨?_, fun token path h => ⟨h.normalize, fun _ _ => h.unique⟩, ?_, ?_, fun c => pathOnly_of_unusual, ?_⟩
  · constructor
    · rintro ⟨raw, hraw⟩
      rcases normalize_shorthand_eq_some_iff.mp hraw with ⟨hstar, -⟩ | ⟨token, path, h, -⟩
      · exact Or.inl hstar
      · exact Or.inr ⟨token, path, h⟩
    · rintro (rfl | ⟨token, path, h⟩)
      · exact ⟨_, rfl⟩
      · exact ⟨_, h.normalize⟩
  · intro method path hraw
    rcases normalize_shorthand_eq_some_iff.mp hraw with ⟨-, hstar⟩ | ⟨token, rest, h, hparts⟩
    · cases hstar
    · obtain ⟨hmethod, hpath⟩ := RawRoute.mk.inj hparts
      rw [Option.some.inj hmethod, Option.some.inj hpath, h.text]
  · rintro rfl
    exact ⟨rfl, not_shorthand_star⟩
  · intro c hc before after
    constructor
    · rintro token hne hletters hbefore hafter rfl
      have hpath : before ++ String.singleton c ++ after ≠ "" := by
        intro hempty
        simpa using congrArg String.toList hempty
      exact Shorthand.normalize ⟨rfl, hne, hletters, hpath, hc.oneLine hbefore hafter⟩
    · rintro hbefore rfl
      rw [Option.eq_none_iff_forall_ne_some]
      intro raw hraw
      rcases normalize_shorthand_eq_some_iff.mp hraw with ⟨hstar, -⟩ | ⟨token, path, h, -⟩
      · exact hc.ne_star before after hstar
      · exact hc.not_shorthand hbefore token path h

/-- A path keeps its spaces, also the one at its start; a letter outside ASCII may stand in it, but in no token. -/
theorem normalize_shorthand_of_spaces :
    Shorthand "post  /a ß\u0085" "post" " /a ß\u0085" ∧
      (shorthand "post  /a ß\u0085").normalize = some ⟨some "post", some " /a ß\u0085"⟩ ∧
      PathOnly 'ß' ∧ (shorthand "poßt /a").normalize = none := by
  have hform : Shorthand "post  /a ß\u0085" "post" " /a ß\u0085" := by decide
  have hother : PathOnly 'ß' := pathOnly_of_unusual (Or.inr (by decide)) (by decide)
  obtain ⟨-, hread, -⟩ := normalize_shorthand "post  /a ß\u0085"
  obtain ⟨-, -, -, -, -, hrefused⟩ := normalize_shorthand "poßt /a"
  exact ⟨hform, (hread _ _ hform).1, hother, (hrefused 'ß' hother "po" "t /a").2 (by decide) (by decide)⟩

end RouteBinding
end RouteCompiler
