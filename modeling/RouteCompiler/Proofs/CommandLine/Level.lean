import Mathlib
import RouteCompiler.CommandLine.Run

/-! # Log levels

A level that is read as a limit, be it by its name in any case or by its rank, makes a filter of one directive that is in
order. Its origin is the program, from which all events come, so the limit alone decides which of them are shown. -/

namespace RouteCompiler.CommandLine

/-- The level is read as the limit. -/
def Gives (level : String) (limit : Limit) : Prop := Limit.ofText? level = some limit

instance (level : String) (limit : Limit) : Decidable (Gives level limit) := inferInstanceAs (Decidable (_ = _))

/-! ### The characters of a level -/

/-- What is read as a number is made of digits, behind a plus sign perhaps. -/
theorem chars_of_number? {s : String} {n : Nat} (h : number? s = some n) :
    s ≠ "" ∧ ∀ c ∈ s.toList, c.isDigit = true ∨ c = '+' := by
  simp only [number?, Option.ite_none_right_eq_some, List.all_eq_true] at h
  obtain ⟨⟨hne, hdigits⟩, -⟩ := h
  split at hne
  · rename_i rest hplus
    simp only [hplus] at hdigits ⊢
    refine ⟨?_, fun c hc => ?_⟩
    · rintro rfl
      cases hplus
    · exact (List.mem_cons.mp hc).symm.imp_left (hdigits c)
  · rename_i hother
    refine ⟨?_, fun c hc => Or.inl (hdigits c ?_)⟩
    · rintro rfl
      exact hne rfl
    · split
      · rename_i rest hplus
        exact absurd hplus (hother rest)
      · exact hc

theorem sameUpToCase_of_ofName? {name : String} {limit : Limit} (h : Limit.ofName? name = some limit) :
    ∃ known ∈ "off" :: Level.all.map Level.name, Text.upper name = Text.upper known := by
  rw [Limit.ofName?] at h
  split at h
  · rename_i hsame
    exact ⟨"off", List.mem_cons_self, beq_iff_eq.mp hsame⟩
  · obtain ⟨level, hfound, -⟩ := Option.map_eq_some_iff.mp h
    have hmem := List.mem_of_find?_eq_some hfound
    have hsame := List.find?_some hfound
    exact ⟨level.name, List.mem_cons_of_mem _ (List.mem_map_of_mem hmem), beq_iff_eq.mp hsame⟩

/-- What is read as a name is made of letters. -/
theorem chars_of_ofName? {name : String} {limit : Limit} (h : Limit.ofName? name = some limit) :
    name ≠ "" ∧ ∀ c ∈ name.toList, c.isAlpha = true := by
  obtain ⟨known, hknown, hsame⟩ := sameUpToCase_of_ofName? h
  have hnames : ∀ known ∈ "off" :: Level.all.map Level.name,
      Text.upper known ≠ "" ∧ (Text.upper known).toList.all Char.isAlpha = true := by decide
  obtain ⟨hne, hletters⟩ := hnames known hknown
  rw [← hsame] at hne hletters
  refine ⟨?_, fun c hc => ?_⟩
  · rintro rfl
    exact hne rfl
  · have hupper : c.toUpper ∈ (Text.upper name).toList := by
      rw [Text.toList_upper]
      exact List.mem_map_of_mem hc
    have hletter := List.all_eq_true.mp hletters _ hupper
    rwa [Char.isAlpha_toUpper_eq_isAlpha] at hletter

/-! ### The origin of events -/

theorem exists_origin (event : Event) : ∃ part, event.origin = programName ++ part := by
  cases event with
  | routeBound | methodsDerived | tableCompiled => exact ⟨_, rfl⟩
  | configurationAccepted | configurationRejected => exact ⟨"", rfl⟩

/-- Every event comes from the program, so a directive for the program applies to it. -/
theorem appliesTo_program (limit : Limit) (event : Event) :
    Directive.appliesTo ⟨some programName, none, none, limit⟩ event = true := by
  obtain ⟨part, horigin⟩ := exists_origin event
  simp [Directive.appliesTo, horigin]

section Gives
variable {level : String} {limit : Limit} (h : Gives level limit)
include h

theorem Gives.chars : level ≠ "" ∧ ∀ c ∈ level.toList, c.isAlphanum = true ∨ c = '+' := by
  rw [Gives, Limit.ofText?] at h
  cases hnumber : number? level with
  | some rank =>
    obtain ⟨hne, hchars⟩ := chars_of_number? hnumber
    exact ⟨hne, fun c hc => (hchars c hc).imp_left fun hdigit => by simp [Char.isAlphanum, hdigit]⟩
  | none =>
    rw [hnumber] at h
    obtain ⟨hne, hletters⟩ := chars_of_ofName? h
    exact ⟨hne, fun c hc => Or.inl (by simp [Char.isAlphanum, hletters c hc])⟩

theorem Gives.plain : ',' ∉ level.toList ∧ ∀ c ∈ level.toList, Text.whiteSpace.contains c = false := by
  obtain ⟨-, hchars⟩ := h.chars
  refine ⟨fun hcomma => absurd (hchars ',' hcomma) (by decide), fun c hc => ?_⟩
  have hrange : 43 ≤ c.toNat ∧ c.toNat ≤ 122 := by
    rcases hchars c hc with hletter | rfl
    · simp only [Char.isAlphanum, Char.isAlpha, Char.isUpper, Char.isLower, Char.isDigit, Bool.or_eq_true,
        Bool.and_eq_true, decide_eq_true_eq, UInt32.le_iff_toNat_le, ge_iff_le] at hletter
      change ((65 ≤ c.toNat ∧ c.toNat ≤ 90) ∨ (97 ≤ c.toNat ∧ c.toNat ≤ 122)) ∨ (48 ≤ c.toNat ∧ c.toNat ≤ 57)
        at hletter
      omega
    · decide
  -- No range of white space meets the one from the plus sign to the last small letter.
  have houtside : ∀ r ∈ Text.whiteSpace, r.2 < 43 ∨ 122 < r.1 := by decide
  rw [Bool.eq_false_iff, Ne, Text.CodePoints.contains_iff]
  rintro ⟨r, hr, hlow, hhigh⟩
  have := houtside r hr
  omega

/-! ### The directive and the filter -/

theorem Gives.trim_filterText : Text.trim (filterText level).toList = (filterText level).toList := by
  have hname : (programName ++ "=").toList.all (!Text.whiteSpace.contains ·) = true := by decide
  have hall : ∀ c ∈ (filterText level).toList, Text.whiteSpace.contains c = false := by
    intro c hc
    rw [filterText, String.toList_append, List.mem_append] at hc
    rcases hc with hc | hc
    · simpa using List.all_eq_true.mp hname c hc
    · exact h.plain.2 c hc
  have hdrop : ∀ cs : List Char, (∀ c ∈ cs, Text.whiteSpace.contains c = false) →
      cs.dropWhile Text.whiteSpace.contains = cs := by
    intro cs hcs
    refine List.dropWhile_eq_self_iff.mpr fun hlength => ?_
    simp [hcs _ (List.getElem_mem hlength)]
  rw [Text.trim, hdrop _ hall, hdrop _ fun c hc => hall c (List.mem_reverse.mp hc), List.reverse_reverse]

theorem Gives.directive : Directive.ofText (filterText level) = .ok ⟨some programName, none, none, limit⟩ := by
  have htrim := h.trim_filterText
  have hchars : (filterText level).toList = 'h' :: ("ttp_api_routes".toList ++ '=' :: level.toList) := by
    simp [filterText, programName]
  have hopener : Directive.isOpener 'h' = true := by decide
  have hcut : (⟨(filterText level).toList, (filterText level).toList⟩ : DirectiveRest).cut ['=', '['] =
      (programName, ⟨'=' :: level.toList, '=' :: level.toList⟩) := by
    rw [hchars]
    rfl
  have hlimit : (⟨level.toList, level.toList⟩ : DirectiveRest).limit = .ok limit := by
    have hne : level.toList ≠ [] := fun hnil => h.chars.1 (String.toList_eq_nil_iff.mp hnil)
    have hread : Limit.ofText? level = some limit := h
    simp only [DirectiveRest.limit, if_neg hne, String.ofList_toList, hread]
  simp only [Directive.ofText, htrim]
  rw [hcut]
  simp only [hchars]
  simp [DirectiveRest.skip, hlimit, hopener, Except.map]

theorem Gives.directiveTexts : directiveTexts (filterText level) = [filterText level] := by
  have hname : ',' ∉ (programName ++ "=").toList := by decide
  have hcomma : ',' ∉ (filterText level).toList := by
    rw [filterText, String.toList_append, List.mem_append]
    exact not_or.mpr ⟨hname, h.plain.1⟩
  have hne : (filterText level).toList ≠ [] := by simp [filterText, programName]
  rw [CommandLine.directiveTexts, List.splitOn_eq_singleton hcomma]
  simp [hne]

theorem Gives.notices : LogFilter.notices (filterText level) = "" := by
  have hdirective := h.directive
  have htexts := h.directiveTexts
  simp [LogFilter.notices, htexts, LogFilter.notice, hdirective]

theorem Gives.shows (event : Event) : (LogFilter.ofText (filterText level)).shows event = limit.allows event.level := by
  have hdirective := h.directive
  have htexts := h.directiveTexts
  have hfilter : LogFilter.ofText (filterText level) = ⟨[⟨some programName, none, none, limit⟩]⟩ := by
    simp [LogFilter.ofText, htexts, hdirective, Except.toOption]
  have happlies := appliesTo_program limit event
  simp [hfilter, LogFilter.shows, LogFilter.deciding?, happlies]

end Gives

/-! ### A log that is off -/

/-- The level is read as the limit that shows nothing. -/
def Off (level : String) : Prop := Limit.ofText? level = some none

instance (level : String) : Decidable (Off level) := inferInstanceAs (Decidable (_ = _))

theorem Off.gives {level : String} (h : Off level) : Gives level none := h

/-- The log says nothing, not even about its filter. -/
theorem Off.silent {level : String} (h : Off level) : LogFilter.notices (filterText level) = "" ∧
    ∀ event, (LogFilter.ofText (filterText level)).shows event = false :=
  ⟨h.gives.notices, h.gives.shows⟩

end RouteCompiler.CommandLine
