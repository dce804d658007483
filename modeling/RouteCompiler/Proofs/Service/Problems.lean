import Mathlib
import RouteCompiler.Proofs.Service.RoundTrip
import RouteCompiler.Proofs.Service.Validation

/-! # What validation reports

Validation goes through the functions with the names seen so far, of which a blank name is none. What it reports can be
said place by place, in view of the functions before: `problemsAt` and `fieldProblem` are what is wrong with a function
and with a CORS field, and all of it is reported in order. -/

namespace RouteCompiler

/-! ### Blank texts -/

/-- Nothing is left of the text without the white space at its ends. -/
def Text.Blank (s : String) : Prop := Text.trim s.toList = []

instance (s : String) : Decidable (Text.Blank s) := inferInstanceAs (Decidable (_ = _))

theorem Text.blank_iff {s : String} : Text.Blank s ↔ Text.isBlank s = true := by
  rw [Text.Blank, Text.isBlank_iff, Text.trim, List.reverse_eq_nil_iff, List.dropWhile_eq_nil_iff]
  simp only [List.mem_reverse]
  constructor
  · intro h c hc
    by_contra hother
    -- A character that is no white space is not dropped from the start, and so would be left.
    have hleft : c ∈ s.toList.dropWhile Text.whiteSpace.contains := by
      rw [← List.takeWhile_append_dropWhile (p := Text.whiteSpace.contains) (l := s.toList), List.mem_append] at hc
      exact hc.resolve_left fun htaken => hother (List.mem_takeWhile_imp htaken)
    exact hother (h c hleft)
  · intro h c hc
    exact h c (List.dropWhile_sublist _ |>.subset hc)

namespace ServiceConfig

/-! ### The list of problems -/

/-- What is wrong with a function at a place, behind some others: with its name, then with the name of its alias. -/
def problemsAt (earlier : List FunctionConfig) (index : Nat) (f : FunctionConfig) : List ServiceProblem :=
  (if Text.Blank f.name then [.emptyFunctionName index]
    else if ∃ g ∈ earlier, g.name = f.name then [.duplicateFunction f.name] else []) ++
  if ∃ a ∈ f.targetAlias, Text.Blank a.name then [.emptyAliasName f.name] else []

/-- What is wrong with a field of the CORS overrides: a blank text in it, be there one or more. -/
def fieldProblem (field : CorsField) (value : Option OneOrMany) : List ServiceProblem :=
  if ∃ values ∈ value, ∃ s ∈ values.toList, Text.Blank s then [.emptyCorsValue field] else []

def overridesProblems (cors : CorsOverrides) : List ServiceProblem :=
  fieldProblem .allowedOrigins cors.allowedOrigins ++ fieldProblem .allowedHeaders cors.allowedHeaders ++
    fieldProblem .allowedMethods cors.allowedMethods ++ fieldProblem .exposedResponseHeaders cors.exposedResponseHeaders

theorem aliasProblem_eq (f : FunctionConfig) :
    aliasProblem f = if ∃ a ∈ f.targetAlias, Text.Blank a.name then [.emptyAliasName f.name] else [] := by
  rw [aliasProblem]
  cases f.targetAlias with
  | none => simp
  | some a => simp [Text.blank_iff]

/-- The names that the scan keeps are those of the functions before, as far as they are not blank. -/
theorem nameProblem_eq {seen : List String} {earlier : List FunctionConfig}
    (hseen : ∀ name, ¬Text.Blank name → (name ∈ seen ↔ ∃ g ∈ earlier, g.name = name)) (index : Nat)
    (f : FunctionConfig) : nameProblem seen index f =
      if Text.Blank f.name then [.emptyFunctionName index]
      else if ∃ g ∈ earlier, g.name = f.name then [.duplicateFunction f.name] else [] := by
  rw [nameProblem]
  by_cases hblank : Text.Blank f.name
  · rw [if_pos hblank, if_pos (Text.blank_iff.mp hblank)]
  · rw [if_neg hblank, if_neg (mt Text.blank_iff.mpr hblank)]
    simp only [List.contains_iff_mem, hseen f.name hblank]

theorem functionProblems_eq {seen : List String} {earlier functions : List FunctionConfig}
    (hseen : ∀ name, ¬Text.Blank name → (name ∈ seen ↔ ∃ g ∈ earlier, g.name = name)) :
    functionProblems seen earlier.length functions = (functions.zipIdx earlier.length).flatMap fun place =>
      problemsAt ((earlier ++ functions).take place.2) place.2 place.1 := by
  -- The scan goes on behind `earlier ++ [f]`, with the name of `f` if it is not blank.
  induction functions generalizing seen earlier with
  | nil => rfl
  | cons f rest ih =>
    have hnext : ∀ name, ¬Text.Blank name →
        (name ∈ (if Text.isBlank f.name then seen else f.name :: seen) ↔ ∃ g ∈ earlier ++ [f], g.name = name) := by
      intro name hname
      by_cases hblank : Text.isBlank f.name = true
      · have hother : f.name ≠ name := fun h => hname (h ▸ Text.blank_iff.mpr hblank)
        simp [hblank, hseen name hname, or_and_right, exists_or, hother]
      · simp [hblank, hseen name hname, or_and_right, exists_or, or_comm, eq_comm]
    have hrest := ih hnext
    rw [List.length_append, List.length_singleton, List.append_assoc, List.singleton_append] at hrest
    have hearlier : (earlier ++ f :: rest).take earlier.length = earlier := List.take_left' rfl
    rw [functionProblems, nameProblem_eq hseen, aliasProblem_eq, hrest, List.zipIdx_cons, List.flatMap_cons,
      hearlier, problemsAt]

theorem fieldProblem_eq (field : CorsField) (value : Option OneOrMany) : fieldProblem field value =
    if value.any fun values => values.toList.any Text.isBlank then [.emptyCorsValue field] else [] := by
  simp only [fieldProblem, Option.any_eq_true, List.any_eq_true, Text.blank_iff, Option.mem_def]

theorem flatMap_fieldProblem (cors : CorsOverrides) (fields : List CorsField) :
    (fields.flatMap fun field => fieldProblem field (field.value cors)) =
      (fields.filter fun field => (field.value cors).any fun values => values.toList.any Text.isBlank).map
        ServiceProblem.emptyCorsValue := by
  induction fields with
  | nil => rfl
  | cons field rest ih =>
    rw [List.flatMap_cons, fieldProblem_eq, ih, List.filter_cons]
    split <;> rfl

theorem corsProblems_custom (cors : CorsOverrides) : corsProblems (some (.custom cors)) = overridesProblems cors := by
  rw [corsProblems, ← flatMap_fieldProblem]
  simp [CorsField.all, CorsField.value, overridesProblems]

theorem problems_eq (config : ServiceConfig) : config.problems =
    (config.functions.zipIdx.flatMap fun place => problemsAt (config.functions.take place.2) place.2 place.1) ++
      match config.cors with
      | some (.custom cors) => overridesProblems cors
      | _ => [] := by
  have hfunctions : functionProblems [] 0 config.functions = config.functions.zipIdx.flatMap fun place =>
      problemsAt (config.functions.take place.2) place.2 place.1 :=
    @functionProblems_eq [] [] config.functions fun name _ => by simp
  rw [problems, hfunctions]
  cases config.cors with
  | none => rfl
  | some setting =>
    cases setting with
    | enabled on => rfl
    | custom cors => rw [corsProblems_custom]

/-! ### No problem -/

theorem fieldProblem_eq_nil_iff {field : CorsField} {value : Option OneOrMany} :
    fieldProblem field value = [] ↔ ∀ values ∈ value, ∀ s ∈ values.toList, ¬Text.Blank s := by
  rw [fieldProblem]
  simp

theorem overridesProblems_eq_nil_iff {cors : CorsOverrides} : overridesProblems cors = [] ↔
    ∀ field : CorsField, ∀ values ∈ field.value cors, ∀ s ∈ values.toList, ¬Text.Blank s := by
  simp only [overridesProblems, List.append_eq_nil_iff, fieldProblem_eq_nil_iff, and_assoc]
  constructor
  · rintro ⟨horigins, hheaders, hmethods, hexposed⟩ field
    cases field with
    | allowedOrigins => exact horigins
    | allowedHeaders => exact hheaders
    | allowedMethods => exact hmethods
    | exposedResponseHeaders => exact hexposed
  · intro h
    exact ⟨h .allowedOrigins, h .allowedHeaders, h .allowedMethods, h .exposedResponseHeaders⟩

theorem problems_eq_nil_iff {config : ServiceConfig} : config.problems = [] ↔
    (∀ f ∈ config.functions, ¬Text.Blank f.name) ∧ (config.functions.map (·.name)).Nodup ∧
    (∀ f ∈ config.functions, ∀ a ∈ f.targetAlias, ¬Text.Blank a.name) ∧
    ∀ cors, config.cors = some (.custom cors) →
      ∀ field : CorsField, ∀ values ∈ field.value cors, ∀ s ∈ values.toList, ¬Text.Blank s := by
  have hfunctions : functionProblems [] 0 config.functions = [] ↔
      (∀ f ∈ config.functions, ¬Text.Blank f.name) ∧ (config.functions.map (·.name)).Nodup ∧
        ∀ f ∈ config.functions, ∀ a ∈ f.targetAlias, ¬Text.Blank a.name := by
    simp only [functionProblems_eq_nil_iff, aliasProblem_eq_nil_iff, Text.blank_iff, Option.mem_def,
      Bool.not_eq_true, List.not_mem_nil, not_false_eq_true, true_and, imp_and, forall_and]
    tauto
  have hcors : corsProblems config.cors = [] ↔ ∀ cors, config.cors = some (.custom cors) →
      ∀ field : CorsField, ∀ values ∈ field.value cors, ∀ s ∈ values.toList, ¬Text.Blank s := by
    rcases config.cors with _ | on | cors
    · simp [corsProblems]
    · simp [corsProblems]
    · simp [corsProblems_custom, overridesProblems_eq_nil_iff]
  rw [problems, List.append_eq_nil_iff, hfunctions, hcors]
  simp only [and_assoc]

/-! ### Repeated names -/

/-- The names of the functions that are not blank. -/
def givenNames (functions : List FunctionConfig) : List String :=
  (functions.map (·.name)).filter fun name => ¬Text.Blank name

def repeats (problems : List ServiceProblem) : Nat :=
  problems.countP fun problem => problem matches .duplicateFunction _

theorem repeats_append (ps qs : List ServiceProblem) : repeats (ps ++ qs) = repeats ps + repeats qs :=
  List.countP_append

theorem repeats_aliasProblem (f : FunctionConfig) : repeats (aliasProblem f) = 0 := by
  rw [aliasProblem_eq]
  split <;> rfl

theorem repeats_corsProblems (setting : Option CorsSetting) : repeats (corsProblems setting) = 0 := by
  rw [repeats, List.countP_eq_zero]
  rcases setting with _ | on | cors
  · simp [corsProblems]
  · simp [corsProblems]
  · intro problem hproblem
    rw [corsProblems, List.mem_map] at hproblem
    obtain ⟨field, -, rfl⟩ := hproblem
    simp

/-- Of the given names, each is reported but the first of its kind, unless this kind has been seen before. -/
theorem repeats_functionProblems (seen : List String) (index : Nat) (functions : List FunctionConfig) :
    repeats (functionProblems seen index functions) + ((givenNames functions).toFinset \ seen.toFinset).card =
      (givenNames functions).length := by
  induction functions generalizing seen index with
  | nil => simp [functionProblems, givenNames, repeats]
  | cons f rest ih =>
    rw [functionProblems, repeats_append, repeats_append, repeats_aliasProblem, nameProblem]
    by_cases hblank : Text.isBlank f.name = true
    · have hgiven : givenNames (f :: rest) = givenNames rest := by
        simp [givenNames, Text.blank_iff, hblank]
      have hname : repeats [.emptyFunctionName index] = 0 := rfl
      rw [if_pos hblank, if_pos hblank, hgiven, hname, ← ih seen (index + 1)]
      omega
    · have hgiven : givenNames (f :: rest) = f.name :: givenNames rest := by
        simp [givenNames, Text.blank_iff, hblank]
      have hrest := ih (f.name :: seen) (index + 1)
      rw [if_neg hblank, if_neg hblank, hgiven, List.length_cons, ← hrest, List.toFinset_cons, List.toFinset_cons]
      by_cases hseen : f.name ∈ seen
      · have hname : repeats (if seen.contains f.name then [.duplicateFunction f.name] else []) = 1 := by
          simp [repeats, hseen]
        have hmem : f.name ∈ seen.toFinset := List.mem_toFinset.mpr hseen
        rw [Finset.insert_sdiff_of_mem _ hmem, Finset.insert_eq_of_mem hmem, hname]
        omega
      · have hname : repeats (if seen.contains f.name then [.duplicateFunction f.name] else []) = 0 := by
          simp [repeats, hseen]
        have hnew : f.name ∉ seen.toFinset := fun h => hseen (List.mem_toFinset.mp h)
        have hcard := Finset.card_erase_add_one
          (Finset.mem_insert_self f.name ((givenNames rest).toFinset \ seen.toFinset))
        rw [Finset.erase_insert_eq_erase] at hcard
        rw [Finset.insert_sdiff_of_notMem _ hnew, Finset.sdiff_insert, ← hcard, hname]
        omega

theorem repeats_problems (config : ServiceConfig) : repeats config.problems + (givenNames config.functions).toFinset.card =
    (givenNames config.functions).length := by
  have hfunctions := repeats_functionProblems [] 0 config.functions
  rw [List.toFinset_nil, Finset.sdiff_empty] at hfunctions
  rw [problems, repeats_append, repeats_corsProblems, Nat.add_zero, hfunctions]

/-- Validation reports, in order: of each function an empty name, or else that some function before has its very name,
and then an alias with an empty name; behind all functions the fields of the CORS overrides that have an empty text, one
each. A service is accepted just if this list is empty, that is, if every function and every alias has a name that is
not blank, no two functions have the same name, and no text in the overrides is blank. As many functions are reported as
repeated as there are names that are not blank, less the different ones among them. -/
theorem problems_exact (config : ServiceConfig) :
    (config.problems =
      (config.functions.zipIdx.flatMap fun place => problemsAt (config.functions.take place.2) place.2 place.1) ++
        match config.cors with
        | some (.custom cors) => overridesProblems cors
        | _ => []) ∧
    (config.validated = if config.problems = [] then .ok config else .error (.invalid config.problems)) ∧
    (config.problems = [] ↔
      (∀ f ∈ config.functions, ¬Text.Blank f.name) ∧ (config.functions.map (·.name)).Nodup ∧
      (∀ f ∈ config.functions, ∀ a ∈ f.targetAlias, ¬Text.Blank a.name) ∧
      ∀ cors, config.cors = some (.custom cors) →
        ∀ field : CorsField, ∀ values ∈ field.value cors, ∀ s ∈ values.toList, ¬Text.Blank s) ∧
    repeats config.problems + (givenNames config.functions).toFinset.card = (givenNames config.functions).length :=
  ⟨problems_eq config, validated_eq config, problems_eq_nil_iff, repeats_problems config⟩

/-- A name is repeated, and a name that differs from it by a space is another one; the function without a name comes
third; of two texts in a field one is blank. -/
theorem problems_exact_of_each_kind :
    let cors : CorsOverrides := ⟨some (.many ["https://example.com", ""]), some (.one "\u3000"), none, none, none, none⟩
    let config : ServiceConfig := ⟨"shop", ⟨some (.custom cors)⟩,
      [⟨"a", none, []⟩, ⟨"a", some ⟨"\u0085 ", none⟩, []⟩, ⟨" ", none, []⟩, ⟨"a ", none, []⟩]⟩
    config.problems = [.duplicateFunction "a", .emptyAliasName "a", .emptyFunctionName 2,
      .emptyCorsValue .allowedOrigins, .emptyCorsValue .allowedHeaders] ∧ config.problems ≠ [] := by
  intro cors config
  obtain ⟨hlist, -, hnone, -⟩ := problems_exact config
  refine ⟨hlist.trans (by decide), fun h => ?_⟩
  obtain ⟨-, hnodup, -⟩ := hnone.mp h
  exact absurd hnodup (by decide)

end ServiceConfig
end RouteCompiler
