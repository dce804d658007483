import Mathlib.Tactic.Tauto
import RouteCompiler.Service.Validation

/-! # What validation accepts

The names of the functions are checked in one scan that keeps the names seen before. The scan finds nothing
just if no name is blank, no two functions share a name and no alias is blank; that is what the rest of a
pass may rely on. -/

namespace RouteCompiler
namespace ServiceConfig

theorem nameProblem_eq_nil_iff {seen : List String} {index : Nat} {f : FunctionConfig} :
    nameProblem seen index f = [] ↔ Text.isBlank f.name = false ∧ f.name ∉ seen := by
  rw [nameProblem]
  cases hb : Text.isBlank f.name with
  | true => simp
  | false => simp

theorem aliasProblem_eq_nil_iff {f : FunctionConfig} :
    aliasProblem f = [] ↔ ∀ a, f.targetAlias = some a → Text.isBlank a.name = false := by
  rw [aliasProblem]
  cases f.targetAlias with
  | none => simp
  | some a => simp

/-- The scan finds nothing just if every name is given, is new and differs from the others, and every alias has
    a name. -/
theorem functionProblems_eq_nil_iff {seen : List String} {index : Nat} {functions : List FunctionConfig} :
    functionProblems seen index functions = [] ↔
      (∀ f ∈ functions, Text.isBlank f.name = false ∧ f.name ∉ seen ∧ aliasProblem f = []) ∧
        (functions.map (·.name)).Nodup := by
  induction functions generalizing seen index with
  | nil => simp [functionProblems]
  | cons f rest ih =>
    rw [functionProblems, List.append_eq_nil_iff, List.append_eq_nil_iff, nameProblem_eq_nil_iff, ih]
    simp only [List.map_cons, List.nodup_cons, List.mem_map, not_exists, not_and, List.forall_mem_cons]
    cases hb : Text.isBlank f.name with
    | true => simp
    | false =>
      -- For the rest, the name of the head is one more that has been seen.
      have hseen : (∀ g ∈ rest, Text.isBlank g.name = false ∧ g.name ∉ f.name :: seen ∧ aliasProblem g = []) ↔
          (∀ g ∈ rest, Text.isBlank g.name = false ∧ g.name ∉ seen ∧ aliasProblem g = []) ∧
            ∀ g ∈ rest, ¬g.name = f.name := by
        rw [← forall₂_and]
        refine forall₂_congr fun g _ => ?_
        rw [List.mem_cons, not_or]
        tauto
      simp only [Bool.false_eq_true, if_false, hseen]
      tauto

/-- In a service without a problem every function has a name of its own. -/
theorem nodup_names {config : ServiceConfig} (h : config.problems = []) :
    (config.functions.map (·.name)).Nodup :=
  (functionProblems_eq_nil_iff.mp (List.append_eq_nil_iff.mp h).1).2

/-- In a service without a problem a function is found by its name, and found alone. -/
theorem filter_name_eq {config : ServiceConfig} (h : config.problems = []) {f : FunctionConfig}
    (hf : f ∈ config.functions) : config.functions.filter (·.name = f.name) = [f] := by
  have hnodup := nodup_names h
  generalize config.functions = functions at hf hnodup
  induction functions with
  | nil => cases hf
  | cons g rest ih =>
    obtain ⟨hg, hrest⟩ := List.nodup_cons.mp hnodup
    rcases List.mem_cons.mp hf with rfl | hf
    · have hnone : rest.filter (·.name = f.name) = [] := by
        refine List.filter_eq_nil_iff.mpr fun g' hg' he => hg ?_
        exact List.mem_map.mpr ⟨g', hg', by simpa using he⟩
      simp [hnone]
    · have hne : g.name ≠ f.name := fun he => hg (List.mem_map.mpr ⟨f, hf, he.symm⟩)
      simp [hne, ih hf hrest]

end ServiceConfig
end RouteCompiler
