import RouteCompiler.Compile.Api
import RouteCompiler.Proofs.Routing.Resolution

/-! # Allowed methods and routes

Unless a setting gives the allowed methods, they are derived from the routes: a policy then allows `OPTIONS`
and what some route serves, and nothing else. The set from which they are derived is filled route by route, so
this rests on the agreement of that set with the entries. Methods that a setting gives stand as they are given,
whatever the routes serve. -/

namespace RouteCompiler

/-- The allowed methods that a setting gives. -/
def CorsSetting.givenMethods : Option CorsSetting → Option OneOrMany
  | some (.custom overrides) => overrides.allowedMethods
  | _ => none

namespace CorsPolicy

theorem mem_derivedMethods {bound : MethodSet} {s : String} :
    s ∈ derivedMethods bound ↔ s = "OPTIONS" ∨ ∃ m, bound.contains m = true ∧ s = m.name := by
  simp only [derivedMethods, List.mem_cons, List.mem_map, MethodSet.mem_toList, Method.name, eq_comm (a := s)]

section Merge
variable {setting : Option CorsSetting} {bound : MethodSet} {policy : CorsPolicy}

theorem merge_allowedMethods (h : (merge setting bound).value = some policy) :
    policy.allowedMethods = field (CorsSetting.givenMethods setting) (derivedMethods bound) := by
  cases setting with
  | none => cases h
  | some setting =>
    cases setting with
    | custom overrides =>
      rw [← Option.some.inj h]
      rfl
    | enabled on =>
      cases on with
      | false => cases h
      | true =>
        rw [← Option.some.inj h]
        rfl

theorem allowsMethod_of_given (h : (merge setting bound).value = some policy) {given : OneOrMany}
    (hg : CorsSetting.givenMethods setting = some given) {s : String} :
    policy.allowsMethod s = true ↔ s ∈ given.toList := by
  rw [allowsMethod, merge_allowedMethods h, hg, field, Text.TextSet.contains_ofList]

theorem allowsMethod_of_not_given (h : (merge setting bound).value = some policy)
    (hg : CorsSetting.givenMethods setting = none) {s : String} :
    policy.allowsMethod s = true ↔ s = "OPTIONS" ∨ ∃ m, bound.contains m = true ∧ s = m.name := by
  rw [allowsMethod, merge_allowedMethods h, hg, field, Text.TextSet.contains_ofList, mem_derivedMethods]

end Merge
end CorsPolicy

namespace RouteTable
variable {table : RouteTable}

/-- A method is served by an entry with the method `ANY`, or by an explicit route for it. -/
theorem served_iff {m : Method} : (∃ a ∈ table.entries, m ∈ a.key.method.methods) ↔
    (∃ a ∈ table.entries, a.key.method = .any) ∨ ∃ path, .route (.exact m) path ∈ table.keys := by
  constructor
  · rintro ⟨⟨key, target⟩, ha, hm⟩
    have hkey : key ∈ table.keys := mem_keys.mpr ⟨_, ha, rfl⟩
    cases hmethod : key.method with
    | any => exact Or.inl ⟨_, ha, hmethod⟩
    | exact n =>
      obtain rfl : m = n := by simpa [hmethod, RouteMethod.methods] using hm
      cases key with
      | catchAll => cases hmethod
      | route method path =>
        obtain rfl : method = .exact m := hmethod
        exact Or.inr ⟨path, hkey⟩
  · rintro (⟨a, ha, hm⟩ | ⟨path, hk⟩)
    · exact ⟨a, ha, by rw [hm]; exact Method.mem_all m⟩
    · obtain ⟨a, ha, hk⟩ := mem_keys.mp hk
      exact ⟨a, ha, by rw [hk]; exact List.mem_singleton_self m⟩

namespace Consistent
variable (h : table.Consistent)
include h

/-- Some entry has the method `ANY` just if the table has the catch-all or an `ANY` route. -/
theorem exists_any_iff : (∃ a ∈ table.entries, a.key.method = .any) ↔
    table.hasCatchAll = true ∨ ∃ path, .route .any path ∈ table.keys := by
  rw [hasCatchAll, h.contains_iff_mem_keys]
  constructor
  · rintro ⟨⟨key, target⟩, ha, hm⟩
    have hkey : key ∈ table.keys := mem_keys.mpr ⟨_, ha, rfl⟩
    cases key with
    | catchAll => exact Or.inl hkey
    | route method path =>
      obtain rfl : method = .any := hm
      exact Or.inr ⟨path, hkey⟩
  · have found : ∀ {key : RouteKey}, key ∈ table.keys → key.method = .any →
        ∃ a ∈ table.entries, a.key.method = .any := fun hk hm => by
      obtain ⟨a, ha, rfl⟩ := mem_keys.mp hk
      exact ⟨a, ha, hm⟩
    rintro (hk | ⟨path, hk⟩)
    · exact found hk rfl
    · exact found hk rfl

/-- The table serves all methods but `OPTIONS`, which it may or may not serve, just if it has the catch-all, an
    `ANY` route, or an explicit route for each of them. -/
theorem all_served_iff : (∀ m, m ≠ .options → ∃ a ∈ table.entries, m ∈ a.key.method.methods) ↔
    table.hasCatchAll = true ∨ (∃ path, .route .any path ∈ table.keys) ∨
      ∀ m, m ≠ .options → ∃ path, .route (.exact m) path ∈ table.keys := by
  rw [← or_assoc, ← h.exists_any_iff]
  simp only [served_iff]
  by_cases hany : ∃ a ∈ table.entries, a.key.method = .any
  · exact iff_of_true (fun _ _ => Or.inl hany) (Or.inl hany)
  · simp only [hany, false_or]

end Consistent
end RouteTable

/-- A policy without given methods allows exactly `OPTIONS` and the methods that some route of the table serves;
    so it allows all seven just if there is the catch-all, an `ANY` route, or an explicit route for each of the
    other six. A policy with given methods allows exactly these, as they are written. -/
theorem allowsMethod_exact {declarations : List TargetRoutes} {cors : Option CorsSetting} {api : CompiledApi}
    {policy : CorsPolicy} (compiled : (compile declarations cors).value = .ok api) (hp : api.cors = some policy) :
    (CorsSetting.givenMethods cors = none →
      (∀ s, policy.allowsMethod s = true ↔
        s = "OPTIONS" ∨ ∃ a ∈ api.routes.entries, ∃ m ∈ a.key.method.methods, s = m.name) ∧
      ((∀ m : Method, policy.allowsMethod m.name = true) ↔
        api.routes.hasCatchAll = true ∨ (∃ path, .route .any path ∈ api.routes.keys) ∨
          ∀ m, m ≠ .options → ∃ path, .route (.exact m) path ∈ api.routes.keys)) ∧
    ∀ given, CorsSetting.givenMethods cors = some given →
      ∀ s, policy.allowsMethod s = true ↔ s ∈ given.toList := by
  obtain ⟨table, hr, rfl⟩ := compile_eq_ok_iff.mp compiled
  have hc := (resolve_eq_ok hr).reachable.consistent
  refine ⟨fun hg => ?_, fun given hg s => CorsPolicy.allowsMethod_of_given hp hg⟩
  have allows : ∀ s, policy.allowsMethod s = true ↔
      s = "OPTIONS" ∨ ∃ a ∈ table.entries, ∃ m ∈ a.key.method.methods, s = m.name := fun s => by
    rw [CorsPolicy.allowsMethod_of_not_given hp hg]
    simp only [hc.methods_iff]
    refine or_congr_right ⟨?_, ?_⟩
    · rintro ⟨m, ⟨a, ha, hm⟩, rfl⟩
      exact ⟨a, ha, m, hm, rfl⟩
    · rintro ⟨a, ha, m, hm, rfl⟩
      exact ⟨m, ⟨a, ha, hm⟩, rfl⟩
  refine ⟨allows, Iff.trans (forall_congr' fun m => ?_) hc.all_served_iff⟩
  rw [allows m.name, show "OPTIONS" = Method.options.name from rfl]
  simp only [Method.name_inj, exists_eq_right', ← or_iff_not_imp_left]

/-- Routes for `GET` and `POST` lead to these two methods and `OPTIONS`, and to no other. -/
theorem allowsMethod_exact_of_two_routes :
    let users : Target := ⟨"users", none⟩
    let declarations : List TargetRoutes := [⟨users, [.shorthand "GET /a", .shorthand "post /a"]⟩]
    ∃ api policy, (compile declarations (some (.enabled true))).value = .ok api ∧ api.cors = some policy ∧
      policy.allowsMethod "POST" = true ∧ policy.allowsMethod "OPTIONS" = true ∧
      policy.allowsMethod "HEAD" = false := by
  intro users declarations
  obtain ⟨table, hr, hentries⟩ := resolve_of_entries declarations
    [⟨.route (.exact .get) "/a", users⟩, ⟨.route (.exact .post) "/a", users⟩] rfl (by decide)
  have compiled : (compile declarations (some (.enabled true))).value = .ok ⟨table, _⟩ :=
    compile_eq_ok_iff.mpr ⟨table, hr, rfl⟩
  obtain ⟨allows, -⟩ := (allowsMethod_exact compiled rfl).1 rfl
  simp only [← Array.mem_toList_iff, hentries] at allows
  refine ⟨_, _, compiled, rfl, (allows _).mpr ?_, (allows _).mpr (Or.inl rfl), Bool.eq_false_iff.mpr fun hhead => ?_⟩
  · exact Or.inr ⟨⟨.route (.exact .post) "/a", users⟩, by simp, .post, by decide, rfl⟩
  · rw [allows] at hhead
    simp [RouteKey.method, RouteMethod.methods, Method.name] at hhead

end RouteCompiler
