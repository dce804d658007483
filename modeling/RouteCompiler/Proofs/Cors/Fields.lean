import RouteCompiler.Proofs.Compile.Written
import RouteCompiler.Proofs.Cors.Methods
import RouteCompiler.Service.Validation

/-! # How a policy is settled

Each part of a policy is settled by the same part of the overrides and by nothing else: by what is given there, be it
nothing but an empty list, or else by the fallback of this part. Given texts count as a set, so neither their order nor
how often or in which form they are given makes a difference, and the policy is written in one way. -/

namespace RouteCompiler
open Text

/-! ### Parts -/

/-- The set that the policy has for the field, if it has one. -/
def CorsField.settled (policy : CorsPolicy) : CorsField → Option TextSet
  | allowedOrigins => some policy.allowedOrigins
  | allowedHeaders => some policy.allowedHeaders
  | allowedMethods => some policy.allowedMethods
  | exposedResponseHeaders => policy.exposedResponseHeaders

/-- The set that the field falls back to, if there is one. -/
def CorsField.fallback (bound : MethodSet) : CorsField → Option TextSet
  | allowedOrigins => some (.ofList CorsPolicy.defaultOrigins)
  | allowedHeaders => some (.ofList CorsPolicy.defaultHeaders)
  | allowedMethods => some (.ofList (CorsPolicy.derivedMethods bound))
  | exposedResponseHeaders => none

/-- Both are the same texts, in whatever order and form and however often. -/
def OneOrMany.SameTexts (a b : OneOrMany) : Prop := ∀ s, s ∈ a.toList ↔ s ∈ b.toList

/-- A part of overrides, and of the policy that they lead to. -/
inductive CorsPart where
  | texts (field : CorsField)
  | credentials
  | maxAge

namespace CorsPart

/-- The overrides give the same in this part. Credentials are not allowed unless they are given as allowed. -/
def Alike (a b : CorsOverrides) : CorsPart → Prop
  | texts field => Option.Rel OneOrMany.SameTexts (field.value a) (field.value b)
  | credentials => a.allowCredentials = some true ↔ b.allowCredentials = some true
  | maxAge => a.maxAge = b.maxAge

/-- The policies are the same in this part. -/
def Same (p q : CorsPolicy) : CorsPart → Prop
  | texts field => field.settled p = field.settled q
  | credentials => p.allowCredentials = q.allowCredentials
  | maxAge => p.maxAge = q.maxAge

end CorsPart

namespace CorsPolicy

theorem eq_of_same {p q : CorsPolicy} (h : ∀ part : CorsPart, part.Same p q) : p = q := by
  obtain ⟨origins, headers, methods, exposed, credentials, maxAge⟩ := p
  obtain ⟨origins', headers', methods', exposed', credentials', maxAge'⟩ := q
  obtain rfl : origins = origins' := Option.some.inj (h (.texts .allowedOrigins))
  obtain rfl : headers = headers' := Option.some.inj (h (.texts .allowedHeaders))
  obtain rfl : methods = methods' := Option.some.inj (h (.texts .allowedMethods))
  obtain rfl : exposed = exposed' := h (.texts .exposedResponseHeaders)
  obtain rfl : credentials = credentials' := h .credentials
  obtain rfl : maxAge = maxAge' := h .maxAge
  rfl

/-- What the policy should be for the overrides and the bound methods. -/
structure Settles (policy : CorsPolicy) (overrides : CorsOverrides) (bound : MethodSet) : Prop where
  /-- What is given for a field counts, even if it is empty. -/
  given : ∀ (field : CorsField) values, field.value overrides = some values →
    ∃ set, field.settled policy = some set ∧ ∀ s, set.contains s = true ↔ s ∈ values.toList
  origins : overrides.allowedOrigins = none → ∀ s, policy.allowedOrigins.contains s = true ↔ s ∈ defaultOrigins
  headers : overrides.allowedHeaders = none → ∀ s, policy.allowedHeaders.contains s = true ↔ s ∈ defaultHeaders
  methods : overrides.allowedMethods = none → ∀ s, policy.allowedMethods.contains s = true ↔
    s = "OPTIONS" ∨ ∃ m, bound.contains m = true ∧ s = m.name
  exposed : overrides.exposedResponseHeaders = none → policy.exposedResponseHeaders = none
  credentials : policy.allowCredentials = true ↔ overrides.allowCredentials = some true
  maxAge : policy.maxAge = overrides.maxAge

/-! ### The policy of overrides -/

section Overrides
variable {bound : MethodSet}

theorem settled_ofOverrides (overrides : CorsOverrides) (field : CorsField) :
    field.settled (ofOverrides overrides bound) =
      ((field.value overrides).map fun values => TextSet.ofList values.toList).or (field.fallback bound) := by
  obtain ⟨origins, headers, methods, credentials, exposed, maxAge⟩ := overrides
  cases field with
  | allowedOrigins => cases origins <;> rfl
  | allowedHeaders => cases headers <;> rfl
  | allowedMethods => cases methods <;> rfl
  | exposedResponseHeaders => cases exposed <;> rfl

theorem settles_ofOverrides (overrides : CorsOverrides) : (ofOverrides overrides bound).Settles overrides bound where
  given field values hgiven := by
    refine ⟨.ofList values.toList, ?_, fun s => TextSet.contains_ofList⟩
    rw [settled_ofOverrides, hgiven, Option.map_some, Option.some_or]
  origins hnone s := by
    rw [ofOverrides, hnone]
    exact TextSet.contains_ofList
  headers hnone s := by
    rw [ofOverrides, hnone]
    exact TextSet.contains_ofList
  methods hnone s := by
    rw [ofOverrides, hnone, ← mem_derivedMethods]
    exact TextSet.contains_ofList
  exposed hnone := by rw [ofOverrides, hnone, Option.map_none]
  credentials := beq_iff_eq
  maxAge := rfl

theorem map_ofList_eq {o o' : Option OneOrMany} (h : Option.Rel OneOrMany.SameTexts o o') :
    (o.map fun values => TextSet.ofList values.toList) = o'.map fun values => TextSet.ofList values.toList := by
  cases h with
  | none => rfl
  | some hsame =>
    refine congrArg some (TextSet.eq_of_mem_iff fun s => ?_)
    rw [TextSet.mem_values_ofList, TextSet.mem_values_ofList, hsame s]

theorem same_of_alike {a b : CorsOverrides} {part : CorsPart} (h : part.Alike a b) :
    part.Same (ofOverrides a bound) (ofOverrides b bound) := by
  cases part with
  | texts field => rw [CorsPart.Same, settled_ofOverrides, settled_ofOverrides, map_ofList_eq h]
  | credentials =>
    rw [CorsPart.Same, Bool.eq_iff_iff, (settles_ofOverrides a).credentials, (settles_ofOverrides b).credentials]
    exact h
  | maxAge => exact h

theorem map_ofOverrides_eq {o o' : Option CorsOverrides}
    (h : Option.Rel (fun a b => ∀ part : CorsPart, part.Alike a b) o o') :
    (o.map fun overrides => ofOverrides overrides bound) = o'.map fun overrides => ofOverrides overrides bound := by
  cases h with
  | none => rfl
  | some hparts => exact congrArg some (eq_of_same fun part => same_of_alike (hparts part))

end Overrides

/-! ### Settings -/

theorem merge_value (setting : Option CorsSetting) (bound : MethodSet) :
    (merge setting bound).value = (CorsSetting.overrides? setting).map fun overrides => ofOverrides overrides bound := by
  rw [merge]
  cases CorsSetting.overrides? setting <;> rfl

theorem overrides?_eq_none_iff {setting : Option CorsSetting} :
    CorsSetting.overrides? setting = none ↔ setting = none ∨ setting = some (.enabled false) := by
  cases setting with
  | none => simp [CorsSetting.overrides?]
  | some setting =>
    cases setting with
    | custom overrides => simp [CorsSetting.overrides?]
    | enabled on => cases on <;> simp [CorsSetting.overrides?]

/-- There is a policy unless the setting is absent or `false`, and then it is what the overrides and the bound methods
make it, part by part; its text shows every set in ascending order, and credentials only where they are allowed. The
built-in policy is that of overrides that give nothing. Settings that give the same in every part, as sets of texts,
have the same policy and the same text, and a part of the policy that differs has a part of the overrides that does. -/
theorem merge_settled (bound : MethodSet) :
    (∀ setting, (merge setting bound).value = none ↔ setting = none ∨ setting = some (.enabled false)) ∧
    (∀ overrides, ∃ policy, (merge (some (.custom overrides)) bound).value = some policy ∧
      policy.Settles overrides bound ∧ ∃ v, Json.tree (Json.write policy.toValue) = (v.node, []) ∧ policy.Shown v) ∧
    merge (some (.enabled true)) bound = merge (some (.custom .none)) bound ∧
    (∀ setting other, Option.Rel (fun a b => ∀ part : CorsPart, part.Alike a b) (CorsSetting.overrides? setting)
        (CorsSetting.overrides? other) →
      (merge other bound).value = (merge setting bound).value ∧
      ((merge other bound).value.map fun policy => Json.write policy.toValue) =
        (merge setting bound).value.map fun policy => Json.write policy.toValue) ∧
    ∀ a b p q, (merge (some (.custom a)) bound).value = some p → (merge (some (.custom b)) bound).value = some q →
      ∀ part : CorsPart, part.Alike a b → part.Same p q := by
  refine ⟨fun setting => ?_, fun overrides => ?_, rfl, fun setting other h => ?_, ?_⟩
  · rw [merge_value, Option.map_eq_none_iff, overrides?_eq_none_iff]
  · exact ⟨_, rfl, settles_ofOverrides overrides, _, Json.tree_write ((fits _).mono (by decide)), shown _⟩
  · have hpolicy : (merge other bound).value = (merge setting bound).value := by
      rw [merge_value, merge_value, map_ofOverrides_eq h]
    exact ⟨hpolicy, by rw [hpolicy]⟩
  · intro a b p q hp hq part halike
    obtain rfl := Option.some.inj hp
    obtain rfl := Option.some.inj hq
    exact same_of_alike halike

/-- A list with repeated origins and no headers, and the one origin as a text, for a route with `GET`: the policies have
the same origins. The headers that are given as an empty list are none, and those that are not given are the built-in
ones; the methods are derived from the route, and the exposed headers are not set. -/
theorem merge_settled_of_repeats :
    let a : CorsOverrides := { CorsOverrides.none with
      allowedOrigins := some (.many ["https://é", "https://é"]), allowedHeaders := some (.many []) }
    let b : CorsOverrides := { CorsOverrides.none with
      allowedOrigins := some (.one "https://é"), allowCredentials := some true }
    let bound := MethodSet.empty.insert .get
    ∃ p q, (merge (some (.custom a)) bound).value = some p ∧ (merge (some (.custom b)) bound).value = some q ∧
      p.allowedOrigins = q.allowedOrigins ∧ (∀ s, p.allowedHeaders.contains s = false) ∧
      (∀ s, q.allowedHeaders.contains s = true ↔ s ∈ ["Content-Type", "X-Amz-Date", "Authorization", "X-Api-Key",
        "X-Amz-Security-Token", "X-Amz-User-Agent"]) ∧
      (∀ m : Method, q.allowsMethod m.name = true ↔ m = .options ∨ m = .get) ∧
      p.exposedResponseHeaders = none ∧ q.allowCredentials = true := by
  intro a b bound
  obtain ⟨-, hsettles, -, -, hparts⟩ := merge_settled bound
  obtain ⟨p, hp, hpa, -⟩ := hsettles a
  obtain ⟨q, hq, hqb, -⟩ := hsettles b
  have horigins : CorsPart.Alike a b (.texts .allowedOrigins) := .some fun s => by simp [OneOrMany.toList]
  have hnone (s : String) : p.allowedHeaders.contains s = false := by
    obtain ⟨set, hset, hgiven⟩ := hpa.given .allowedHeaders (.many []) rfl
    obtain rfl := Option.some.inj hset
    rw [Bool.eq_false_iff, Ne, hgiven]
    simp [OneOrMany.toList]
  have hmethods (m : Method) : q.allowsMethod m.name = true ↔ m = .options ∨ m = .get := by
    rw [allowsMethod, hqb.methods rfl, show "OPTIONS" = Method.options.name from rfl]
    simp [bound, Method.name_inj]
  exact ⟨p, q, hp, hq, Option.some.inj (hparts a b p q hp hq _ horigins), hnone, hqb.headers rfl,
    hmethods, hpa.exposed rfl, hqb.credentials.mpr rfl⟩

end CorsPolicy
end RouteCompiler
