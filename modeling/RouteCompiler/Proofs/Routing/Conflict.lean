import Mathlib.Tactic.Tauto
import RouteCompiler.Routing.Resolver

/-! # Conflicts of route keys

Two keys conflict when they are equal, or when exactly one of two keys on one path has the method `ANY`.
The same is said by what keys claim: a route claims its methods on its path, and the catch-all claims what
no route does. For the keys that bindings denote (`Proper`) both come to the same. -/

namespace RouteCompiler

namespace RouteKey

/-- A route of the key is on a real path: neither on none nor on the one that stands for the catch-all. -/
def Proper : RouteKey → Prop
  | catchAll => True
  | route _ path => path ≠ "" ∧ path ≠ catchAllText

/-- The keys are on one path, and exactly one of them has the method `ANY`. -/
def Mixes (k k' : RouteKey) : Prop := k.path = k'.path ∧ (k.method = .any ↔ k'.method ≠ .any)

/-- The keys cannot be in one table. -/
def Conflicts (k k' : RouteKey) : Prop := k = k' ∨ k.Mixes k'

instance (k k' : RouteKey) : Decidable (k.Mixes k') := inferInstanceAs (Decidable (_ ∧ _))

instance (k k' : RouteKey) : Decidable (k.Conflicts k') := inferInstanceAs (Decidable (_ ∨ _))

theorem Mixes.symm {k k' : RouteKey} (h : k.Mixes k') : k'.Mixes k :=
  ⟨h.1.symm, by have := h.2; tauto⟩

theorem Mixes.ne {k k' : RouteKey} (h : k.Mixes k') : k ≠ k' := by
  rintro rfl
  have := h.2
  tauto

theorem Conflicts.symm {k k' : RouteKey} (h : k.Conflicts k') : k'.Conflicts k :=
  h.imp Eq.symm Mixes.symm

theorem Conflicts.path_eq {k k' : RouteKey} (h : k.Conflicts k') : k.path = k'.path := by
  rcases h with rfl | h
  · rfl
  · exact h.1

theorem Proper.eq_catchAll {k : RouteKey} (h : k.Proper) (hp : k.path = catchAllText) : k = .catchAll := by
  cases k with
  | catchAll => rfl
  | route m p => exact absurd hp h.2

theorem eq_route_of_path {k : RouteKey} {m : RouteMethod} {p : String} (hm : k.method = m) (hp : k.path = p)
    (hne : p ≠ catchAllText) : k = .route m p := by
  cases k with
  | catchAll => exact absurd hp.symm hne
  | route m' p' => rw [← hm, ← hp]; rfl

/-! ### Claims -/

/-- What a key claims for its target. -/
inductive Claim where
  /-- The requests with a method to a path. -/
  | requests (method : Method) (path : String)
  /-- The requests that no route claims. -/
  | unclaimed
deriving DecidableEq, Repr

/-- Everything that a key claims. -/
def claims : RouteKey → List Claim
  | catchAll => [.unclaimed]
  | route m path => m.methods.map (.requests · path)

/-- Some claim is made by both keys. -/
def Overlaps (k k' : RouteKey) : Prop := ∃ claim ∈ k.claims, claim ∈ k'.claims

instance (k k' : RouteKey) : Decidable (k.Overlaps k') := inferInstanceAs (Decidable (∃ _ ∈ _, _))

end RouteKey

/-- Two route methods stand for a common method just if one of them is `ANY` or both are the same. -/
theorem RouteMethod.common_method_iff {a b : RouteMethod} :
    (∃ m ∈ a.methods, m ∈ b.methods) ↔ a = b ∨ (a = .any ↔ b ≠ .any) := by
  cases a with
  | any =>
    cases b with
    | any => simpa [RouteMethod.methods] using ⟨Method.get, Method.mem_all _⟩
    | exact n => simp [RouteMethod.methods, Method.mem_all]
  | exact m =>
    cases b with
    | any => simp [RouteMethod.methods, Method.mem_all]
    | exact n => simp [RouteMethod.methods]

namespace RouteKey

theorem overlaps_self (k : RouteKey) : k.Overlaps k := by
  cases k with
  | catchAll => exact ⟨.unclaimed, by simp [claims], by simp [claims]⟩
  | route m p =>
    obtain ⟨n, hn, -⟩ := RouteMethod.common_method_iff.mpr (Or.inl (rfl : m = m))
    exact ⟨.requests n p, List.mem_map_of_mem hn, List.mem_map_of_mem hn⟩

theorem overlaps_route_iff {m n : RouteMethod} {p q : String} :
    (route m p).Overlaps (route n q) ↔ p = q ∧ ∃ a ∈ m.methods, a ∈ n.methods := by
  simp only [Overlaps, claims, List.mem_map]
  constructor
  · rintro ⟨_, ⟨a, ha, rfl⟩, ⟨b, hb, hab⟩⟩
    obtain ⟨rfl, rfl⟩ := Claim.requests.inj hab
    exact ⟨rfl, b, ha, hb⟩
  · rintro ⟨rfl, a, ha, hb⟩
    exact ⟨_, ⟨a, ha, rfl⟩, ⟨a, hb, rfl⟩⟩

/-- Proper keys conflict just if some claim is made by both. -/
theorem conflicts_iff_overlaps {k k' : RouteKey} (h : k.Proper) (h' : k'.Proper) :
    k.Conflicts k' ↔ k.Overlaps k' := by
  cases k with
  | catchAll =>
    cases k' with
    | catchAll => exact iff_of_true (Or.inl rfl) (overlaps_self _)
    | route n q =>
      refine iff_of_false (fun hc => h'.2 hc.path_eq.symm) ?_
      simp [Overlaps, claims]
  | route m p =>
    cases k' with
    | catchAll =>
      refine iff_of_false (fun hc => h.2 hc.path_eq) ?_
      simp [Overlaps, claims]
    | route n q =>
      rw [overlaps_route_iff, RouteMethod.common_method_iff]
      simp only [Conflicts, Mixes, method, path, route.injEq]
      tauto

end RouteKey

/-! ### The keys of bindings -/

theorem nonEmpty_eq_some_iff {field : Option String} {s : String} :
    nonEmpty field = some s ↔ field = some s ∧ s ≠ "" := by
  simp [nonEmpty, Option.filter_eq_some_iff]

theorem splitRoute_path_ne {route token path : String} (h : splitRoute route = some (token, path)) : path ≠ "" := by
  rw [splitRoute] at h
  split at h
  · cases h
  · split at h
    · rename_i rest _ hc
      obtain ⟨-, rfl⟩ := Prod.mk.inj (Option.some.inj h)
      intro he
      exact hc.2.2.1 (by simpa using congrArg String.toList he)
    · cases h

namespace RouteBinding

/-- The path that a binding says is never empty. -/
theorem path_ne_of_normalize {b : RouteBinding} {method : Option String} {path : String}
    (h : b.normalize = some ⟨method, some path⟩) : path ≠ "" := by
  cases b with
  | structured m p =>
    simp only [normalize, Option.some.injEq, RawRoute.mk.injEq] at h
    exact (nonEmpty_eq_some_iff.mp h.2).2
  | shorthand route =>
    rw [normalize] at h
    split at h
    · simp only [Option.some.injEq, RawRoute.mk.injEq] at h
      rw [← h.2]
      decide
    · simp only [Option.map_eq_some_iff, Prod.exists, RawRoute.mk.injEq, Option.some.injEq] at h
      obtain ⟨token, rest, hs, -, rfl⟩ := h
      exact splitRoute_path_ne hs

/-- What a binding that denotes a key says: the catch-all path with no method of its own, or another path
    with `ANY` or with one of the methods. -/
theorem key_eq_ok {b : RouteBinding} {target : String} {key : RouteKey} (h : b.key target = .ok key) :
    ∃ method path, b.normalize = some ⟨method, some path⟩ ∧
      ((path = catchAllText ∧ (method = none ∨ method = some catchAllText) ∧ key = .catchAll) ∨
        (path ≠ catchAllText ∧ ∃ m, method = some m ∧
          ((meansAny m = true ∧ key = .route .any path) ∨
            (meansAny m = false ∧ ∃ exact, Method.parse m = .ok exact ∧ key = .route (.exact exact) path)))) := by
  rw [RouteBinding.key] at h
  split at h
  · cases h
  · cases h
  · rename_i method path hn
    refine ⟨method, path, hn, ?_⟩
    split at h
    · rename_i hp
      left
      cases method with
      | none => exact ⟨hp, Or.inl rfl, (Except.ok.inj h).symm⟩
      | some m =>
        dsimp only at h
        split at h
        · rename_i hm
          exact ⟨hp, Or.inr (hm ▸ rfl), (Except.ok.inj h).symm⟩
        · cases h
    · rename_i hp
      right
      refine ⟨hp, ?_⟩
      cases method with
      | none => cases h
      | some m =>
        refine ⟨m, rfl, ?_⟩
        dsimp only at h
        split at h
        · rename_i hm
          exact Or.inl ⟨hm, (Except.ok.inj h).symm⟩
        · rename_i hm
          split at h
          · rename_i exact hx
            exact Or.inr ⟨by simpa using hm, exact, hx, (Except.ok.inj h).symm⟩
          · cases h

theorem proper_key {b : RouteBinding} {target : String} {key : RouteKey} (h : b.key target = .ok key) :
    key.Proper := by
  obtain ⟨method, path, hn, ⟨-, -, rfl⟩ | ⟨hp, m, -, ⟨-, rfl⟩ | ⟨-, exact, -, rfl⟩⟩⟩ := key_eq_ok h
  · trivial
  · exact ⟨path_ne_of_normalize hn, hp⟩
  · exact ⟨path_ne_of_normalize hn, hp⟩

/-- A binding that denotes no key is rejected in the name of its target, and not as a duplicate. -/
theorem key_eq_error {b : RouteBinding} {target : String} {e : RouteError} (h : b.key target = .error e) :
    e.target = target ∧ e.kind ≠ .duplicateRoute := by
  rw [RouteBinding.key] at h
  repeat' split at h
  all_goals cases h <;> exact ⟨rfl, by simp [RouteError.kind]⟩

end RouteBinding
end RouteCompiler
