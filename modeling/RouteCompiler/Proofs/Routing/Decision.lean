import Mathlib
import RouteCompiler.Proofs.Routing.Consistent
import RouteCompiler.Proofs.Routing.KeyText

/-! # The decision table of `bind`

What becomes of a binding is decided by the first of seven rules that applies to what it says and to what is bound
already: the rule rejects the binding or gives its key. The key is then bound unless it is bound already. The rules
speak of the binding as it is written, so they also tell which texts an error quotes as they are and which in upper
case. -/

namespace RouteCompiler

/-! ### What bindings say -/

/-- The field is not given, or is empty. -/
def Missing (field : Option String) : Prop := field = none ∨ field = some ""

/-- The method and the path that a binding says. The star says the path `*`, and a shorthand its two parts. -/
inductive RouteBinding.Says : RouteBinding → Option String → Option String → Prop where
  | star : Says (.shorthand "*") none (some "*")
  | shorthand {route token path : String} (h : Shorthand route token path) :
    Says (.shorthand route) (some token) (some path)
  | fields (method path : Option String) : Says (.structured method path) method path

/-- The method text is a star, or `ANY` in any case of its letters. -/
def SaysAny (method : String) : Prop := method = "*" ∨ Text.sameUpToCase method "ANY" = true

namespace RouteTable

/-- Some entry has the key. -/
def Binds (table : RouteTable) (key : RouteKey) : Prop := ∃ entry ∈ table.entries, entry.key = key

section Rules
variable (table : RouteTable) (target : String) (b : RouteBinding)

/-- The rule of a number applies to a binding of the named target, and rejects it or gives its key. -/
inductive Applies : Nat → Except RouteError RouteKey → Prop where
  | malformed {route : String} (hb : b = .shorthand route) (hstar : route ≠ "*")
      (hform : ∀ token path, ¬Shorthand route token path) : Applies 1 (.error (.malformedRoute target b.display))
  | missingPath {method path : Option String} (hsaid : b.Says method path) (hpath : Missing path) :
    Applies 2 (.error (.missingPath target b.display))
  | catchAll {method : Option String} (hsaid : b.Says method (some "*"))
      (hmethod : Missing method ∨ method = some "*") : Applies 3 (.ok .catchAll)
  | catchAllMethod {method : String} (hsaid : b.Says (some method) (some "*")) (hempty : method ≠ "")
      (hstar : method ≠ "*") : Applies 3 (.error (.catchAllMethod target method))
  | missingMethod {method : Option String} {path : String} (hsaid : b.Says method (some path))
      (hmethod : Missing method) : Applies 4 (.error (.missingMethod target path))
  | any {method path : String} (hsaid : b.Says (some method) (some path)) (hany : SaysAny method)
      (hfree : ∀ exact, ¬table.Binds (.route (.exact exact) path)) : Applies 5 (.ok (.route .any path))
  | anyShadowed {method path : String} {exact : Method} (hsaid : b.Says (some method) (some path))
      (hany : SaysAny method) (hbound : table.Binds (.route (.exact exact) path)) :
    Applies 5 (.error (.shadowedRoute target (.route .any path) path))
  | unsupported {method path : String} (hsaid : b.Says (some method) (some path))
      (hunknown : ∀ exact : Method, Text.sameUpToCase method exact.name = false) :
    Applies 6 (.error (.unsupportedMethod target (Text.upper method) path))
  | exact {method path : String} {exact : Method} (hsaid : b.Says (some method) (some path))
      (hmethod : Text.sameUpToCase method exact.name = true) (hfree : ¬table.Binds (.route .any path)) :
    Applies 7 (.ok (.route (.exact exact) path))
  | exactShadowed {method path : String} {exact : Method} (hsaid : b.Says (some method) (some path))
      (hmethod : Text.sameUpToCase method exact.name = true) (hbound : table.Binds (.route .any path)) :
    Applies 7 (.error (.shadowedRoute target (.route (.exact exact) path) path))

/-- The rule applies, and none before it does. -/
def FirstApplies (rule : Nat) (verdict : Except RouteError RouteKey) : Prop :=
  table.Applies target b rule verdict ∧ ∀ earlier < rule, ∀ v, ¬table.Applies target b earlier v

end Rules

end RouteTable

/-! ### Some rule applies -/

section Some
variable {table : RouteTable} {target : String} {b : RouteBinding} {method path : Option String}

theorem exists_applies_of_says (h : b.Says method path) : ∃ rule verdict, table.Applies target b rule verdict := by
  rcases path with _ | path
  · exact ⟨2, _, .missingPath h (Or.inl rfl)⟩
  rcases method with _ | method
  · exact ⟨4, _, .missingMethod h (Or.inl rfl)⟩
  by_cases hany : SaysAny method
  · by_cases hbound : ∃ exact, table.Binds (.route (.exact exact) path)
    · obtain ⟨exact, hbound⟩ := hbound
      exact ⟨5, _, .anyShadowed h hany hbound⟩
    · exact ⟨5, _, .any h hany (not_exists.mp hbound)⟩
  by_cases hknown : ∃ exact : Method, Text.sameUpToCase method exact.name = true
  · obtain ⟨exact, hmethod⟩ := hknown
    by_cases hbound : table.Binds (.route .any path)
    · exact ⟨7, _, .exactShadowed h hmethod hbound⟩
    · exact ⟨7, _, .exact h hmethod hbound⟩
  · exact ⟨6, _, .unsupported h (by simpa using hknown)⟩

theorem exists_applies (table : RouteTable) (target : String) (b : RouteBinding) :
    ∃ rule verdict, table.Applies target b rule verdict := by
  cases b with
  | structured method path => exact exists_applies_of_says (.fields method path)
  | shorthand route =>
    by_cases hstar : route = "*"
    · subst hstar
      exact exists_applies_of_says .star
    · by_cases hform : ∃ token path, Shorthand route token path
      · obtain ⟨token, path, hform⟩ := hform
        exact exists_applies_of_says (.shorthand hform)
      · exact ⟨1, _, .malformed rfl hstar fun token path h => hform ⟨token, path, h⟩⟩

/-- So there is a first rule that applies. -/
theorem exists_firstApplies (table : RouteTable) (target : String) (b : RouteBinding) :
    ∃ rule verdict, table.FirstApplies target b rule verdict := by
  classical
  have hsome := exists_applies table target b
  obtain ⟨verdict, hverdict⟩ := Nat.find_spec hsome
  exact ⟨Nat.find hsome, verdict, hverdict, fun earlier hlt v hv => Nat.find_min hsome hlt ⟨v, hv⟩⟩

end Some

/-! ### What `bind` does -/

/-- Only a star is a star in upper case. -/
theorem upper_eq_star_iff {s : String} : Text.upper s = "*" ↔ s = "*" := by
  constructor
  · intro h
    have hchars : s.toList.map Char.toUpper = ['*'] := by rw [← Text.toList_upper, h]; rfl
    obtain ⟨c, hs, hc⟩ := List.map_eq_singleton_iff.mp hchars
    have hother : c.isAlpha = false := by rw [← Char.isAlpha_toUpper_eq_isAlpha, hc]; rfl
    have hlower : ¬c.isLower = true := fun h => by simp [Char.isAlpha, h] at hother
    rw [Char.toUpper_eq_of_not_isLower hlower] at hc
    rw [← String.toList_inj, hs, hc]
    rfl
  · rintro rfl
    rfl

theorem meansAny_iff {method : String} : meansAny method = true ↔ SaysAny method := by
  rw [meansAny, SaysAny, Bool.or_eq_true, beq_iff_eq, upper_eq_star_iff, Text.sameUpToCase,
    show Text.upper "ANY" = "ANY" from rfl]

theorem Method.upper_name (m : Method) : Text.upper m.name = m.name := by
  cases m <;> rfl

theorem Method.parse_of_sameUpToCase {s : String} {m : Method} (h : Text.sameUpToCase s m.name = true) :
    Method.parse s = .ok m := by
  rw [Text.sameUpToCase, beq_iff_eq, m.upper_name] at h
  exact Method.parse_eq_ok_iff.mpr h

theorem Method.parse_eq_error {s : String} (h : ∀ m : Method, Text.sameUpToCase s m.name = false) :
    Method.parse s = .error ⟨Text.upper s⟩ := by
  have hnone : Method.all.find? (·.name == Text.upper s) = none := by
    rw [List.find?_eq_none]
    intro m _ hname
    have hsame := h m
    rw [Text.sameUpToCase, m.upper_name, ← beq_iff_eq.mp hname] at hsame
    simp at hsame
  rw [Method.parse, hnone]

theorem nonEmpty_of_missing {field : Option String} (h : Missing field) : nonEmpty field = none := by
  rcases h with rfl | rfl <;> rfl

theorem nonEmpty_of_ne {s : String} (h : s ≠ "") : nonEmpty (some s) = some s := by
  simp [nonEmpty, Option.filter, h]

namespace RouteBinding
variable {b : RouteBinding} {method path : Option String}

theorem says_structured_iff {m p : Option String} : (structured m p).Says method path ↔ method = m ∧ path = p := by
  constructor
  · intro h
    cases h
    exact ⟨rfl, rfl⟩
  · rintro ⟨rfl, rfl⟩
    exact .fields _ _

theorem Says.normalize (h : b.Says method path) : b.normalize = some ⟨nonEmpty method, nonEmpty path⟩ := by
  cases h with
  | star => rfl
  | shorthand h =>
    rw [nonEmpty_of_ne h.token_ne, nonEmpty_of_ne h.path_ne]
    exact h.normalize
  | fields => rfl

theorem normalize_malformed {route : String} (hstar : route ≠ "*") (hform : ∀ token path, ¬Shorthand route token path) :
    (shorthand route).normalize = none := by
  rw [Option.eq_none_iff_forall_ne_some]
  intro raw hraw
  rcases normalize_shorthand_eq_some_iff.mp hraw with ⟨hroute, -⟩ | ⟨token, path, h, -⟩
  · exact hstar hroute
  · exact hform token path h

/-- The key of a binding that says a path other than the star, and a method. -/
theorem Says.key {m p : String} (h : b.Says (some m) (some p)) (hp : p ≠ "") (hstar : p ≠ "*") (hm : m ≠ "")
    (target : String) : b.key target =
      if meansAny m then .ok (.route .any p)
      else
        match Method.parse m with
        | .ok exact => .ok (.route (.exact exact) p)
        | .error unknown => .error (.unsupportedMethod target unknown.name p) := by
  have hnormal := h.normalize
  rw [nonEmpty_of_ne hm, nonEmpty_of_ne hp] at hnormal
  have hstar' : p ≠ catchAllText := hstar
  rw [RouteBinding.key, hnormal]
  exact if_neg hstar'

end RouteBinding

namespace RouteTable
section First
variable {table : RouteTable} {target : String} {b : RouteBinding} {rule : Nat} {verdict : Except RouteError RouteKey}
  (h : table.FirstApplies target b rule verdict)
include h

/-- Behind the third rule, the path is neither empty nor the star. -/
theorem FirstApplies.path_ne {method : Option String} {path : String} (hrule : 3 < rule)
    (hsaid : b.Says method (some path)) : path ≠ "" ∧ path ≠ "*" := by
  constructor
  · rintro rfl
    exact h.2 2 (by omega) _ (.missingPath hsaid (Or.inr rfl))
  · rintro rfl
    by_cases hmethod : Missing method ∨ method = some "*"
    · exact h.2 3 (by omega) _ (.catchAll hsaid hmethod)
    · simp only [Missing, not_or] at hmethod
      obtain ⟨⟨hnone, hempty⟩, hstar⟩ := hmethod
      obtain ⟨m, rfl⟩ := Option.ne_none_iff_exists'.mp hnone
      refine h.2 3 (by omega) _ (.catchAllMethod hsaid ?_ ?_)
      · rintro rfl
        exact hempty rfl
      · rintro rfl
        exact hstar rfl

/-- Behind the fourth rule, the method is not empty. -/
theorem FirstApplies.method_ne {method path : String} (hrule : 4 < rule) (hsaid : b.Says (some method) (some path)) :
    method ≠ "" := by
  rintro rfl
  exact h.2 4 (by omega) _ (.missingMethod hsaid (Or.inr rfl))

/-- Behind the fifth rule, the method does not stand for all methods. -/
theorem FirstApplies.not_any {method path : String} (hrule : 5 < rule) (hsaid : b.Says (some method) (some path)) :
    meansAny method = false := by
  rw [Bool.eq_false_iff, Ne, meansAny_iff]
  intro hany
  by_cases hbound : ∃ exact, table.Binds (.route (.exact exact) path)
  · obtain ⟨exact, hbound⟩ := hbound
    exact h.2 5 (by omega) _ (.anyShadowed hsaid hany hbound)
  · exact h.2 5 (by omega) _ (.any hsaid hany (not_exists.mp hbound))

end First

theorem Consistent.shadows_any_iff {table : RouteTable} (hc : table.Consistent) {path : String} :
    table.shadows (.route .any path) = true ↔ ∃ exact, table.Binds (.route (.exact exact) path) := by
  simp only [shadows, List.any_eq_true, hc.contains_iff, Method.mem_all, true_and, Binds]

theorem Consistent.shadows_exact_iff {table : RouteTable} (hc : table.Consistent) {exact : Method} {path : String} :
    table.shadows (.route (.exact exact) path) = true ↔ table.Binds (.route .any path) := hc.contains_iff

/-- The verdict of the first rule is the error of the binding by itself, or it is about the key of the binding and
says whether this would put `ANY` and an explicit method on one path. -/
theorem FirstApplies.key {table : RouteTable} {target : String} {b : RouteBinding} {rule : Nat}
    {verdict : Except RouteError RouteKey} (h : table.FirstApplies target b rule verdict) (hc : table.Consistent) :
    (∃ e, verdict = .error e ∧ b.key target = .error e) ∨
    ∃ key, b.key target = .ok key ∧ ((verdict = .ok key ∧ table.shadows key = false) ∨
      (verdict = .error (.shadowedRoute target key key.path) ∧ table.shadows key = true)) := by
  cases h.1 with
  | malformed hb hstar hform =>
    refine Or.inl ⟨_, rfl, ?_⟩
    have hnormal := RouteBinding.normalize_malformed hstar hform
    rw [← hb] at hnormal
    simp [RouteBinding.key, hnormal]
  | missingPath hsaid hpath =>
    refine Or.inl ⟨_, rfl, ?_⟩
    simp [RouteBinding.key, hsaid.normalize, nonEmpty_of_missing hpath]
  | catchAll hsaid hmethod =>
    refine Or.inr ⟨_, ?_, Or.inl ⟨rfl, rfl⟩⟩
    have hstar : nonEmpty (some "*") = some catchAllText := rfl
    rcases hmethod with hmissing | rfl
    · simp [RouteBinding.key, hsaid.normalize, hstar, nonEmpty_of_missing hmissing]
    · simp [RouteBinding.key, hsaid.normalize, hstar]
  | catchAllMethod hsaid hempty hstar =>
    refine Or.inl ⟨_, rfl, ?_⟩
    have hpath : nonEmpty (some "*") = some catchAllText := rfl
    have hstar' : _ ≠ catchAllText := hstar
    simp [RouteBinding.key, hsaid.normalize, hpath, nonEmpty_of_ne hempty, hstar']
  | missingMethod hsaid hmethod =>
    -- From here on, the rules before have left a path that is neither empty nor the star.
    obtain ⟨hp, hstar⟩ := h.path_ne (by omega) hsaid
    have hstar' : _ ≠ catchAllText := hstar
    refine Or.inl ⟨_, rfl, ?_⟩
    simp [RouteBinding.key, hsaid.normalize, nonEmpty_of_missing hmethod, nonEmpty_of_ne hp, hstar']
  | any hsaid hany hfree =>
    obtain ⟨hp, hstar⟩ := h.path_ne (by omega) hsaid
    have hkey := hsaid.key hp hstar (h.method_ne (by omega) hsaid) target
    rw [if_pos (meansAny_iff.mpr hany)] at hkey
    refine Or.inr ⟨_, hkey, Or.inl ⟨rfl, ?_⟩⟩
    rw [Bool.eq_false_iff, Ne, hc.shadows_any_iff]
    exact not_exists.mpr hfree
  | anyShadowed hsaid hany hbound =>
    obtain ⟨hp, hstar⟩ := h.path_ne (by omega) hsaid
    have hkey := hsaid.key hp hstar (h.method_ne (by omega) hsaid) target
    rw [if_pos (meansAny_iff.mpr hany)] at hkey
    exact Or.inr ⟨_, hkey, Or.inr ⟨rfl, hc.shadows_any_iff.mpr ⟨_, hbound⟩⟩⟩
  | unsupported hsaid hunknown =>
    obtain ⟨hp, hstar⟩ := h.path_ne (by omega) hsaid
    have hkey := hsaid.key hp hstar (h.method_ne (by omega) hsaid) target
    rw [h.not_any (by omega) hsaid, Method.parse_eq_error hunknown] at hkey
    exact Or.inl ⟨_, rfl, hkey⟩
  | exact hsaid hmethod hfree =>
    obtain ⟨hp, hstar⟩ := h.path_ne (by omega) hsaid
    have hkey := hsaid.key hp hstar (h.method_ne (by omega) hsaid) target
    rw [h.not_any (by omega) hsaid, Method.parse_of_sameUpToCase hmethod] at hkey
    refine Or.inr ⟨_, hkey, Or.inl ⟨rfl, ?_⟩⟩
    rwa [Bool.eq_false_iff, Ne, hc.shadows_exact_iff]
  | exactShadowed hsaid hmethod hbound =>
    obtain ⟨hp, hstar⟩ := h.path_ne (by omega) hsaid
    have hkey := hsaid.key hp hstar (h.method_ne (by omega) hsaid) target
    rw [h.not_any (by omega) hsaid, Method.parse_of_sameUpToCase hmethod] at hkey
    exact Or.inr ⟨_, hkey, Or.inr ⟨rfl, hc.shadows_exact_iff.mpr hbound⟩⟩

/-- What a verdict makes of a binding: it is rejected, and the table stays; or its key is bound, which adds just the
one entry, unless the key is bound already. -/
def Carries (table : RouteTable) (target : Target) (b : RouteBinding) : Except RouteError RouteKey → Prop
  | .error e => table.bind target b = .error e ∧ table.afterBind target b = table
  | .ok key =>
    (table.Binds key →
      table.bind target b = .error (.duplicateRoute target.name key) ∧ table.afterBind target b = table) ∧
    (¬table.Binds key → ∃ next, table.bind target b = .ok (key, next) ∧ table.afterBind target b = next ∧
      next.entries.toList = table.entries.toList ++ [⟨key, target⟩])

/-- Of the rules for a binding one is the first that applies, and `bind` carries out its verdict. -/
theorem bind_decided {table : RouteTable} (h : table.Reachable) (target : Target) (b : RouteBinding) :
    (∃ rule verdict, table.FirstApplies target.name b rule verdict) ∧
    ∀ rule verdict, table.FirstApplies target.name b rule verdict → table.Carries target b verdict := by
  have hc := h.consistent
  refine ⟨exists_firstApplies table target.name b, fun rule verdict hfirst => ?_⟩
  have hrejected : ∀ {e}, table.bind target b = .error e → table.afterBind target b = table := by
    intro e he
    rw [afterBind, he]
  rcases hfirst.key hc with ⟨e, rfl, hkey⟩ | ⟨key, hkey, ⟨rfl, hshadows⟩ | ⟨rfl, hshadows⟩⟩
  · have he : table.bind target b = .error e := bind_of_key_error hkey
    exact ⟨he, hrejected he⟩
  · have hbind : table.bind target b = _ := bind_of_key hkey
    rw [if_neg (by simp [hshadows])] at hbind
    constructor
    · intro hbound
      rw [if_pos (hc.contains_iff.mpr hbound)] at hbind
      exact ⟨hbind, hrejected hbind⟩
    · intro hfree
      rw [if_neg (mt hc.contains_iff.mp hfree)] at hbind
      exact ⟨_, hbind, by rw [afterBind, hbind], entries_insert table key target⟩
  · have hbind : table.bind target b = _ := bind_of_key hkey
    rw [if_pos hshadows] at hbind
    exact ⟨hbind, hrejected hbind⟩

/-- An explicit method is bound on the path, so the fifth rule rejects `ANY`, in whichever case it is written. -/
theorem bind_decided_of_shadowed :
    let table := empty.afterBind ⟨"users", none⟩ (.shorthand "GET /a")
    let orders : Target := ⟨"orders", none⟩
    let binding : RouteBinding := .structured (some "Any") (some "/a")
    let e : RouteError := .shadowedRoute "orders" (.route .any "/a") "/a"
    table.Reachable ∧ table.FirstApplies orders.name binding 5 (.error e) ∧ table.bind orders binding = .error e := by
  intro table orders binding e
  have hreachable : table.Reachable := .bind _ _ .empty
  have hbound : table.Binds (.route (.exact .get) "/a") := by
    simp only [table]
    rw [afterBind_of_key (k := .route (.exact .get) "/a") rfl]
    simp [shadows, contains, empty, insert, Binds]
  have hfirst : table.FirstApplies orders.name binding 5 (.error e) := by
    refine ⟨.anyShadowed (.fields _ _) (Or.inr (by decide)) hbound, fun earlier hearlier v hv => ?_⟩
    cases hv with
    | malformed hb => exact absurd hb (by simp [binding])
    | missingPath hsaid hpath =>
      obtain ⟨-, rfl⟩ := RouteBinding.says_structured_iff.mp hsaid
      exact absurd hpath (by simp [Missing])
    | missingMethod hsaid hmethod =>
      obtain ⟨rfl, -⟩ := RouteBinding.says_structured_iff.mp hsaid
      exact absurd hmethod (by simp [Missing])
    | catchAll hsaid | catchAllMethod hsaid =>
      obtain ⟨-, hstar⟩ := RouteBinding.says_structured_iff.mp hsaid
      exact absurd hstar (by decide)
    | any | anyShadowed | unsupported | exact | exactShadowed => omega
  exact ⟨hreachable, hfirst, ((bind_decided hreachable orders binding).2 5 _ hfirst).1⟩

end RouteTable
end RouteCompiler
