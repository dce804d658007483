import Mathlib.Data.List.InsertIdx
import RouteCompiler.Compile.Api
import RouteCompiler.Proofs.Routing.Recasing

/-! # What a renderer sees

A renderer asks for the catch-all, which the index finds, and for the endpoints, which are the other entries in their
order. Together these are the whole table: the catch-all is one entry at most, and no endpoint looks like it, since no
route is on the path `*`. Whether there is anything to render depends on the declarations alone. -/

namespace RouteCompiler

theorem nonEmpty_eq_none_iff {field : Option String} : nonEmpty field = none ↔ Missing field := by
  refine ⟨fun h => ?_, nonEmpty_of_missing⟩
  cases field with
  | none => exact Or.inl rfl
  | some s =>
    by_contra hmissing
    have hs : s ≠ "" := fun hs => hmissing (Or.inr (hs ▸ rfl))
    rw [nonEmpty_of_ne hs] at h
    cases h

/-- The binding says the path `*`, and no method other than a star. -/
def RouteBinding.SaysCatchAll (b : RouteBinding) : Prop :=
  ∃ method, b.Says method (some "*") ∧ (Missing method ∨ method = some "*")

theorem RouteBinding.key_eq_catchAll_iff {b : RouteBinding} {target : String} :
    b.key target = .ok .catchAll ↔ b.SaysCatchAll := by
  constructor
  · intro h
    obtain ⟨method, hsaid⟩ := exists_says_of_key h
    obtain ⟨m, p, hnormal, ⟨-, hm, -⟩ | ⟨-, _, -, ⟨-, hkey⟩ | ⟨-, _, -, hkey⟩⟩⟩ := key_eq_ok h
    · rw [hsaid.normalize] at hnormal
      obtain ⟨rfl, -⟩ := RawRoute.mk.inj (Option.some.inj hnormal)
      exact ⟨method, hsaid, hm.imp nonEmpty_eq_none_iff.mp fun hstar => (nonEmpty_eq_some_iff.mp hstar).1⟩
    · cases hkey
    · cases hkey
  · rintro ⟨method, hsaid, hmethod⟩
    have hstar : nonEmpty (some "*") = some catchAllText := rfl
    rcases hmethod with hmissing | rfl
    · simp [RouteBinding.key, hsaid.normalize, hstar, nonEmpty_of_missing hmissing]
    · simp [RouteBinding.key, hsaid.normalize, hstar]

/-! ### The two views of a table -/

theorem insertIdx_length_append {α : Type} (before after : List α) (a : α) :
    (before ++ after).insertIdx before.length a = before ++ a :: after := by
  induction before with
  | nil => rfl
  | cons b before ih => rw [List.cons_append, List.length_cons, List.insertIdx_succ_cons, ih, List.cons_append]

theorem RouteKey.not_isCatchAll_iff {k : RouteKey} : (!k.isCatchAll) = true ↔ k ≠ .catchAll := by
  cases k <;> simp [isCatchAll]

namespace CompiledApi
variable {api : CompiledApi}

theorem mem_endpoints {entry : RouteEntry} :
    entry ∈ api.endpoints ↔ entry ∈ api.routes.entries ∧ entry.key ≠ .catchAll := by
  rw [endpoints, List.mem_filter, Array.mem_toList_iff, RouteKey.not_isCatchAll_iff]

section Consistent
variable (h : api.routes.Consistent)
include h

/-- No route is on the path of the catch-all, and so none has its text. -/
theorem endpoint_ne {entry : RouteEntry} (hentry : entry ∈ api.endpoints) :
    entry.key.text ≠ "*" ∧ entry.key.path ≠ "*" := by
  obtain ⟨hmem, hne⟩ := mem_endpoints.mp hentry
  exact ⟨fun htext => hne (RouteKey.text_inj htext), fun hpath => hne ((h.proper entry hmem).eq_catchAll hpath)⟩

theorem get?_endpoint {entry : RouteEntry} (hentry : entry ∈ api.endpoints) :
    api.routes.get? entry.key = some entry.target :=
  h.get?_eq_some_iff.mpr (mem_endpoints.mp hentry).1

theorem endpoints_eq_entries (hnone : api.catchAll? = none) : api.endpoints = api.routes.entries.toList := by
  rw [endpoints, List.filter_eq_self]
  intro entry hentry
  rw [RouteKey.not_isCatchAll_iff]
  intro hkey
  exact h.get?_eq_none_iff.mp hnone (RouteTable.mem_keys.mpr ⟨entry, Array.mem_toList_iff.mp hentry, hkey⟩)

/-- The endpoints are the entries before the catch-all and those behind it. -/
theorem exists_split {target : Target} (hsome : api.catchAll? = some target) :
    ∃ before after, api.routes.entries.toList = before ++ ⟨.catchAll, target⟩ :: after ∧
      api.endpoints = before ++ after := by
  obtain ⟨before, after, hsplit⟩ := List.append_of_mem (Array.mem_toList_iff.mpr (h.get?_eq_some_iff.mp hsome))
  refine ⟨before, after, hsplit, ?_⟩
  have hnodup := h.nodup_keys
  simp only [RouteTable.keys, hsplit, List.map_append, List.map_cons] at hnodup
  obtain ⟨honce, -⟩ := List.nodup_cons.mp (List.nodup_middle.mp hnodup)
  rw [← List.map_append] at honce
  have hkeep : ∀ entry ∈ before ++ after, (!entry.key.isCatchAll) = true := by
    intro entry hentry
    rw [RouteKey.not_isCatchAll_iff]
    intro hkey
    exact honce (List.mem_map.mpr ⟨entry, hentry, hkey⟩)
  obtain ⟨hbefore, hafter⟩ := List.forall_mem_append.mp hkeep
  rw [endpoints, hsplit, List.filter_append, List.filter_cons_of_neg (by simp [RouteKey.isCatchAll]),
    List.filter_eq_self.mpr hbefore, List.filter_eq_self.mpr hafter]

/-- At one place among the endpoints, and only there, the catch-all makes them the entries. -/
theorem existsUnique_place {target : Target} (hsome : api.catchAll? = some target) :
    ∃! place, place ≤ api.endpoints.length ∧
      api.endpoints.insertIdx place ⟨.catchAll, target⟩ = api.routes.entries.toList := by
  obtain ⟨before, after, hsplit, hendpoints⟩ := exists_split h hsome
  have hfits : before.length ≤ api.endpoints.length ∧
      api.endpoints.insertIdx before.length ⟨.catchAll, target⟩ = api.routes.entries.toList := by
    rw [hendpoints, insertIdx_length_append, hsplit]
    exact ⟨by simp, rfl⟩
  -- What is inserted stands at its place, and the table has it at no other.
  have hplace : ∀ place, place ≤ api.endpoints.length ∧
      api.endpoints.insertIdx place ⟨.catchAll, target⟩ = api.routes.entries.toList →
      api.routes.entries[place]? = some ⟨.catchAll, target⟩ := by
    rintro place ⟨hle, heq⟩
    rw [← Array.getElem?_toList, ← heq, List.getElem?_insertIdx_self, if_pos hle]
  exact ⟨before.length, hfits, fun place hother => h.place_inj (hplace place hother) (hplace _ hfits) rfl⟩

end Consistent
end CompiledApi

/-! ### The declarations behind the table -/

section Declared
variable {declarations : List TargetRoutes} {table : RouteTable}

theorem catchAll?_eq_some_iff (h : table.Lists (declaredPairs declarations)) {target : Target} :
    table.catchAll? = some target ↔
      ∃ declared ∈ declaredPairs declarations, declared.2.SaysCatchAll ∧ declared.1 = target := by
  rw [RouteTable.catchAll?, h.reachable.consistent.get?_eq_some_iff, ← Array.mem_toList_iff]
  have hentries : (⟨.catchAll, target⟩ : RouteEntry) ∈ table.entries.toList ↔
      (.ok ⟨.catchAll, target⟩ : Except RouteError RouteEntry) ∈ table.entries.toList.map .ok := by
    simp
  rw [hentries, ← h.entries, List.mem_map]
  refine exists_congr fun declared => and_congr_right fun _ => ?_
  rw [declaredEntry_eq_ok_iff, RouteBinding.key_eq_catchAll_iff, eq_comm (a := target)]

theorem declaredPairs_eq_nil_iff : declaredPairs declarations = [] ↔ ∀ declared ∈ declarations, declared.bindings = [] := by
  simp [declaredPairs]

theorem isEmpty_iff_declaredPairs (h : table.Lists (declaredPairs declarations)) :
    table.isEmpty = true ↔ declaredPairs declarations = [] := by
  have hlength : (declaredPairs declarations).length = table.entries.toList.length := by
    simpa using congrArg List.length h.entries
  rw [RouteTable.isEmpty, Array.isEmpty_iff, ← Array.toList_eq_nil_iff, ← List.length_eq_zero_iff, ← hlength,
    List.length_eq_zero_iff]

end Declared

/-- The catch-all put back at the one place where it belongs, the endpoints are the entries of the table in their
order. No endpoint has the path or the text of the catch-all, and each is found under its key. There is a catch-all just
if some declared binding says it, and its target is that of this binding. There is nothing to render just if nothing
is declared, and then there are neither endpoints nor a catch-all. -/
theorem endpoints_cover {declarations : List TargetRoutes} {cors : Option CorsSetting} {api : CompiledApi}
    (compiled : (compile declarations cors).value = .ok api) :
    (api.catchAll? = none → api.endpoints = api.routes.entries.toList) ∧
    (∀ target, api.catchAll? = some target → ∃! place, place ≤ api.endpoints.length ∧
      api.endpoints.insertIdx place ⟨.catchAll, target⟩ = api.routes.entries.toList) ∧
    (∀ entry ∈ api.endpoints, entry.key.text ≠ "*" ∧ entry.key.path ≠ "*" ∧
      api.routes.get? entry.key = some entry.target) ∧
    (∀ target, api.catchAll? = some target ↔
      ∃ declared ∈ declaredPairs declarations, declared.2.SaysCatchAll ∧ declared.1 = target) ∧
    (api.isEmpty = true ↔ ∀ declared ∈ declarations, declared.bindings = []) ∧
    (api.isEmpty = true → api.endpoints = [] ∧ api.catchAll? = none) := by
  obtain ⟨table, resolved, rfl⟩ := compile_eq_ok_iff.mp compiled
  have hlists := resolve_eq_ok resolved
  have hc := hlists.reachable.consistent
  refine ⟨CompiledApi.endpoints_eq_entries hc, fun target => CompiledApi.existsUnique_place hc, ?_,
    fun target => catchAll?_eq_some_iff hlists, ?_, ?_⟩
  · intro entry hentry
    obtain ⟨htext, hpath⟩ := CompiledApi.endpoint_ne hc hentry
    exact ⟨htext, hpath, CompiledApi.get?_endpoint hc hentry⟩
  · rw [← declaredPairs_eq_nil_iff]
    exact isEmpty_iff_declaredPairs hlists
  · intro hempty
    have hnone : table.catchAll? = none := by
      rw [Option.eq_none_iff_forall_ne_some]
      intro target htarget
      obtain ⟨declared, hd, -⟩ := (catchAll?_eq_some_iff hlists).mp htarget
      rw [(isEmpty_iff_declaredPairs hlists).mp hempty] at hd
      cases hd
    have hentries : table.entries = #[] := Array.isEmpty_iff.mp hempty
    exact ⟨by simp [CompiledApi.endpoints, hentries], hnone⟩

/-- A catch-all between two routes, declared by its fields. -/
theorem endpoints_cover_of_fallback :
    let users : Target := ⟨"users", none⟩
    let fallback : Target := ⟨"fallback", none⟩
    let declarations : List TargetRoutes :=
      [⟨users, [.shorthand "GET /a"]⟩, ⟨fallback, [.structured (some "") (some "*"), .shorthand "any /b"]⟩]
    ∃ api, (compile declarations none).value = .ok api ∧ api.catchAll? = some fallback ∧ api.isEmpty = false ∧
      api.endpoints = [⟨.route (.exact .get) "/a", users⟩, ⟨.route .any "/b", fallback⟩] ∧
      ∃! place, place ≤ api.endpoints.length ∧
        api.endpoints.insertIdx place ⟨.catchAll, fallback⟩ = api.routes.entries.toList := by
  intro users fallback declarations
  obtain ⟨table, hr, hentries⟩ := resolve_of_entries declarations
    [⟨.route (.exact .get) "/a", users⟩, ⟨.catchAll, fallback⟩, ⟨.route .any "/b", fallback⟩] rfl (by decide)
  have compiled : (compile declarations none).value = .ok ⟨table, _⟩ := compile_eq_ok_iff.mpr ⟨table, hr, rfl⟩
  obtain ⟨-, hplace, -, hcatchAll, hempty, -⟩ := endpoints_cover compiled
  have hsome := (hcatchAll fallback).mpr
    ⟨(fallback, .structured (some "") (some "*")), by decide, ⟨_, .fields _ _, Or.inl (Or.inr rfl)⟩, rfl⟩
  refine ⟨_, compiled, hsome, ?_, ?_, hplace fallback hsome⟩
  · rw [Bool.eq_false_iff, Ne, hempty]
    decide
  · simp [CompiledApi.endpoints, hentries, RouteKey.isCatchAll]

end RouteCompiler
