import Mathlib.Data.List.Perm.Subperm
import RouteCompiler.Compile.Api
import RouteCompiler.Proofs.Routing.Resolution

/-! # Reordering and dropping declarations

Which bindings can stand together is said of pairs of them, and to be in conflict is symmetric. So neither
the order of the declarations nor the way in which they are grouped decides whether they resolve, and some of
the bindings of a list that resolves do so too. The order decides the order of the entries and nothing else:
look-ups, the methods that are served and the CORS policy stay. -/

namespace RouteCompiler

theorem subperm_filterMap {α β : Type} (f : α → Option β) {l l' : List α} (h : l.Subperm l') :
    (l.filterMap f).Subperm (l'.filterMap f) := by
  obtain ⟨m, hperm, hsub⟩ := h
  exact ⟨m.filterMap f, hperm.filterMap f, hsub.filterMap f⟩

section Declared
variable {pairs kept : List (Target × RouteBinding)}

theorem Compatible.subperm (h : Compatible pairs) (hk : kept.Subperm pairs) : Compatible kept := by
  refine ⟨fun declared hd => h.1 declared (hk.subset hd), ?_⟩
  obtain ⟨m, hperm, hsub⟩ := subperm_filterMap (fun d : Target × RouteBinding => (d.2.key d.1.name).toOption) hk
  exact (hperm.pairwise_iff fun hc hc' => hc hc'.symm).mp (h.2.sublist hsub)

/-- The entries that some of the bindings denote are some of the entries that all of them denote. -/
theorem entries_subperm {entries entries' : List RouteEntry} (h : pairs.map declaredEntry = entries.map .ok)
    (h' : kept.map declaredEntry = entries'.map .ok) (hk : kept.Subperm pairs) : entries'.Subperm entries := by
  have denoted : ∀ {l : List (Target × RouteBinding)} {es : List RouteEntry}, l.map declaredEntry = es.map .ok →
      l.filterMap (fun declared => (declaredEntry declared).toOption) = es := fun {l es} hl => by
    calc l.filterMap (fun declared => (declaredEntry declared).toOption)
        = (l.map declaredEntry).filterMap Except.toOption := by rw [List.filterMap_map]; rfl
      _ = es := by
          rw [hl, List.filterMap_map]
          simp [Function.comp_def, Except.toOption]
  rw [← denoted h, ← denoted h']
  exact subperm_filterMap _ hk

end Declared

namespace RouteTable

section Fewer
variable {table fewer : RouteTable}

theorem mem_of_subperm (hsub : fewer.entries.toList.Subperm table.entries.toList) {a : RouteEntry}
    (ha : a ∈ fewer.entries) : a ∈ table.entries :=
  Array.mem_toList_iff.mp (hsub.subset (Array.mem_toList_iff.mpr ha))

/-- A table with some of the entries of another has the same targets for its own keys. -/
theorem get?_of_subperm (h : table.Consistent) (hf : fewer.Consistent)
    (hsub : fewer.entries.toList.Subperm table.entries.toList) {key : RouteKey} (hk : key ∈ fewer.keys) :
    fewer.get? key = table.get? key := by
  obtain ⟨⟨k, target⟩, ha, rfl⟩ := mem_keys.mp hk
  rw [hf.get?_eq_some_iff.mpr ha, h.get?_eq_some_iff.mpr (mem_of_subperm hsub ha)]

theorem contains_boundMethods_of_subperm (h : table.Consistent) (hf : fewer.Consistent)
    (hsub : fewer.entries.toList.Subperm table.entries.toList) {m : Method}
    (hm : fewer.boundMethods.contains m = true) : table.boundMethods.contains m = true := by
  obtain ⟨a, ha, hma⟩ := (hf.methods_iff m).mp hm
  exact (h.methods_iff m).mpr ⟨a, mem_of_subperm hsub ha, hma⟩

end Fewer

theorem Lists.boundMethods_eq {table other : RouteTable} {pairs others : List (Target × RouteBinding)}
    (h : table.Lists pairs) (h' : other.Lists others) (hp : others.Perm pairs) :
    other.boundMethods = table.boundMethods := by
  have hsub := entries_subperm h.entries h'.entries hp.subperm
  have hsub' := entries_subperm h'.entries h.entries hp.symm.subperm
  have hc := h.reachable.consistent
  have hc' := h'.reachable.consistent
  refine MethodSet.ext fun m => Bool.eq_iff_iff.mpr ⟨?_, ?_⟩
  · exact contains_boundMethods_of_subperm hc hc' hsub
  · exact contains_boundMethods_of_subperm hc' hc hsub'

end RouteTable

section Resolve
variable {declarations others : List TargetRoutes}

theorem resolve_ok_iff_of_perm (hp : (declaredPairs others).Perm (declaredPairs declarations)) :
    (∃ table, (resolve declarations).value = .ok table) ↔ ∃ table, (resolve others).value = .ok table := by
  rw [resolve_ok_iff_compatible, resolve_ok_iff_compatible]
  exact ⟨fun h => h.subperm hp.subperm, fun h => h.subperm hp.symm.subperm⟩

/-- The policy of a pass, if the pass succeeds, does not depend on the order of the declarations. -/
theorem compile_cors_of_perm (hp : (declaredPairs others).Perm (declaredPairs declarations))
    (cors : Option CorsSetting) :
    (compile others cors).value.toOption.map (·.cors) = (compile declarations cors).value.toOption.map (·.cors) := by
  have hok := resolve_ok_iff_of_perm hp
  rw [compile_value, compile_value]
  cases hd : (resolve declarations).value with
  | error e =>
    cases ho : (resolve others).value with
    | error e' => rfl
    | ok other => simp [hd, ho] at hok
  | ok table =>
    cases ho : (resolve others).value with
    | error e => simp [hd, ho] at hok
    | ok other =>
      simp only [Except.map, Except.toOption, Option.map_some]
      rw [(resolve_eq_ok hd).boundMethods_eq (resolve_eq_ok ho) hp]

end Resolve

/-- When declarations resolve, so do any that have some of their bindings, each on its target, in any order and
    grouped in any way. The entries are those of the bindings that are left, in their new order. A key that
    is left has the target that it had, any other key has none, and no new method is served. When all bindings
    are left, the ones resolve just if the others do, they serve the same methods, and every CORS setting leads
    to the same policy. -/
theorem resolve_reordered (declarations others : List TargetRoutes) :
    let pairs := declaredPairs declarations
    let kept := declaredPairs others
    (∀ table, (resolve declarations).value = .ok table → kept.Subperm pairs →
      ∃ fewer, (resolve others).value = .ok fewer ∧ kept.map declaredEntry = fewer.entries.toList.map .ok ∧
        fewer.entries.toList.Subperm table.entries.toList ∧
        (∀ k ∈ declaredKeys kept, fewer.get? k = table.get? k) ∧ (∀ k ∉ declaredKeys kept, fewer.get? k = none) ∧
        ∀ m, fewer.boundMethods.contains m = true → table.boundMethods.contains m = true) ∧
    (kept.Perm pairs →
      ((∃ table, (resolve declarations).value = .ok table) ↔ ∃ table, (resolve others).value = .ok table) ∧
      (∀ table other, (resolve declarations).value = .ok table → (resolve others).value = .ok other →
        other.boundMethods = table.boundMethods) ∧
      ∀ cors, (compile others cors).value.toOption.map (·.cors) =
        (compile declarations cors).value.toOption.map (·.cors)) := by
  intro pairs kept
  refine ⟨fun table h hk => ?_, fun hp => ⟨resolve_ok_iff_of_perm hp, fun table other h h' => ?_, ?_⟩⟩
  · obtain ⟨fewer, h'⟩ := resolve_ok_iff_compatible.mpr ((resolve_ok_iff_compatible.mp ⟨table, h⟩).subperm hk)
    have hl := resolve_eq_ok h
    have hl' := resolve_eq_ok h'
    have hc := hl.reachable.consistent
    have hc' := hl'.reachable.consistent
    have hsub := entries_subperm hl.entries hl'.entries hk
    have hkeys : declaredKeys kept = fewer.keys := declaredKeys_eq hl'.entries
    rw [hkeys]
    exact ⟨fewer, h', hl'.entries, hsub, fun k => RouteTable.get?_of_subperm hc hc' hsub,
      fun k => hc'.get?_eq_none_iff.mpr, fun m => RouteTable.contains_boundMethods_of_subperm hc hc' hsub⟩
  · exact (resolve_eq_ok h).boundMethods_eq (resolve_eq_ok h') hp
  · exact compile_cors_of_perm hp

/-- Of four routes the catch-all and one more are left, in reverse order and with a target declared twice. -/
theorem resolve_reordered_of_regrouping :
    let users : Target := ⟨"users", none⟩
    let orders : Target := ⟨"orders", none⟩
    let declarations : List TargetRoutes := [⟨users, [.shorthand "GET /a", .shorthand "POST /a"]⟩,
      ⟨orders, [.shorthand "ANY /b", .shorthand "*"]⟩]
    let others : List TargetRoutes := [⟨orders, [.shorthand "*"]⟩, ⟨users, []⟩, ⟨users, [.shorthand "POST /a"]⟩]
    (declaredPairs others).Subperm (declaredPairs declarations) ∧
      ∃ table fewer, (resolve declarations).value = .ok table ∧ (resolve others).value = .ok fewer ∧
        fewer.get? .catchAll = table.get? .catchAll ∧ fewer.get? (.route .any "/b") = none := by
  intro users orders declarations others
  have kept : (declaredPairs others).Subperm (declaredPairs declarations) :=
    List.subperm_of_subset (by decide) (by decide)
  obtain ⟨table, h, -⟩ := resolve_of_entries declarations [⟨.route (.exact .get) "/a", users⟩,
    ⟨.route (.exact .post) "/a", users⟩, ⟨.route .any "/b", orders⟩, ⟨.catchAll, orders⟩] rfl (by decide)
  obtain ⟨fewer, h', -, -, same, none, -⟩ := (resolve_reordered declarations others).1 table h kept
  exact ⟨kept, table, fewer, h, h', same _ (by decide), none _ (by decide)⟩

end RouteCompiler
