import Mathlib.Data.List.Induction
import RouteCompiler.Proofs.Routing.Dispatch

/-! # What resolving comes to

Resolving takes the bindings one by one and asks the table each time. What comes of it can be said of the
list of bindings alone: `flawAt?` tells what is wrong with the binding at a place, in view of the keys that
are denoted before it. Without a flaw the table lists the routes that the bindings denote; else the error
is that of the first flaw. -/

namespace RouteCompiler

/-- The route that a declared binding denotes, whatever else is bound. -/
def declaredEntry (declared : Target × RouteBinding) : Except RouteError RouteEntry :=
  (declared.2.key declared.1.name).map fun key => ⟨key, declared.1⟩

/-- The keys that bindings denote, as far as they denote one. -/
def declaredKeys (pairs : List (Target × RouteBinding)) : List RouteKey :=
  pairs.filterMap fun declared => (declared.2.key declared.1.name).toOption

/-- What is wrong with a binding behind others that denote the keys `earlier`. -/
def flaw? (earlier : List RouteKey) (declared : Target × RouteBinding) : Option RouteError :=
  match declared.2.key declared.1.name with
  | .error e => some e
  | .ok key =>
    if key ∈ earlier then some (.duplicateRoute declared.1.name key)
    else if ∃ k ∈ earlier, key.Mixes k then some (.shadowedRoute declared.1.name key key.path)
    else none

/-- What is wrong with the binding at a place. -/
def flawAt? (pairs : List (Target × RouteBinding)) (j : Nat) : Option RouteError :=
  pairs[j]?.bind (flaw? (declaredKeys (pairs.take j)))

section Flaws
variable {pairs pairs' : List (Target × RouteBinding)} {j : Nat} {e : RouteError}

theorem flaw?_target {earlier : List RouteKey} {declared : Target × RouteBinding}
    (h : flaw? earlier declared = some e) : e.target = declared.1.name := by
  rw [flaw?] at h
  split at h
  · rename_i he
    rw [← Option.some.inj h]
    exact (RouteBinding.key_eq_error he).1
  · split at h
    · rw [← Option.some.inj h]; rfl
    · split at h
      · rw [← Option.some.inj h]; rfl
      · cases h

/-- A binding has a flaw just if it denotes no key, or one that conflicts with an earlier one. -/
theorem exists_flaw?_iff {earlier : List RouteKey} {declared : Target × RouteBinding} :
    (∃ e, flaw? earlier declared = some e) ↔ (∃ e, declared.2.key declared.1.name = .error e) ∨
      ∃ key, declared.2.key declared.1.name = .ok key ∧ ∃ k ∈ earlier, k.Conflicts key := by
  cases hkey : declared.2.key declared.1.name with
  | error e => simp [flaw?, hkey]
  | ok key =>
    have hconf : (∃ k ∈ earlier, k.Conflicts key) ↔ key ∈ earlier ∨ ∃ k ∈ earlier, key.Mixes k := by
      constructor
      · rintro ⟨k, hk, rfl | hm⟩
        · exact Or.inl hk
        · exact Or.inr ⟨k, hk, hm.symm⟩
      · rintro (hk | ⟨k, hk, hm⟩)
        · exact ⟨key, hk, Or.inl rfl⟩
        · exact ⟨k, hk, Or.inr hm.symm⟩
    simp only [flaw?, hkey, reduceCtorEq, exists_false, false_or, Except.ok.injEq, exists_eq_left', hconf]
    split
    · rename_i hmem
      exact iff_of_true ⟨_, rfl⟩ (Or.inl hmem)
    · rename_i hmem
      split
      · rename_i hmix
        exact iff_of_true ⟨_, rfl⟩ (Or.inr hmix)
      · rename_i hmix
        exact iff_of_false (by simp) (not_or.mpr ⟨hmem, hmix⟩)

theorem flaw?_eq_none_iff {earlier : List RouteKey} {declared : Target × RouteBinding} :
    flaw? earlier declared = none ↔
      ∃ key, declared.2.key declared.1.name = .ok key ∧ ∀ k ∈ earlier, ¬k.Conflicts key := by
  rw [Option.eq_none_iff_forall_ne_some, ← not_exists, exists_flaw?_iff]
  cases declared.2.key declared.1.name with
  | error e => simp
  | ok key => simp

theorem exists_flawAt?_iff : (∃ e, flawAt? pairs j = some e) ↔
    ∃ declared, pairs[j]? = some declared ∧ ((∃ e, declared.2.key declared.1.name = .error e) ∨
      ∃ key, declared.2.key declared.1.name = .ok key ∧ ∃ k ∈ declaredKeys (pairs.take j), k.Conflicts key) := by
  rw [flawAt?]
  cases pairs[j]? with
  | none => simp
  | some declared => simp only [Option.bind_some, exists_flaw?_iff, Option.some.injEq, exists_eq_left']

theorem flawAt?_target (h : flawAt? pairs j = some e) :
    ∃ declared, pairs[j]? = some declared ∧ e.target = declared.1.name := by
  obtain ⟨declared, hj, hf⟩ := Option.bind_eq_some_iff.mp h
  exact ⟨declared, hj, flaw?_target hf⟩

/-- A flaw depends on the bindings up to its place only. -/
theorem flawAt?_congr (h : pairs'.take (j + 1) = pairs.take (j + 1)) : flawAt? pairs' j = flawAt? pairs j := by
  have hj : pairs'[j]? = pairs[j]? := by
    simpa [List.getElem?_take] using congrArg (·[j]?) h
  have ht : pairs'.take j = pairs.take j := by
    simpa [List.take_take] using congrArg (List.take j) h
  rw [flawAt?, flawAt?, hj, ht]

theorem flawAt?_append (h : j < pairs.length) : flawAt? (pairs ++ pairs') j = flawAt? pairs j :=
  flawAt?_congr (List.take_append_of_le_length h)

theorem flawAt?_concat_length (declared : Target × RouteBinding) :
    flawAt? (pairs ++ [declared]) pairs.length = flaw? (declaredKeys pairs) declared := by
  simp [flawAt?]

theorem lt_length_of_flawAt? (h : flawAt? pairs j = some e) : j < pairs.length := by
  obtain ⟨_, hj, -⟩ := Option.bind_eq_some_iff.mp h
  exact (List.getElem?_eq_some_iff.mp hj).1

theorem flawAt?_concat_eq_none_iff {declared : Target × RouteBinding} :
    (∀ j, flawAt? (pairs ++ [declared]) j = none) ↔
      (∀ j, flawAt? pairs j = none) ∧ flaw? (declaredKeys pairs) declared = none := by
  constructor
  · intro h
    refine ⟨fun j => ?_, by rw [← flawAt?_concat_length, h]⟩
    cases hf : flawAt? pairs j with
    | none => rfl
    | some e => rw [← hf, ← flawAt?_append (lt_length_of_flawAt? hf), h]
  · rintro ⟨hno, hlast⟩ j
    rcases Nat.lt_trichotomy j pairs.length with hj | rfl | hj
    · rw [flawAt?_append hj, hno]
    · rw [flawAt?_concat_length, hlast]
    · cases hf : flawAt? (pairs ++ [declared]) j with
      | none => rfl
      | some e =>
        have := lt_length_of_flawAt? hf
        simp only [List.length_append, List.length_singleton] at this
        omega

/-- Bindings that denote the routes of some entries denote their keys. -/
theorem declaredKeys_eq {entries : List RouteEntry} (h : pairs.map declaredEntry = entries.map .ok) :
    declaredKeys pairs = entries.map (·.key) := by
  have hkey : ∀ declared : Target × RouteBinding, (declared.2.key declared.1.name).toOption =
      (declaredEntry declared).toOption.map (·.key) := fun declared => by
    cases hk : declared.2.key declared.1.name <;> simp [declaredEntry, hk, Except.map, Except.toOption]
  calc declaredKeys pairs
      = (pairs.map declaredEntry).filterMap fun r => r.toOption.map (·.key) := by
        simp only [declaredKeys, List.filterMap_map, Function.comp_def, hkey]
    _ = entries.map (·.key) := by
        rw [h, List.filterMap_map]
        simp [Function.comp_def, Except.toOption]

end Flaws

namespace RouteTable

/-- A consistent table rejects just the bindings that have a flaw behind its keys. -/
theorem Consistent.bind_eq {table : RouteTable} (h : table.Consistent) (target : Target) (binding : RouteBinding) :
    (∃ e, table.bind target binding = .error e ∧ flaw? table.keys (target, binding) = some e) ∨
      ∃ key, binding.key target.name = .ok key ∧ flaw? table.keys (target, binding) = none ∧
        table.bind target binding = .ok (key, table.insert key target) := by
  cases hkey : binding.key target.name with
  | error e => exact Or.inl ⟨e, bind_of_key_error hkey, by simp [flaw?, hkey]⟩
  | ok key =>
    have hk := RouteBinding.proper_key hkey
    have hshadow : table.shadows key = true ↔ ∃ k ∈ table.keys, key.Mixes k := by
      rw [h.shadows_iff hk]
      simp [keys]
    rw [bind_of_key hkey]
    by_cases hs : table.shadows key = true
    · have hc : key ∉ table.keys := fun hc =>
        h.not_contains_and_shadows hk ⟨h.contains_iff_mem_keys.mpr hc, hs⟩
      exact Or.inl ⟨_, by rw [if_pos hs], by simp [flaw?, hkey, hc, ← hshadow, hs]⟩
    · by_cases hc : table.contains key = true
      · have hc' := h.contains_iff_mem_keys.mp hc
        exact Or.inl ⟨_, by rw [if_neg hs, if_pos hc], by simp [flaw?, hkey, hc']⟩
      · have hc' : key ∉ table.keys := fun hm => hc (h.contains_iff_mem_keys.mpr hm)
        exact Or.inr ⟨key, rfl, by simp [flaw?, hkey, hc', ← hshadow, hs], by rw [if_neg hs, if_neg hc]⟩

theorem bindAll_concat_value (table : RouteTable) (pairs : List (Target × RouteBinding)) (target : Target)
    (binding : RouteBinding) : (table.bindAll (pairs ++ [(target, binding)])).value =
      match (table.bindAll pairs).value with
      | .error e => .error e
      | .ok next => (next.bind target binding).map Prod.snd := by
  induction pairs generalizing table with
  | nil => cases h : table.bind target binding <;> simp [bindAll, Logged.silent, h, Except.map]
  | cons declared rest ih =>
    obtain ⟨t, b⟩ := declared
    cases h : table.bind t b with
    | error e =>
      rw [List.cons_append, bindAll_of_error h, bindAll_of_error h]
      rfl
    | ok accepted =>
      obtain ⟨key, next⟩ := accepted
      rw [List.cons_append, bindAll_of_ok h, bindAll_of_ok h, ih next]

/-- A pass that fails has accepted every binding before one that it rejects. -/
theorem bindAll_eq_error {table : RouteTable} {pairs : List (Target × RouteBinding)} {e : RouteError}
    (h : (table.bindAll pairs).value = .error e) :
    ∃ earlier target binding later next, pairs = earlier ++ (target, binding) :: later ∧
      (table.bindAll earlier).value = .ok next ∧ next.bind target binding = .error e := by
  induction pairs generalizing table with
  | nil => cases h
  | cons declared rest ih =>
    obtain ⟨target, binding⟩ := declared
    cases hb : table.bind target binding with
    | error e' =>
      rw [bindAll_of_error hb] at h
      rw [Except.error.inj h] at hb
      exact ⟨[], target, binding, rest, table, rfl, rfl, hb⟩
    | ok accepted =>
      obtain ⟨key, after⟩ := accepted
      rw [bindAll_of_ok hb] at h
      obtain ⟨earlier, target', binding', later, next, rfl, hv, he⟩ := ih h
      exact ⟨(target, binding) :: earlier, target', binding', later, next, rfl, by rw [bindAll_of_ok hb, hv], he⟩

/-- The bindings of the list have no flaw and denote the routes of the table, in order. -/
structure Lists (table : RouteTable) (pairs : List (Target × RouteBinding)) : Prop where
  reachable : table.Reachable
  entries : pairs.map declaredEntry = table.entries.toList.map .ok
  noFlaw : ∀ j, flawAt? pairs j = none

/-- The error is that of the first binding with a flaw. -/
def FirstFlaw (pairs : List (Target × RouteBinding)) (e : RouteError) : Prop :=
  ∃ j, flawAt? pairs j = some e ∧ ∀ i < j, flawAt? pairs i = none

theorem Lists.concat {table : RouteTable} {pairs : List (Target × RouteBinding)} (h : table.Lists pairs)
    (target : Target) (binding : RouteBinding) :
    (∃ e, table.bind target binding = .error e ∧ FirstFlaw (pairs ++ [(target, binding)]) e) ∨
      ∃ key next, table.bind target binding = .ok (key, next) ∧ next.Lists (pairs ++ [(target, binding)]) := by
  have hkeys : declaredKeys pairs = table.keys := declaredKeys_eq h.entries
  rcases h.reachable.consistent.bind_eq target binding with ⟨e, hb, hf⟩ | ⟨key, hkey, hf, hb⟩
  · refine Or.inl ⟨e, hb, pairs.length, ?_, fun i hi => ?_⟩
    · rw [flawAt?_concat_length, hkeys, hf]
    · rw [flawAt?_append hi, h.noFlaw]
  · refine Or.inr ⟨key, _, hb, ?_, ?_, fun j => ?_⟩
    · have := h.reachable.bind target binding
      rwa [afterBind, hb] at this
    · simp [h.entries, declaredEntry, hkey, Except.map]
    · exact flawAt?_concat_eq_none_iff.mpr ⟨h.noFlaw, by rw [hkeys, hf]⟩ j

/-- Resolving a list of bindings makes a table that lists them, or ends with the error of the first flaw. -/
theorem bindAll_empty_cases (pairs : List (Target × RouteBinding)) :
    (∃ table, (empty.bindAll pairs).value = .ok table ∧ table.Lists pairs) ∨
      ∃ e, (empty.bindAll pairs).value = .error e ∧ FirstFlaw pairs e := by
  -- The table grows at its end, so the list is taken apart at its end.
  induction pairs using List.reverseRecOn with
  | nil => exact Or.inl ⟨empty, rfl, .empty, rfl, fun j => by simp [flawAt?]⟩
  | append_singleton pairs declared ih =>
    obtain ⟨target, binding⟩ := declared
    rw [bindAll_concat_value]
    rcases ih with ⟨table, hv, hl⟩ | ⟨e, hv, j, hj, hno⟩
    · rw [hv]
      rcases hl.concat target binding with ⟨e, hb, hf⟩ | ⟨key, next, hb, hn⟩
      · exact Or.inr ⟨e, by simp [hb, Except.map], hf⟩
      · exact Or.inl ⟨next, by simp [hb, Except.map], hn⟩
    · rw [hv]
      have hlt := lt_length_of_flawAt? hj
      refine Or.inr ⟨e, rfl, j, by rw [flawAt?_append hlt, hj], fun i hi => ?_⟩
      rw [flawAt?_append (Nat.lt_trans hi hlt), hno i hi]

theorem FirstFlaw.unique {pairs : List (Target × RouteBinding)} {e e' : RouteError} (h : FirstFlaw pairs e)
    (h' : FirstFlaw pairs e') : e = e' := by
  obtain ⟨i, hi, hno⟩ := h
  obtain ⟨j, hj, hno'⟩ := h'
  rcases Nat.lt_trichotomy i j with hij | rfl | hij
  · simp [hno' i hij] at hi
  · exact Option.some.inj (hi.symm.trans hj)
  · simp [hno j hij] at hj

end RouteTable

/-! ### Resolving declarations -/

section Resolve
variable {declarations : List TargetRoutes} {table : RouteTable} {e : RouteError}

theorem resolve_eq_ok (h : (resolve declarations).value = .ok table) :
    table.Lists (declaredPairs declarations) := by
  rcases RouteTable.bindAll_empty_cases (declaredPairs declarations) with ⟨t, hv, hl⟩ | ⟨e, hv, -⟩
  · rw [resolve, hv] at h
    exact Except.ok.inj h ▸ hl
  · rw [resolve, hv] at h
    cases h

theorem resolve_eq_error_iff :
    (resolve declarations).value = .error e ↔ RouteTable.FirstFlaw (declaredPairs declarations) e := by
  rw [resolve]
  rcases RouteTable.bindAll_empty_cases (declaredPairs declarations) with ⟨t, hv, hl⟩ | ⟨e', hv, hf⟩
  · refine iff_of_false (by simp [hv]) ?_
    rintro ⟨j, hj, -⟩
    simp [hl.noFlaw j] at hj
  · rw [hv]
    constructor
    · intro h
      exact Except.error.inj h ▸ hf
    · intro h
      rw [hf.unique h]

theorem resolve_ok_iff :
    (∃ table, (resolve declarations).value = .ok table) ↔ ∀ j, flawAt? (declaredPairs declarations) j = none := by
  constructor
  · rintro ⟨table, h⟩
    exact (resolve_eq_ok h).noFlaw
  · intro h
    rcases RouteTable.bindAll_empty_cases (declaredPairs declarations) with ⟨t, hv, -⟩ | ⟨e, -, j, hj, -⟩
    · exact ⟨t, hv⟩
    · simp [h j] at hj

end Resolve

/-- No binding has a flaw just if each denotes a key and no two of the keys conflict. -/
theorem flawAt?_eq_none_iff {pairs : List (Target × RouteBinding)} : (∀ j, flawAt? pairs j = none) ↔
    (∀ declared ∈ pairs, ∃ key, declared.2.key declared.1.name = .ok key) ∧
      (declaredKeys pairs).Pairwise fun k k' => ¬k.Conflicts k' := by
  induction pairs using List.reverseRecOn with
  | nil => simp [flawAt?, declaredKeys]
  | append_singleton pairs declared ih =>
    rw [flawAt?_concat_eq_none_iff, ih, flaw?_eq_none_iff]
    cases hkey : declared.2.key declared.1.name with
    | error e => simp [or_imp, forall_and, hkey]
    | ok key =>
      have hkeys : declaredKeys (pairs ++ [declared]) = declaredKeys pairs ++ [key] := by
        simp [declaredKeys, hkey, Except.toOption]
      rw [hkeys, List.pairwise_append]
      simp [or_imp, forall_and, hkey, and_assoc]

theorem declaredEntry_eq_ok_iff {declared : Target × RouteBinding} {entry : RouteEntry} :
    declaredEntry declared = .ok entry ↔
      declared.2.key declared.1.name = .ok entry.key ∧ entry.target = declared.1 := by
  obtain ⟨key, target⟩ := entry
  rw [declaredEntry]
  cases declared.2.key declared.1.name with
  | error e => simp [Except.map]
  | ok k => simp [Except.map, eq_comm]

/-- Every binding denotes a key, and no two of the keys are in conflict. -/
def Compatible (pairs : List (Target × RouteBinding)) : Prop :=
  (∀ declared ∈ pairs, ∃ key, declared.2.key declared.1.name = .ok key) ∧
    (declaredKeys pairs).Pairwise fun k k' => ¬k.Conflicts k'

theorem resolve_ok_iff_compatible {declarations : List TargetRoutes} :
    (∃ table, (resolve declarations).value = .ok table) ↔ Compatible (declaredPairs declarations) :=
  resolve_ok_iff.trans flawAt?_eq_none_iff

/-- Bindings that denote routes without a conflict resolve to a table of these routes. -/
theorem resolve_of_entries (declarations : List TargetRoutes) (entries : List RouteEntry)
    (h : (declaredPairs declarations).map declaredEntry = entries.map .ok)
    (hc : (entries.map (·.key)).Pairwise fun k k' => ¬k.Conflicts k') :
    ∃ table, (resolve declarations).value = .ok table ∧ table.entries.toList = entries := by
  have compatible : Compatible (declaredPairs declarations) := by
    refine ⟨fun declared hd => ?_, by rwa [declaredKeys_eq h]⟩
    have hmem : declaredEntry declared ∈ entries.map .ok := h ▸ List.mem_map_of_mem hd
    obtain ⟨entry, -, he⟩ := List.mem_map.mp hmem
    exact ⟨entry.key, (declaredEntry_eq_ok_iff.mp he.symm).1⟩
  obtain ⟨table, ht⟩ := resolve_ok_iff_compatible.mpr compatible
  have hmap : table.entries.toList.map Except.ok = entries.map (Except.ok (ε := RouteError)) :=
    (resolve_eq_ok ht).entries.symm.trans h
  exact ⟨table, ht, (List.map_inj_right fun _ _ => Except.ok.inj).mp hmap⟩

/-- Resolving succeeds just if every binding denotes a key and no two of the keys conflict; the entries are
    then the denoted routes with their targets, in order. Else the error is that of the first binding that
    denotes no key or one that conflicts with an earlier one: it names that binding's target, and what comes
    behind that binding has no influence. -/
theorem resolve_exact (declarations : List TargetRoutes) :
    let pairs := declaredPairs declarations
    ((∃ table, (resolve declarations).value = .ok table) ↔
      (∀ declared ∈ pairs, ∃ key, declared.2.key declared.1.name = .ok key) ∧
        (declaredKeys pairs).Pairwise fun k k' => ¬k.Conflicts k') ∧
    (∀ table, (resolve declarations).value = .ok table →
      pairs.map declaredEntry = table.entries.toList.map .ok) ∧
    (∀ e, (resolve declarations).value = .error e ↔
      ∃ j, flawAt? pairs j = some e ∧ ∀ i < j, flawAt? pairs i = none) ∧
    (∀ j, (∃ e, flawAt? pairs j = some e) ↔
      ∃ declared, pairs[j]? = some declared ∧ ((∃ e, declared.2.key declared.1.name = .error e) ∨
        ∃ key, declared.2.key declared.1.name = .ok key ∧ ∃ k ∈ declaredKeys (pairs.take j), k.Conflicts key)) ∧
    (∀ j e, flawAt? pairs j = some e → ∃ declared, pairs[j]? = some declared ∧ e.target = declared.1.name) ∧
    (∀ j e, flawAt? pairs j = some e → (∀ i < j, flawAt? pairs i = none) → ∀ others : List TargetRoutes,
      (declaredPairs others).take (j + 1) = pairs.take (j + 1) → (resolve others).value = .error e) ∧
    ∀ declared ∈ pairs, ∀ e, declared.2.key declared.1.name = .error e → e.kind ≠ .duplicateRoute := by
  intro pairs
  refine ⟨resolve_ok_iff.trans flawAt?_eq_none_iff, fun _ h => (resolve_eq_ok h).entries,
    fun _ => resolve_eq_error_iff, fun _ => exists_flawAt?_iff, fun _ _ => flawAt?_target, ?_,
    fun _ _ _ h => (RouteBinding.key_eq_error h).2⟩
  intro j e hj hno others htake
  refine resolve_eq_error_iff.mpr ⟨j, (flawAt?_congr htake).trans hj, fun i hi => ?_⟩
  have htake' : (declaredPairs others).take (i + 1) = pairs.take (i + 1) := by
    have := congrArg (List.take (i + 1)) htake
    rwa [List.take_take, List.take_take, Nat.min_eq_left (by omega)] at this
  exact (flawAt?_congr htake').trans (hno i hi)

end RouteCompiler
