import Mathlib.Tactic.ByContra
import RouteCompiler.Proofs.Routing.Conflict

/-! # The invariant of the route table

A table says everything twice: its entries are listed in order and found through an index, and the methods
that they serve are kept beside them. `Consistent` says that all of it agrees, and that no two entries are
in conflict. Only `bind` makes tables from the empty one, and it keeps the invariant, whether it accepts the
binding or not. -/

namespace RouteCompiler
namespace RouteTable

/-! ### Steps -/

/-- The table after a call of `bind`; a rejected binding leaves it as it is. -/
def afterBind (table : RouteTable) (target : Target) (binding : RouteBinding) : RouteTable :=
  match table.bind target binding with
  | .ok (_, next) => next
  | .error _ => table

/-- The tables that calls of `bind` make of the empty one, with any targets and bindings, accepted or not. -/
inductive Reachable : RouteTable → Prop where
  | empty : Reachable empty
  | bind {table : RouteTable} (target : Target) (binding : RouteBinding) (h : Reachable table) :
    Reachable (table.afterBind target binding)

section Bind
variable {table next : RouteTable} {target : Target} {binding : RouteBinding} {key : RouteKey}

theorem bind_of_key (h : binding.key target.name = .ok key) : table.bind target binding =
    if table.shadows key then .error (.shadowedRoute target.name key key.path)
    else if table.contains key then .error (.duplicateRoute target.name key)
    else .ok (key, table.insert key target) := by
  simp only [RouteTable.bind, h]

theorem bind_of_key_error {e : RouteError} (h : binding.key target.name = .error e) :
    table.bind target binding = .error e := by
  simp only [RouteTable.bind, h]

theorem bind_eq_ok_iff : table.bind target binding = .ok (key, next) ↔
    binding.key target.name = .ok key ∧ table.shadows key = false ∧ table.contains key = false ∧
      next = table.insert key target := by
  cases hk : binding.key target.name with
  | error e => simp [bind_of_key_error hk]
  | ok k =>
    rw [bind_of_key hk]
    constructor
    · intro h
      split at h
      · cases h
      · rename_i hs
        split at h
        · cases h
        · rename_i hc
          obtain ⟨rfl, rfl⟩ := Prod.mk.inj (Except.ok.inj h)
          exact ⟨rfl, by simpa using hs, by simpa using hc, rfl⟩
    · rintro ⟨h, hs, hc, rfl⟩
      obtain rfl := Except.ok.inj h
      simp [hs, hc]

/-- A binding is rejected in the name of its target. -/
theorem bind_error_target {e : RouteError} (h : table.bind target binding = .error e) : e.target = target.name := by
  cases hk : binding.key target.name with
  | error e' =>
    rw [bind_of_key_error hk] at h
    rw [← Except.error.inj h]
    exact (RouteBinding.key_eq_error hk).1
  | ok k =>
    rw [bind_of_key hk] at h
    split at h
    · rw [← Except.error.inj h]; rfl
    · split at h
      · rw [← Except.error.inj h]; rfl
      · cases h

/-- An accepted binding leaves the table with one more route, and a rejected one leaves it unchanged. -/
theorem afterBind_cases (table : RouteTable) (target : Target) (binding : RouteBinding) :
    (∃ key, table.bind target binding = .ok (key, table.insert key target) ∧
      table.afterBind target binding = table.insert key target) ∨
    (∃ e, table.bind target binding = .error e ∧ table.afterBind target binding = table) := by
  cases h : table.bind target binding with
  | error e => exact Or.inr ⟨e, rfl, by simp [afterBind, h]⟩
  | ok accepted =>
    obtain ⟨key, next⟩ := accepted
    obtain ⟨-, -, -, rfl⟩ := bind_eq_ok_iff.mp h
    exact Or.inl ⟨key, rfl, by simp [afterBind, h]⟩

theorem afterBind_of_key {k : RouteKey} (h : binding.key target.name = .ok k) : table.afterBind target binding =
    if table.shadows k = true ∨ table.contains k = true then table else table.insert k target := by
  rw [afterBind, bind_of_key h]
  by_cases hs : table.shadows k = true
  · simp [hs]
  · by_cases hc : table.contains k = true <;> simp [hs, hc]

theorem bindAll_of_error {e : RouteError} (h : table.bind target binding = .error e)
    (later : List (Target × RouteBinding)) : table.bindAll ((target, binding) :: later) = .silent (.error e) := by
  simp only [bindAll, h]

theorem bindAll_of_ok (h : table.bind target binding = .ok (key, next)) (later : List (Target × RouteBinding)) :
    table.bindAll ((target, binding) :: later) =
      ⟨.routeBound key target.name :: (next.bindAll later).events, (next.bindAll later).value⟩ := by
  simp only [bindAll, h]

end Bind

/-! ### The invariant -/

/-- The index, the methods and the entries of the table agree, and no two entries are in conflict. -/
structure Consistent (table : RouteTable) : Prop where
  /-- The index holds the place of each entry under its key, and nothing else. -/
  index_iff : ∀ key i, table.index[key]? = some i ↔ ∃ h : i < table.entries.size, table.entries[i].key = key
  /-- No path has both `ANY` and an explicit method. -/
  unmixed : ∀ a ∈ table.entries, ∀ b ∈ table.entries, a.key.path = b.key.path → a.key.method = .any →
    b.key.method = .any
  proper : ∀ a ∈ table.entries, a.key.Proper
  /-- The table's methods are those that some entry serves. -/
  methods_iff : ∀ m, table.boundMethods.contains m = true ↔ ∃ a ∈ table.entries, m ∈ a.key.method.methods

theorem consistent_empty : empty.Consistent where
  index_iff key i := by simp [empty]
  unmixed a ha := by simp [empty] at ha
  proper a ha := by simp [empty] at ha
  methods_iff m := by simp [empty]

theorem mem_insert {table : RouteTable} {key : RouteKey} {target : Target} {a : RouteEntry} :
    a ∈ (table.insert key target).entries ↔ a ∈ table.entries ∨ a = ⟨key, target⟩ := by
  simp [insert]

namespace Consistent
variable {table : RouteTable} (h : table.Consistent)
include h

theorem contains_iff {key : RouteKey} : table.contains key = true ↔ ∃ a ∈ table.entries, a.key = key := by
  rw [contains, Std.HashMap.contains_eq_isSome_getElem?, Option.isSome_iff_exists]
  constructor
  · rintro ⟨i, hi⟩
    obtain ⟨hlt, hk⟩ := (h.index_iff key i).mp hi
    exact ⟨_, Array.getElem_mem hlt, hk⟩
  · rintro ⟨a, ha, hk⟩
    obtain ⟨i, hlt, rfl⟩ := Array.mem_iff_getElem.mp ha
    exact ⟨i, (h.index_iff key i).mpr ⟨hlt, hk⟩⟩

/-- The look-ups for a key on real paths find exactly the entries with which the key mixes. -/
theorem shadows_iff {key : RouteKey} (hk : key.Proper) :
    table.shadows key = true ↔ ∃ a ∈ table.entries, key.Mixes a.key := by
  cases key with
  | catchAll =>
    refine iff_of_false (by simp [shadows]) ?_
    rintro ⟨a, ha, hm⟩
    exact hm.ne ((h.proper a ha).eq_catchAll hm.1.symm).symm
  | route method path =>
    cases method with
    | any =>
      simp only [shadows, List.any_eq_true, h.contains_iff, Method.mem_all, true_and]
      constructor
      · rintro ⟨m, a, ha, hm⟩
        exact ⟨a, ha, by simp [RouteKey.Mixes, hm, RouteKey.path, RouteKey.method]⟩
      · rintro ⟨a, ha, hp, hm⟩
        have hm' : a.key.method ≠ .any := hm.mp rfl
        cases hx : a.key.method with
        | any => exact absurd hx hm'
        | exact m => exact ⟨m, a, ha, RouteKey.eq_route_of_path hx hp.symm hk.2⟩
    | exact m =>
      simp only [shadows, h.contains_iff]
      constructor
      · rintro ⟨a, ha, hm⟩
        exact ⟨a, ha, by simp [RouteKey.Mixes, hm, RouteKey.path, RouteKey.method]⟩
      · rintro ⟨a, ha, hp, hm⟩
        have hm' : a.key.method = .any := by
          by_contra hne
          exact absurd (hm.mpr hne) (by simp [RouteKey.method])
        exact ⟨a, ha, RouteKey.eq_route_of_path hm' hp.symm hk.2⟩

/-- A key that is not in the table gets the place behind the last entry; the other places stay. -/
theorem index_insert_iff {key k : RouteKey} {target : Target} {i : Nat} (hc : table.contains key = false) :
    (table.insert key target).index[k]? = some i ↔
      ∃ hlt : i < (table.insert key target).entries.size, (table.insert key target).entries[i].key = k := by
  simp only [RouteTable.insert, Std.HashMap.getElem?_insert, beq_iff_eq, Array.size_push, Array.getElem_push]
  by_cases hkk : key = k
  · subst hkk
    simp only [if_true, Option.some.injEq]
    constructor
    · rintro rfl
      exact ⟨Nat.lt_succ_self _, by simp⟩
    · rintro ⟨hlt, hi⟩
      split at hi
      · rename_i hlt'
        have := h.contains_iff.mpr ⟨_, Array.getElem_mem hlt', hi⟩
        simp [hc] at this
      · omega
  · rw [if_neg hkk, h.index_iff]
    constructor
    · rintro ⟨hlt, hi⟩
      exact ⟨by omega, by simpa [hlt] using hi⟩
    · rintro ⟨hlt, hi⟩
      split at hi
      · rename_i hlt'
        exact ⟨hlt', hi⟩
      · exact absurd hi hkk

/-- A key that the look-ups let pass mixes with no entry, neither as the first of two nor as the second. -/
theorem unmixed_insert {key : RouteKey} {target : Target} (hk : key.Proper) (hs : table.shadows key = false) :
    ∀ a ∈ (table.insert key target).entries, ∀ b ∈ (table.insert key target).entries, a.key.path = b.key.path →
      a.key.method = .any → b.key.method = .any := by
  have hns : ∀ a ∈ table.entries, ¬key.Mixes a.key := fun a ha hm => by
    have := (h.shadows_iff hk).mpr ⟨a, ha, hm⟩
    simp [hs] at this
  intro a ha b hb hp hany
  rcases mem_insert.mp ha with ha | rfl
  · rcases mem_insert.mp hb with hb | rfl
    · exact h.unmixed a ha b hb hp hany
    · by_contra hne
      exact hns a ha ⟨hp.symm, iff_of_false hne (by simp [hany])⟩
  · rcases mem_insert.mp hb with hb | rfl
    · by_contra hne
      exact hns b hb ⟨hp, iff_of_true hany hne⟩
    · exact hany

theorem methods_insert_iff {key : RouteKey} {target : Target} {m : Method} :
    (table.insert key target).boundMethods.contains m = true ↔
      ∃ a ∈ (table.insert key target).entries, m ∈ a.key.method.methods := by
  have hm : (table.insert key target).boundMethods.contains m = true ↔
      m ∈ key.method.methods ∨ table.boundMethods.contains m = true := by
    simp [RouteTable.insert]
  rw [hm, h.methods_iff]
  constructor
  · rintro (hm | ⟨a, ha, hm⟩)
    · exact ⟨_, mem_insert.mpr (Or.inr rfl), hm⟩
    · exact ⟨a, mem_insert.mpr (Or.inl ha), hm⟩
  · rintro ⟨a, ha, hm⟩
    rcases mem_insert.mp ha with ha | rfl
    · exact Or.inr ⟨a, ha, hm⟩
    · exact Or.inl hm

theorem insert {key : RouteKey} {target : Target} (hk : key.Proper) (hs : table.shadows key = false)
    (hc : table.contains key = false) : (table.insert key target).Consistent where
  index_iff _ _ := h.index_insert_iff hc
  unmixed := h.unmixed_insert hk hs
  proper a ha := by
    rcases mem_insert.mp ha with ha | rfl
    · exact h.proper a ha
    · exact hk
  methods_iff _ := h.methods_insert_iff

theorem bind {next : RouteTable} {target : Target} {binding : RouteBinding} {key : RouteKey}
    (hb : table.bind target binding = .ok (key, next)) : next.Consistent := by
  obtain ⟨hkey, hs, hc, rfl⟩ := bind_eq_ok_iff.mp hb
  exact h.insert (RouteBinding.proper_key hkey) hs hc

theorem afterBind (target : Target) (binding : RouteBinding) : (table.afterBind target binding).Consistent := by
  rcases afterBind_cases table target binding with ⟨key, hb, heq⟩ | ⟨e, -, heq⟩
  · rw [heq]
    exact h.bind hb
  · rw [heq]
    exact h

end Consistent

theorem Reachable.consistent {table : RouteTable} (h : Reachable table) : table.Consistent := by
  induction h with
  | empty => exact consistent_empty
  | bind target binding _ ih => exact ih.afterBind target binding

/-! ### Look-ups -/

theorem mem_keys {table : RouteTable} {key : RouteKey} : key ∈ table.keys ↔ ∃ a ∈ table.entries, a.key = key := by
  simp [keys]

/-- Every look-up says what the entries in their order say. -/
structure Faithful (table : RouteTable) : Prop where
  contains_eq : ∀ key, table.contains key = table.entries.toList.any (·.key == key)
  get_eq : ∀ key, table.get? key = (table.entries.toList.find? (·.key == key)).map (·.target)
  get_iff : ∀ key target, table.get? key = some target ↔ ⟨key, target⟩ ∈ table.entries
  catchAll_iff : ∀ target, table.catchAll? = some target ↔ ⟨.catchAll, target⟩ ∈ table.entries
  hasCatchAll_iff : table.hasCatchAll = true ↔ ∃ a ∈ table.entries, a.key.isCatchAll = true
  keys_at : ∀ i : Nat, table.keys[i]? = table.entries[i]?.map (·.key)
  size_eq : table.size = table.keys.length
  isEmpty_iff : table.isEmpty = true ↔ table.keys = []

namespace Consistent
variable {table : RouteTable} (h : table.Consistent)
include h

theorem contains_iff_mem_keys {key : RouteKey} : table.contains key = true ↔ key ∈ table.keys := by
  rw [h.contains_iff, mem_keys]

/-- Entries with equal keys are at one place. -/
theorem place_inj {i j : Nat} {a b : RouteEntry} (ha : table.entries[i]? = some a) (hb : table.entries[j]? = some b)
    (hk : a.key = b.key) : i = j := by
  obtain ⟨hi, rfl⟩ := Array.getElem?_eq_some_iff.mp ha
  obtain ⟨hj, rfl⟩ := Array.getElem?_eq_some_iff.mp hb
  have hi' := (h.index_iff _ i).mpr ⟨hi, rfl⟩
  have hj' := (h.index_iff _ j).mpr ⟨hj, hk.symm⟩
  exact Option.some.inj (hi'.symm.trans hj')

theorem nodup_keys : table.keys.Nodup := by
  rw [List.Nodup, List.pairwise_iff_getElem]
  intro i j hi hj hij heq
  simp only [keys, List.getElem_map, Array.getElem_toList, List.length_map, Array.length_toList] at hi hj heq
  have := h.place_inj (Array.getElem?_eq_getElem hi) (Array.getElem?_eq_getElem hj) heq
  omega

theorem get?_eq_some_iff {key : RouteKey} {target : Target} :
    table.get? key = some target ↔ ⟨key, target⟩ ∈ table.entries := by
  rw [get?, Option.bind_eq_some_iff]
  constructor
  · rintro ⟨i, hi, ht⟩
    obtain ⟨hlt, hk⟩ := (h.index_iff key i).mp hi
    simp only [Array.getElem?_eq_getElem hlt, Option.map_some, Option.some.injEq] at ht
    rw [← hk, ← ht]
    exact Array.getElem_mem hlt
  · intro ha
    obtain ⟨i, hlt, hi⟩ := Array.mem_iff_getElem.mp ha
    refine ⟨i, (h.index_iff key i).mpr ⟨hlt, by rw [hi]⟩, ?_⟩
    rw [Array.getElem?_eq_getElem hlt, hi, Option.map_some]

theorem get?_eq_none_iff {key : RouteKey} : table.get? key = none ↔ key ∉ table.keys := by
  rw [Option.eq_none_iff_forall_ne_some, mem_keys]
  constructor
  · rintro hno ⟨a, ha, rfl⟩
    exact hno a.target (h.get?_eq_some_iff.mpr ha)
  · intro hno target ht
    exact hno ⟨_, h.get?_eq_some_iff.mp ht, rfl⟩

/-- The target of a key is that of the first entry, and so of the only one, with the key. -/
theorem get?_eq_find? (key : RouteKey) :
    table.get? key = (table.entries.toList.find? (·.key == key)).map (·.target) := by
  cases hf : table.entries.toList.find? (·.key == key) with
  | none =>
    rw [Option.map_none, Option.eq_none_iff_forall_ne_some]
    intro target ht
    have := List.find?_eq_none.mp hf _ (Array.mem_toList_iff.mpr (h.get?_eq_some_iff.mp ht))
    simp at this
  | some a =>
    obtain rfl : a.key = key := by simpa using List.find?_some hf
    exact h.get?_eq_some_iff.mpr (Array.mem_toList_iff.mp (List.mem_of_find?_eq_some hf))

theorem faithful : table.Faithful where
  contains_eq key := by
    rw [Bool.eq_iff_iff, h.contains_iff]
    simp only [List.any_eq_true, beq_iff_eq, Array.mem_toList_iff]
  get_eq := h.get?_eq_find?
  get_iff _ _ := h.get?_eq_some_iff
  catchAll_iff _ := h.get?_eq_some_iff
  hasCatchAll_iff := by
    rw [hasCatchAll, h.contains_iff]
    refine exists_congr fun a => and_congr_right fun _ => ?_
    cases a.key <;> simp [RouteKey.isCatchAll]
  keys_at i := by simp [keys]
  size_eq := by simp [size, keys]
  isEmpty_iff := by simp [isEmpty, keys]

end Consistent

/-- Every table that calls of `bind` can make keeps the invariant, and so each look-up is answered as the
    entries in their order answer it: no key is added twice, and no place in the index is out of range. -/
theorem reachable_consistent_faithful {table : RouteTable} (h : Reachable table) :
    table.Consistent ∧ table.keys.Nodup ∧ table.Faithful ∧
      (∀ target binding key next, table.bind target binding = .ok (key, next) → table.contains key = false) ∧
      ∀ (key : RouteKey) (i : Nat), table.index[key]? = some i → i < table.entries.size :=
  have hc := h.consistent
  ⟨hc, hc.nodup_keys, hc.faithful, fun _ _ _ _ hb => (bind_eq_ok_iff.mp hb).2.2.1,
    fun key i hi => ((hc.index_iff key i).mp hi).1⟩

/-- `ANY` is rejected on a path with an explicit method, and what is bound before and after it stands. -/
theorem reachable_consistent_faithful_of_rejection :
    let table := ((empty.afterBind ⟨"users", none⟩ (.shorthand "GET /a")).afterBind ⟨"orders", none⟩
      (.shorthand "ANY /a")).afterBind ⟨"orders", none⟩ (.shorthand "*")
    Reachable table ∧ table.keys = [.route (.exact .get) "/a", .catchAll] ∧ table.Consistent := by
  intro table
  have hr : Reachable table := .bind _ _ (.bind _ _ (.bind _ _ .empty))
  refine ⟨hr, ?_, (reachable_consistent_faithful hr).1⟩
  simp only [table]
  rw [afterBind_of_key (k := .catchAll) rfl, afterBind_of_key (k := .route .any "/a") rfl,
    afterBind_of_key (k := .route (.exact .get) "/a") rfl]
  simp [shadows, contains, empty, insert, keys, Method.all]

end RouteTable
end RouteCompiler
