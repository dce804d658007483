import RouteCompiler.Proofs.Routing.Consistent

/-! # Claims of the routes of a table

In a table that `bind` has made nothing is claimed twice, so a request has at most one route. `bind` never
works out what a key claims: it looks up a few keys. On these tables, though not on all, the look-ups tell
exactly whether the new key claims something that is claimed already, and by which sort of key. -/

namespace RouteCompiler
namespace RouteTable

namespace Consistent
variable {table : RouteTable} (h : table.Consistent)
include h

theorem not_mixes {a b : RouteEntry} (ha : a ∈ table.entries) (hb : b ∈ table.entries) : ¬a.key.Mixes b.key := by
  rintro ⟨hp, hm⟩
  by_cases hany : a.key.method = .any
  · exact hm.mp hany (h.unmixed a ha b hb hp hany)
  · have hb' : b.key.method = .any := by
      by_contra hne
      exact hany (hm.mpr hne)
    exact hany (h.unmixed b hb a ha hp.symm hb')

/-- What a key claims is claimed by an entry just if the entry has the key or mixes with it. -/
theorem overlaps_iff {key : RouteKey} (hk : key.Proper) {a : RouteEntry} (ha : a ∈ table.entries) :
    key.Overlaps a.key ↔ key = a.key ∨ key.Mixes a.key :=
  (RouteKey.conflicts_iff_overlaps hk (h.proper a ha)).symm

/-- A claim is made from one place only. -/
theorem place_eq_of_mem_claims {claim : RouteKey.Claim} {i j : Nat} {a b : RouteEntry}
    (ha : table.entries[i]? = some a) (hb : table.entries[j]? = some b) (hca : claim ∈ a.key.claims)
    (hcb : claim ∈ b.key.claims) : i = j := by
  have ha' := Array.mem_of_getElem? ha
  have hb' := Array.mem_of_getElem? hb
  rcases (h.overlaps_iff (h.proper a ha') hb').mp ⟨claim, hca, hcb⟩ with hk | hm
  · exact h.place_inj ha hb hk
  · exact absurd hm (h.not_mixes ha' hb')

theorem contains_iff_overlaps {key : RouteKey} :
    table.contains key = true ↔ ∃ a ∈ table.entries, key.Overlaps a.key ∧ a.key = key := by
  rw [h.contains_iff]
  refine exists_congr fun a => and_congr_right fun _ => ⟨fun hk => ⟨?_, hk⟩, And.right⟩
  rw [hk]
  exact key.overlaps_self

theorem shadows_iff_overlaps {key : RouteKey} (hk : key.Proper) :
    table.shadows key = true ↔ ∃ a ∈ table.entries, key.Overlaps a.key ∧ a.key ≠ key := by
  rw [h.shadows_iff hk]
  refine exists_congr fun a => and_congr_right fun ha => ?_
  rw [h.overlaps_iff hk ha]
  constructor
  · intro hm
    exact ⟨Or.inr hm, hm.ne.symm⟩
  · rintro ⟨rfl | hm, hne⟩
    · exact absurd rfl hne
    · exact hm

/-- A key of the table is not shadowed by the table, so at most one of the two look-ups succeeds. -/
theorem not_contains_and_shadows {key : RouteKey} (hk : key.Proper) :
    ¬(table.contains key = true ∧ table.shadows key = true) := by
  rintro ⟨hc, hs⟩
  obtain ⟨a, ha, rfl⟩ := h.contains_iff.mp hc
  obtain ⟨b, hb, hm⟩ := (h.shadows_iff hk).mp hs
  exact h.not_mixes ha hb hm

end Consistent

/-- In every table that `bind` has made, each claim is made from one place at most. A binding that denotes a
    key is rejected as a duplicate just if some entry claims something that the key claims: as
    `duplicateRoute` if an entry with this key does, as `shadowedRoute` if an entry with another key does. Both
    together are impossible, so that the order of the two tests does not matter. -/
theorem reachable_claims {table : RouteTable} (h : Reachable table) :
    (∀ (claim : RouteKey.Claim) (i j : Nat) (a b : RouteEntry), table.entries[i]? = some a →
      table.entries[j]? = some b → claim ∈ a.key.claims → claim ∈ b.key.claims → i = j) ∧
    ∀ (target : Target) (binding : RouteBinding) (key : RouteKey), binding.key target.name = .ok key →
      ((∃ e, table.bind target binding = .error e ∧ e.kind = .duplicateRoute) ↔
        ∃ a ∈ table.entries, key.Overlaps a.key) ∧
      (table.bind target binding = .error (.duplicateRoute target.name key) ↔
        ∃ a ∈ table.entries, key.Overlaps a.key ∧ a.key = key) ∧
      (table.bind target binding = .error (.shadowedRoute target.name key key.path) ↔
        ∃ a ∈ table.entries, key.Overlaps a.key ∧ a.key ≠ key) ∧
      ¬((∃ a ∈ table.entries, key.Overlaps a.key ∧ a.key = key) ∧
        ∃ a ∈ table.entries, key.Overlaps a.key ∧ a.key ≠ key) ∧
      table.bind target binding =
        if table.contains key then .error (.duplicateRoute target.name key)
        else if table.shadows key then .error (.shadowedRoute target.name key key.path)
        else .ok (key, table.insert key target) := by
  have hc := h.consistent
  refine ⟨fun claim i j a b => hc.place_eq_of_mem_claims, fun target binding key hkey => ?_⟩
  have hk := RouteBinding.proper_key hkey
  have hex := hc.not_contains_and_shadows hk
  have hany : (∃ a ∈ table.entries, key.Overlaps a.key) ↔ table.contains key = true ∨ table.shadows key = true := by
    rw [hc.contains_iff_overlaps, hc.shadows_iff_overlaps hk]
    constructor
    · rintro ⟨a, ha, ho⟩
      by_cases hak : a.key = key
      · exact Or.inl ⟨a, ha, ho, hak⟩
      · exact Or.inr ⟨a, ha, ho, hak⟩
    · rintro (⟨a, ha, ho, -⟩ | ⟨a, ha, ho, -⟩) <;> exact ⟨a, ha, ho⟩
  rw [← hc.contains_iff_overlaps, ← hc.shadows_iff_overlaps hk, hany, bind_of_key hkey]
  -- The look-ups are exclusive, which leaves three of the four cases.
  cases hcon : table.contains key <;> cases hsh : table.shadows key
  · simp
  · simp [RouteError.kind]
  · simp [RouteError.kind]
  · exact absurd ⟨hcon, hsh⟩ hex

/-- `ANY` claims what a route for `GET` claims already, and is rejected as shadowed. -/
theorem reachable_claims_of_get :
    let table := empty.afterBind ⟨"users", none⟩ (.shorthand "GET /a")
    Reachable table ∧ (RouteBinding.shorthand "ANY /a").key "orders" = .ok (.route .any "/a") ∧
      table.bind ⟨"orders", none⟩ (.shorthand "ANY /a") =
        .error (.shadowedRoute "orders" (.route .any "/a") "/a") := by
  intro table
  have hr : Reachable table := .bind _ _ .empty
  have hget : (⟨.route (.exact .get) "/a", ⟨"users", none⟩⟩ : RouteEntry) ∈ table.entries := by
    simp only [table]
    rw [afterBind_of_key (k := .route (.exact .get) "/a") rfl]
    simp [shadows, contains, empty, insert]
  refine ⟨hr, rfl, ?_⟩
  exact ((reachable_claims hr).2 ⟨"orders", none⟩ _ _ rfl).2.2.1.mpr ⟨_, hget, by decide, by decide⟩

end RouteTable
end RouteCompiler
