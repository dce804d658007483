import RouteCompiler.Proofs.Routing.KeyText
import RouteCompiler.Proofs.Routing.Resolution

/-! # Routes declared again

The entries of a table can be declared again, each as a shorthand that is the text of its key. What comes of
it is the same table, index and methods included, since a table that `bind` has made is settled by its
entries. Only a path of several lines stands in the way, which no shorthand can have. -/

namespace RouteCompiler

/-- The entries, each declared for its target by the text of its key. -/
def redeclared (entries : List RouteEntry) : List TargetRoutes :=
  entries.map fun entry => ⟨entry.target, [.shorthand entry.key.text]⟩

theorem declaredPairs_redeclared (entries : List RouteEntry) :
    declaredPairs (redeclared entries) = entries.map fun entry => (entry.target, .shorthand entry.key.text) := by
  rw [declaredPairs, redeclared, List.flatMap_map]
  exact List.map_eq_flatMap.symm

namespace RouteTable

/-- The table to which the entries have been added one by one. -/
def ofEntries (entries : List RouteEntry) : RouteTable :=
  entries.foldl (fun table entry => table.insert entry.key entry.target) empty

theorem ofEntries_concat (entries : List RouteEntry) (key : RouteKey) (target : Target) :
    ofEntries (entries ++ [⟨key, target⟩]) = (ofEntries entries).insert key target := by
  rw [ofEntries, List.foldl_append]
  rfl

theorem Reachable.eq_ofEntries {table : RouteTable} (h : Reachable table) : table = ofEntries table.entries.toList := by
  induction h with
  | empty => rfl
  | @bind table target binding _ ih =>
    rcases afterBind_cases table target binding with ⟨key, -, heq⟩ | ⟨e, -, heq⟩
    · rw [heq, entries_insert, ofEntries_concat, ← ih]
    · rw [heq]
      exact ih

/-- A table that `bind` has made is settled by its entries in their order. -/
theorem Reachable.ext {table other : RouteTable} (h : Reachable table) (h' : Reachable other)
    (same : other.entries.toList = table.entries.toList) : other = table := by
  rw [h.eq_ofEntries, h'.eq_ofEntries, same]

end RouteTable

section Redeclare
variable {entries : List RouteEntry}

theorem declaredEntry_redeclared {entry : RouteEntry} (hk : entry.key.Proper) (hl : OneLine entry.key.path) :
    declaredEntry (entry.target, .shorthand entry.key.text) = .ok entry :=
  declaredEntry_eq_ok_iff.mpr ⟨RouteBinding.key_text _ hk hl, rfl⟩

theorem map_declaredEntry_redeclared (proper : ∀ entry ∈ entries, entry.key.Proper)
    (oneLine : ∀ entry ∈ entries, OneLine entry.key.path) :
    (declaredPairs (redeclared entries)).map declaredEntry = entries.map .ok := by
  rw [declaredPairs_redeclared, List.map_map]
  exact List.map_congr_left fun entry h => declaredEntry_redeclared (proper entry h) (oneLine entry h)

theorem flawAt?_redeclared (proper : ∀ entry ∈ entries, entry.key.Proper)
    (oneLine : ∀ entry ∈ entries, OneLine entry.key.path)
    (unmixed : (entries.map (·.key)).Pairwise fun k k' => ¬k.Conflicts k') (j : Nat) :
    flawAt? (declaredPairs (redeclared entries)) j = none := by
  obtain ⟨table, resolved, -⟩ :=
    resolve_of_entries (redeclared entries) entries (map_declaredEntry_redeclared proper oneLine) unmixed
  exact (resolve_eq_ok resolved).noFlaw j

/-- The first entry with a path of several lines is the first flaw of the new declarations. -/
theorem firstFlaw_redeclared {before after : List RouteEntry} {entry : RouteEntry}
    (proper : ∀ a ∈ before ++ entry :: after, a.key.Proper) (oneLine : ∀ a ∈ before, OneLine a.key.path)
    (lines : ¬OneLine entry.key.path)
    (unmixed : ((before ++ entry :: after).map (·.key)).Pairwise fun k k' => ¬k.Conflicts k') :
    RouteTable.FirstFlaw (declaredPairs (redeclared (before ++ entry :: after)))
      (.malformedRoute entry.target.name (RouteBinding.shorthand entry.key.text).display) := by
  have pairs : declaredPairs (redeclared (before ++ entry :: after)) =
      declaredPairs (redeclared before) ++ (entry.target, .shorthand entry.key.text) ::
        declaredPairs (redeclared after) := by
    simp only [declaredPairs_redeclared, List.map_append, List.map_cons]
  have here := RouteBinding.key_text_of_lines entry.target.name (proper entry (by simp)) lines
  rw [pairs]
  refine ⟨(declaredPairs (redeclared before)).length, ?_, fun i hi => ?_⟩
  · rw [flawAt?, List.getElem?_append_right (Nat.le_refl _), Nat.sub_self]
    simp [flaw?, here]
  · rw [flawAt?_append hi]
    rw [List.map_append] at unmixed
    exact flawAt?_redeclared (fun a ha => proper a (List.mem_append_left _ ha)) oneLine
      (unmixed.sublist (List.sublist_append_left _ _)) i

end Redeclare

/-- The entries of a table that declarations resolve to, declared again in their order by the texts of their
    keys, resolve to the very same table, if every path is one line. If not, they are rejected, and the first
    entry with a path of several lines is to blame; the path of such an entry was given by a field, never in a
    shorthand. -/
theorem resolve_redeclared {declarations : List TargetRoutes} {table : RouteTable}
    (h : (resolve declarations).value = .ok table) :
    ((∀ entry ∈ table.entries.toList, OneLine entry.key.path) →
      (resolve (redeclared table.entries.toList)).value = .ok table) ∧
    (∀ entry, table.entries.toList.find? (fun entry => ¬OneLine entry.key.path) = some entry →
      (resolve (redeclared table.entries.toList)).value =
        .error (.malformedRoute entry.target.name (RouteBinding.shorthand entry.key.text).display)) ∧
    ∀ declared ∈ declaredPairs declarations, ∀ entry, declaredEntry declared = .ok entry →
      ¬OneLine entry.key.path → ∃ method path, declared.2 = .structured method path := by
  have lists := resolve_eq_ok h
  have proper : ∀ entry ∈ table.entries.toList, entry.key.Proper := fun entry hm =>
    lists.reachable.consistent.proper entry (Array.mem_toList_iff.mp hm)
  have unmixed : (table.entries.toList.map (·.key)).Pairwise fun k k' => ¬k.Conflicts k' := by
    rw [← declaredKeys_eq lists.entries]
    exact (resolve_ok_iff_compatible.mp ⟨table, h⟩).2
  refine ⟨fun oneLine => ?_, fun entry first => ?_, fun declared hd entry he lines => ?_⟩
  · obtain ⟨again, resolved, same⟩ :=
      resolve_of_entries _ _ (map_declaredEntry_redeclared proper oneLine) unmixed
    rw [resolved, lists.reachable.ext (resolve_eq_ok resolved).reachable same]
  · obtain ⟨here, before, after, split, others⟩ := List.find?_eq_some_iff_append.mp first
    rw [split] at proper unmixed ⊢
    have oneLine : ∀ a ∈ before, OneLine a.key.path := fun a ha => by simpa using others a ha
    exact resolve_eq_error_iff.mpr (firstFlaw_redeclared proper oneLine (by simpa using here) unmixed)
  · obtain ⟨target, binding⟩ := declared
    cases binding with
    | structured method path => exact ⟨method, path, rfl⟩
    | shorthand route => exact absurd (RouteBinding.oneLine_of_shorthand (declaredEntry_eq_ok_iff.mp he).1) lines

/-- A path with spaces, `ANY` made of `*` and a method in lower case come back as they were; a path of two
    lines does not. -/
theorem resolve_redeclared_of_fields :
    let users : Target := ⟨"users", none⟩
    let orders : Target := ⟨"orders", none⟩
    (∃ table, (resolve [⟨users, [.shorthand "get  /a b", .shorthand "*"]⟩,
        ⟨orders, [.structured (some "*") (some "GET /c")]⟩]).value = .ok table ∧
      (resolve (redeclared table.entries.toList)).value = .ok table) ∧
    ∃ table, (resolve [⟨users, [.shorthand "GET /a"]⟩,
        ⟨orders, [.structured (some "put") (some "/b\n/c")]⟩]).value = .ok table ∧
      (resolve (redeclared table.entries.toList)).value =
        .error (.malformedRoute "orders" "\"PUT /b\\n/c\"") := by
  intro users orders
  constructor
  · obtain ⟨table, h, entries⟩ := resolve_of_entries [⟨users, [.shorthand "get  /a b", .shorthand "*"]⟩,
      ⟨orders, [.structured (some "*") (some "GET /c")]⟩]
      [⟨.route (.exact .get) " /a b", users⟩, ⟨.catchAll, users⟩, ⟨.route .any "GET /c", orders⟩] rfl (by decide)
    exact ⟨table, h, (resolve_redeclared h).1 (by rw [entries]; decide)⟩
  · obtain ⟨table, h, entries⟩ := resolve_of_entries [⟨users, [.shorthand "GET /a"]⟩,
      ⟨orders, [.structured (some "put") (some "/b\n/c")]⟩]
      [⟨.route (.exact .get) "/a", users⟩, ⟨.route (.exact .put) "/b\n/c", orders⟩] rfl (by decide)
    have shown : (RouteBinding.shorthand "PUT /b\n/c").display = "\"PUT /b\\n/c\"" := by decide +kernel
    exact ⟨table, h, shown ▸ (resolve_redeclared h).2.1 ⟨.route (.exact .put) "/b\n/c", orders⟩
      (by rw [entries]; decide)⟩

end RouteCompiler
