import Mathlib.Data.List.Forall2
import RouteCompiler.Proofs.Routing.KeyText
import RouteCompiler.Proofs.Routing.Resolution
import RouteCompiler.Proofs.Service.RoundTrip

/-! # What the text of a compiled API says

The text reads back as one value, and the value shows the whole API (`CompiledApi.Shown`): each route with its
target under the text of its key, in order and under no other key, and the policy if there is one. What is
shown is said of the members that the value has, so that a value cannot show two different APIs. -/

namespace RouteCompiler
open Document Text

/-- The value of a member of a table, the first one of this name. -/
def Document.Value.member? (key : String) : Value → Option Value
  | .table members => members.lookup key
  | _ => none

/-! ### What a value shows -/

/-- The value lists the members of the set, each once, in ascending order of code points. -/
def Text.TextSet.Listed (set : TextSet) (v : Value) : Prop :=
  ∃ texts, v = Value.texts texts ∧ texts.Pairwise (· < ·) ∧ ∀ s, s ∈ texts ↔ set.contains s = true

structure TargetAlias.Shown (a : TargetAlias) (v : Value) : Prop where
  name : v.member? "name" = some (.text a.name)
  logicalId : v.member? "logical_id" = a.logicalId.map .text

structure Target.Shown (t : Target) (v : Value) : Prop where
  name : v.member? "name" = some (.text t.name)
  pin : Option.Rel TargetAlias.Shown t.pin (v.member? "alias")

/-- The member has the text of the entry's key for its name, and shows the entry's target. -/
structure RouteEntry.Shown (entry : RouteEntry) (member : String × Value) : Prop where
  key : member.1 = entry.key.text
  target : entry.target.Shown member.2

structure CorsPolicy.Shown (p : CorsPolicy) (v : Value) : Prop where
  allowedOrigins : Option.Rel TextSet.Listed (some p.allowedOrigins) (v.member? "allowedOrigins")
  allowedHeaders : Option.Rel TextSet.Listed (some p.allowedHeaders) (v.member? "allowedHeaders")
  allowedMethods : Option.Rel TextSet.Listed (some p.allowedMethods) (v.member? "allowedMethods")
  exposedResponseHeaders :
    Option.Rel TextSet.Listed p.exposedResponseHeaders (v.member? "exposedResponseHeaders")
  allowCredentials : v.member? "allowCredentials" = if p.allowCredentials then some (.bool true) else none
  maxAge : v.member? "maxAge" = p.maxAge.map fun seconds => .integer seconds.toNat

/-- The value shows the routes as a table of different names, in order, and the policy just if there is one. -/
structure CompiledApi.Shown (api : CompiledApi) (v : Value) : Prop where
  routes : ∃ members, v.member? "routes" = some (.table members) ∧ (members.map Prod.fst).Nodup ∧
    List.Forall₂ RouteEntry.Shown api.routes.entries.toList members
  cors : Option.Rel CorsPolicy.Shown api.cors (v.member? "cors")

/-! ### Nothing else is shown by the same value -/

section Unique
open Relator

theorem leftUnique_optionRel {α β : Type} {R : α → β → Prop} (h : LeftUnique R) : LeftUnique (Option.Rel R) := by
  intro o o' y hr hr'
  cases hr with
  | none =>
    cases hr'
    rfl
  | some ha =>
    cases hr' with
    | some hb => rw [h ha hb]

theorem map_text_inj {o o' : Option String} (h : o.map Value.text = o'.map .text) : o = o' :=
  Option.map_injective (fun _ _ => Value.text.inj) h

theorem texts_inj {ss ts : List String} (h : Value.texts ss = Value.texts ts) : ss = ts :=
  (List.map_inj_right fun _ _ => Value.text.inj).mp (Value.list.inj h)

theorem leftUnique_listed : LeftUnique TextSet.Listed := by
  intro a b v h h'
  obtain ⟨texts, rfl, -, members⟩ := h
  obtain ⟨texts', same, -, members'⟩ := h'
  obtain rfl := texts_inj same
  refine TextSet.eq_of_mem_iff fun s => ?_
  have := (members s).symm.trans (members' s)
  simpa [TextSet.contains] using this

theorem leftUnique_aliasShown : LeftUnique TargetAlias.Shown := by
  rintro ⟨name, logicalId⟩ ⟨name', logicalId'⟩ v h h'
  obtain rfl : name = name' := Value.text.inj (Option.some.inj (h.name.symm.trans h'.name))
  obtain rfl : logicalId = logicalId' := map_text_inj (h.logicalId.symm.trans h'.logicalId)
  rfl

theorem leftUnique_targetShown : LeftUnique Target.Shown := by
  rintro ⟨name, pin⟩ ⟨name', pin'⟩ v h h'
  obtain rfl : name = name' := Value.text.inj (Option.some.inj (h.name.symm.trans h'.name))
  obtain rfl : pin = pin' := leftUnique_optionRel leftUnique_aliasShown h.pin h'.pin
  rfl

theorem leftUnique_entryShown : LeftUnique RouteEntry.Shown := by
  rintro ⟨key, target⟩ ⟨key', target'⟩ member h h'
  obtain rfl : key = key' := RouteKey.text_inj (h.key.symm.trans h'.key)
  obtain rfl : target = target' := leftUnique_targetShown h.target h'.target
  rfl

theorem leftUnique_policyShown : LeftUnique CorsPolicy.Shown := by
  rintro ⟨origins, headers, methods, exposed, credentials, maxAge⟩
    ⟨origins', headers', methods', exposed', credentials', maxAge'⟩ v h h'
  obtain rfl := Option.some.inj (leftUnique_optionRel leftUnique_listed h.allowedOrigins h'.allowedOrigins)
  obtain rfl := Option.some.inj (leftUnique_optionRel leftUnique_listed h.allowedHeaders h'.allowedHeaders)
  obtain rfl := Option.some.inj (leftUnique_optionRel leftUnique_listed h.allowedMethods h'.allowedMethods)
  obtain rfl : exposed = exposed' :=
    leftUnique_optionRel leftUnique_listed h.exposedResponseHeaders h'.exposedResponseHeaders
  obtain rfl : credentials = credentials' := by
    have same := h.allowCredentials.symm.trans h'.allowCredentials
    cases credentials <;> cases credentials' <;> simp at same ⊢
  obtain rfl : maxAge = maxAge' := by
    refine Option.map_injective (fun m n hmn => ?_) (h.maxAge.symm.trans h'.maxAge)
    exact UInt64.toNat_inj.mp (Int.ofNat.inj (Value.integer.inj hmn))
  rfl

theorem apiShown_unique {api other : CompiledApi} {v : Value} (h : api.Shown v) (h' : other.Shown v) :
    other.routes.entries = api.routes.entries ∧ other.cors = api.cors := by
  obtain ⟨members, hm, -, shown⟩ := h.routes
  obtain ⟨members', hm', -, shown'⟩ := h'.routes
  obtain rfl := Value.table.inj (Option.some.inj (hm.symm.trans hm'))
  have entries := leftUnique_entryShown.forall₂ shown' shown
  exact ⟨Array.toList_inj.mp entries, leftUnique_optionRel leftUnique_policyShown h'.cors h.cors⟩

end Unique

/-! ### What is written shows the API -/

theorem lookup_memberIfSome {α : Type} {key k : String} {write : α → Value} {o : Option α}
    {rest : List (String × Value)} : (Value.memberIfSome key write o ++ rest).lookup k =
      if k = key then (o.map write).or (rest.lookup k) else rest.lookup k := by
  cases o with
  | none => simp [Value.memberIfSome]
  | some a =>
    by_cases h : k = key
    · simp [Value.memberIfSome, h]
    · simp [Value.memberIfSome, List.lookup_cons, h, beq_false_of_ne h]

theorem lookup_memberIfSome_last {α : Type} {key k : String} {write : α → Value} {o : Option α} :
    (Value.memberIfSome key write o).lookup k = if k = key then o.map write else none := by
  have := @lookup_memberIfSome α key k write o []
  simpa using this

theorem Text.TextSet.listed (set : TextSet) : set.Listed (Value.texts set.values) :=
  ⟨set.values, rfl, set.ascending, fun s => by simp [TextSet.contains]⟩

theorem TargetAlias.shown (a : TargetAlias) : a.Shown a.toValue where
  name := by simp [toValue, Value.member?]
  logicalId := by simp [toValue, Value.member?, List.lookup_cons, lookup_memberIfSome_last]

theorem Target.shown (t : Target) : t.Shown t.toValue where
  name := by simp [toValue, Value.member?]
  pin := by
    have hpin : t.toValue.member? "alias" = t.pin.map TargetAlias.toValue := by
      simp [toValue, Value.member?, List.lookup_cons, lookup_memberIfSome_last]
    rw [hpin]
    cases t.pin with
    | none => exact .none
    | some a => exact .some a.shown

theorem CorsPolicy.shown (p : CorsPolicy) : p.Shown p.toValue where
  allowedOrigins := .some p.allowedOrigins.listed
  allowedHeaders := .some p.allowedHeaders.listed
  allowedMethods := .some p.allowedMethods.listed
  exposedResponseHeaders := by
    have hexposed : p.toValue.member? "exposedResponseHeaders" =
        p.exposedResponseHeaders.map fun set => Value.texts set.values := by
      cases hc : p.allowCredentials <;>
        simp [toValue, Value.member?, List.lookup_cons, lookup_memberIfSome, lookup_memberIfSome_last, hc]
    rw [hexposed]
    cases p.exposedResponseHeaders with
    | none => exact .none
    | some set => exact .some set.listed
  allowCredentials := by
    cases hc : p.allowCredentials <;>
      simp [toValue, Value.member?, List.lookup_cons, lookup_memberIfSome, lookup_memberIfSome_last, hc]
  maxAge := by
    cases hc : p.allowCredentials <;>
      simp [toValue, Value.member?, List.lookup_cons, lookup_memberIfSome, lookup_memberIfSome_last, hc]

theorem names_of_shown {entries : List RouteEntry} {members : List (String × Value)}
    (h : List.Forall₂ RouteEntry.Shown entries members) : members.map Prod.fst = entries.map (·.key.text) := by
  induction h with
  | nil => rfl
  | cons hmember _ ih => rw [List.map_cons, List.map_cons, hmember.key, ih]

theorem isSome_eq_of_rel {α β : Type} {R : α → β → Prop} {a : Option α} {b : Option β} (h : Option.Rel R a b) :
    a.isSome = b.isSome := by
  cases h <;> rfl

theorem RouteTable.shown (table : RouteTable) : List.Forall₂ RouteEntry.Shown table.entries.toList
    (table.entries.toList.map fun entry => (entry.key.text, entry.target.toValue)) := by
  refine List.forall₂_map_right_iff.mpr (List.forall₂_same.mpr fun entry _ => ?_)
  exact ⟨rfl, entry.target.shown⟩

/-- Different keys have different texts, so no name is written twice. -/
theorem RouteTable.nodup_texts {table : RouteTable} (h : table.keys.Nodup) :
    (table.entries.toList.map (·.key.text)).Nodup := by
  have texts : table.entries.toList.map (·.key.text) = table.keys.map RouteKey.text := by simp [keys]
  rw [texts]
  exact List.Pairwise.map _ (fun _ _ hne heq => hne (RouteKey.text_inj heq)) h

theorem CompiledApi.shown {api : CompiledApi} (h : api.routes.keys.Nodup) : api.Shown api.toValue where
  routes := by
    refine ⟨_, by simp only [toValue, Value.member?, RouteTable.toValue, List.lookup_cons_self], ?_,
      api.routes.shown⟩
    rw [List.map_map]
    exact RouteTable.nodup_texts h
  cors := by
    have hcors : api.toValue.member? "cors" = api.cors.map CorsPolicy.toValue := by
      simp [toValue, Value.member?, List.lookup_cons, lookup_memberIfSome_last]
    rw [hcors]
    cases api.cors with
    | none => exact .none
    | some p => exact .some p.shown

/-! ### How deep the values go -/

section Fits
open Json (Fits)

theorem RouteTable.fits (table : RouteTable) : Fits 3 table.toValue := by
  refine .table fun m hm => ?_
  obtain ⟨entry, -, rfl⟩ := List.mem_map.mp hm
  exact entry.target.fits

theorem CorsPolicy.fits (p : CorsPolicy) : Fits 2 p.toValue := by
  have hset (set : TextSet) : Fits 1 (Value.texts set.values) := Fits.listMap fun _ _ => .text _
  have hmaxAge (n : UInt64) : Fits 1 (.integer n.toNat) := by
    have hlt := n.toNat_lt_size
    exact .integer ⟨by omega, by omega⟩
  refine .table ?_
  simp only [List.forall_mem_append, List.forall_mem_cons]
  refine ⟨⟨⟨⟨hset _, hset _, hset _, nofun⟩, Fits.memberIfSome _ hset⟩, ?_⟩, Fits.memberIfSome _ hmaxAge⟩
  split
  · exact List.forall_mem_singleton.mpr (.bool true)
  · exact nofun

theorem CompiledApi.fits (api : CompiledApi) : Fits 4 api.toValue :=
  .table (List.forall_mem_cons.mpr ⟨api.routes.fits, Fits.memberIfSome api.cors fun p => p.fits.mono (by omega)⟩)

end Fits

/-- The text of every compiled API holds one value and nothing else, and this value shows the whole API: one
    member for each route, in the order of declaration and under different names, with the target; and the
    policy if there is one, with its sets in ascending order. So two passes with equal texts have the same
    entries in the same order and the same policy. -/
theorem compiled_json_lossless :
    (∀ declarations cors api, (compile declarations cors).value = .ok api →
      ∃ v, Json.tree (Json.write api.toValue) = (v.node, []) ∧ api.Shown v) ∧
    ∀ declarations cors api others cors' other, (compile declarations cors).value = .ok api →
      (compile others cors').value = .ok other → Json.write other.toValue = Json.write api.toValue →
        other.routes.entries = api.routes.entries ∧ other.cors = api.cors := by
  have reads : ∀ declarations cors api, (compile declarations cors).value = .ok api →
      ∃ v, Json.tree (Json.write api.toValue) = (v.node, []) ∧ api.Shown v := by
    intro declarations cors api h
    obtain ⟨table, resolved, rfl⟩ := compile_eq_ok_iff.mp h
    have nodup := (resolve_eq_ok resolved).reachable.consistent.nodup_keys
    exact ⟨_, Json.tree_write ((CompiledApi.fits _).mono (by decide)), CompiledApi.shown nodup⟩
  refine ⟨reads, fun declarations cors api others cors' other h h' same => ?_⟩
  obtain ⟨v, hv, shown⟩ := reads declarations cors api h
  obtain ⟨w, hw, shown'⟩ := reads others cors' other h'
  rw [same, hv] at hw
  obtain rfl := node_inj (Prod.mk.inj hw).1
  exact apiShown_unique shown shown'

/-- A path that imitates what stands behind a name: the text is another than that of the plain path, and the path reads
back whole. -/
theorem compiled_json_lossless_of_imitation :
    let users : Target := ⟨"users", some ⟨"live", none⟩⟩
    let plain : List TargetRoutes := [⟨users, [.shorthand "get /a", .shorthand "*"]⟩]
    let imitation : List TargetRoutes := [⟨users, [.structured (some "get") (some "/a\":\n\"é"), .shorthand "*"]⟩]
    ∃ (api other : CompiledApi) (v : Value) (members : List (String × Value)),
      (compile plain (some (.enabled true))).value = .ok api ∧
      (compile imitation (some (.enabled true))).value = .ok other ∧
      Json.write other.toValue ≠ Json.write api.toValue ∧
      Json.tree (Json.write other.toValue) = (v.node, []) ∧ v.member? "routes" = some (.table members) ∧
      members.map Prod.fst = ["GET /a\":\n\"é", "*"] ∧ (v.member? "cors").isSome = true := by
  intro users plain imitation
  obtain ⟨table, hresolved, hentries⟩ := resolve_of_entries plain
    [⟨.route (.exact .get) "/a", users⟩, ⟨.catchAll, users⟩] rfl (by decide)
  obtain ⟨table', hresolved', hentries'⟩ := resolve_of_entries imitation
    [⟨.route (.exact .get) "/a\":\n\"é", users⟩, ⟨.catchAll, users⟩] rfl (by decide)
  have hplain : (compile plain (some (.enabled true))).value = .ok ⟨table, _⟩ :=
    compile_eq_ok_iff.mpr ⟨table, hresolved, rfl⟩
  have himitation : (compile imitation (some (.enabled true))).value = .ok ⟨table', _⟩ :=
    compile_eq_ok_iff.mpr ⟨table', hresolved', rfl⟩
  obtain ⟨hreads, hinjective⟩ := compiled_json_lossless
  obtain ⟨v, hv, ⟨⟨members, hmembers, -, hshown⟩, hcors⟩⟩ := hreads _ _ _ himitation
  refine ⟨_, _, v, members, hplain, himitation, fun hsame => ?_, hv, hmembers, ?_, ?_⟩
  · obtain ⟨hequal, -⟩ := hinjective _ _ _ _ _ _ hplain himitation hsame
    rw [← Array.toList_inj, hentries, hentries'] at hequal
    exact absurd hequal (by decide)
  · rw [names_of_shown hshown, hentries']
    rfl
  · rw [← isSome_eq_of_rel hcors]
    rfl

end RouteCompiler
