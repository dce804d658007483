import RouteCompiler.Proofs.Service.RoundTrip
import RouteCompiler.Proofs.Toml.RoundTrip

/-! # The notations agree

A service is read from its TOML text as it is read from its JSON text. TOML leaves out what is `null`, and a
record reads a field that is left out as one that is `null`; its numbers have a sign, so the one number of a
service, the age of a preflight answer, must be below `2 ^ 63`. -/

namespace RouteCompiler
open Document

variable {ε : Type}

/-! ### Values without what is missing -/

namespace Document

theorem strippedItems_map {α : Type} {write : α → Value} (h : ∀ a, write a ≠ .null) (as : List α) :
    strippedItems (as.map write) = as.map fun a => (write a).stripped := by
  induction as with
  | nil => rfl
  | cons a as ih => rw [List.map_cons, strippedItems_cons (h a), ih, List.map_cons]

theorem strippedMembers_memberIfSome {α : Type} {write : α → Value} (h : ∀ a, write a ≠ .null) (key : String)
    (o : Option α) (rest : List (String × Value)) :
    strippedMembers (Value.memberIfSome key write o ++ rest) =
      Value.memberIfSome key (fun a => (write a).stripped) o ++ strippedMembers rest := by
  cases o with
  | none => rfl
  | some a => exact strippedMembers_cons (h a) key rest

theorem strippedMembers_memberIfSome_last {α : Type} {write : α → Value} (h : ∀ a, write a ≠ .null) (key : String)
    (o : Option α) : strippedMembers (Value.memberIfSome key write o) =
      Value.memberIfSome key (fun a => (write a).stripped) o := by
  have hrest := strippedMembers_memberIfSome h key o []
  rwa [List.append_nil, strippedMembers, List.append_nil] at hrest

theorem text_ne_null (s : String) : Value.text s ≠ .null := nofun

theorem stripped_texts (ss : List String) : (Value.texts ss).stripped = Value.texts ss :=
  congrArg Value.list (strippedItems_map text_ne_null ss)

end Document

theorem OneOrMany.stripped_toValue (o : OneOrMany) : o.toValue.stripped = o.toValue := by
  cases o with
  | one s => rfl
  | many ss => exact stripped_texts ss

theorem OneOrMany.toValue_ne_null (o : OneOrMany) : o.toValue ≠ .null := by
  cases o <;> exact nofun

theorem TargetAlias.stripped_toValue (a : TargetAlias) : a.toValue.stripped = a.toValue :=
  congrArg (fun ms => Value.table (("name", .text a.name) :: ms))
    (strippedMembers_memberIfSome_last text_ne_null "logical_id" a.logicalId)

theorem CorsOverrides.stripped_toValue (o : CorsOverrides) : o.toValue.stripped = o.toValue := by
  have hmany (o : OneOrMany) : o.toValue.stripped = o.toValue := o.stripped_toValue
  rw [toValue, Value.stripped]
  simp only [List.append_assoc]
  rw [strippedMembers_memberIfSome OneOrMany.toValue_ne_null, strippedMembers_memberIfSome OneOrMany.toValue_ne_null,
    strippedMembers_memberIfSome OneOrMany.toValue_ne_null, strippedMembers_memberIfSome nofun,
    strippedMembers_memberIfSome OneOrMany.toValue_ne_null, strippedMembers_memberIfSome_last nofun]
  simp only [hmany, Value.stripped]

theorem CorsSetting.stripped_toValue (s : CorsSetting) : s.toValue.stripped = s.toValue := by
  cases s with
  | enabled on => rfl
  | custom overrides => exact overrides.stripped_toValue

theorem CorsSetting.toValue_ne_null (s : CorsSetting) : s.toValue ≠ .null := by
  cases s <;> exact nofun

theorem HttpApiConfig.stripped_toValue (c : HttpApiConfig) :
    c.toValue.stripped = .table (Value.memberIfSome "cors" CorsSetting.toValue c.cors) := by
  obtain ⟨cors⟩ := c
  cases cors with
  | none => rfl
  | some setting =>
    refine congrArg Value.table ?_
    rw [strippedMembers_cons setting.toValue_ne_null, setting.stripped_toValue]
    rfl

theorem strippedMembers_optionalText (key : String) (o : Option String) (rest : List (String × Value)) :
    strippedMembers ((key, Value.optionalText o) :: rest) = Value.memberIfSome key .text o ++ strippedMembers rest := by
  cases o <;> rfl

theorem RouteBinding.stripped_structured (method path : Option String) :
    (structured method path).toValue.stripped =
      .table (Value.memberIfSome "method" .text method ++ Value.memberIfSome "path" .text path) := by
  rw [toValue, Value.stripped, strippedMembers_optionalText, strippedMembers_optionalText, strippedMembers,
    List.append_nil]

/-! ### Services without what is missing -/

theorem HttpApiConfig.read_stripped (surplus : Option (Problem ε)) (c : HttpApiConfig) :
    HttpApiConfig.read surplus c.toValue.stripped.node = .ok c := by
  have hsetting (s : CorsSetting) : s.toValue.node.readOption CorsSetting.read =
      (.ok (some s) : Reading ε (Option CorsSetting)) :=
    readOption_of_ok (by cases s <;> exact nofun) s.read_toValue
  rw [stripped_toValue]
  apply RecordFormat.readRecord_table
  case hread => exact RecordFormat.readMembers_memberIfSome_last c.cors rfl rfl hsetting
  case hmake => simp [ofDraft]

theorem RouteBinding.read_stripped (b : RouteBinding) :
    RouteBinding.read b.toValue.stripped.node = (.ok b : Reading ε RouteBinding) := by
  cases b with
  | shorthand route => exact read_toValue (.shorthand route)
  | structured method path =>
    have hread : RouteBinding.format.readMembers .empty (valueMembers
        (Value.memberIfSome "method" .text method ++ Value.memberIfSome "path" .text path)) =
          (.ok ((Draft.empty.setIfSome .method (method.map some)).setIfSome .path (path.map some)) : Reading ε _) := by
      rw [RecordFormat.readMembers_memberIfSome method rfl rfl fun _ => rfl]
      exact RecordFormat.readMembers_memberIfSome_last path rfl (by simp) fun _ => rfl
    rw [stripped_structured]
    refine readChoice_second rfl ?_
    show RouteBinding.format.readTable ofDraft (valueMembers _) = _
    simp [RecordFormat.readTable, hread, RecordFormat.finish, ofDraft]

theorem EventConfig.read_stripped (surplus : Option (Problem ε)) (e : EventConfig) :
    EventConfig.read surplus e.toValue.stripped.node = .ok e := by
  have hbinding (b : RouteBinding) : b.toValue.stripped.node.readOption RouteBinding.read =
      (.ok (some b) : Reading ε (Option RouteBinding)) :=
    readOption_of_ok (by cases b <;> exact nofun) b.read_stripped
  have hnull (b : RouteBinding) : b.toValue ≠ .null := by cases b <;> exact nofun
  rw [toValue, Value.stripped, strippedMembers_memberIfSome_last hnull]
  exact EventConfig.read_table surplus hbinding e

theorem FunctionConfig.read_stripped (surplus : Option (Problem ε)) (f : FunctionConfig) :
    FunctionConfig.read surplus f.toValue.stripped.node = .ok f := by
  have hevents : (Value.list (f.events.map EventConfig.toValue)).stripped =
      .list (f.events.map fun e => e.toValue.stripped) := congrArg Value.list (strippedItems_map nofun f.events)
  have hrest : strippedMembers (Value.memberIfSome "target_alias" TargetAlias.toValue f.targetAlias ++
      [("events", .list (f.events.map EventConfig.toValue))]) =
        Value.memberIfSome "target_alias" TargetAlias.toValue f.targetAlias ++
          [("events", .list (f.events.map fun e => e.toValue.stripped))] := by
    rw [strippedMembers_memberIfSome nofun, strippedMembers, hevents]
    · simp only [TargetAlias.stripped_toValue, strippedMembers]
    · exact nofun
  show FunctionConfig.read surplus (Value.table (("name", .text f.name) :: strippedMembers (_ ++ _))).node = _
  rw [hrest]
  exact FunctionConfig.read_table surplus (EventConfig.read_stripped surplus) f

theorem ServiceConfig.read_stripped (surplus : Option (Problem ε)) (c : ServiceConfig) :
    ServiceConfig.read surplus c.toValue.stripped.node = .ok c := by
  have hfunctions : (Value.list (c.functions.map FunctionConfig.toValue)).stripped =
      .list (c.functions.map fun f => f.toValue.stripped) := congrArg Value.list (strippedItems_map nofun c.functions)
  show ServiceConfig.read surplus (Value.table [("service", .text c.service), ("http_api", c.httpApi.toValue.stripped),
    ("functions", (Value.list (c.functions.map FunctionConfig.toValue)).stripped)]).node = _
  rw [hfunctions]
  exact ServiceConfig.read_table surplus (HttpApiConfig.read_stripped surplus)
    (FunctionConfig.read_stripped surplus) c

/-! ### Keys and numbers -/

theorem keys_memberIfSome {α : Type} (key : String) (write : α → Value) (o : Option α) :
    ((Value.memberIfSome key write o).map Prod.fst).Sublist [key] := by
  cases o with
  | none => exact List.nil_sublist _
  | some a => exact List.Sublist.refl _

section Plain
open Toml (Plain)

theorem Toml.Plain.listMap {α : Type} {write : α → Value} {as : List α} (h : ∀ a ∈ as, Plain (write a)) :
    Plain (.list (as.map write)) := by
  refine .list fun v hv => ?_
  obtain ⟨a, ha, rfl⟩ := List.mem_map.mp hv
  exact h a ha

theorem Toml.Plain.memberIfSome {α : Type} {key : String} {write : α → Value} {o : Option α}
    (h : ∀ a, o = some a → Plain (write a)) : ∀ m ∈ Value.memberIfSome key write o, Plain m.2 := by
  intro m hm
  cases o with
  | none => cases hm
  | some a =>
    obtain rfl := List.mem_singleton.mp hm
    exact h a rfl

/-- A table has different keys if they are among different ones. -/
theorem Toml.Plain.table_of_keys (keys : List String) {members : List (String × Value)} (hdistinct : keys.Nodup)
    (hkeys : (members.map Prod.fst).Sublist keys) (h : ∀ m ∈ members, Plain m.2) : Plain (.table members) :=
  .table (hdistinct.sublist hkeys) h

theorem TargetAlias.plain (a : TargetAlias) : Plain a.toValue := by
  have hkeys := (keys_memberIfSome "logical_id" .text a.logicalId).cons_cons "name"
  refine .table_of_keys ["name", "logical_id"] (by decide) hkeys (List.forall_mem_cons.mpr ⟨.text _, ?_⟩)
  exact Plain.memberIfSome fun _ _ => .text _

theorem RouteBinding.plain (b : RouteBinding) : Plain b.toValue := by
  have hpart (o : Option String) : Plain (Value.optionalText o) := by
    cases o with
    | none => exact .null
    | some s => exact .text s
  cases b with
  | shorthand route => exact .text route
  | structured method path =>
    refine .table_of_keys ["method", "path"] (by decide) (List.Sublist.refl _) ?_
    simp only [List.forall_mem_cons]
    exact ⟨hpart method, hpart path, nofun⟩

theorem OneOrMany.plain (o : OneOrMany) : Plain o.toValue := by
  cases o with
  | one s => exact .text s
  | many ss => exact Plain.listMap fun _ _ => .text _

theorem CorsOverrides.plain {o : CorsOverrides} (hage : ∀ n, o.maxAge = some n → n.toNat < signedBound) :
    Plain o.toValue := by
  have hmany {key : String} {o : Option OneOrMany} :
      ∀ m ∈ Value.memberIfSome key OneOrMany.toValue o, Plain m.2 := Plain.memberIfSome fun o _ => o.plain
  have hmaxAge (n : UInt64) (hn : o.maxAge = some n) : Plain (.integer n.toNat) := by
    have hlt := hage n hn
    exact .integer ⟨by omega, by omega⟩
  have hkeys := keys_memberIfSome "allowed_origins" OneOrMany.toValue o.allowedOrigins
    |>.append (keys_memberIfSome "allowed_headers" OneOrMany.toValue o.allowedHeaders)
    |>.append (keys_memberIfSome "allowed_methods" OneOrMany.toValue o.allowedMethods)
    |>.append (keys_memberIfSome "allow_credentials" Value.bool o.allowCredentials)
    |>.append (keys_memberIfSome "exposed_response_headers" OneOrMany.toValue o.exposedResponseHeaders)
    |>.append (keys_memberIfSome "max_age" (fun n : UInt64 => Value.integer n.toNat) o.maxAge)
  simp only [← List.map_append] at hkeys
  refine .table_of_keys _ (by decide) hkeys ?_
  simp only [List.forall_mem_append]
  exact ⟨⟨⟨⟨⟨hmany, hmany⟩, hmany⟩, Plain.memberIfSome fun _ _ => .bool _⟩, hmany⟩, Plain.memberIfSome hmaxAge⟩

theorem HttpApiConfig.plain {c : HttpApiConfig}
    (hage : ∀ o n, c.cors = some (.custom o) → o.maxAge = some n → n.toNat < signedBound) : Plain c.toValue := by
  obtain ⟨cors⟩ := c
  refine .table_of_keys ["cors"] (by decide) (List.Sublist.refl _) (List.forall_mem_singleton.mpr ?_)
  match cors with
  | none => exact .null
  | some (.enabled on) => exact .bool on
  | some (.custom o) => exact CorsOverrides.plain fun n => hage o n rfl

theorem EventConfig.plain (e : EventConfig) : Plain e.toValue :=
  .table_of_keys ["http_api"] (by decide) (keys_memberIfSome "http_api" RouteBinding.toValue e.httpApi)
    (Plain.memberIfSome fun b _ => b.plain)

theorem FunctionConfig.plain (f : FunctionConfig) : Plain f.toValue := by
  have hevents : Plain (.list (f.events.map EventConfig.toValue)) := Plain.listMap fun e _ => e.plain
  have hkeys := ((keys_memberIfSome "target_alias" TargetAlias.toValue f.targetAlias).append_right ["events"]).cons_cons
    "name"
  refine .table_of_keys ["name", "target_alias", "events"] (by decide) (by simpa using hkeys) ?_
  simp only [List.cons_append, List.forall_mem_cons, List.forall_mem_append]
  exact ⟨.text _, Plain.memberIfSome fun a _ => a.plain, hevents, nofun⟩

theorem ServiceConfig.plain {c : ServiceConfig}
    (hage : ∀ o n, c.cors = some (.custom o) → o.maxAge = some n → n.toNat < signedBound) : Plain c.toValue := by
  have hfunctions : Plain (.list (c.functions.map FunctionConfig.toValue)) := Plain.listMap fun f _ => f.plain
  refine .table_of_keys ["service", "http_api", "functions"] (by decide) (List.Sublist.refl _) ?_
  simp only [List.forall_mem_cons]
  exact ⟨.text _, HttpApiConfig.plain hage, hfunctions, nofun⟩

end Plain

/-! ### Both texts of a service -/

/-- The members of a table. -/
def Document.Value.members : Value → List (String × Value)
  | .table members => members
  | _ => []

/-- The text that is written of a service. -/
def ServiceConfig.text (c : ServiceConfig) : Format → String
  | .json => Json.write c.toValue
  | .toml => Toml.write c.toValue.members

/-- A service is loaded from its TOML text just as from its JSON text: it is the service itself if it has no
problem, and is refused for the same problems if it has any. So the same API, or the same error, is compiled from
the two texts. -/
theorem ServiceConfig.notations_agree (c : ServiceConfig)
    (hage : ∀ o n, c.cors = some (.custom o) → o.maxAge = some n → n.toNat < signedBound) :
    (∀ format, parse (c.text format) format =
      if c.problems = [] then .ok c else .error (.invalid c.problems)) ∧
    ∀ format, (parse (c.text format) format).map compile =
      if c.problems = [] then .ok c.compile else .error (.invalid c.problems) := by
  -- From the list of functions down to the table of a binding, five lie inside each other.
  have hroom : 5 < Toml.depthLimit := by decide
  have hparse : ∀ format, parse (c.text format) format =
      if c.problems = [] then .ok c else .error (.invalid c.problems) := by
    intro format
    cases format with
    | json => exact c.parse_write
    | toml =>
      have hread := Toml.read_write hroom c.fits (c.plain hage) (c.read_stripped Toml.surplus)
      rw [parse, decode, text, toValue, Value.members, hread]
      exact c.validated_eq
  refine ⟨hparse, fun format => ?_⟩
  rw [hparse format]
  split_ifs <;> rfl

/-- The longest age that TOML can write, and a text of which both notations escape something. -/
theorem ServiceConfig.notations_agree_of_longest_age :
    let overrides : CorsOverrides := { CorsOverrides.none with maxAge := some 9223372036854775807 }
    let c : ServiceConfig := ⟨"a \"b\"", ⟨some (.custom overrides)⟩,
      [⟨"f", some ⟨"live", none⟩, [⟨none⟩, ⟨some (.structured none (some "*"))⟩]⟩]⟩
    parse (c.text .toml) .toml = .ok c ∧ parse (c.text .json) .json = .ok c := by
  intro overrides c
  have hage : ∀ o n, c.cors = some (.custom o) → o.maxAge = some n → n.toNat < signedBound := by
    intro o n hcors hn
    obtain rfl := CorsSetting.custom.inj (Option.some.inj hcors)
    obtain rfl := Option.some.inj hn
    decide
  have hvalid : c.problems = [] := by decide
  have hparse := (c.notations_agree hage).1
  simp only [hvalid, if_true] at hparse
  exact ⟨hparse .toml, hparse .json⟩

end RouteCompiler
