import Mathlib
import RouteCompiler.Proofs.Json.Depth
import RouteCompiler.Proofs.Service.Spelling
import RouteCompiler.Service.Load

/-! # A service in another spelling

Texts that differ in their spelling only are read as the same service, and a text that gives a field twice is
not read. -/

namespace RouteCompiler
open Document Spelling

variable {ε : Type}

/-! ### Every reader -/

theorem respects_text : Respects (ε := ε) .plain Node.readText := .plain nofun

theorem OneOrMany.respects : Respects (ε := ε) .plain OneOrMany.read := by
  refine .plain fun members a => ?_
  rw [OneOrMany.read, Node.readChoice]
  cases (Node.table members).check <;> simp [Node.readText, Node.readList, Except.map, Except.toOption]

/-- A record other than a binding is read from a list that ends with its last field. -/
theorem readList_iff {Field α : Type} [DecidableEq Field] {Content : Field → Type} {F : RecordFormat ε Field Content}
    {make : Draft Content → Except Field α} (r : Record) (hr : r ≠ .binding) (e : Problem ε) (items : Items ε) (a : α) :
    F.readRecord make (some e) (.list items) = .ok a ↔
      r ≠ .binding ∧ ∃ draft, F.readItems .empty F.order items = .ok (draft, .done) ∧ make draft = .ok a :=
  RecordFormat.readList_some.trans (iff_and_self.mpr fun _ => hr)

@[simp] theorem getD_none {α : Type} (o : Option (Option α)) : o.getD none = o.join := by
  cases o <;> rfl

theorem RouteBinding.reads : Reads (ε := ε) .binding format ofDraft (fun _ => some none) readStructured where
  fields := rfl
  names f := by cases f <;> rfl
  complete f := by cases f <;> simp [format]
  table _ := rfl
  list items a := by simp [readStructured]
  content f := by cases f <;> exact respects_text.option
  default f d hd := by cases f <;> obtain rfl := List.mem_singleton.mp hd <;> exact ⟨none, rfl, rfl⟩
  made draft a ha := by simpa [ofDraft] using ha

theorem RouteBinding.respects : Respects (ε := ε) (.record .binding) RouteBinding.read :=
  reads.respects.choice fun v a hv => by cases v <;> first | exact hv.elim | exact nofun

theorem CorsOverrides.reads (e : Node ε → Problem ε) :
    Reads .cors format ofDraft
      (fun
        | .allowedOrigins | .allowedHeaders | .allowedMethods | .exposedResponseHeaders => some .none
        | .allowCredentials => some .none
        | .maxAge => some .none)
      fun v => read (some (e v)) v where
  fields := rfl
  names f := by cases f <;> rfl
  complete f := by cases f <;> simp [format]
  table _ := rfl
  list items := readList_iff .cors nofun (e (.list items)) items
  content f := by
    cases f
    case allowCredentials | maxAge => exact (Respects.plain nofun).option
    all_goals exact OneOrMany.respects.option
  default f d hd := by cases f <;> obtain rfl := List.mem_singleton.mp hd <;> exact ⟨.none, rfl, rfl⟩
  made draft a ha := by simpa [ofDraft] using ha

theorem CorsSetting.respects : Respects (ε := ε) (.record .cors) CorsSetting.read := by
  have hcustom : Respects (ε := ε) (.record .cors) readCustom :=
    (CorsOverrides.reads fun v => v.refuse "struct CorsOverrides").respects.congr custom fun _ _ => rfl
  exact hcustom.choice fun v a hv => by cases v <;> first | exact hv.elim | exact nofun

theorem HttpApiConfig.reads (e : Problem ε) :
    Reads .httpApi format ofDraft (fun _ => some none) (HttpApiConfig.read (some e)) where
  fields := rfl
  names f := by cases f; rfl
  complete f := by cases f; simp [format]
  table _ := rfl
  list := readList_iff .httpApi nofun e
  content _ := CorsSetting.respects.option
  default _ d hd := by
    obtain rfl := List.mem_singleton.mp hd
    exact ⟨none, rfl, rfl⟩
  made draft a ha := by simpa [ofDraft] using ha

theorem TargetAlias.reads (e : Problem ε) :
    Reads .targetAlias format ofDraft (fun | .name => none | .logicalId => some none)
      (TargetAlias.read (some e)) where
  fields := rfl
  names f := by cases f <;> rfl
  complete f := by cases f <;> simp [format]
  table _ := rfl
  list := readList_iff .targetAlias nofun e
  content
    | .name => respects_text
    | .logicalId => respects_text.option
  default
    | .logicalId, _, .head _ => ⟨none, rfl, rfl⟩
  made draft a ha := by simpa [ofDraft] using ha

theorem EventConfig.reads (e : Problem ε) :
    Reads .event format ofDraft (fun _ => some none) (EventConfig.read (some e)) where
  fields := rfl
  names f := by cases f; rfl
  complete f := by cases f; simp [format]
  table _ := rfl
  list := readList_iff .event nofun e
  content _ := RouteBinding.respects.option
  default _ d hd := by
    obtain rfl := List.mem_singleton.mp hd
    exact ⟨none, rfl, rfl⟩
  made draft a ha := by simpa [ofDraft] using ha

theorem FunctionConfig.reads (e : Problem ε) :
    Reads .function (format (some e)) ofDraft (fun | .name => none | .targetAlias => some none | .events => some [])
      (FunctionConfig.read (some e)) where
  fields := rfl
  names f := by cases f <;> rfl
  complete f := by cases f <;> simp [format]
  table _ := rfl
  list := readList_iff .function nofun e
  content
    | .name => respects_text
    | .targetAlias => (TargetAlias.reads e).respects.option
    | .events => (EventConfig.reads e).respects.list
  default
    | .targetAlias, _, .head _ => ⟨none, rfl, rfl⟩
    | .events, _, .head _ => ⟨[], rfl, rfl⟩
  made draft a ha := by simpa [ofDraft] using ha

theorem ServiceConfig.reads (e : Problem ε) :
    Reads .service (format (some e)) ofDraft
      (fun | .service => some "" | .httpApi => some ⟨none⟩ | .functions => some []) (ServiceConfig.read (some e)) where
  fields := rfl
  names f := by cases f <;> rfl
  complete f := by cases f <;> simp [format]
  table _ := rfl
  list := readList_iff .service nofun e
  content
    | .service => respects_text
    | .httpApi => (HttpApiConfig.reads e).respects
    | .functions => (FunctionConfig.reads e).respects.list
  default
    | .service, _, .head _ => ⟨"", rfl, rfl⟩
    | .httpApi, _, .head _ => ⟨⟨none⟩, rfl, rfl⟩
    | .httpApi, _, .tail _ (.head _) => ⟨⟨none⟩, rfl, rfl⟩
    | .functions, _, .head _ => ⟨[], rfl, rfl⟩
  made draft a ha := by simpa [ofDraft] using ha

/-! ### Texts -/

/-- In the tree of a text, what is added to a record of a service is not too deep to be read. -/
theorem Spelling.Within.sound {k : Kind} {v v' : Node Json.Fault} {depth room : Nat}
    (h : Within (Respelling (Json.Shallow room)) k v v') (hgraded : Json.NodeGraded depth v')
    (hroom : k.height = 0 ∨ depth + k.height + room < Json.maxDepth) : Within (Respelling Sound) k v v' := by
  induction h generalizing depth with
  | here h =>
    cases h with
    | reorder hperm => exact .here (.reorder hperm)
    | rename hfield hkey hkey' => exact .here (.rename hfield hkey hkey')
    | @add r key v before after hkey hv =>
      have hpos := r.height_pos
      rw [Json.NodeGraded, Json.membersGraded_ofList] at hgraded
      refine .here (.add hkey (hv.check (hgraded (.ok key, v) (by simp)) ?_))
      rw [Kind.height] at hroom
      omega
    | remove hkey => exact .here (.remove hkey)
    | toList hr hitems => exact .here (.toList hr hitems)
  | @member k key v v' before after _ ih =>
    rw [Json.NodeGraded, Json.membersGraded_ofList] at hgraded
    have hheight := k.height_member key
    exact .member (ih (hgraded (key, v') (by simp)) (by omega))
  | @item k content v v' before after hk _ ih =>
    rw [Json.NodeGraded, Json.itemsGraded_ofList] at hgraded
    have hheight := Kind.height_item hk
    exact .item hk (ih (hgraded v' (by simp)) (by omega))
  | unfit _ ih =>
    rw [Json.NodeGraded] at hgraded
    exact .unfit (ih hgraded.2 (Or.inl rfl))

/-- Both texts are in order, and the second is the first but for one change of the spelling. What is added has
at most 64 lists and tables inside each other. -/
def Respells (text text' : String) : Prop :=
  ∃ v v', Json.tree text = (v, []) ∧ Json.tree text' = (v', []) ∧
    Within (Respelling (Json.Shallow 64)) (.record .service) v v'

/-- The second text is the first but for one more member, of a field that is there already. -/
def Doubles (text text' : String) : Prop :=
  ∃ v v', Json.tree text = (v, []) ∧ Json.tree text' = (v', []) ∧ Within Doubling (.record .service) v v'

theorem ServiceConfig.decode_eq_ok {text : String} {c : ServiceConfig} : decode text .json = .ok c ↔
    ∃ v, Json.tree text = (v, []) ∧ ServiceConfig.read Json.surplus v = .ok c := by
  rw [decode, Json.read, Json.readTokens, ← Json.tree]
  obtain ⟨v, rest⟩ := Json.tree text
  cases hread : ServiceConfig.read Json.surplus v with
  | error e => simp [hread]
  | ok c' => cases rest <;> simp [hread]

theorem ServiceConfig.decode_of_respells {text text' : String} {c : ServiceConfig} (h : Respells text text')
    (hdecode : decode text .json = .ok c) : decode text' .json = .ok c := by
  obtain ⟨v, v', htree, htree', hwithin⟩ := h
  obtain ⟨w, hw, hread⟩ := decode_eq_ok.mp hdecode
  obtain rfl : v = w := congrArg Prod.fst (htree.symm.trans hw)
  have hgraded : Json.NodeGraded 0 v' := by
    have := Json.tree_graded text'
    rwa [htree'] at this
  have hsound := hwithin.sound hgraded (Or.inr (by decide))
  exact decode_eq_ok.mpr ⟨v', htree', (ServiceConfig.reads _).respects.kept hsound hread⟩

/-- Texts that differ in their spelling only are read as the same service, and a text that gives a field a
second time, under whichever of its names, is not read. -/
theorem ServiceConfig.decode_respelled (text : String) :
    (∀ text' c, Relation.ReflTransGen Respells text text' → decode text .json = .ok c → decode text' .json = .ok c) ∧
      ∀ text' c, Doubles text text' → decode text' .json ≠ .ok c := by
  constructor
  · intro text' c h hdecode
    induction h with
    | refl => exact hdecode
    | tail _ hstep ih => exact decode_of_respells hstep ih
  · rintro text' c ⟨v, v', -, htree', hwithin⟩ hdecode
    obtain ⟨w, hw, hread⟩ := decode_eq_ok.mp hdecode
    obtain rfl : v' = w := congrArg Prod.fst (htree'.symm.trans hw)
    exact (ServiceConfig.reads _).respects.refused hwithin hread

/-- The name of a member is changed and then all is written as a list, or the member is given under both names. -/
theorem ServiceConfig.decode_respelled_of_list :
    decode "[\"shop\",\x7b\"cors\":true\x7d,[]]" .json = .ok ⟨"shop", ⟨some (.enabled true)⟩, []⟩ ∧
      ∀ c, decode "\x7b\"httpApi\":null,\"http_api\":\x7b\"cors\":true\x7d,\"service\":\"shop\"\x7d" .json ≠ .ok c := by
  let settings : Entry Json.Fault → Node Json.Fault := fun m => .table (.ofList [m])
  let service : Entry Json.Fault := (.ok "service", .text "shop")
  let cors : Entry Json.Fault := (.ok "cors", .bool true)
  have htree : Json.tree "\x7b\"http_api\":\x7b\"cors\":true\x7d,\"service\":\"shop\"\x7d" =
      (.table (.ofList ([] ++ (.ok "http_api", settings cors) :: [service])), []) := by cbv
  have hrenamed : Json.tree "\x7b\"httpApi\":\x7b\"cors\":true\x7d,\"service\":\"shop\"\x7d" =
      (.table (.ofList ([] ++ (.ok "httpApi", settings cors) :: [service])), []) := by cbv
  have hlist : Json.tree "[\"shop\",\x7b\"cors\":true\x7d,[]]" =
      (.list (.ofList [.text "shop", settings cors, (Value.list []).node]), []) := by cbv
  have hdoubled :
      Json.tree "\x7b\"httpApi\":null,\"http_api\":\x7b\"cors\":true\x7d,\"service\":\"shop\"\x7d" =
      (.table (.ofList ([] ++ (.ok "httpApi", .null) :: [(.ok "http_api", settings cors), service])), []) := by cbv
  have hdecode : decode "\x7b\"http_api\":\x7b\"cors\":true\x7d,\"service\":\"shop\"\x7d" .json =
      .ok ⟨"shop", ⟨some (.enabled true)⟩, []⟩ := by cbv
  have hfield : ⟨["http_api", "httpApi"], .record .httpApi, [.table [("cors", .null)], .table []]⟩ ∈
      Record.service.fields := by simp [Record.fields]
  obtain ⟨hkept, hrefused⟩ := decode_respelled "\x7b\"http_api\":\x7b\"cors\":true\x7d,\"service\":\"shop\"\x7d"
  constructor
  · refine hkept _ _ (.tail (.single ⟨_, _, htree, hrenamed, .here ?_⟩) ⟨_, _, hrenamed, hlist, .here ?_⟩) hdecode
    · exact .rename hfield List.mem_cons_self (List.mem_cons_of_mem _ List.mem_cons_self)
    · refine .toList (by decide) (.cons (Or.inl ?_) (.cons (Or.inl ?_) (.cons (Or.inr ?_) .nil)))
      · exact ⟨"service", by simp, by simp [service]⟩
      · exact ⟨"httpApi", by simp, by simp⟩
      · refine ⟨fun key v hm hkey => ?_, .list [], by simp, rfl⟩
        obtain rfl : key = "functions" := by simpa using hkey
        simp [service] at hm
  · refine fun c => hrefused _ c ⟨_, _, htree, hdoubled, .here ?_⟩
    exact .twice hfield List.mem_cons_self (List.mem_cons_of_mem _ List.mem_cons_self) List.mem_cons_self

end RouteCompiler
