import Mathlib.Data.List.Forall2
import RouteCompiler.Proofs.Document.Acceptance

/-! # Spellings of a service

One service can be written in many ways: a field may have two names, members may stand in any order, members
that are no field may be added, and most records may be written as lists of their fields' values. What all
these have in common is said here without the reader (`Respelling`): which places of a document hold which
record, and which names and which empty values the fields of a record have. -/

namespace RouteCompiler.Spelling
open Document

variable {ε : Type}

/-! ### The places of a document -/

inductive Record where
  | service | httpApi | function | targetAlias | event | cors | binding
deriving DecidableEq

/-- What is expected in a place of a document. -/
inductive Kind where
  /-- A value without records in it. -/
  | plain
  /-- Nothing: nobody reads what is here. -/
  | ignored
  | record (r : Record)
  | list (item : Kind)

structure FieldSpelling where
  names : List String
  content : Kind
  /-- What can be written for the field without a difference to leaving it out. -/
  defaults : List Value

/-- The fields of a record in their order. -/
def Record.fields : Record → List FieldSpelling
  | service => [
      ⟨["service"], .plain, [.text ""]⟩,
      ⟨["http_api", "httpApi"], .record .httpApi, [.table [("cors", .null)], .table []]⟩,
      ⟨["functions"], .list (.record .function), [.list []]⟩]
  | httpApi => [⟨["cors"], .record .cors, [.null]⟩]
  | function => [
      ⟨["name"], .plain, []⟩,
      ⟨["target_alias", "targetAlias"], .record .targetAlias, [.null]⟩,
      ⟨["events"], .list (.record .event), [.list []]⟩]
  | targetAlias => [
      ⟨["name"], .plain, []⟩,
      ⟨["logical_id", "logicalId"], .plain, [.null]⟩]
  | event => [⟨["http_api", "httpApi"], .record .binding, [.null]⟩]
  | cors => [
      ⟨["allowed_origins", "allowedOrigins"], .plain, [.null]⟩,
      ⟨["allowed_headers", "allowedHeaders"], .plain, [.null]⟩,
      ⟨["allowed_methods", "allowedMethods"], .plain, [.null]⟩,
      ⟨["allow_credentials", "allowCredentials"], .plain, [.null]⟩,
      ⟨["exposed_response_headers", "exposedResponseHeaders"], .plain, [.null]⟩,
      ⟨["max_age", "maxAge"], .plain, [.null]⟩]
  | binding => [
      ⟨["method"], .plain, [.null]⟩,
      ⟨["path"], .plain, [.null]⟩]

namespace Kind

/-- What is expected of a member of a table. -/
def member (k : Kind) (key : Except ε String) : Kind :=
  match k, key with
  | .record r, .ok key =>
    match r.fields.find? (key ∈ ·.names) with
    | some field => field.content
    | none => .ignored
  | _, _ => .ignored

/-- What is expected of an item of a list. -/
def item? : Kind → Nat → Option Kind
  | .plain, _ => none
  | .ignored, _ => some .ignored
  | .record r, i => r.fields[i]?.map (·.content)
  | .list k, _ => some k

end Kind

/-- How many lists and tables a record is made of, one inside the other. -/
def Record.height : Record → Nat
  | service => 6
  | httpApi => 2
  | function => 4
  | targetAlias => 1
  | event => 2
  | cors => 1
  | binding => 1

def Kind.height : Kind → Nat
  | plain => 0
  | ignored => 0
  | record r => r.height
  | list k => k.height + 1

theorem Record.height_content (r : Record) : ∀ field ∈ r.fields, field.content.height < r.height := by
  cases r <;> decide

theorem Record.height_pos (r : Record) : 0 < r.height := by
  cases r <;> decide

theorem Kind.height_member (k : Kind) (key : Except ε String) :
    (k.member key).height = 0 ∨ (k.member key).height < k.height := by
  cases k with
  | record r =>
    cases key with
    | error e => exact Or.inl rfl
    | ok key =>
      rw [Kind.member]
      cases hfind : r.fields.find? (key ∈ ·.names) with
      | none => exact Or.inl rfl
      | some field => exact Or.inr (r.height_content field (List.mem_of_find?_eq_some hfind))
  | plain | ignored | list => exact Or.inl rfl

theorem Kind.height_item {k content : Kind} {i : Nat} (h : k.item? i = some content) :
    content.height = 0 ∨ content.height < k.height := by
  cases k with
  | plain => cases h
  | ignored =>
    cases h
    exact Or.inl rfl
  | record r =>
    obtain ⟨field, hfield, rfl⟩ := Option.map_eq_some_iff.mp h
    exact Or.inr (r.height_content field (List.mem_of_getElem? hfield))
  | list k =>
    cases h
    exact Or.inr (Nat.lt_succ_self _)

/-! ### Changes -/

/-- An item stands for a field of a table: it is the member of the field, or the field is absent and the item
is what is written for that. -/
def StandsFor (l : List (Entry ε)) (field : FieldSpelling) (v : Node ε) : Prop :=
  (∃ key ∈ field.names, (.ok key, v) ∈ l) ∨
    (∀ key w, (.ok key, w) ∈ l → key ∉ field.names) ∧ ∃ d ∈ field.defaults, v = d.node

/-- A change of the spelling in a place; `sound` says which values may be added. -/
inductive Respelling (sound : Node ε → Prop) : Kind → Node ε → Node ε → Prop where
  /-- The members of any table may change their places. -/
  | reorder {k : Kind} {l l' : List (Entry ε)} (h : l.Perm l') :
    Respelling sound k (.table (.ofList l)) (.table (.ofList l'))
  /-- A member may have another name of its field. -/
  | rename {r : Record} {field : FieldSpelling} {key key' : String} {v : Node ε} {before after : List (Entry ε)}
      (hfield : field ∈ r.fields) (hkey : key ∈ field.names) (hkey' : key' ∈ field.names) :
    Respelling sound (.record r) (.table (.ofList (before ++ (.ok key, v) :: after)))
      (.table (.ofList (before ++ (.ok key', v) :: after)))
  /-- A member that is no field may be added. -/
  | add {r : Record} {key : String} {v : Node ε} {before after : List (Entry ε)}
      (hkey : ∀ field ∈ r.fields, key ∉ field.names) (hv : sound v) :
    Respelling sound (.record r) (.table (.ofList (before ++ after)))
      (.table (.ofList (before ++ (.ok key, v) :: after)))
  /-- A member that is no field may be removed. -/
  | remove {r : Record} {key : String} {v : Node ε} {before after : List (Entry ε)}
      (hkey : ∀ field ∈ r.fields, key ∉ field.names) :
    Respelling sound (.record r) (.table (.ofList (before ++ (.ok key, v) :: after)))
      (.table (.ofList (before ++ after)))
  /-- A record other than a binding may be written as the list of its fields' values. -/
  | toList {r : Record} {l : List (Entry ε)} {items : List (Node ε)} (hr : r ≠ .binding)
      (hitems : List.Forall₂ (StandsFor l) r.fields items) :
    Respelling sound (.record r) (.table (.ofList l)) (.list (.ofList items))

/-- A second member is added for a field. -/
inductive Doubling : Kind → Node ε → Node ε → Prop where
  | twice {r : Record} {field : FieldSpelling} {key key' : String} {v v' : Node ε} {before after : List (Entry ε)}
      (hfield : field ∈ r.fields) (hkey : key ∈ field.names) (hkey' : key' ∈ field.names)
      (hm : (.ok key, v) ∈ before ++ after) :
    Doubling (.record r) (.table (.ofList (before ++ after)))
      (.table (.ofList (before ++ (.ok key', v') :: after)))

/-- A change in one place of a document. -/
inductive Within (change : Kind → Node ε → Node ε → Prop) : Kind → Node ε → Node ε → Prop where
  | here {k : Kind} {v v' : Node ε} (h : change k v v') : Within change k v v'
  | member {k : Kind} {key : Except ε String} {v v' : Node ε} {before after : List (Entry ε)}
      (h : Within change (k.member key) v v') :
    Within change k (.table (.ofList (before ++ (key, v) :: after)))
      (.table (.ofList (before ++ (key, v') :: after)))
  | item {k content : Kind} {v v' : Node ε} {before after : List (Node ε)}
      (hk : k.item? before.length = some content) (h : Within change content v v') :
    Within change k (.list (.ofList (before ++ v :: after))) (.list (.ofList (before ++ v' :: after)))
  /-- What cannot be read can still be passed over. -/
  | unfit {fault : ε} {v v' : Node ε} (h : Within change .ignored v v') :
    Within change .ignored (.unfit fault v) (.unfit fault v')

/-! ### What every reader and every change have in common -/

/-- A change is one of a list or a table. -/
def Compound : Node ε → Prop
  | .list _ | .table _ | .unfit .. => True
  | _ => False

/-- Values that pass a test of whole documents. -/
structure Test (passes : Node ε → Prop) (fine : Except ε String → Prop) : Prop where
  value : ∀ v : Value, passes v.node
  key : ∀ key, fine (.ok key)
  list : ∀ vs, passes (.list (.ofList vs)) ↔ ∀ v ∈ vs, passes v
  table : ∀ l, passes (.table (.ofList l)) ↔ ∀ m ∈ l, fine m.1 ∧ passes m.2
  unfit : ∀ {fault v v'}, (passes v → passes v') → passes (.unfit fault v) → passes (.unfit fault v')

theorem Test.check : Test (ε := ε) (fun v => v.check = .ok ()) (fun key => key.isOk = true) where
  value := check_node
  key _ := rfl
  list _ := Items.check_ofList
  table _ := Members.check_ofList
  unfit _ h := nomatch h

theorem Test.pass : Test (ε := ε) (fun v => v.pass = .ok ()) (fun _ => True) where
  value v := Node.pass_of_check (check_node v)
  key _ := trivial
  list _ := Items.pass_ofList
  table l := by
    show (Members.ofList l).pass = .ok () ↔ _
    simp [Members.pass_ofList]
  unfit hpass h := hpass h

section Test
variable {passes sound : Node ε → Prop} {fine : Except ε String → Prop} {k : Kind} {v v' : Node ε}

theorem Test.standsFor (ht : Test passes fine) {l : List (Entry ε)} {field : FieldSpelling}
    (hl : passes (.table (.ofList l))) (h : StandsFor l field v) : passes v := by
  rcases h with ⟨key, -, hm⟩ | ⟨-, d, -, rfl⟩
  · exact ((ht.table l).mp hl _ hm).2
  · exact ht.value d

theorem Test.respelling (ht : Test passes fine) (hsound : ∀ v, sound v → passes v) (h : Respelling sound k v v')
    (hv : passes v) : passes v' := by
  cases h with
  | reorder hperm =>
    rw [ht.table] at hv ⊢
    exact fun m hm => hv m (hperm.mem_iff.mpr hm)
  | rename hfield hkey hkey' =>
    rw [ht.table, List.forall_mem_append, List.forall_mem_cons] at hv ⊢
    exact ⟨hv.1, ⟨ht.key _, hv.2.1.2⟩, hv.2.2⟩
  | add hkey hadded =>
    rw [ht.table, List.forall_mem_append] at hv ⊢
    exact ⟨hv.1, List.forall_mem_cons.mpr ⟨⟨ht.key _, hsound _ hadded⟩, hv.2⟩⟩
  | remove hkey =>
    rw [ht.table, List.forall_mem_append] at hv ⊢
    exact ⟨hv.1, (List.forall_mem_cons.mp hv.2).2⟩
  | @toList r l items hr hitems =>
    rw [ht.list]
    generalize r.fields = fields at hitems
    induction hitems with
    | nil => exact nofun
    | cons hhead _ ih => exact List.forall_mem_cons.mpr ⟨ht.standsFor hv hhead, ih⟩

theorem Test.within (ht : Test passes fine) (hsound : ∀ v, sound v → passes v) (h : Within (Respelling sound) k v v')
    (hv : passes v) : passes v' := by
  -- On the way down to the place of the change all other members and items stay as they are.
  induction h with
  | here h => exact ht.respelling hsound h hv
  | member h ih =>
    rw [ht.table, List.forall_mem_append, List.forall_mem_cons] at hv ⊢
    exact ⟨hv.1, ⟨hv.2.1.1, ih hv.2.1.2⟩, hv.2.2⟩
  | item hk h ih =>
    rw [ht.list, List.forall_mem_append, List.forall_mem_cons] at hv ⊢
    exact ⟨hv.1, ih hv.2.1, hv.2.2⟩
  | unfit h ih => exact ht.unfit ih hv

end Test

/-- A document in order. -/
abbrev Sound (v : Node ε) : Prop := v.check = .ok ()

/-- A change that nobody reads cannot double a field. -/
theorem not_doubling_ignored {v v' : Node ε} : ¬Within Doubling .ignored v v' := by
  intro h
  generalize hk : Kind.ignored = k at h
  induction h with
  | here h =>
    cases h
    cases hk
  | member h ih =>
    subst hk
    exact ih rfl
  | item hi h ih =>
    subst hk
    exact ih (by simpa [Kind.item?] using hi)
  | unfit h ih => exact ih rfl

theorem compound_of_respelling {sound : Node ε → Prop} {k : Kind} {v v' : Node ε}
    (h : Within (Respelling sound) k v v') : Compound v ∧ Compound v' := by
  cases h with
  | here h => cases h <;> exact ⟨trivial, trivial⟩
  | member | item | unfit => exact ⟨trivial, trivial⟩

theorem compound_of_doubling {k : Kind} {v v' : Node ε} (h : Within Doubling k v v') : Compound v' := by
  cases h with
  | here h => cases h; exact trivial
  | member | item | unfit => exact trivial

/-! ### Readers that respect changes -/

/-- A reader of a place: changing the spelling does not change what is read, and nothing is read where a field
is doubled. -/
structure Respects {α : Type} (k : Kind) (reader : Node ε → Reading ε α) : Prop where
  kept : ∀ {v v' a}, Within (Respelling Sound) k v v' → reader v = .ok a → reader v' = .ok a
  refused : ∀ {v v' a}, Within Doubling k v v' → reader v' ≠ .ok a

namespace Respects
variable {α β : Type} {k : Kind} {reader : Node ε → Reading ε α}

/-- Where nothing but plain values is read, there is nothing to change. -/
theorem plain (hreader : ∀ members a, reader (.table members) ≠ .ok a) : Respects .plain reader where
  kept h hread := by
    cases h with
    | here h => cases h; exact absurd hread (hreader _ _)
    | member => exact absurd hread (hreader _ _)
    | item hk => simp [Kind.item?] at hk
  refused h := by
    cases h with
    | here h => cases h
    | member => exact hreader _ _
    | item hk => simp [Kind.item?] at hk

/-- A reader that makes something of what another reads. -/
theorem congr {reader' : Node ε → Reading ε β} (h : Respects k reader) (f : α → β)
    (heq : ∀ v, Compound v → reader' v = (reader v).map f) : Respects k reader' where
  kept {v v' b} hwithin hread := by
    obtain ⟨hv, hv'⟩ := compound_of_respelling hwithin
    rw [heq v hv] at hread
    rw [heq v' hv']
    cases ha : reader v with
    | error e => simp [ha, Except.map] at hread
    | ok a => rwa [h.kept hwithin ha, ← ha]
  refused {v v' b} hwithin hread := by
    rw [heq v' (compound_of_doubling hwithin)] at hread
    cases ha : reader v' with
    | error e => simp [ha, Except.map] at hread
    | ok a => exact h.refused hwithin ha

theorem option (h : Respects k reader) : Respects k (Node.readOption reader) :=
  h.congr some fun v hv => by
    cases v with
    | null => exact hv.elim
    | _ => rfl

/-- Of two forms, of which only the second is that of a list or a table. -/
theorem choice {choice : String} {first : Node ε → Reading ε α} (h : Respects k reader)
    (hfirst : ∀ v a, Compound v → first v ≠ .ok a) : Respects k (Node.readChoice choice [first, reader]) := by
  have heq {v a} (hv : Compound v) :
      v.readChoice choice [first, reader] = .ok a ↔ v.check = .ok () ∧ reader v = .ok a := by
    rw [Node.readChoice]
    cases v.check with
    | error e => simp
    | ok _ =>
      cases hone : first v with
      | ok b => exact absurd hone (hfirst v b hv)
      | error e => cases htwo : reader v <;> simp [hone, htwo, Except.toOption]
  constructor
  case kept =>
    intro v v' a hwithin hread
    obtain ⟨hv, hv'⟩ := compound_of_respelling hwithin
    obtain ⟨hcheck, hread⟩ := (heq hv).mp hread
    exact (heq hv').mpr ⟨Test.check.within (fun _ h => h) hwithin hcheck, h.kept hwithin hread⟩
  case refused =>
    intro v v' a hwithin hread
    exact h.refused hwithin ((heq (compound_of_doubling hwithin)).mp hread).2

theorem list (h : Respects k reader) : Respects (.list k) (Node.readList reader) where
  kept hwithin hread := by
    cases hwithin with
    | here hchange => cases hchange; cases hread
    | member => cases hread
    | item hk hwithin =>
      obtain rfl : k = _ := by simpa [Kind.item?] using hk
      obtain ⟨a, ha, hother⟩ := Items.readAll_middle hread
      exact hother _ (h.kept hwithin ha)
  refused hwithin hread := by
    cases hwithin with
    | here hchange => cases hchange
    | member => cases hread
    | item hk hwithin =>
      obtain rfl : k = _ := by simpa [Kind.item?] using hk
      obtain ⟨a, ha, -⟩ := Items.readAll_middle hread
      exact h.refused hwithin ha

end Respects

/-! ### Records -/

section Record
variable {Field α : Type} [DecidableEq Field] {Content : Field → Type} {F : RecordFormat ε Field Content} {r : Record}
  {make : Draft Content → Except Field α} {reader : Node ε → Reading ε α}
  {default? : (f : Field) → Option (Content f)}

/-- The spelling of a field is the one that stands at its place. -/
def Record.spelling (r : Record) (order : List Field) (f : Field) : FieldSpelling :=
  r.fields.getD (order.idxOf f) ⟨[], .ignored, []⟩

/-- A format has the fields of a record in the same order and under the same names. -/
structure Describes (r : Record) (F : RecordFormat ε Field Content) : Prop where
  fields : r.fields = F.order.map (r.spelling F.order)
  names : ∀ f, F.names f = (r.spelling F.order f).names
  complete : ∀ f, f ∈ F.order

/-- A reader reads a record from a table, or else from a list that ends with its last field. It respects changes
within each field, and `default?` is what can be given for a field that is absent. -/
structure Reads (r : Record) (F : RecordFormat ε Field Content) (make : Draft Content → Except Field α)
    (default? : (f : Field) → Option (Content f)) (reader : Node ε → Reading ε α) : Prop extends Describes r F where
  table : ∀ members, reader (.table members) = F.readTable make members
  list : ∀ items a, reader (.list items) = .ok a ↔
    r ≠ .binding ∧ ∃ draft, F.readItems .empty F.order items = .ok (draft, .done) ∧ make draft = .ok a
  content : ∀ f, Respects (r.spelling F.order f).content (F.read f)
  default : ∀ f, ∀ d ∈ (r.spelling F.order f).defaults,
    ∃ content, F.read f d.node = .ok content ∧ default? f = some content
  made : ∀ draft a, make draft = .ok a → make (fun f => (draft f).or (default? f)) = .ok a

theorem Record.nodup_names (r : Record) : (r.fields.flatMap (·.names)).Nodup := by
  cases r <;> decide

namespace Describes
variable {f : Field} {key : String}

theorem field?_eq_some (hd : Describes r F) : F.field? key = some f ↔ key ∈ (r.spelling F.order f).names := by
  have hdistinct : (F.order.flatMap F.names).Nodup := by
    have := r.nodup_names
    rwa [hd.fields, List.flatMap_map, ← funext hd.names] at this
  rw [RecordFormat.field?_eq_some hd.complete hdistinct, hd.names]

theorem exists_field (hd : Describes r F) {field : FieldSpelling} (hfield : field ∈ r.fields) :
    ∃ f, r.spelling F.order f = field := by
  rw [hd.fields] at hfield
  obtain ⟨f, -, hf⟩ := List.mem_map.mp hfield
  exact ⟨f, hf⟩

theorem field?_eq_none (hd : Describes r F) (hkey : ∀ field ∈ r.fields, key ∉ field.names) : F.field? key = none := by
  rw [Option.eq_none_iff_forall_ne_some]
  intro f hf
  refine hkey (r.spelling F.order f) ?_ (hd.field?_eq_some.mp hf)
  rw [hd.fields]
  exact List.mem_map_of_mem (hd.complete f)

theorem member (hd : Describes r F) : (Kind.record r).member (ε := ε) (.ok key) =
    (F.field? key).elim .ignored fun f => (r.spelling F.order f).content := by
  have hname : (fun f => key == F.name f || (F.otherNames f).contains key) =
      (fun field : FieldSpelling => decide (key ∈ field.names)) ∘ r.spelling F.order := by
    funext f
    simp [← hd.names f, RecordFormat.names, Bool.beq_eq_decide_eq]
  rw [Kind.member, hd.fields, List.find?_map, RecordFormat.field?, hname]
  cases F.order.find? _ <;> rfl

theorem item? (hd : Describes r F) {i : Nat} :
    (Kind.record r).item? i = F.order[i]?.map fun f => (r.spelling F.order f).content := by
  rw [Kind.item?, hd.fields, List.getElem?_map, Option.map_map]
  rfl

end Describes

namespace Reads
variable {v v' : Node ε} {a : α} {l l' : List (Entry ε)}

theorem exists_accepts (hr : Reads r F make default? reader) (hread : reader (.table (.ofList l)) = .ok a) :
    ∃ draft, F.Accepts .empty l draft ∧ make draft = .ok a := by
  rwa [hr.table, RecordFormat.readTable_ofList] at hread

/-- Tables that fill in the same drafts are read as the same record. -/
theorem of_accepts (hr : Reads r F make default? reader) (hread : reader (.table (.ofList l)) = .ok a)
    (h : ∀ draft, F.Accepts .empty l draft → F.Accepts .empty l' draft) : reader (.table (.ofList l')) = .ok a := by
  obtain ⟨draft, hl, hmake⟩ := hr.exists_accepts hread
  rw [hr.table, RecordFormat.readTable_ofList]
  exact ⟨draft, h draft hl, hmake⟩

/-- Where every item stands for a field, the list fills in what the table does, and the defaults. -/
theorem readItems (hr : Reads r F make default? reader) {items : List (Node ε)} {draft : Draft Content}
    (hl : F.Accepts .empty l draft) (hitems : List.Forall₂ (StandsFor l) r.fields items) :
    F.readItems .empty F.order (.ofList items) = .ok (fun f => (draft f).or (default? f), .done) := by
  rw [hr.fields, List.forall₂_map_left_iff] at hitems
  refine RecordFormat.readItems_forall₂ (hitems.imp fun f v hv => ?_) fun f hf => absurd (hr.complete f) hf
  rcases hv with ⟨key, hkey, hm⟩ | ⟨habsent, d, hd, rfl⟩
  · obtain ⟨content, hread, hdraft⟩ := hl.read_of_mem hm (hr.field?_eq_some.mpr hkey)
    exact ⟨content, hread, by rw [hdraft, Option.some_or]⟩
  · have hnone : draft f = none := by
      refine hl.eq_of_absent fun key w hm hkey => ?_
      exact habsent key w hm (hr.field?_eq_some.mp hkey)
    obtain ⟨content, hread, hdefault⟩ := hr.default f d hd
    exact ⟨content, hread, by rw [hnone, hdefault, Option.none_or]⟩

/-- Another spelling of a record is read as the same record. -/
theorem kept_here (hr : Reads r F make default? reader) (h : Respelling Sound (.record r) v v')
    (ha : reader v = .ok a) : reader v' = .ok a := by
  cases h with
  | reorder hperm => exact hr.of_accepts ha fun draft hl => hl.perm hperm
  | rename hfield hkey hkey' =>
    obtain ⟨f, rfl⟩ := hr.exists_field hfield
    refine hr.of_accepts ha fun draft hl => hl.replace ?_ (fun _ h => h) fun _ _ _ h => h
    rw [hr.field?_eq_some.mpr hkey, hr.field?_eq_some.mpr hkey']
  | add hkey hv =>
    refine hr.of_accepts ha fun draft hl => ?_
    exact (RecordFormat.Accepts.middle_other (hr.field?_eq_none hkey)).mpr ⟨Node.pass_of_check hv, hl⟩
  | remove hkey =>
    refine hr.of_accepts ha fun draft hl => ?_
    exact ((RecordFormat.Accepts.middle_other (hr.field?_eq_none hkey)).mp hl).2
  | toList hlist hitems =>
    obtain ⟨draft, hl, hmake⟩ := hr.exists_accepts ha
    exact (hr.list _ _).mpr ⟨hlist, _, hr.readItems hl hitems, hr.made draft a hmake⟩

theorem kept (hr : Reads r F make default? reader) (h : Within (Respelling Sound) (.record r) v v')
    (ha : reader v = .ok a) : reader v' = .ok a := by
  cases h with
  | here h => exact hr.kept_here h ha
  | @member _ key v v' before after hwithin =>
    refine hr.of_accepts ha fun draft hl => ?_
    cases key with
    | error e => exact absurd (hl.keys (.error e, v) (by simp)) nofun
    | ok key =>
      rw [hr.member] at hwithin
      -- What is no field is passed over; a field is read by its own reader, which respects the change.
      refine hl.replace rfl (fun hnone => ?_) fun f hf content => ?_
      · rw [hnone] at hwithin
        exact Test.pass.within (fun _ => Node.pass_of_check) hwithin
      · rw [hf] at hwithin
        exact (hr.content f).kept hwithin
  | item hk hwithin =>
    obtain ⟨hlist, draft, hitems, hmake⟩ := (hr.list _ _).mp ha
    rw [hr.item?] at hk
    obtain ⟨f, hf, rfl⟩ := Option.map_eq_some_iff.mp hk
    obtain ⟨content, hcontent, hother⟩ := RecordFormat.readItems_middle hf hitems
    exact (hr.list _ _).mpr ⟨hlist, draft, hother _ ((hr.content f).kept hwithin hcontent), hmake⟩

theorem refused (hr : Reads r F make default? reader) (h : Within Doubling (.record r) v v') : reader v' ≠ .ok a := by
  intro ha
  cases h with
  | here h =>
    cases h with
    | twice hfield hkey hkey' hm =>
      obtain ⟨f, rfl⟩ := hr.exists_field hfield
      obtain ⟨draft, hl, -⟩ := hr.exists_accepts ha
      exact RecordFormat.Accepts.false_of_twice (hr.field?_eq_some.mpr hkey) (hr.field?_eq_some.mpr hkey') hm hl
  | @member _ key v v' before after hwithin =>
    obtain ⟨draft, hl, -⟩ := hr.exists_accepts ha
    cases key with
    | error e => exact absurd (hl.keys (.error e, v') (by simp)) nofun
    | ok key =>
      rw [hr.member] at hwithin
      cases hf : F.field? key with
      | none =>
        rw [hf] at hwithin
        exact not_doubling_ignored hwithin
      | some f =>
        rw [hf] at hwithin
        obtain ⟨content, hcontent, -⟩ := hl.read_of_mem (v := v') (by simp) hf
        exact (hr.content f).refused hwithin hcontent
  | item hk hwithin =>
    obtain ⟨-, draft, hitems, -⟩ := (hr.list _ _).mp ha
    rw [hr.item?] at hk
    obtain ⟨f, hf, rfl⟩ := Option.map_eq_some_iff.mp hk
    obtain ⟨content, hcontent, -⟩ := RecordFormat.readItems_middle hf hitems
    exact (hr.content f).refused hwithin hcontent

theorem respects (hr : Reads r F make default? reader) : Respects (.record r) reader := ⟨hr.kept, hr.refused⟩

end Reads

end Record
end RouteCompiler.Spelling
