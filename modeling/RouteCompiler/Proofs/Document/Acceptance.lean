import Mathlib.Data.List.Basic
import Mathlib.Data.List.Perm.Basic
import RouteCompiler.Proofs.Document.Reading

/-! # When a record is read

Whether a table is read as a record does not depend on the order of its members, only on what each field
is given: nothing, or one value that is read. Everything else in the table is passed over. -/

namespace RouteCompiler.Document

variable {ε : Type}

/-! ### Lists and tables without a break -/

/-- The key and the value of a member. -/
abbrev Entry (ε : Type) := Except ε String × Node ε

def Members.ofList : List (Entry ε) → Members ε
  | [] => .done
  | (key, v) :: rest => .member key v (ofList rest)

def Items.ofList : List (Node ε) → Items ε
  | [] => .done
  | v :: rest => .item v (ofList rest)

mutual

/-- What is in order can be passed over. -/
theorem Node.pass_of_check : ∀ {v : Node ε}, v.check = .ok () → v.pass = .ok ()
  | .null, _ | .bool _, _ | .integer _, _ | .float _, _ | .text _, _ => rfl
  | .list _, h => Items.pass_of_check h
  | .table _, h => Members.pass_of_check h

theorem Items.pass_of_check : ∀ {items : Items ε}, items.check = .ok () → items.pass = .ok ()
  | .done, _ => rfl
  | .item head rest, h => by
    rw [Items.check] at h
    cases hhead : head.check with
    | error e => simp [hhead] at h
    | ok _ =>
      simp only [hhead] at h
      simp [Items.pass, Node.pass_of_check hhead, Items.pass_of_check h]

theorem Members.pass_of_check : ∀ {members : Members ε}, members.check = .ok () → members.pass = .ok ()
  | .done, _ => rfl
  | .member (.ok _) value rest, h => by
    rw [Members.check] at h
    cases hvalue : value.check with
    | error e => simp [hvalue] at h
    | ok _ =>
      simp only [hvalue] at h
      simp [Members.pass, Node.pass_of_check hvalue, Members.pass_of_check h]

end

theorem Items.check_ofList {vs : List (Node ε)} : (ofList vs).check = .ok () ↔ ∀ v ∈ vs, v.check = .ok () := by
  induction vs with
  | nil => simp [ofList, check]
  | cons v vs ih =>
    rw [List.forall_mem_cons, ← ih, ofList, check]
    cases v.check <;> simp

theorem Items.pass_ofList {vs : List (Node ε)} : (ofList vs).pass = .ok () ↔ ∀ v ∈ vs, v.pass = .ok () := by
  induction vs with
  | nil => simp [ofList, pass]
  | cons v vs ih =>
    rw [List.forall_mem_cons, ← ih, ofList, pass]
    cases v.pass <;> simp

theorem Members.check_ofList {l : List (Entry ε)} :
    (ofList l).check = .ok () ↔ ∀ m ∈ l, m.1.isOk = true ∧ m.2.check = .ok () := by
  induction l with
  | nil => simp [ofList, check]
  | cons m l ih =>
    obtain ⟨key, v⟩ := m
    rw [List.forall_mem_cons, ← ih]
    cases key with
    | error e => simp [ofList, check, Except.isOk, Except.toBool]
    | ok key => cases hv : v.check <;> simp [ofList, check, hv, Except.isOk, Except.toBool]

theorem Members.pass_ofList {l : List (Entry ε)} : (ofList l).pass = .ok () ↔ ∀ m ∈ l, m.2.pass = .ok () := by
  induction l with
  | nil => simp [ofList, pass]
  | cons m l ih =>
    obtain ⟨key, v⟩ := m
    rw [List.forall_mem_cons, ← ih, ofList, pass]
    cases v.pass <;> simp

/-- In a list that is read every item is read, and it could be any other that is read as the same. -/
theorem Items.readAll_middle {α : Type} {reader : Node ε → Reading ε α} {before after : List (Node ε)} {v : Node ε}
    {as : List α} (h : (ofList (before ++ v :: after)).readAll reader = .ok as) :
    ∃ a, reader v = .ok a ∧
      ∀ v', reader v' = .ok a → (ofList (before ++ v' :: after)).readAll reader = .ok as := by
  induction before generalizing as with
  | nil =>
    rw [List.nil_append, ofList, readAll] at h
    cases hv : reader v with
    | error e => simp [hv] at h
    | ok a =>
      refine ⟨a, rfl, fun v' hv' => ?_⟩
      simpa only [List.nil_append, ofList, readAll, hv, hv'] using h
  | cons w before ih =>
    rw [List.cons_append, ofList, readAll] at h
    cases hw : reader w with
    | error e => simp [hw] at h
    | ok b =>
      cases hrest : (ofList (before ++ v :: after)).readAll reader with
      | error e => simp [hw, hrest] at h
      | ok bs =>
        obtain ⟨a, ha, hother⟩ := ih hrest
        refine ⟨a, ha, fun v' hv' => ?_⟩
        simpa only [List.cons_append, ofList, readAll, hw, hrest, hother v' hv'] using h

/-! ### What a field is given -/

/-- What a field has before and after the values that it is given are read. -/
inductive Settles {α : Type} (reader : Node ε → Reading ε α) : Option α → List (Node ε) → Option α → Prop where
  | none {o : Option α} : Settles reader o [] o
  | one {v : Node ε} {a : α} (h : reader v = .ok a) : Settles reader .none [v] (some a)

namespace Settles
variable {α : Type} {reader : Node ε → Reading ε α} {o o' : Option α} {vs ws : List (Node ε)} {v : Node ε}

theorem nil_iff : Settles reader o [] o' ↔ o' = o := by
  constructor
  · rintro ⟨⟩
    rfl
  · rintro rfl
    exact .none

theorem cons_iff : Settles reader o (v :: vs) o' ↔ o = .none ∧ vs = [] ∧ ∃ a, reader v = .ok a ∧ o' = some a := by
  constructor
  · intro h
    cases h with
    | one h => exact ⟨rfl, rfl, _, h, rfl⟩
  · rintro ⟨rfl, rfl, a, h, rfl⟩
    exact .one h

theorem some_iff {a : α} : Settles reader (some a) vs o' ↔ vs = [] ∧ o' = some a := by
  constructor
  · rintro ⟨⟩
    exact ⟨rfl, rfl⟩
  · rintro ⟨rfl, rfl⟩
    exact .none

theorem perm (h : Settles reader o vs o') (hperm : vs.Perm ws) : Settles reader o ws o' := by
  cases h with
  | none =>
    obtain rfl := List.perm_nil.mp hperm.symm
    exact .none
  | one h =>
    obtain rfl := List.perm_singleton.mp hperm.symm
    exact .one h

theorem exists_of_mem (h : Settles reader o vs o') (hv : v ∈ vs) : ∃ a, reader v = .ok a ∧ o' = some a := by
  cases h with
  | none => cases hv
  | one h =>
    obtain rfl := List.mem_singleton.mp hv
    exact ⟨_, h, rfl⟩

end Settles

namespace RecordFormat
variable {Field : Type} {Content : Field → Type} [DecidableEq Field] {F : RecordFormat ε Field Content}
  {draft draft' : Draft Content} {f : Field} {key key' : String} {v v' : Node ε} {l before after : List (Entry ε)}

/-- All names of a field. -/
def names (F : RecordFormat ε Field Content) (f : Field) : List String := F.name f :: F.otherNames f

/-- The field of a key, if the key has a text and the text is a name. -/
def fieldOf (F : RecordFormat ε Field Content) : Except ε String → Option Field
  | .ok key => F.field? key
  | .error _ => none

omit [DecidableEq Field] in
/-- If no name stands for two fields, each name leads to its field. -/
theorem field?_eq_some (hcomplete : ∀ f, f ∈ F.order) (hdistinct : (F.order.flatMap F.names).Nodup) :
    F.field? key = some f ↔ key ∈ F.names f := by
  have hname (g : Field) : (key == F.name g || (F.otherNames g).contains key) = true ↔ key ∈ F.names g := by
    simp [names]
  constructor
  · intro h
    rw [field?] at h
    have := List.find?_some h
    exact (hname f).mp this
  · intro h
    obtain ⟨as, bs, horder⟩ := List.append_of_mem (hcomplete f)
    rw [horder, List.flatMap_append, List.flatMap_cons, List.nodup_append] at hdistinct
    refine List.find?_eq_some_iff_append.mpr ⟨(hname f).mpr h, as, bs, horder, fun g hg => ?_⟩
    rw [Bool.not_eq_true', ← Bool.not_eq_true, hname g]
    intro hother
    exact hdistinct.2.2 key (List.mem_flatMap_of_mem hg hother) key (List.mem_append_left _ h) rfl

/-- The values of the members that name the field. -/
def given (F : RecordFormat ε Field Content) (f : Field) (l : List (Entry ε)) : List (Node ε) :=
  (l.filter fun m => F.fieldOf m.1 = some f).map Prod.snd

theorem given_cons (m : Entry ε) (l : List (Entry ε)) :
    F.given f (m :: l) = if F.fieldOf m.1 = some f then m.2 :: F.given f l else F.given f l := by
  by_cases h : F.fieldOf m.1 = some f <;> simp [given, h]

theorem mem_given {m : Entry ε} (hm : m ∈ l) (h : F.fieldOf m.1 = some f) : m.2 ∈ F.given f l :=
  List.mem_map_of_mem (List.mem_filter.mpr ⟨hm, by simpa using h⟩)

theorem given_perm {l' : List (Entry ε)} (h : l.Perm l') : (F.given f l).Perm (F.given f l') :=
  (h.filter _).map _

/-- The members fill in a draft: they have keys, each field is given at most one value, and what names no
field can be passed over. -/
structure Accepts (F : RecordFormat ε Field Content) (draft : Draft Content) (l : List (Entry ε))
    (draft' : Draft Content) : Prop where
  keys : ∀ m ∈ l, m.1.isOk = true
  others : ∀ m ∈ l, F.fieldOf m.1 = none → m.2.pass = .ok ()
  fields : ∀ f, Settles (F.read f) (draft f) (F.given f l) (draft' f)

theorem Accepts.nil : F.Accepts draft [] draft := ⟨nofun, nofun, fun _ => .none⟩

theorem Accepts.cons_other (hkey : F.field? key = none) :
    F.Accepts draft ((.ok key, v) :: l) draft' ↔ v.pass = .ok () ∧ F.Accepts draft l draft' := by
  have hgiven (f : Field) : F.given f ((.ok key, v) :: l) = F.given f l := by simp [given_cons, fieldOf, hkey]
  constructor
  · rintro ⟨hkeys, hothers, hfields⟩
    have hkeys := (List.forall_mem_cons.mp hkeys).2
    obtain ⟨hv, hothers⟩ := List.forall_mem_cons.mp hothers
    exact ⟨hv hkey, hkeys, hothers, fun f => hgiven f ▸ hfields f⟩
  · rintro ⟨hv, hkeys, hothers, hfields⟩
    refine ⟨List.forall_mem_cons.mpr ⟨rfl, hkeys⟩, List.forall_mem_cons.mpr ⟨fun _ => hv, hothers⟩, fun f => ?_⟩
    rw [hgiven f]
    exact hfields f

theorem Accepts.cons_field (hkey : F.field? key = some f) :
    F.Accepts draft ((.ok key, v) :: l) draft' ↔
      draft f = none ∧ ∃ content, F.read f v = .ok content ∧ F.Accepts (draft.set f content) l draft' := by
  have hself : F.given f ((.ok key, v) :: l) = v :: F.given f l := by simp [given_cons, fieldOf, hkey]
  have hgiven {g : Field} (hg : f ≠ g) : F.given g ((.ok key, v) :: l) = F.given g l := by
    simp [given_cons, fieldOf, hkey, hg]
  constructor
  · rintro ⟨hkeys, hothers, hfields⟩
    have hkeys := (List.forall_mem_cons.mp hkeys).2
    have hothers := (List.forall_mem_cons.mp hothers).2
    obtain ⟨hnew, hrest, content, hread, hlast⟩ := Settles.cons_iff.mp (hself ▸ hfields f)
    refine ⟨hnew, content, hread, hkeys, hothers, fun g => ?_⟩
    by_cases hg : f = g
    · subst hg
      rw [Draft.set_self]
      exact Settles.some_iff.mpr ⟨hrest, hlast⟩
    · rw [Draft.set_of_ne draft _ hg]
      exact hgiven hg ▸ hfields g
  · rintro ⟨hnew, content, hread, hkeys, hothers, hfields⟩
    have hother : F.fieldOf (ε := ε) (.ok key) ≠ none := by simp [fieldOf, hkey]
    refine ⟨List.forall_mem_cons.mpr ⟨rfl, hkeys⟩,
      List.forall_mem_cons.mpr ⟨fun h => absurd h hother, hothers⟩, fun g => ?_⟩
    have hsettled := hfields g
    by_cases hg : f = g
    · subst hg
      rw [Draft.set_self] at hsettled
      obtain ⟨hrest, hlast⟩ := Settles.some_iff.mp hsettled
      rw [hself]
      exact Settles.cons_iff.mpr ⟨hnew, hrest, content, hread, hlast⟩
    · rw [Draft.set_of_ne draft _ hg] at hsettled
      exact hgiven hg ▸ hsettled

theorem readMembers_ofList : F.readMembers draft (.ofList l) = .ok draft' ↔ F.Accepts draft l draft' := by
  induction l generalizing draft with
  | nil =>
    rw [Members.ofList, readMembers, Except.ok.injEq]
    constructor
    · rintro rfl
      exact .nil
    · intro h
      funext f
      exact (Settles.nil_iff.mp (h.fields f)).symm
  | cons m l ih =>
    obtain ⟨key, v⟩ := m
    cases key with
    | error e =>
      constructor
      · intro h
        cases h
      · intro h
        have := h.keys _ List.mem_cons_self
        cases this
    | ok key =>
      rw [Members.ofList, readMembers]
      cases hkey : F.field? key with
      | none =>
        rw [Accepts.cons_other hkey, ← ih]
        cases hpass : v.pass <;> simp
      | some f =>
        rw [Accepts.cons_field hkey]
        cases hdraft : draft f with
        | some content => simp [hdraft]
        | none =>
          cases hread : F.read f v with
          | error e => simp [hdraft, hread]
          | ok content => simp [hdraft, hread, ih]

/-! ### Changes of a table that is read -/

theorem Accepts.perm {l' : List (Entry ε)} (h : F.Accepts draft l draft') (hperm : l.Perm l') :
    F.Accepts draft l' draft' where
  keys m hm := h.keys m (hperm.mem_iff.mpr hm)
  others m hm := h.others m (hperm.mem_iff.mpr hm)
  fields f := (h.fields f).perm (given_perm hperm)

/-- Any member can come first. -/
theorem Accepts.middle {m : Entry ε} :
    F.Accepts draft (before ++ m :: after) draft' ↔ F.Accepts draft (m :: (before ++ after)) draft' :=
  ⟨fun h => h.perm List.perm_middle, fun h => h.perm List.perm_middle.symm⟩

theorem Accepts.middle_other (hkey : F.field? key = none) :
    F.Accepts draft (before ++ (.ok key, v) :: after) draft' ↔
      v.pass = .ok () ∧ F.Accepts draft (before ++ after) draft' := by
  rw [middle, cons_other hkey]

/-- A member can have another name of its field, and another value that is read in the same way. -/
theorem Accepts.replace (hkey : F.field? key' = F.field? key)
    (hother : F.field? key = none → v.pass = .ok () → v'.pass = .ok ())
    (hfield : ∀ f, F.field? key = some f → ∀ content, F.read f v = .ok content → F.read f v' = .ok content)
    (h : F.Accepts draft (before ++ (.ok key, v) :: after) draft') :
    F.Accepts draft (before ++ (.ok key', v') :: after) draft' := by
  rw [middle] at h ⊢
  cases hf : F.field? key with
  | none =>
    obtain ⟨hpass, hrest⟩ := (cons_other hf).mp h
    exact (cons_other (hkey.trans hf)).mpr ⟨hother hf hpass, hrest⟩
  | some f =>
    obtain ⟨hnew, content, hread, hrest⟩ := (cons_field hf).mp h
    exact (cons_field (hkey.trans hf)).mpr ⟨hnew, content, hfield f hf content hread, hrest⟩

theorem Accepts.read_of_mem (h : F.Accepts draft l draft') (hm : (.ok key, v) ∈ l) (hkey : F.field? key = some f) :
    ∃ content, F.read f v = .ok content ∧ draft' f = some content :=
  (h.fields f).exists_of_mem (mem_given hm hkey)

theorem Accepts.eq_of_absent (h : F.Accepts draft l draft')
    (habsent : ∀ key v, (.ok key, v) ∈ l → F.field? key ≠ some f) : draft' f = draft f := by
  have hnone : F.given f l = [] := by
    rw [given, List.map_eq_nil_iff, List.filter_eq_nil_iff]
    rintro ⟨key | key, v⟩ hm hf
    · simp [fieldOf] at hf
    · exact habsent key v hm (of_decide_eq_true hf)
  exact Settles.nil_iff.mp (hnone ▸ h.fields f)

/-- A field is not given a value twice. -/
theorem Accepts.false_of_twice (hkey : F.field? key = some f) (hkey' : F.field? key' = some f)
    (hm : (.ok key, v) ∈ before ++ after) : ¬F.Accepts draft (before ++ (.ok key', v') :: after) draft' := by
  intro h
  obtain ⟨-, content, -, hrest⟩ := (cons_field hkey').mp (middle.mp h)
  obtain ⟨as, bs, hl⟩ := List.append_of_mem hm
  rw [hl, middle, cons_field hkey, Draft.set_self] at hrest
  exact absurd hrest.1 nofun

/-! ### Records -/

theorem readTable_ofList {α : Type} {make : Draft Content → Except Field α} {a : α} :
    F.readTable make (.ofList l) = .ok a ↔ ∃ draft, F.Accepts .empty l draft ∧ make draft = .ok a := by
  rw [readTable]
  cases hread : F.readMembers .empty (.ofList l) with
  | error e =>
    constructor
    · intro h
      cases h
    · rintro ⟨draft, haccepts, -⟩
      rw [readMembers_ofList.mpr haccepts] at hread
      cases hread
  | ok draft =>
    have haccepts := readMembers_ofList.mp hread
    constructor
    · intro h
      cases hmake : make draft with
      | error f => simp [finish, hmake] at h
      | ok b => exact ⟨draft, haccepts, by simpa [finish, hmake] using h⟩
    · rintro ⟨draft', haccepts', hmake⟩
      obtain rfl : draft = draft' := by
        have := hread.symm.trans (readMembers_ofList.mpr haccepts')
        simpa using this
      simp [finish, hmake]

/-- Where a list must end behind its last field, it is read if it does. -/
theorem readList_some {α : Type} {make : Draft Content → Except Field α} {surplus : Problem ε} {items : Items ε}
    {a : α} :
    F.readList make (some surplus) items = .ok a ↔
      ∃ draft, F.readItems .empty F.order items = .ok (draft, .done) ∧ make draft = .ok a := by
  rw [readList]
  cases hread : F.readItems .empty F.order items with
  | error e => simp
  | ok read =>
    obtain ⟨draft, rest⟩ := read
    cases hmake : make draft with
    | error f => simp [finish, hmake]
    | ok b => cases rest <;> simp [finish, hmake, readEnd, Except.map]

/-- In a list that is read the item of a field is read, and it could be any other that is read as the same. -/
theorem readItems_middle {fields : List Field} {before after : List (Node ε)} {read : Draft Content × Items ε}
    (hf : fields[before.length]? = some f)
    (h : F.readItems draft fields (.ofList (before ++ v :: after)) = .ok read) :
    ∃ content, F.read f v = .ok content ∧ ∀ v', F.read f v' = .ok content →
      F.readItems draft fields (.ofList (before ++ v' :: after)) = .ok read := by
  induction before generalizing draft fields read with
  | nil =>
    obtain ⟨fields, rfl⟩ : ∃ rest, fields = f :: rest := by
      cases fields <;> simp_all
    rw [List.nil_append, Items.ofList, readItems] at h
    cases hv : F.read f v with
    | error e => simp [hv] at h
    | ok content =>
      refine ⟨content, rfl, fun v' hv' => ?_⟩
      simpa only [List.nil_append, Items.ofList, readItems, hv, hv'] using h
  | cons w before ih =>
    cases fields with
    | nil => simp at hf
    | cons g fields =>
      rw [List.cons_append, Items.ofList, readItems] at h
      cases hw : F.read g w with
      | error e => simp [hw] at h
      | ok content =>
        cases hrest : F.readItems (draft.set g content) fields (.ofList (before ++ v :: after)) with
        | error e => simp [hw, hrest, Except.mapError] at h
        | ok read' =>
          obtain ⟨a, ha, hother⟩ := ih (by simpa using hf) hrest
          refine ⟨a, ha, fun v' hv' => ?_⟩
          simpa only [List.cons_append, Items.ofList, readItems, hw, hrest, hother v' hv'] using h

/-- One item for each field fills in all fields. -/
theorem readItems_forall₂ {fields : List Field} {items : List (Node ε)} {last : Draft Content}
    (hitems : List.Forall₂ (fun f v => ∃ content, F.read f v = .ok content ∧ last f = some content) fields items)
    (hothers : ∀ f, f ∉ fields → draft f = last f) :
    F.readItems draft fields (.ofList items) = .ok (last, .done) := by
  induction hitems generalizing draft with
  | nil =>
    have : draft = last := funext fun f => hothers f List.not_mem_nil
    rw [Items.ofList, readItems, this]
  | @cons f v fields items hhead _ ih =>
    obtain ⟨content, hread, hlast⟩ := hhead
    have hrest := @ih (draft.set f content) fun g hg => by
      by_cases hfg : f = g
      · subst hfg
        rw [Draft.set_self, hlast]
      · rw [Draft.set_of_ne draft _ hfg]
        exact hothers g (by simp [Ne.symm hfg, hg])
    rw [Items.ofList, readItems, hread]
    simp [hrest, Except.mapError]

end RecordFormat
end RouteCompiler.Document
