import RouteCompiler.Document.Record

/-! # Reading the tree of a value

The tree of a value is whole: a reader that finds what it expects meets no fault. A record is read from the
table of its fields one member after the other, and a missing member leaves its field empty. -/

namespace RouteCompiler.Document

variable {ε : Type}

/-! ### Values -/

mutual

theorem check_node : ∀ v : Value, (v.node : Node ε).check = .ok ()
  | .null => rfl
  | .bool _ => rfl
  | .integer _ => rfl
  | .text _ => rfl
  | .list vs => check_valueItems vs
  | .table ms => check_valueMembers ms

theorem check_valueItems : ∀ vs : List Value, (valueItems vs : Items ε).check = .ok ()
  | [] => rfl
  | v :: vs => by simp [valueItems, Items.check, check_node v, check_valueItems vs]

theorem check_valueMembers : ∀ ms : List (String × Value), (valueMembers ms : Members ε).check = .ok ()
  | [] => rfl
  | (_, v) :: ms => by simp [valueMembers, Members.check, check_node v, check_valueMembers ms]

end

mutual

/-- Two values with the same tree are the same. -/
theorem node_inj : ∀ {v w : Value}, (v.node : Node ε) = w.node → v = w
  | .null, w, h => by
    cases w with
    | null => rfl
    | _ => simp [Value.node] at h
  | .bool _, w, h => by
    cases w with
    | bool _ => exact congrArg Value.bool (Node.bool.inj h)
    | _ => simp [Value.node] at h
  | .integer _, w, h => by
    cases w with
    | integer _ => exact congrArg Value.integer (Node.integer.inj h)
    | _ => simp [Value.node] at h
  | .text _, w, h => by
    cases w with
    | text _ => exact congrArg Value.text (Node.text.inj h)
    | _ => simp [Value.node] at h
  | .list _, w, h => by
    cases w with
    | list _ => exact congrArg Value.list (valueItems_inj (Node.list.inj h))
    | _ => simp [Value.node] at h
  | .table _, w, h => by
    cases w with
    | table _ => exact congrArg Value.table (valueMembers_inj (Node.table.inj h))
    | _ => simp [Value.node] at h

theorem valueItems_inj : ∀ {vs ws : List Value}, (valueItems vs : Items ε) = valueItems ws → vs = ws
  | [], [], _ => rfl
  | [], _ :: _, h => by simp [valueItems] at h
  | _ :: _, [], h => by simp [valueItems] at h
  | v :: vs, w :: ws, h => by
    obtain ⟨hhead, htail⟩ : (v.node : Node ε) = w.node ∧ (valueItems vs : Items ε) = valueItems ws := by
      simpa [valueItems] using h
    rw [node_inj hhead, valueItems_inj htail]

theorem valueMembers_inj : ∀ {ms ns : List (String × Value)},
    (valueMembers ms : Members ε) = valueMembers ns → ms = ns
  | [], [], _ => rfl
  | [], _ :: _, h => by simp [valueMembers] at h
  | _ :: _, [], h => by simp [valueMembers] at h
  | (k, v) :: ms, (l, w) :: ns, h => by
    obtain ⟨rfl, hhead, htail⟩ : k = l ∧ (v.node : Node ε) = w.node ∧
        (valueMembers ms : Members ε) = valueMembers ns := by
      simpa [valueMembers] using h
    rw [node_inj hhead, valueMembers_inj htail]

end

theorem readOption_of_ok {α : Type} {reader : Node ε → Reading ε α} {node : Node ε} {a : α} (hnull : node ≠ .null)
    (h : reader node = .ok a) : node.readOption reader = .ok (some a) := by
  cases node with
  | null => exact absurd rfl hnull
  | _ => simp [Node.readOption, h, Except.map]

theorem readChoice_first {α : Type} {choice : String} {first : Node ε → Reading ε α}
    {others : List (Node ε → Reading ε α)} {v : Value} {a : α} (h : first v.node = .ok a) :
    v.node.readChoice choice (first :: others) = .ok a := by
  simp [Node.readChoice, check_node, h, Except.toOption]

theorem readChoice_second {α : Type} {choice : String} {first second : Node ε → Reading ε α} {v : Value}
    {e : Problem ε} {a : α} (hfirst : first v.node = .error e) (h : second v.node = .ok a) :
    v.node.readChoice choice [first, second] = .ok a := by
  simp [Node.readChoice, check_node, hfirst, h, Except.toOption]

/-- A list is read back item by item. -/
theorem readList_map {α : Type} {reader : Node ε → Reading ε α} {write : α → Value} {as : List α}
    (h : ∀ a ∈ as, reader (write a).node = .ok a) : (Value.list (as.map write)).node.readList reader = .ok as := by
  show (valueItems (as.map write)).readAll reader = .ok as
  induction as with
  | nil => rfl
  | cons a as ih =>
    have hhead := h a List.mem_cons_self
    have htail := ih fun b hb => h b (List.mem_cons_of_mem _ hb)
    simp [valueItems, Items.readAll, hhead, htail]

/-! ### Records -/

@[simp] theorem join_map_some {α : Type} (o : Option α) : (o.map some).join = o := by
  cases o <;> rfl

namespace Draft
variable {Field : Type} {Content : Field → Type} [DecidableEq Field]

omit [DecidableEq Field] in
@[simp] theorem empty_apply (f : Field) : (empty : Draft Content) f = none := rfl

/-- The draft with a field filled in, if there is something to fill in. -/
def setIfSome (draft : Draft Content) (f : Field) : Option (Content f) → Draft Content
  | some content => draft.set f content
  | none => draft

@[simp] theorem setIfSome_self (draft : Draft Content) (f : Field) (o : Option (Content f)) :
    draft.setIfSome f o f = o.or (draft f) := by
  cases o with
  | none => rfl
  | some content => exact set_self draft f content

@[simp] theorem setIfSome_of_ne (draft : Draft Content) {f g : Field} (o : Option (Content f)) (h : f ≠ g) :
    draft.setIfSome f o g = draft g := by
  cases o with
  | none => rfl
  | some content => exact set_of_ne draft content h

end Draft

namespace RecordFormat
variable {Field : Type} {Content : Field → Type} [DecidableEq Field] {format : RecordFormat ε Field Content}
  {draft : Draft Content} {f : Field} {key : String} {rest : List (String × Value)}

theorem readMembers_cons {v : Value} {content : Content f} (hkey : format.field? key = some f) (hnew : draft f = none)
    (hread : format.read f v.node = .ok content) :
    format.readMembers draft (valueMembers ((key, v) :: rest)) =
      format.readMembers (draft.set f content) (valueMembers rest) := by
  simp [valueMembers, readMembers, hkey, hnew, hread]

/-- A member that is written only when there is something to write fills its field just then. -/
theorem readMembers_memberIfSome {α : Type} {write : α → Value} {wrap : α → Content f} (o : Option α)
    (hkey : format.field? key = some f) (hnew : draft f = none)
    (hread : ∀ a, format.read f (write a).node = .ok (wrap a)) :
    format.readMembers draft (valueMembers (Value.memberIfSome key write o ++ rest)) =
      format.readMembers (draft.setIfSome f (o.map wrap)) (valueMembers rest) := by
  cases o with
  | none => rfl
  | some a => exact readMembers_cons hkey hnew (hread a)

theorem readMembers_memberIfSome_last {α : Type} {write : α → Value} {wrap : α → Content f} (o : Option α)
    (hkey : format.field? key = some f) (hnew : draft f = none)
    (hread : ∀ a, format.read f (write a).node = .ok (wrap a)) :
    format.readMembers draft (valueMembers (Value.memberIfSome key write o)) =
      .ok (draft.setIfSome f (o.map wrap)) := by
  have := @readMembers_memberIfSome ε Field Content _ format draft f key [] α write wrap o hkey hnew hread
  rwa [List.append_nil] at this

/-- A record is what is made of the draft that its members fill in. -/
theorem readRecord_table {α : Type} {make : Draft Content → Except Field α} {surplus : Option (Problem ε)}
    {members : List (String × Value)} {a : α}
    (hread : format.readMembers .empty (valueMembers members) = .ok draft) (hmake : make draft = .ok a) :
    format.readRecord make surplus (Value.table members).node = .ok a := by
  simp [Value.node, readRecord, readTable, hread, finish, hmake]

end RecordFormat
end RouteCompiler.Document
