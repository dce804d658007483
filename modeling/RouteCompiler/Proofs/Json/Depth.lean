import RouteCompiler.Proofs.Document.Acceptance
import RouteCompiler.Proofs.Json.RoundTrip

/-! # How deep a tree can be

A list or table of a text can be read unless it lies inside too many others. So a value that is in order and
not too deep in itself can be read wherever a text has it not too deep in others. -/

namespace RouteCompiler.Json
open Document

/-- A list or a table. -/
def Nests : Node Fault → Prop
  | .list _ | .table _ => True
  | _ => False

/-! ### Where the tree of a text is unfit for reading -/

mutual

/-- In a value inside `depth` others, a list or table is unfit for reading only if it lies too deep. -/
def NodeGraded (depth : Nat) : Node Fault → Prop
  | .list items => ItemsGraded (depth + 1) items
  | .table members => MembersGraded (depth + 1) members
  | .unfit _ inner => (Nests inner → maxDepth ≤ depth) ∧ NodeGraded depth inner
  | _ => True

def ItemsGraded (depth : Nat) : Items Fault → Prop
  | .item head rest => NodeGraded depth head ∧ ItemsGraded depth rest
  | _ => True

def MembersGraded (depth : Nat) : Members Fault → Prop
  | .member _ v rest => NodeGraded depth v ∧ MembersGraded depth rest
  | _ => True

end

/-- A token with a value has one that may lie anywhere, because it is neither a list nor a table. -/
def TokenGraded : Token → Prop
  | .scalar v => ∀ depth, NodeGraded depth v
  | _ => True

theorem nodeGraded_numeral (n : Numeral) (depth : Nat) : NodeGraded depth n.node := by
  have hinteger (i : Int) : NodeGraded depth (.integer i) := by simp [NodeGraded]
  refine iteInduction (fun _ => hinteger _) fun _ => ?_
  cases n.toFloat? <;> simp [NodeGraded, Nests]

theorem tokenGraded_word {v : Node Fault} (hv : ∀ depth, NodeGraded depth v) (letters : String) (cs : List Char) :
    TokenGraded (word v letters cs).1 := by
  rw [word]
  cases dropWord letters.toList cs with
  | ok rest => exact hv
  | error fault =>
    intro depth
    simp [NodeGraded]

theorem tokenGraded_ite {p : Prop} [Decidable p] {a b : Token × List Char} (ha : TokenGraded a.1)
    (hb : TokenGraded b.1) : TokenGraded (if p then a else b).1 := by
  split
  · exact ha
  · exact hb

theorem tokenGraded_token (c : Char) (rest : List Char) : TokenGraded (token c rest).1 := by
  have hnull : ∀ depth, NodeGraded depth .null := fun depth => by simp [NodeGraded]
  have hbool (b : Bool) : ∀ depth, NodeGraded depth (.bool b) := fun depth => by simp [NodeGraded]
  unfold token
  refine tokenGraded_ite trivial (tokenGraded_ite trivial (tokenGraded_ite trivial (tokenGraded_ite trivial
    (tokenGraded_ite trivial (tokenGraded_ite trivial (tokenGraded_ite trivial ?_))))))
  refine tokenGraded_ite (tokenGraded_word hnull _ _) ?_
  refine tokenGraded_ite (tokenGraded_word (hbool true) _ _) ?_
  refine tokenGraded_ite (tokenGraded_word (hbool false) _ _) ?_
  refine tokenGraded_ite ?_ fun depth => by simp [NodeGraded]
  cases numeral (c :: rest) with
  | ok n => exact nodeGraded_numeral n.1
  | error fault =>
    intro depth
    cases fault <;> simp [NumeralFault.node, NodeGraded]

theorem tokenGraded_of_mem (length : Nat) (cs : List Char) : ∀ t ∈ tokensWithin length cs, TokenGraded t := by
  induction length generalizing cs with
  | zero => exact nofun
  | succ length ih =>
    cases cs with
    | nil => exact nofun
    | cons c rest =>
      rw [tokensWithin]
      split
      · exact ih rest
      · exact List.forall_mem_cons.mpr ⟨tokenGraded_token c rest, ih _⟩

/-! ### The tree -/

/-- Tokens of a text, as far as its depth is concerned. -/
abbrev Graded (ts : List Token) : Prop := ∀ t ∈ ts, TokenGraded t

theorem Graded.tail {t : Token} {ts : List Token} (h : Graded (t :: ts)) : Graded ts :=
  fun t' ht' => h t' (List.mem_cons_of_mem _ ht')

theorem nodeGraded_nested {depth : Nat} {v : Node Fault} (hv : NodeGraded depth v) :
    NodeGraded depth (nested depth v) := by
  rw [nested]
  split
  · exact hv
  · rw [NodeGraded]
    exact ⟨fun _ => by omega, hv⟩

mutual

theorem value_graded : ∀ (steps depth : Nat) (ts : List Token), Graded ts →
    NodeGraded depth (value steps depth ts).1 ∧ Graded (value steps depth ts).2
  | 0, _, _, h => ⟨by simp [value, NodeGraded], h⟩
  | steps + 1, depth, ts, h => by
    match ts, h with
    | [], h => exact ⟨by simp [value, NodeGraded], h⟩
    | .scalar v :: ts, h => exact ⟨h (.scalar v) List.mem_cons_self depth, h.tail⟩
    | .text (.whole s) :: ts, h => exact ⟨by simp [value, NodeGraded], h.tail⟩
    | .text (.unfit fault) :: ts, h => exact ⟨by simp [value, NodeGraded, Nests], h.tail⟩
    | .text (.broken reading passing) :: ts, h => exact ⟨by simp [value, NodeGraded], h.tail⟩
    | .openList :: ts, h =>
      obtain ⟨hitems, hrest⟩ := firstItem_graded steps (depth + 1) ts h.tail
      exact ⟨nodeGraded_nested (by simpa [NodeGraded] using hitems), hrest⟩
    | .openTable :: ts, h =>
      obtain ⟨hmembers, hrest⟩ := firstMember_graded steps (depth + 1) ts h.tail
      exact ⟨nodeGraded_nested (by simpa [NodeGraded] using hmembers), hrest⟩
    | .closeList :: ts, h | .closeTable :: ts, h | .comma :: ts, h | .colon :: ts, h =>
      exact ⟨by simp [value, NodeGraded], h.tail⟩

theorem firstItem_graded : ∀ (steps depth : Nat) (ts : List Token), Graded ts →
    ItemsGraded depth (firstItem steps depth ts).1 ∧ Graded (firstItem steps depth ts).2
  | 0, _, _, h => ⟨by simp [firstItem, ItemsGraded], h⟩
  | _ + 1, _, [], h => ⟨by simp [firstItem, ItemsGraded], h⟩
  | steps + 1, depth, t :: ts, h => by
    by_cases hclose : t = .closeList
    · subst hclose
      exact ⟨by simp [firstItem, ItemsGraded], h.tail⟩
    · obtain ⟨hhead, hrest⟩ := value_graded steps depth (t :: ts) h
      obtain ⟨htail, hrest⟩ := moreItems_graded steps depth _ hrest
      rw [firstItem_of_ne (by simp) (by simpa using hclose), ItemsGraded]
      exact ⟨⟨hhead, htail⟩, hrest⟩

theorem moreItems_graded : ∀ (steps depth : Nat) (ts : List Token), Graded ts →
    ItemsGraded depth (moreItems steps depth ts).1 ∧ Graded (moreItems steps depth ts).2
  | 0, _, _, h => ⟨by simp [moreItems, ItemsGraded], h⟩
  | _ + 1, _, [], h => ⟨by simp [moreItems, ItemsGraded], h⟩
  | _ + 1, _, .closeList :: _, h => ⟨by simp [moreItems, ItemsGraded], h.tail⟩
  | steps + 1, depth, .comma :: ts, h => by
    by_cases hclose : ∃ ts', ts = .closeList :: ts'
    · obtain ⟨ts', rfl⟩ := hclose
      exact ⟨by simp [moreItems, ItemsGraded], h.tail.tail⟩
    · obtain ⟨hhead, hrest⟩ := value_graded steps depth ts h.tail
      obtain ⟨htail, hrest⟩ := moreItems_graded steps depth _ hrest
      rw [moreItems_comma fun ts' heq => hclose ⟨ts', heq⟩, ItemsGraded]
      exact ⟨⟨hhead, htail⟩, hrest⟩
  | _ + 1, _, .scalar _ :: _, h | _ + 1, _, .text _ :: _, h | _ + 1, _, .openList :: _, h
  | _ + 1, _, .openTable :: _, h | _ + 1, _, .closeTable :: _, h | _ + 1, _, .colon :: _, h =>
    ⟨by simp [moreItems, ItemsGraded], h.tail⟩

theorem firstMember_graded : ∀ (steps depth : Nat) (ts : List Token), Graded ts →
    MembersGraded depth (firstMember steps depth ts).1 ∧ Graded (firstMember steps depth ts).2
  | 0, _, _, h => ⟨by simp [firstMember, MembersGraded], h⟩
  | _ + 1, _, [], h => ⟨by simp [firstMember, MembersGraded], h⟩
  | _ + 1, _, .closeTable :: _, h => ⟨by simp [firstMember, MembersGraded], h.tail⟩
  | steps + 1, depth, .text key :: ts, h => member_graded steps depth key ts h.tail
  | _ + 1, _, .scalar _ :: _, h | _ + 1, _, .openList :: _, h | _ + 1, _, .closeList :: _, h
  | _ + 1, _, .openTable :: _, h | _ + 1, _, .comma :: _, h | _ + 1, _, .colon :: _, h =>
    ⟨by simp [firstMember, MembersGraded], h.tail⟩

theorem member_graded : ∀ (steps depth : Nat) (key : Literal) (ts : List Token), Graded ts →
    MembersGraded depth (member steps depth key ts).1 ∧ Graded (member steps depth key ts).2
  | 0, _, _, _, h => ⟨by simp [member, MembersGraded], h⟩
  | steps + 1, depth, .whole key, ts, h => by
    obtain ⟨hv, hmembers, hrest⟩ := memberValue_graded steps depth ts h
    rw [member, MembersGraded]
    exact ⟨⟨hv, hmembers⟩, hrest⟩
  | steps + 1, depth, .unfit fault, ts, h => by
    obtain ⟨hv, hmembers, hrest⟩ := memberValue_graded steps depth ts h
    rw [member, MembersGraded]
    exact ⟨⟨hv, hmembers⟩, hrest⟩
  | _ + 1, _, .broken _ _, _, h => ⟨by simp [member, MembersGraded], h⟩

theorem memberValue_graded : ∀ (steps depth : Nat) (ts : List Token), Graded ts →
    NodeGraded depth (memberValue steps depth ts).1 ∧ MembersGraded depth (memberValue steps depth ts).2.1 ∧
      Graded (memberValue steps depth ts).2.2
  | 0, _, _, h => ⟨by simp [memberValue, NodeGraded], by simp [memberValue, MembersGraded], h⟩
  | _ + 1, _, [], h => ⟨by simp [memberValue, NodeGraded], by simp [memberValue, MembersGraded], h⟩
  | steps + 1, depth, .colon :: ts, h => by
    obtain ⟨hv, hrest⟩ := value_graded steps depth ts h.tail
    obtain ⟨hmembers, hrest⟩ := moreMembers_graded steps depth _ hrest
    exact ⟨hv, hmembers, hrest⟩
  | _ + 1, _, .scalar _ :: _, h | _ + 1, _, .text _ :: _, h | _ + 1, _, .openList :: _, h
  | _ + 1, _, .closeList :: _, h | _ + 1, _, .openTable :: _, h | _ + 1, _, .closeTable :: _, h
  | _ + 1, _, .comma :: _, h =>
    ⟨by simp [memberValue, NodeGraded], by simp [memberValue, MembersGraded], h.tail⟩

theorem moreMembers_graded : ∀ (steps depth : Nat) (ts : List Token), Graded ts →
    MembersGraded depth (moreMembers steps depth ts).1 ∧ Graded (moreMembers steps depth ts).2
  | 0, _, _, h => ⟨by simp [moreMembers, MembersGraded], h⟩
  | _ + 1, _, [], h => ⟨by simp [moreMembers, MembersGraded], h⟩
  | _ + 1, _, .closeTable :: _, h => ⟨by simp [moreMembers, MembersGraded], h.tail⟩
  | _ + 1, _, [.comma], h => ⟨by simp [moreMembers, MembersGraded], h.tail⟩
  | _ + 1, _, .comma :: .closeTable :: _, h => ⟨by simp [moreMembers, MembersGraded], h.tail.tail⟩
  | steps + 1, depth, .comma :: .text key :: ts, h => member_graded steps depth key ts h.tail.tail
  | _ + 1, _, .comma :: .scalar _ :: _, h | _ + 1, _, .comma :: .openList :: _, h
  | _ + 1, _, .comma :: .closeList :: _, h | _ + 1, _, .comma :: .openTable :: _, h
  | _ + 1, _, .comma :: .comma :: _, h | _ + 1, _, .comma :: .colon :: _, h =>
    ⟨by simp [moreMembers, MembersGraded], h.tail.tail⟩
  | _ + 1, _, .scalar _ :: _, h | _ + 1, _, .text _ :: _, h | _ + 1, _, .openList :: _, h
  | _ + 1, _, .closeList :: _, h | _ + 1, _, .openTable :: _, h | _ + 1, _, .colon :: _, h =>
    ⟨by simp [moreMembers, MembersGraded], h.tail⟩

end

/-- In the tree of a text, a list or table is unfit for reading only if it lies too deep. -/
theorem tree_graded (text : String) : NodeGraded 0 (tree text).1 :=
  (value_graded _ 0 (tokens text) (tokenGraded_of_mem _ _)).1

/-! ### Values that are not deep in themselves -/

/-- A value that is in order, except that it may lie too deep, and has at most so many lists and tables inside
each other. -/
inductive Shallow : Nat → Node Fault → Prop where
  | null {room : Nat} : Shallow room .null
  | bool {room : Nat} (b : Bool) : Shallow room (.bool b)
  | integer {room : Nat} (n : Int) : Shallow room (.integer n)
  | float {room : Nat} (f : Float) : Shallow room (.float f)
  | text {room : Nat} (s : String) : Shallow room (.text s)
  | list {room : Nat} {vs : List (Node Fault)} (h : ∀ v ∈ vs, Shallow room v) :
    Shallow (room + 1) (.list (.ofList vs))
  | table {room : Nat} {l : List (Entry Fault)} (hkeys : ∀ m ∈ l, m.1.isOk = true)
      (h : ∀ m ∈ l, Shallow room m.2) :
    Shallow (room + 1) (.table (.ofList l))
  | tooDeep {room : Nat} {v : Node Fault} (hv : Nests v) (h : Shallow room v) :
    Shallow room (.unfit .nestedTooDeep v)

theorem itemsGraded_ofList {depth : Nat} {vs : List (Node Fault)} :
    ItemsGraded depth (.ofList vs) ↔ ∀ v ∈ vs, NodeGraded depth v := by
  induction vs with
  | nil => simp [Items.ofList, ItemsGraded]
  | cons v vs ih => rw [Items.ofList, ItemsGraded, ih, List.forall_mem_cons]

theorem membersGraded_ofList {depth : Nat} {l : List (Entry Fault)} :
    MembersGraded depth (.ofList l) ↔ ∀ m ∈ l, NodeGraded depth m.2 := by
  induction l with
  | nil => simp [Members.ofList, MembersGraded]
  | cons m l ih => rw [Members.ofList, MembersGraded, ih, List.forall_mem_cons]

/-- Where there is room enough, such a value is in order. -/
theorem Shallow.check {room depth : Nat} {v : Node Fault} (h : Shallow room v) (hgraded : NodeGraded depth v)
    (hroom : depth + room < maxDepth) : v.check = .ok () := by
  induction h generalizing depth with
  | null | bool | integer | float | text => rfl
  | list _ ih =>
    rw [NodeGraded, itemsGraded_ofList] at hgraded
    exact Items.check_ofList.mpr fun v hv => ih v hv (hgraded v hv) (by omega)
  | table hkeys _ ih =>
    rw [NodeGraded, membersGraded_ofList] at hgraded
    exact Members.check_ofList.mpr fun m hm => ⟨hkeys m hm, ih m hm (hgraded m hm) (by omega)⟩
  | tooDeep hv h ih =>
    rw [NodeGraded] at hgraded
    have := hgraded.1 hv
    omega

end RouteCompiler.Json
