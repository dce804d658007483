import RouteCompiler.Json.Read
import RouteCompiler.Proofs.Json.Scalars

/-! # Written values read back

The text of a value is cut into the tokens that the value is made of (`valueTokens`), and these are put
together to the tree of the value. It takes numbers that fit into 64 bits, and lists and tables that do
not lie too deep inside each other (`Fits`). -/

namespace RouteCompiler.Json
open Document

/-- Lists and tables lie at most `room` deep in the value, and its numbers are read as whole numbers. -/
inductive Fits : Nat → Value → Prop where
  | null {room : Nat} : Fits room .null
  | bool {room : Nat} (b : Bool) : Fits room (.bool b)
  | integer {room : Nat} {n : Int} (h : InRange n) : Fits room (.integer n)
  | text {room : Nat} (s : String) : Fits room (.text s)
  | list {room : Nat} {items : List Value} (h : ∀ v ∈ items, Fits room v) : Fits (room + 1) (.list items)
  | table {room : Nat} {members : List (String × Value)} (h : ∀ m ∈ members, Fits room m.2) :
    Fits (room + 1) (.table members)

theorem Fits.mono {room room' : Nat} {v : Value} (h : Fits room v) (hle : room ≤ room') : Fits room' v := by
  induction h generalizing room' with
  | null => exact .null
  | bool b => exact .bool b
  | integer h => exact .integer h
  | text s => exact .text s
  | list _ ih =>
    obtain ⟨n, rfl⟩ := Nat.exists_eq_add_of_lt hle
    exact .list fun v hv => ih v hv (by omega)
  | table _ ih =>
    obtain ⟨n, rfl⟩ := Nat.exists_eq_add_of_lt hle
    exact .table fun m hm => ih m hm (by omega)

theorem Fits.listMap {α : Type} {room : Nat} {write : α → Value} {as : List α} (h : ∀ a ∈ as, Fits room (write a)) :
    Fits (room + 1) (.list (as.map write)) := by
  refine .list fun v hv => ?_
  obtain ⟨a, ha, rfl⟩ := List.mem_map.mp hv
  exact h a ha

theorem Fits.memberIfSome {α : Type} {room : Nat} {key : String} {write : α → Value} (o : Option α)
    (h : ∀ a, Fits room (write a)) : ∀ m ∈ Value.memberIfSome key write o, Fits room m.2 := by
  intro m hm
  cases o with
  | none => cases hm
  | some a =>
    obtain rfl := List.mem_singleton.mp hm
    exact h a

/-! ### Tokens -/

mutual

/-- The tokens of which a value is made. -/
def valueTokens : Value → List Token
  | .null => [.scalar .null]
  | .bool b => [.scalar (.bool b)]
  | .integer n => [.scalar (.integer n)]
  | .text s => [.text (.whole s)]
  | .list [] => [.openList, .closeList]
  | .list (head :: rest) => .openList :: valueTokens head ++ itemTokens rest
  | .table [] => [.openTable, .closeTable]
  | .table ((key, v) :: rest) =>
    .openTable :: .text (.whole key) :: .colon :: valueTokens v ++ memberTokens rest

/-- The tokens of the items behind an item, and of the end of the list. -/
def itemTokens : List Value → List Token
  | [] => [.closeList]
  | head :: rest => .comma :: valueTokens head ++ itemTokens rest

/-- The tokens of the members behind a member, and of the end of the table. -/
def memberTokens : List (String × Value) → List Token
  | [] => [.closeTable]
  | (key, v) :: rest => .comma :: .text (.whole key) :: .colon :: valueTokens v ++ memberTokens rest

end

/-- The text is cut into the tokens, whatever bound on its length is given. -/
def Scans (cs : List Char) (ts : List Token) : Prop := ∀ length, cs.length ≤ length → tokensWithin length cs = ts

theorem Scans.nil : Scans [] [] := by
  intro length _
  cases length <;> rfl

/-- A token in front of a text. -/
theorem Scans.cons {c : Char} {cs rest : List Char} {t : Token} {ts : List Token} (h : Scans rest ts)
    (hspace : isSpace c = false) (htoken : token c cs = (t, rest)) (hle : rest.length ≤ cs.length) :
    Scans (c :: cs) (t :: ts) := by
  intro length hlen
  cases length with
  | zero => simp at hlen
  | succ length =>
    simp only [List.length_cons, Nat.add_le_add_iff_right] at hlen
    simp [tokensWithin, hspace, htoken, h length (Nat.le_trans hle hlen)]

section Scan
variable {rest : List Char} {ts : List Token} (h : Scans rest ts)
include h

theorem Scans.openList : Scans ('[' :: rest) (.openList :: ts) := h.cons (by decide) rfl (Nat.le_refl _)

theorem Scans.closeList : Scans (']' :: rest) (.closeList :: ts) := h.cons (by decide) rfl (Nat.le_refl _)

theorem Scans.openTable : Scans ('\x7b' :: rest) (.openTable :: ts) := h.cons (by decide) rfl (Nat.le_refl _)

theorem Scans.closeTable : Scans ('\x7d' :: rest) (.closeTable :: ts) := h.cons (by decide) rfl (Nat.le_refl _)

theorem Scans.comma : Scans (',' :: rest) (.comma :: ts) := h.cons (by decide) rfl (Nat.le_refl _)

theorem Scans.colon : Scans (':' :: rest) (.colon :: ts) := h.cons (by decide) rfl (Nat.le_refl _)

theorem Scans.nullWord : Scans ("null".toList ++ rest) (.scalar .null :: ts) :=
  h.cons (c := 'n') (by decide) rfl (by simp; omega)

theorem Scans.boolWord (b : Bool) : Scans (compactChars (.bool b) ++ rest) (.scalar (.bool b) :: ts) := by
  cases b with
  | true => exact h.cons (c := 't') (by decide) rfl (by simp; omega)
  | false => exact h.cons (c := 'f') (by decide) rfl (by simp; omega)

theorem Scans.quoted (s : String) : Scans (quotedChars s ++ rest) (.text (.whole s) :: ts) := by
  have htext : quotedChars s ++ rest = '"' :: (s.toList.flatMap escapedChar ++ '"' :: rest) := by
    simp [quotedChars]
  rw [htext]
  refine h.cons (by decide) ?_ ?_
  · simp [token, literal_quotedChars]
  · simp only [List.length_append, List.length_cons]
    omega

/-- A number is a token by itself if what follows does not go on with it. -/
theorem Scans.integer (hends : EndsNumber rest) {n : Int} (hn : InRange n) :
    Scans (integerChars n ++ rest) (.scalar (.integer n) :: ts) := by
  obtain ⟨c, cs, heq, hc⟩ : ∃ c cs, integerChars n ++ rest = c :: cs ∧ (c = '-' ∨ c.isDigit = true) := by
    rw [integerChars]
    cases hd : Nat.toDigits 10 n.natAbs with
    | nil => exact absurd hd Nat.toDigits_ne_nil
    | cons d ds =>
      by_cases hneg : n < 0
      · exact ⟨'-', d :: ds ++ rest, by simp [hneg], Or.inl rfl⟩
      · exact ⟨d, ds ++ rest, by simp [hneg], Or.inr (isDigit_toDigits n.natAbs d (hd ▸ List.mem_cons_self))⟩
  have hnum := numeral_integerChars n hends
  have hlen : rest.length ≤ cs.length := by
    have := congrArg List.length heq
    have hpos : 0 < (Nat.toDigits 10 n.natAbs).length := Nat.length_toDigits_pos
    simp only [integerChars, List.length_append, List.length_cons] at this
    omega
  rw [heq] at hnum ⊢
  have hother : ∀ x : Char, x ≠ '-' → x.isDigit = false → c ≠ x := by
    rintro x hx hd rfl
    rcases hc with rfl | hc
    · exact hx rfl
    · rw [hd] at hc
      cases hc
  refine h.cons ?_ ?_ hlen
  · simp [isSpace, hother ' ' (by decide) (by decide), hother '\n' (by decide) (by decide),
      hother '\t' (by decide) (by decide), hother '\r' (by decide) (by decide)]
  · rw [token]
    simp [hother '[' (by decide) (by decide), hother ']' (by decide) (by decide),
      hother '\x7b' (by decide) (by decide), hother '\x7d' (by decide) (by decide),
      hother ',' (by decide) (by decide), hother ':' (by decide) (by decide), hother '"' (by decide) (by decide),
      hother 'n' (by decide) (by decide), hother 't' (by decide) (by decide), hother 'f' (by decide) (by decide),
      hc, hnum, node_of_toDigits hn]

end Scan

theorem endsNumber_compactItems (vs : List Value) (rest : List Char) : EndsNumber (compactItems vs ++ rest) := by
  cases vs <;> simp only [compactItems, List.cons_append] <;> exact endsNumber_cons (by simp)

theorem endsNumber_compactMembers (ms : List (String × Value)) (rest : List Char) :
    EndsNumber (compactMembers ms ++ rest) := by
  cases ms with
  | nil => exact endsNumber_cons (by simp)
  | cons m ms =>
    simp only [compactMembers, List.cons_append]
    exact endsNumber_cons (by simp)

mutual

/-- The text of a value is cut into the tokens of the value. -/
theorem scans_compactChars {room : Nat} : ∀ (v : Value) (rest : List Char) (ts : List Token), Fits room v →
    EndsNumber rest → Scans rest ts → Scans (compactChars v ++ rest) (valueTokens v ++ ts)
  | .null, _, _, _, _, h => h.nullWord
  | .bool b, _, _, _, _, h => h.boolWord b
  | .integer _, _, _, .integer hn, hends, h => h.integer hends hn
  | .text s, _, _, _, _, h => h.quoted s
  | .list [], _, _, _, _, h => h.closeList.openList
  | .list (head :: tail), rest, ts, .list hfit, hends, h => by
    have htail := scans_compactItems tail rest ts (fun v hv => hfit v (List.mem_cons_of_mem _ hv)) h
    have hhead := scans_compactChars head _ _ (hfit head List.mem_cons_self) (endsNumber_compactItems tail rest) htail
    simpa [compactChars, valueTokens] using hhead.openList
  | .table [], _, _, _, _, h => h.closeTable.openTable
  | .table ((key, v) :: tail), rest, ts, .table hfit, hends, h => by
    have htail := scans_compactMembers tail rest ts (fun m hm => hfit m (List.mem_cons_of_mem _ hm)) h
    have hv := scans_compactChars v _ _ (hfit (key, v) List.mem_cons_self) (endsNumber_compactMembers tail rest) htail
    simpa [compactChars, valueTokens] using (hv.colon.quoted key).openTable

theorem scans_compactItems {room : Nat} : ∀ (vs : List Value) (rest : List Char) (ts : List Token),
    (∀ v ∈ vs, Fits room v) → Scans rest ts → Scans (compactItems vs ++ rest) (itemTokens vs ++ ts)
  | [], _, _, _, h => h.closeList
  | head :: tail, rest, ts, hfit, h => by
    have htail := scans_compactItems tail rest ts (fun v hv => hfit v (List.mem_cons_of_mem _ hv)) h
    have hhead := scans_compactChars head _ _ (hfit head List.mem_cons_self) (endsNumber_compactItems tail rest) htail
    simpa [compactItems, itemTokens] using hhead.comma

theorem scans_compactMembers {room : Nat} : ∀ (ms : List (String × Value)) (rest : List Char) (ts : List Token),
    (∀ m ∈ ms, Fits room m.2) → Scans rest ts → Scans (compactMembers ms ++ rest) (memberTokens ms ++ ts)
  | [], _, _, _, h => h.closeTable
  | (key, v) :: tail, rest, ts, hfit, h => by
    have htail := scans_compactMembers tail rest ts (fun m hm => hfit m (List.mem_cons_of_mem _ hm)) h
    have hv := scans_compactChars v _ _ (hfit (key, v) List.mem_cons_self) (endsNumber_compactMembers tail rest) htail
    simpa [compactMembers, memberTokens] using (hv.colon.quoted key).comma

end

theorem tokens_write {room : Nat} {v : Value} (h : Fits room v) : tokens (write v) = valueTokens v := by
  have hscan := scans_compactChars v [] [] h endsNumber_nil .nil
  rw [List.append_nil, List.append_nil] at hscan
  rw [tokens, write, String.toList_ofList]
  exact hscan _ (Nat.le_refl _)

/-! ### Trees -/

theorem valueTokens_ne_closeList (v : Value) (ts : List Token) : ∀ ts', valueTokens v ++ ts ≠ .closeList :: ts' := by
  intro ts' h
  match v with
  | .null | .bool _ | .integer _ | .text _ | .list [] | .list (_ :: _) | .table [] | .table (_ :: _) =>
    simp [valueTokens] at h

theorem firstItem_of_ne {steps depth : Nat} {ts : List Token} (hnil : ts ≠ [])
    (hne : ∀ ts', ts ≠ .closeList :: ts') : firstItem (steps + 1) depth ts =
      (.item (value steps depth ts).1 (moreItems steps depth (value steps depth ts).2).1,
        (moreItems steps depth (value steps depth ts).2).2) := by
  cases ts with
  | nil => exact absurd rfl hnil
  | cons t ts =>
    cases t with
    | closeList => exact absurd rfl (hne ts)
    | _ => rfl

theorem moreItems_comma {steps depth : Nat} {ts : List Token} (hne : ∀ ts', ts ≠ .closeList :: ts') :
    moreItems (steps + 1) depth (.comma :: ts) =
      (.item (value steps depth ts).1 (moreItems steps depth (value steps depth ts).2).1,
        (moreItems steps depth (value steps depth ts).2).2) := by
  cases ts with
  | nil => rfl
  | cons t ts =>
    cases t with
    | closeList => exact absurd rfl (hne ts)
    | _ => rfl

theorem nested_of_lt {depth : Nat} (h : depth < maxDepth) (node : Node Fault) : nested depth node = node := by
  rw [nested, if_pos h]

mutual

/-- The tokens of a value are put together to the tree of the value, whatever follows them. -/
theorem value_valueTokens {room : Nat} : ∀ (v : Value) (steps depth : Nat) (ts : List Token), Fits room v →
    depth + room ≤ maxDepth → 2 * (valueTokens v).length ≤ steps →
      value steps depth (valueTokens v ++ ts) = (v.node, ts)
  | v, 0, _, _, _, _, hsteps => by
    match v with
    | .null | .bool _ | .integer _ | .text _ | .list [] | .list (_ :: _) | .table [] | .table (_ :: _) =>
      simp [valueTokens] at hsteps
  | .null, _ + 1, _, _, _, _, _ => rfl
  | .bool _, _ + 1, _, _, _, _, _ => rfl
  | .integer _, _ + 1, _, _, _, _, _ => rfl
  | .text _, _ + 1, _, _, _, _, _ => rfl
  | .list vs, steps + 1, depth, ts, .list hfit, hdepth, hsteps => by
    have hnested := nested_of_lt (show depth < maxDepth by omega)
    cases vs with
    | nil =>
      cases steps with
      | zero => simp [valueTokens] at hsteps
      | succ steps => simp [valueTokens, value, firstItem, hnested, Value.node, valueItems]
    | cons head tail =>
      simp only [valueTokens, List.length_append, List.length_cons] at hsteps
      obtain ⟨n, rfl⟩ : ∃ n, steps = n + 1 := ⟨steps - 1, by omega⟩
      have hhead := value_valueTokens head n (depth + 1) (itemTokens tail ++ ts) (hfit head List.mem_cons_self)
        (by omega) (by omega)
      have htail := moreItems_itemTokens tail n (depth + 1) ts (fun v hv => hfit v (List.mem_cons_of_mem _ hv))
        (by omega) (by omega)
      have hne : valueTokens head ++ (itemTokens tail ++ ts) ≠ [] := by
        cases tail <;> simp [itemTokens]
      simp only [valueTokens, List.cons_append, List.append_assoc, value]
      rw [firstItem_of_ne hne (valueTokens_ne_closeList head _), hhead, htail, hnested]
      rfl
  | .table ms, steps + 1, depth, ts, .table hfit, hdepth, hsteps => by
    have hnested := nested_of_lt (show depth < maxDepth by omega)
    cases ms with
    | nil =>
      cases steps with
      | zero => simp [valueTokens] at hsteps
      | succ steps => simp [valueTokens, value, firstMember, hnested, Value.node, valueMembers]
    | cons m tail =>
      obtain ⟨key, v⟩ := m
      simp only [valueTokens, List.length_append, List.length_cons] at hsteps
      obtain ⟨n, rfl⟩ : ∃ n, steps = n + 3 := ⟨steps - 3, by omega⟩
      have hv := value_valueTokens v n (depth + 1) (memberTokens tail ++ ts) (hfit (key, v) List.mem_cons_self)
        (by omega) (by omega)
      have htail := moreMembers_memberTokens tail n (depth + 1) ts
        (fun m hm => hfit m (List.mem_cons_of_mem _ hm)) (by omega) (by omega)
      simp only [valueTokens, List.cons_append, List.append_assoc, value, firstMember, member, memberValue, hv, htail,
        hnested]
      rfl

theorem moreItems_itemTokens {room : Nat} : ∀ (vs : List Value) (steps depth : Nat) (ts : List Token),
    (∀ v ∈ vs, Fits room v) → depth + room ≤ maxDepth → 2 * (itemTokens vs).length ≤ steps →
      moreItems steps depth (itemTokens vs ++ ts) = (valueItems vs, ts)
  | [], 0, _, _, _, _, hsteps => by simp [itemTokens] at hsteps
  | [], _ + 1, _, _, _, _, _ => rfl
  | head :: tail, steps, depth, ts, hfit, hdepth, hsteps => by
    simp only [itemTokens, List.length_append, List.length_cons] at hsteps
    obtain ⟨n, rfl⟩ : ∃ n, steps = n + 1 := ⟨steps - 1, by omega⟩
    have hhead := value_valueTokens head n depth (itemTokens tail ++ ts) (hfit head List.mem_cons_self) hdepth
      (by omega)
    have htail := moreItems_itemTokens tail n depth ts (fun v hv => hfit v (List.mem_cons_of_mem _ hv)) hdepth
      (by omega)
    simp only [itemTokens, List.cons_append, List.append_assoc]
    rw [moreItems_comma (valueTokens_ne_closeList head _), hhead, htail]
    rfl

theorem moreMembers_memberTokens {room : Nat} : ∀ (ms : List (String × Value)) (steps depth : Nat)
    (ts : List Token), (∀ m ∈ ms, Fits room m.2) → depth + room ≤ maxDepth → 2 * (memberTokens ms).length ≤ steps →
      moreMembers steps depth (memberTokens ms ++ ts) = (valueMembers ms, ts)
  | [], 0, _, _, _, _, hsteps => by simp [memberTokens] at hsteps
  | [], _ + 1, _, _, _, _, _ => rfl
  | (key, v) :: tail, steps, depth, ts, hfit, hdepth, hsteps => by
    simp only [memberTokens, List.length_append, List.length_cons] at hsteps
    obtain ⟨n, rfl⟩ : ∃ n, steps = n + 3 := ⟨steps - 3, by omega⟩
    have hv := value_valueTokens v n depth (memberTokens tail ++ ts) (hfit (key, v) List.mem_cons_self) hdepth
      (by omega)
    have htail := moreMembers_memberTokens tail n depth ts (fun m hm => hfit m (List.mem_cons_of_mem _ hm)) hdepth
      (by omega)
    simp only [memberTokens, List.cons_append, List.append_assoc, moreMembers, member, memberValue, hv, htail]
    rfl

end

/-- A text with the tokens of a value holds the tree of the value, and nothing else. -/
theorem tree_of_tokens {text : String} {v : Value} (h : Fits maxDepth v) (htokens : tokens text = valueTokens v) :
    tree text = (v.node, []) := by
  have := value_valueTokens v (2 * (valueTokens v).length + 1) 0 [] h (by omega) (by omega)
  rwa [List.append_nil, ← treeOf, ← htokens] at this

theorem tree_write {v : Value} (h : Fits maxDepth v) : tree (write v) = (v.node, []) :=
  tree_of_tokens h (tokens_write h)

/-- What a reader makes of the tree of a value, it makes of the text of the value. -/
theorem read_write {α : Type} {reader : Node Fault → Reading Fault α} {v : Value} {a : α} (h : Fits maxDepth v)
    (hread : reader v.node = .ok a) : read reader (write v) = .ok a := by
  have htree : treeOf (tokens (write v)) = (v.node, []) := tree_write h
  simp [read, readTokens, htree, hread]

end RouteCompiler.Json
