import Mathlib.Data.List.Forall2
import Mathlib.Data.List.Nodup
import RouteCompiler.Proofs.Document.Acceptance
import RouteCompiler.Proofs.Json.RoundTrip
import RouteCompiler.Proofs.Toml.Scalars
import RouteCompiler.Toml.Read

/-! # Written documents read back

The text of a value is read as the tree of the value, without what is `null` in it (`Value.stripped`). It takes
numbers of 64 bits with a sign and different keys in every table (`Plain`), and lists and tables that do not lie
too deep inside each other (`Json.Fits`). -/

namespace RouteCompiler

namespace Document

mutual

/-- The value without the members and items that are `null`. -/
def Value.stripped : Value → Value
  | .list vs => .list (strippedItems vs)
  | .table ms => .table (strippedMembers ms)
  | v => v

def strippedItems : List Value → List Value
  | [] => []
  | .null :: vs => strippedItems vs
  | v :: vs => v.stripped :: strippedItems vs

def strippedMembers : List (String × Value) → List (String × Value)
  | [] => []
  | (_, .null) :: ms => strippedMembers ms
  | (key, v) :: ms => (key, v.stripped) :: strippedMembers ms

end

theorem strippedItems_cons {v : Value} (hv : v ≠ .null) (vs : List Value) :
    strippedItems (v :: vs) = v.stripped :: strippedItems vs := by
  cases v with
  | null => exact absurd rfl hv
  | _ => rfl

theorem strippedMembers_cons {v : Value} (hv : v ≠ .null) (key : String) (ms : List (String × Value)) :
    strippedMembers ((key, v) :: ms) = (key, v.stripped) :: strippedMembers ms := by
  cases v with
  | null => exact absurd rfl hv
  | _ => rfl

theorem keys_strippedMembers (ms : List (String × Value)) :
    ((strippedMembers ms).map Prod.fst).Sublist (ms.map Prod.fst) := by
  induction ms with
  | nil => exact .slnil
  | cons m ms ih =>
    obtain ⟨key, v⟩ := m
    by_cases hv : v = .null
    · subst hv
      exact ih.cons key
    · rw [strippedMembers_cons hv]
      exact ih.cons_cons key

/-- Only members are lost with what is `null`, so different keys stay different. -/
theorem nodup_strippedNodes {ε : Type} {ms : List (String × Value)} (h : (ms.map Prod.fst).Nodup) :
    (((strippedMembers ms).map fun m => (m.1, (m.2.node : Node ε))).map Prod.fst).Nodup := by
  rw [List.map_map]
  exact h.sublist (keys_strippedMembers ms)

theorem valueItems_eq {ε : Type} (vs : List Value) : (valueItems vs : Items ε) = .ofList (vs.map Value.node) := by
  induction vs with
  | nil => rfl
  | cons v vs ih => rw [valueItems, ih, List.map_cons, Items.ofList]

theorem valueMembers_eq {ε : Type} (ms : List (String × Value)) :
    (valueMembers ms : Members ε) = .ofList (ms.map fun m => (.ok m.1, m.2.node)) := by
  induction ms with
  | nil => rfl
  | cons m ms ih => rw [valueMembers, ih, List.map_cons, Members.ofList]

end Document

namespace Toml
open Document

/-- The numbers in the value have 64 bits with a sign, and no key of a table is given twice. -/
inductive Plain : Value → Prop where
  | null : Plain .null
  | bool (b : Bool) : Plain (.bool b)
  | integer {n : Int} (h : InRange n) : Plain (.integer n)
  | text (s : String) : Plain (.text s)
  | list {items : List Value} (h : ∀ v ∈ items, Plain v) : Plain (.list items)
  | table {members : List (String × Value)} (hkeys : (members.map Prod.fst).Nodup) (h : ∀ m ∈ members, Plain m.2) :
    Plain (.table members)

/-! ### Blanks and lines -/

/-- Neither a blank nor anything that ends a line or starts a comment. -/
def Solid (c : Char) : Prop := c ∉ [' ', '\t', '\n', '\r', '#']

instance (c : Char) : Decidable (Solid c) := inferInstanceAs (Decidable (c ∉ _))

theorem Solid.dropBlanks {c : Char} (h : Solid c) (cs : List Char) : dropBlanks (c :: cs) = c :: cs := by
  simp only [Solid, List.mem_cons, List.not_mem_nil, or_false, not_or] at h
  exact List.dropWhile_cons_of_neg (by simp [isBlank, h])

theorem dropBlanks_blank (cs : List Char) : dropBlanks (' ' :: cs) = dropBlanks cs := rfl

/-- There are no lines to drop in front of what is solid, and a blank in front of it is dropped. -/
theorem Solid.dropLines {c : Char} (h : Solid c) (cs : List Char) :
    dropLines (c :: cs) = .ok (c :: cs) ∧ dropLines (' ' :: c :: cs) = .ok (c :: cs) := by
  have hblanks := h.dropBlanks cs
  simp only [Solid, List.mem_cons, List.not_mem_nil, or_false, not_or] at h
  obtain ⟨-, -, hline, hreturn, hcomment⟩ := h
  constructor <;> simp [Toml.dropLines, dropLinesWithin, dropBlanks_blank, hblanks, hline, hreturn, hcomment]

/-! ### Values -/

/-- The text starts like a value, and it is read as the tree where lists and tables may lie `room` deep. Every
second step of the reader takes a character. -/
structure ReadsAs (room : Nat) (cs : List Char) (node : Node Empty) : Prop where
  head : ∃ c tail, cs = c :: tail ∧ Solid c ∧ c ≠ ']'
  value : ∀ steps depth rest, EndsValue rest → 2 * (cs ++ rest).length < steps → depth + room < depthLimit →
    value steps depth (cs ++ rest) = .ok (node, rest)

theorem readsAs_of_scalar {room : Nat} {c : Char} {cs : List Char} {node : Node Empty} (hsolid : Solid c)
    (hlist : c ∉ ['[', '\x7b', ']']) (h : ∀ rest, EndsValue rest → scalar (c :: cs ++ rest) = .ok (node, rest)) :
    ReadsAs room (c :: cs) node := by
  simp only [List.mem_cons, List.not_mem_nil, or_false, not_or] at hlist
  obtain ⟨hopen, hbrace, hclose⟩ := hlist
  refine ⟨⟨c, cs, rfl, hsolid, hclose⟩, fun steps depth rest hends hsteps _ => ?_⟩
  obtain ⟨n, rfl⟩ : ∃ n, steps = n + 1 := ⟨steps - 1, by omega⟩
  simpa [value, hopen, hbrace] using h rest hends

theorem dropWord_append (word rest : List Char) : dropWord word (word ++ rest) = some rest := by
  induction word with
  | nil => rfl
  | cons c word ih => simpa [dropWord] using ih

theorem word_append (name : String) (node : Node Empty) (rest : List Char) :
    word name node (name.toList ++ rest) = .ok (node, rest) := by
  rw [word, dropWord_append]

theorem readsAs_bool (room : Nat) {b : Bool} {cs : List Char} (h : valueChars? (.bool b) = some cs) :
    ReadsAs room cs (.bool b) := by
  cases b <;> obtain rfl := Option.some.inj h
  · have hword (rest : List Char) := congrArg settle (word_append "false" (.bool false) rest)
    exact readsAs_of_scalar (by decide) (by decide) fun rest _ => hword rest
  · have hword (rest : List Char) := congrArg settle (word_append "true" (.bool true) rest)
    exact readsAs_of_scalar (by decide) (by decide) fun rest _ => hword rest

theorem readsAs_text (room : Nat) (s : String) : ReadsAs room (quotedChars s) (.text s) := by
  refine readsAs_of_scalar (c := '"') (by decide) (by decide) fun rest hends => ?_
  have hquote : ∀ cs, rest ≠ '"' :: cs := by
    rintro cs rfl
    exact hends.ne (d := '"') (by decide) rfl
  have hread := string_quotedChars s hquote
  simp only [quotedChars, List.cons_append, List.append_assoc, List.nil_append] at hread ⊢
  simp [scalar, hread, Except.map]

theorem integerChars_eq_cons (n : Int) : ∃ c cs, integerChars n = c :: cs ∧ (c = '-' ∨ c.isDigit = true) := by
  obtain ⟨d, ds, hd⟩ := List.exists_cons_of_ne_nil (Nat.toDigits_ne_nil (n := n.natAbs) (b := 10))
  by_cases hneg : n < 0
  · exact ⟨'-', d :: ds, by simp [integerChars, hneg, hd], Or.inl rfl⟩
  · exact ⟨d, ds, by simp [integerChars, hneg, hd], Or.inr (Json.isDigit_toDigits n.natAbs d (hd ▸ List.mem_cons_self))⟩

theorem readsAs_integer (room : Nat) {n : Int} (hn : InRange n) : ReadsAs room (integerChars n) (.integer n) := by
  obtain ⟨c, cs, hchars, hc⟩ := integerChars_eq_cons n
  have hother : ∀ d : Char, d ≠ '-' → d.isDigit = false → c ≠ d := by
    rintro d hminus hdigit rfl
    rcases hc with rfl | hc
    · exact hminus rfl
    · rw [hdigit] at hc
      cases hc
  have hread : ∀ rest, EndsValue rest → scalar (c :: cs ++ rest) = .ok (.integer n, rest) := fun rest hends =>
    hchars ▸ scalar_integerChars hends hn
  rw [hchars]
  refine readsAs_of_scalar ?_ ?_ hread
  · simp [Solid, hother]
  · simp [hother]

/-! ### Parts with commas between them -/

/-- Texts with commas between them start with the first of them. -/
theorem commaSeparated_cons (cs : List Char) (texts : List (List Char)) :
    ∃ tail, commaSeparated (cs :: texts) = cs ++ tail := by
  cases texts with
  | nil => exact ⟨[], (List.append_nil cs).symm⟩
  | cons => exact ⟨_, rfl⟩

/-- How a reader goes on from one part to the next: up to the closing bracket, or to a comma and what is read behind
it. With so many steps it comes to `behind` when the bracket is followed by `rest`. -/
structure ReadsParts {α β : Type} (part : List Char → α → Prop) (build : List α → β) (closing : Char)
    (rest behind : List Char) (read : Nat → List Char → Except Fault (β × List Char)) : Prop where
  close : ∀ steps, read (steps + 1) (closing :: rest) = .ok (build [], behind)
  last : ∀ {steps cs a}, part cs a → 2 * (cs ++ closing :: rest).length < steps →
    read (steps + 1) (cs ++ closing :: rest) = .ok (build [a], behind)
  next : ∀ {steps cs a more b bs}, part cs a → 2 * (cs ++ ',' :: more).length < steps →
    read steps more = .ok (build (b :: bs), behind) →
      read (steps + 1) (cs ++ ',' :: more) = .ok (build (a :: b :: bs), behind)
  blank : ∀ {steps cs a more}, part cs a → read (steps + 1) (' ' :: (cs ++ more)) = read (steps + 1) (cs ++ more)

/-- Such a reader reads all parts, in order. -/
theorem ReadsParts.commaSeparated {α β : Type} {part : List Char → α → Prop} {build : List α → β} {closing : Char}
    {rest behind : List Char} {read : Nat → List Char → Except Fault (β × List Char)}
    (h : ReadsParts part build closing rest behind read) {texts : List (List Char)} {as : List α}
    (hparts : List.Forall₂ part texts as) (steps : Nat)
    (hsteps : 2 * (commaSeparated texts ++ closing :: rest).length < steps) :
    read (steps + 1) (commaSeparated texts ++ closing :: rest) = .ok (build as, behind) := by
  induction hparts generalizing steps with
  | nil => exact h.close steps
  | @cons cs a texts as hhead htail ih =>
    cases htail with
    | nil => exact h.last hhead hsteps
    | @cons cs' a' texts as hnext hlast =>
      have htext : Toml.commaSeparated (cs :: cs' :: texts) ++ closing :: rest =
          cs ++ ',' :: ' ' :: (Toml.commaSeparated (cs' :: texts) ++ closing :: rest) := by
        simp [Toml.commaSeparated]
      -- The blank behind the comma is read as part of what comes next.
      obtain ⟨tail, htail⟩ := commaSeparated_cons cs' texts
      rw [htext] at hsteps ⊢
      refine h.next hhead hsteps ?_
      simp only [List.length_append, List.length_cons] at hsteps
      obtain ⟨n, rfl⟩ : ∃ n, steps = n + 1 := ⟨steps - 1, by omega⟩
      have hrest := ih n (by simp only [List.length_append, List.length_cons]; omega)
      rw [htail, List.append_assoc] at hrest ⊢
      rw [h.blank hnext, hrest]

/-! ### Lists -/

section Lists
variable {room steps depth : Nat} {cs rest : List Char} {node : Node Empty}

theorem items_close : items (steps + 1) depth (']' :: rest) = .ok (.done, rest) := by
  have hsolid : Solid ']' := by decide
  simp [items, (hsolid.dropLines rest).1]

/-- An item is read to the bracket or to the comma behind it. -/
theorem items_item (h : ReadsAs room cs node) {c : Char} (hc : c = ',' ∨ c = ']')
    (hsteps : 2 * (cs ++ c :: rest).length < steps) (hdepth : depth + room < depthLimit) :
    items (steps + 1) depth (cs ++ c :: rest) =
      if c = ']' then .ok (.item node .done, rest)
      else (items steps depth rest).map fun (is, rest) => (.item node is, rest) := by
  have hends : EndsValue (c :: rest) := endsValue_cons (by rcases hc with rfl | rfl <;> decide)
  have hsolid : Solid c := by rcases hc with rfl | rfl <;> decide
  have hread := h.value steps depth (c :: rest) hends hsteps hdepth
  have hbehind := (hsolid.dropLines rest).1
  obtain ⟨d, tail, rfl, hstart, hclose⟩ := h.head
  have hdrop := (hstart.dropLines (tail ++ c :: rest)).1
  rw [List.cons_append] at hread ⊢
  rcases hc with rfl | rfl <;> simp [items, hdrop, hclose, hread, hbehind]

theorem items_blank (h : ReadsAs room cs node) :
    items (steps + 1) depth (' ' :: (cs ++ rest)) = items (steps + 1) depth (cs ++ rest) := by
  obtain ⟨c, tail, rfl, hsolid, -⟩ := h.head
  simp only [List.cons_append, items, hsolid.dropLines]

end Lists

/-- Texts that are read as nodes are read as a list of them, with commas between and a bracket behind. -/
theorem readsParts_items {room depth : Nat} (hdepth : depth + room < depthLimit) (rest : List Char) :
    ReadsParts (ReadsAs room) Items.ofList ']' rest rest fun steps => items steps depth where
  close _ := items_close
  last hpart hsteps := by
    rw [items_item hpart (Or.inr rfl) hsteps hdepth]
    rfl
  next hpart hsteps hrest := by
    rw [items_item hpart (Or.inl rfl) hsteps hdepth, hrest]
    rfl
  blank := items_blank

/-! ### Tables in braces -/

/-- The text is a key and a text that is read as a node. -/
def ReadsPair (room : Nat) (cs : List Char) (pair : KeyPath × Node Empty) : Prop :=
  ∃ k text, cs = keyChars k ++ ' ' :: '=' :: ' ' :: text ∧ pair.1 = ⟨[], k⟩ ∧ ReadsAs room text pair.2

theorem ReadsPair.dropBlanks {room : Nat} {cs : List Char} {pair : KeyPath × Node Empty} (h : ReadsPair room cs pair)
    (rest : List Char) : dropBlanks (cs ++ rest) = cs ++ rest := by
  obtain ⟨k, text, rfl, -, -⟩ := h
  rw [List.append_assoc, dropBlanks_keyChars]

section Pairs
variable {room steps depth : Nat} {cs rest : List Char} {pair : KeyPath × Node Empty}

theorem pairs_close : pairs (steps + 1) depth ('\x7d' :: rest) = .ok ([], '\x7d' :: rest) := by
  have hsolid : Solid '\x7d' := by decide
  simp [pairs, keyPath, hsolid.dropBlanks, key, isBareKeyChar, Fault.here, Fault.within]

theorem pairs_blank (h : ReadsPair room cs pair) :
    pairs (steps + 1) depth (' ' :: (cs ++ rest)) = pairs (steps + 1) depth (cs ++ rest) := by
  obtain ⟨k, text, rfl, -, -⟩ := h
  have hpath {cs} := @keyPath_of_key cs (' ' :: (text ++ rest)) k
  have hkey := dropBlanks_keyChars k (' ' :: '=' :: ' ' :: (text ++ rest))
  simp only [List.append_assoc, List.cons_append]
  simp only [pairs, hpath hkey, hpath ((dropBlanks_blank _).trans hkey)]

/-- A pair is read to the brace or to the comma behind it. -/
theorem pairs_pair (h : ReadsPair room cs pair) {c : Char} (hc : c = ',' ∨ c = '\x7d')
    (hsteps : 2 * (cs ++ c :: rest).length < steps) (hdepth : depth + room < depthLimit) :
    pairs (steps + 1) depth (cs ++ c :: rest) =
      if c = '\x7d' then .ok ([pair], c :: rest)
      else
        match pairs steps depth rest with
        | .error f => .error f
        | .ok ([], _) => .ok ([pair], c :: rest)
        | .ok (ps, rest) => .ok (pair :: ps, rest) := by
  obtain ⟨k, text, rfl, hpath, hread⟩ := h
  obtain ⟨path, node⟩ := pair
  obtain rfl := hpath
  have hends : EndsValue (c :: rest) := endsValue_cons (by rcases hc with rfl | rfl <;> decide)
  have hsolid : Solid c := by rcases hc with rfl | rfl <;> decide
  have hvalue := hread.value steps depth (c :: rest) hends (by simp at hsteps ⊢; omega) hdepth
  have hkey := keyPath_of_key (dropBlanks_keyChars k (' ' :: '=' :: ' ' :: (text ++ c :: rest)))
  obtain ⟨d, tail, rfl, hstart, -⟩ := hread.head
  have hdrop := hstart.dropBlanks (tail ++ c :: rest)
  simp only [List.append_assoc, List.cons_append] at hkey hvalue ⊢
  rcases hc with rfl | rfl <;> simp only [pairs, hkey, dropBlanks_blank, hdrop, hvalue, hsolid.dropBlanks] <;> rfl

end Pairs

theorem readsParts_pairs {room depth : Nat} (hdepth : depth + room < depthLimit) (rest : List Char) :
    ReadsParts (ReadsPair room) id '\x7d' rest ('\x7d' :: rest) fun steps => pairs steps depth where
  close _ := pairs_close
  last hpart hsteps := by
    rw [pairs_pair hpart (Or.inr rfl) hsteps hdepth]
    rfl
  next hpart hsteps hrest := by
    rw [pairs_pair hpart (Or.inl rfl) hsteps hdepth, hrest]
    rfl
  blank := pairs_blank

/-- The key is not set in the table. -/
theorem find?_eq_none_iff {entries : Entries} {k : String} : entries.find? k = none ↔ k ∉ entries.map Prod.fst := by
  rw [Entries.find?, List.lookup_eq_none_iff, List.mem_map, not_exists]
  constructor
  · rintro h m ⟨hm, rfl⟩
    simpa using h m hm
  · intro h m hm
    simpa using fun heq : k = m.1 => h m ⟨hm, heq.symm⟩

/-- A key that is not set is set behind the others. -/
theorem setValue_of_new (table : Option (List String)) {k : String} {entries : Entries}
    (hnew : k ∉ entries.map Prod.fst) (node : Node Empty) :
    entries.setValue table ⟨[], k⟩ node = .ok (entries ++ [(k, .value node)]) := by
  rw [← find?_eq_none_iff] at hnew
  simp [Entries.setValue, Entries.alter, Entries.setNew, hnew, Except.map]

/-- Pairs of one key each, all different, are all set in their order. -/
theorem setAll_of_nodup (ms : List (String × Node Empty)) (entries : Entries)
    (hkeys : (entries.map Prod.fst ++ ms.map Prod.fst).Nodup) :
    setAll (ms.map fun m => (⟨[], m.1⟩, m.2)) entries = .ok (entries ++ ms.map fun m => (m.1, .value m.2)) := by
  induction ms generalizing entries with
  | nil => simp [setAll]
  | cons m ms ih =>
    obtain ⟨k, node⟩ := m
    have hnew : k ∉ entries.map Prod.fst := fun hk => hkeys.disjoint hk List.mem_cons_self
    have hrest := ih (entries ++ [(k, .value node)]) (by simpa using hkeys)
    simp only [List.map_cons, setAll, setValue_of_new none hnew node, hrest, List.append_assoc, List.singleton_append]

theorem entryMembers_value (ms : List (String × Node Empty)) :
    entryMembers (ms.map fun m => (m.1, .value m.2)) = .ofList (ms.map fun m => (.ok m.1, m.2)) := by
  induction ms with
  | nil => rfl
  | cons m ms ih => simp only [List.map_cons, entryMembers, Entry.node, ih, Members.ofList]

/-! ### Values -/

theorem readsAs_list {room : Nat} {texts : List (List Char)} {nodes : List (Node Empty)}
    (h : List.Forall₂ (ReadsAs room) texts nodes) :
    ReadsAs (room + 1) ('[' :: commaSeparated texts ++ [']']) (.list (.ofList nodes)) := by
  refine ⟨⟨'[', _, rfl, by decide, by decide⟩, fun steps depth rest _ hsteps hdepth => ?_⟩
  simp only [List.length_append, List.length_cons] at hsteps
  obtain ⟨n, rfl⟩ : ∃ n, steps = n + 2 := ⟨steps - 2, by omega⟩
  have hroom : depth + 1 + room < depthLimit := by omega
  have hitems := (readsParts_items hroom rest).commaSeparated h n
    (by simp only [List.length_append, List.length_cons]; omega)
  have hdeep : depth + 1 < depthLimit := by omega
  simp only [List.cons_append, List.append_assoc, List.nil_append]
  simp [value, hdeep, hitems, Except.map]

theorem readsAs_table {room : Nat} {texts : List (List Char)} {ms : List (String × Node Empty)}
    (h : List.Forall₂ (ReadsPair room) texts (ms.map fun m => (⟨[], m.1⟩, m.2))) (hkeys : (ms.map Prod.fst).Nodup) :
    ReadsAs (room + 1) ('\x7b' :: commaSeparated texts ++ ['\x7d'])
      (.table (.ofList (ms.map fun m => (.ok m.1, m.2)))) := by
  refine ⟨⟨'\x7b', _, rfl, by decide, by decide⟩, fun steps depth rest _ hsteps hdepth => ?_⟩
  simp only [List.length_append, List.length_cons] at hsteps
  obtain ⟨n, rfl⟩ : ∃ n, steps = n + 2 := ⟨steps - 2, by omega⟩
  have hroom : depth + 1 + room < depthLimit := by omega
  have hpairs := (readsParts_pairs hroom rest).commaSeparated h n
    (by simp only [List.length_append, List.length_cons]; omega)
  have hset := setAll_of_nodup ms [] (by simpa using hkeys)
  have hdeep : depth + 1 < depthLimit := by omega
  have hclose : dropBlanks ('\x7d' :: rest) = '\x7d' :: rest := Solid.dropBlanks (by decide) rest
  simp only [List.cons_append, List.append_assoc, List.nil_append]
  simp only [List.nil_append] at hset
  simp [value, hdeep, hpairs, hset, hclose, entryMembers_value]

/-- Only `null` has no text. -/
theorem valueChars?_of_ne_null {v : Value} (hv : v ≠ .null) : ∃ cs, valueChars? v = some cs := by
  cases v with
  | null => exact absurd rfl hv
  | bool b => cases b <;> exact ⟨_, rfl⟩
  | _ => exact ⟨_, rfl⟩

mutual

/-- The text of a value is read as the tree of the value without what is `null` in it. -/
theorem readsAs_valueChars : ∀ {room : Nat} (v : Value) {cs : List Char}, Json.Fits room v → Plain v →
    valueChars? v = some cs → ReadsAs room cs v.stripped.node
  | _, .null, _, _, _, h => by cases h
  | room, .bool _, _, _, _, h => readsAs_bool room h
  | room, .integer _, _, _, .integer hn, h => by
    obtain rfl := Option.some.inj h
    exact readsAs_integer room hn
  | room, .text s, _, _, _, h => by
    obtain rfl := Option.some.inj h
    exact readsAs_text room s
  | _, .list vs, _, .list hfit, .list hplain, h => by
    obtain rfl := Option.some.inj h
    have hitems := readsAs_list (readsAs_itemChars vs hfit hplain)
    rwa [← valueItems_eq] at hitems
  | _, .table ms, _, .table hfit, .table hkeys hplain, h => by
    obtain rfl := Option.some.inj h
    have hmembers := readsAs_table (readsPair_pairChars ms hfit hplain) (nodup_strippedNodes hkeys)
    rw [List.map_map] at hmembers
    rwa [Value.stripped, Value.node, valueMembers_eq]

theorem readsAs_itemChars : ∀ {room : Nat} (vs : List Value), (∀ v ∈ vs, Json.Fits room v) → (∀ v ∈ vs, Plain v) →
    List.Forall₂ (ReadsAs room) (itemChars vs) ((strippedItems vs).map Value.node)
  | _, [], _, _ => .nil
  | _, v :: vs, hfit, hplain => by
    obtain ⟨hfit, hfits⟩ := List.forall_mem_cons.mp hfit
    obtain ⟨hplain, hplains⟩ := List.forall_mem_cons.mp hplain
    have hvs := readsAs_itemChars vs hfits hplains
    by_cases hv : v = .null
    · subst hv
      exact hvs
    · obtain ⟨cs, hcs⟩ := valueChars?_of_ne_null hv
      rw [itemChars, hcs, strippedItems_cons hv]
      exact .cons (readsAs_valueChars v hfit hplain hcs) hvs

theorem readsPair_pairChars : ∀ {room : Nat} (ms : List (String × Value)), (∀ m ∈ ms, Json.Fits room m.2) →
    (∀ m ∈ ms, Plain m.2) → List.Forall₂ (ReadsPair room) (pairChars ms)
      (((strippedMembers ms).map fun m => (m.1, (m.2.node : Node Empty))).map fun m => (⟨[], m.1⟩, m.2))
  | _, [], _, _ => .nil
  | _, (k, v) :: ms, hfit, hplain => by
    obtain ⟨hfit, hfits⟩ := List.forall_mem_cons.mp hfit
    obtain ⟨hplain, hplains⟩ := List.forall_mem_cons.mp hplain
    have hms := readsPair_pairChars ms hfits hplains
    by_cases hv : v = .null
    · subst hv
      exact hms
    · obtain ⟨cs, hcs⟩ := valueChars?_of_ne_null hv
      have hread := readsAs_valueChars v hfit hplain hcs
      rw [pairChars, hcs, strippedMembers_cons hv]
      exact .cons ⟨k, cs, rfl, rfl, hread⟩ hms

end

/-! ### Documents -/

section Documents
variable {room : Nat} (hroom : room < depthLimit)
include hroom

/-- A pair on a line of its own is a statement. -/
theorem statement?_pair {cs : List Char} {pair : KeyPath × Node Empty} (h : ReadsPair room cs pair)
    (rest : List Char) : statement? (cs ++ '\n' :: rest) = .ok (some (.pair pair.1 pair.2), rest) := by
  obtain ⟨k, text, rfl, hpath, hread⟩ := h
  obtain ⟨path, node⟩ := pair
  obtain rfl := hpath
  have hvalue (steps : Nat) := hread.value steps 0 ('\n' :: rest) (endsValue_cons (by decide))
  have hkey := keyPath_of_key (dropBlanks_keyChars k (' ' :: '=' :: ' ' :: (text ++ '\n' :: rest)))
  obtain ⟨d, tail, rfl, hstart, -⟩ := hread.head
  obtain ⟨c, cs, hkeyChars, hc⟩ := keyChars_eq_cons k
  have hother : ∀ d : Char, d ≠ '"' → isBareKeyChar d = false → c ≠ d := by
    rintro d hquote hbare rfl
    rcases hc with rfl | hc
    · exact hquote rfl
    · rw [hbare] at hc
      cases hc
  have hpair : pair (keyChars k ++ ' ' :: '=' :: ' ' :: (d :: tail ++ '\n' :: rest)) =
      .ok (.pair ⟨[], k⟩ node, rest) := by
    rw [pair, hkey]
    simp only [List.cons_append, dropBlanks_blank, hstart.dropBlanks]
    rw [← List.cons_append, hvalue _ (by simp; omega) (by omega)]
    rfl
  simp only [List.append_assoc, List.cons_append] at hpair ⊢
  rw [hkeyChars, List.cons_append] at hpair ⊢
  have hhead : ¬(c = '#' ∨ c = '\n' ∨ c = '\r') := by
    rintro (rfl | rfl | rfl) <;> exact hother _ (by decide) (by decide) rfl
  have hbracket : c ≠ '[' := hother '[' (by decide) (by decide)
  rw [statement?, if_neg hhead, if_neg hbracket, hpair]
  rfl

/-- Lines that are read as pairs, all of different keys, set the keys in their order. -/
theorem statementsWithin_pairs (ms : List (String × Node Empty)) {texts : List (List Char)}
    (h : List.Forall₂ (ReadsPair room) texts (ms.map fun m => (⟨[], m.1⟩, m.2))) (current : Entries)
    (hkeys : (current.map Prod.fst ++ ms.map Prod.fst).Nodup) (length : Nat)
    (hlength : (texts.flatMap (· ++ ['\n'])).length ≤ length) :
    statementsWithin length ⟨[], current, .document⟩ (texts.flatMap (· ++ ['\n'])) =
      .ok ⟨[], current ++ ms.map fun m => (m.1, .value m.2), .document⟩ := by
  -- The keys that are set move from the right of `hkeys` to its left, line by line.
  induction ms generalizing texts current length with
  | nil =>
    cases h
    cases length <;> simp [statementsWithin, dropBlanks]
  | cons m ms ih =>
    obtain ⟨k, node⟩ := m
    obtain ⟨cs, texts, hpair, hrest, rfl⟩ := List.forall₂_cons_right_iff.mp h
    simp only [List.flatMap_cons, List.append_assoc, List.singleton_append, List.length_append,
      List.length_cons] at hlength ⊢
    obtain ⟨n, rfl⟩ : ∃ n, length = n + 1 := ⟨length - 1, by omega⟩
    have hstatement := statement?_pair hroom hpair (texts.flatMap (· ++ ['\n']))
    have hblanks := hpair.dropBlanks ('\n' :: texts.flatMap (· ++ ['\n']))
    have hnew : k ∉ current.map Prod.fst := fun hk => hkeys.disjoint hk List.mem_cons_self
    have hset := setValue_of_new (some []) hnew node
    have hnext := ih hrest (current ++ [(k, .value node)]) (by simpa using hkeys) n (by omega)
    obtain ⟨c, tail, hcs⟩ : ∃ c tail, cs ++ '\n' :: texts.flatMap (· ++ ['\n']) = c :: tail :=
      List.exists_cons_of_ne_nil (by simp)
    rw [hcs] at hstatement hblanks ⊢
    simp only [statementsWithin, hblanks, hstatement, Assembly.step, Place.path, hset, Except.map, hnext,
      List.map_cons, List.append_assoc, List.singleton_append]

end Documents

/-- No line of a pair starts with a byte order mark. -/
theorem dropMark_lines {room : Nat} {texts : List (List Char)} {ps : List (KeyPath × Node Empty)}
    (h : List.Forall₂ (ReadsPair room) texts ps) :
    dropMark (texts.flatMap (· ++ ['\n'])) = texts.flatMap (· ++ ['\n']) := by
  cases h with
  | nil => rfl
  | cons hpair _ =>
    obtain ⟨k, text, rfl, -, -⟩ := hpair
    obtain ⟨c, cs, hk, hc⟩ := keyChars_eq_cons k
    have hmark : c ≠ '\uFEFF' := by
      rintro rfl
      exact absurd hc (by decide)
    rw [List.flatMap_cons, hk, dropMark]
    rintro rest heq
    exact hmark (List.cons.inj heq).1

/-- A written document is the tree of its members, without what is `null` in them. -/
theorem tree_write {room : Nat} (hroom : room < depthLimit) {ms : List (String × Value)}
    (hfit : Json.Fits (room + 1) (.table ms)) (hplain : Plain (.table ms)) :
    tree (write ms) = .ok (Value.table ms).stripped.node := by
  have hmembers : ∀ m ∈ ms, Json.Fits room m.2 := by
    cases hfit with
    | table hmembers => exact hmembers
  obtain ⟨hkeys, hplain⟩ : (ms.map Prod.fst).Nodup ∧ ∀ m ∈ ms, Plain m.2 := by
    cases hplain with
    | table hkeys hplain => exact ⟨hkeys, hplain⟩
  have hpairs := readsPair_pairChars ms hmembers hplain
  have hread := statementsWithin_pairs hroom _ hpairs [] (by simpa using nodup_strippedNodes hkeys) _ (Nat.le_refl _)
  rw [tree, entries, write, String.toList_ofList, dropMark_lines hpairs, Assembly.start]
  simp only [hread, Assembly.close, Except.mapError, List.nil_append, entryMembers_value]
  rw [Value.stripped, Value.node, valueMembers_eq, List.map_map]
  rfl

/-- What a reader makes of the tree of a table without what is `null` in it, it makes of the written document. -/
theorem read_write {α : Type} {reader : Node Empty → Reading Empty α} {room : Nat} (hroom : room < depthLimit)
    {ms : List (String × Value)} {a : α} (hfit : Json.Fits (room + 1) (.table ms)) (hplain : Plain (.table ms))
    (h : reader (Value.table ms).stripped.node = .ok a) : read reader (write ms) = .ok a := by
  rw [read, tree_write hroom hfit hplain]
  simp [h]

end Toml
end RouteCompiler
