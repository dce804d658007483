import RouteCompiler.Proofs.Json.RoundTrip

/-! # Indented values read back

White space between tokens is passed over. So the indented text of a value is cut into the same tokens as its text
without white space, and a line of either holds the tree of the value. -/

namespace RouteCompiler.Json
open Document

section Space
variable {rest : List Char} {ts : List Token} (h : Scans rest ts)
include h

theorem Scans.space {c : Char} (hspace : isSpace c = true) : Scans (c :: rest) ts := by
  intro length hlength
  cases length with
  | zero => cases hlength
  | succ length =>
    rw [tokensWithin, if_pos hspace]
    exact h length (Nat.le_of_succ_le_succ hlength)

theorem Scans.newLine (depth : Nat) : Scans (newLine depth ++ rest) ts := by
  have hspaces : ∀ n, Scans (List.replicate n ' ' ++ rest) ts := by
    intro n
    induction n with
    | zero => exact h
    | succ n ih => exact ih.space (by decide)
  exact (hspaces (2 * depth)).space (by decide)

end Space

theorem endsNumber_newLine (depth : Nat) (rest : List Char) : EndsNumber (newLine depth ++ rest) :=
  endsNumber_cons (by decide)

theorem endsNumber_prettyItems (depth : Nat) (vs : List Value) (rest : List Char) :
    EndsNumber (prettyItems depth vs ++ rest) := by
  cases vs with
  | nil =>
    rw [prettyItems, List.append_assoc]
    exact endsNumber_newLine depth _
  | cons v vs =>
    simp only [prettyItems, List.cons_append]
    exact endsNumber_cons (by decide)

theorem endsNumber_prettyMembers (depth : Nat) (ms : List (String × Value)) (rest : List Char) :
    EndsNumber (prettyMembers depth ms ++ rest) := by
  cases ms with
  | nil =>
    rw [prettyMembers, List.append_assoc]
    exact endsNumber_newLine depth _
  | cons m ms =>
    simp only [prettyMembers, List.cons_append]
    exact endsNumber_cons (by decide)

mutual

theorem scans_prettyChars {room : Nat} : ∀ (v : Value) (depth : Nat) (rest : List Char) (ts : List Token),
    Fits room v → EndsNumber rest → Scans rest ts → Scans (prettyChars depth v ++ rest) (valueTokens v ++ ts)
  | .null, _, _, _, _, _, h => h.nullWord
  | .bool true, _, _, _, _, _, h => h.boolWord true
  | .bool false, _, _, _, _, _, h => h.boolWord false
  | .integer _, _, _, _, .integer hn, hends, h => h.integer hends hn
  | .text s, _, _, _, _, _, h => h.quoted s
  | .list [], _, _, _, _, _, h => h.closeList.openList
  | .list (head :: tail), depth, rest, ts, .list hfit, _, h => by
    obtain ⟨hfit, hfits⟩ := List.forall_mem_cons.mp hfit
    have htail := scans_prettyItems tail depth rest ts hfits h
    have hhead := scans_prettyChars head (depth + 1) _ _ hfit (endsNumber_prettyItems depth tail rest) htail
    simpa [prettyChars, valueTokens] using (hhead.newLine (depth + 1)).openList
  | .table [], _, _, _, _, _, h => h.closeTable.openTable
  | .table ((key, v) :: tail), depth, rest, ts, .table hfit, _, h => by
    obtain ⟨hfit, hfits⟩ := List.forall_mem_cons.mp hfit
    have htail := scans_prettyMembers tail depth rest ts hfits h
    have hv := scans_prettyChars v (depth + 1) _ _ hfit (endsNumber_prettyMembers depth tail rest) htail
    have hmember := ((hv.space (c := ' ') (by decide)).colon.quoted key).newLine (depth + 1)
    simpa [prettyChars, valueTokens] using hmember.openTable

theorem scans_prettyItems {room : Nat} : ∀ (vs : List Value) (depth : Nat) (rest : List Char) (ts : List Token),
    (∀ v ∈ vs, Fits room v) → Scans rest ts → Scans (prettyItems depth vs ++ rest) (itemTokens vs ++ ts)
  | [], depth, _, _, _, h => by simpa [prettyItems, itemTokens] using h.closeList.newLine depth
  | head :: tail, depth, rest, ts, hfit, h => by
    obtain ⟨hfit, hfits⟩ := List.forall_mem_cons.mp hfit
    have htail := scans_prettyItems tail depth rest ts hfits h
    have hhead := scans_prettyChars head (depth + 1) _ _ hfit (endsNumber_prettyItems depth tail rest) htail
    simpa [prettyItems, itemTokens] using (hhead.newLine (depth + 1)).comma

theorem scans_prettyMembers {room : Nat} : ∀ (ms : List (String × Value)) (depth : Nat) (rest : List Char)
    (ts : List Token), (∀ m ∈ ms, Fits room m.2) → Scans rest ts →
      Scans (prettyMembers depth ms ++ rest) (memberTokens ms ++ ts)
  | [], depth, _, _, _, h => by simpa [prettyMembers, memberTokens] using h.closeTable.newLine depth
  | (key, v) :: tail, depth, rest, ts, hfit, h => by
    obtain ⟨hfit, hfits⟩ := List.forall_mem_cons.mp hfit
    have htail := scans_prettyMembers tail depth rest ts hfits h
    have hv := scans_prettyChars v (depth + 1) _ _ hfit (endsNumber_prettyMembers depth tail rest) htail
    have hmember := ((hv.space (c := ' ') (by decide)).colon.quoted key).newLine (depth + 1)
    simpa [prettyMembers, memberTokens] using hmember.comma

end

/-- A text that is cut into the tokens of a value, as a line, holds the tree of the value and nothing else. -/
theorem tree_line {cs : List Char} {v : Value} (h : Fits maxDepth v)
    (hscan : Scans (cs ++ ['\n']) (valueTokens v ++ [])) : tree (String.ofList cs ++ "\n") = (v.node, []) := by
  refine tree_of_tokens h ?_
  rw [List.append_nil] at hscan
  have htext : (String.ofList cs ++ "\n").toList = cs ++ ['\n'] := by simp
  rw [tokens, htext]
  exact hscan _ (Nat.le_refl _)

/-- A line that holds a value, with or without indentation, has the tree of the value and nothing else. -/
theorem tree_write_line {v : Value} (h : Fits maxDepth v) :
    tree (write v ++ "\n") = (v.node, []) ∧ tree (writePretty v ++ "\n") = (v.node, []) := by
  have hline : Scans ['\n'] [] := Scans.nil.space (by decide)
  have hends : EndsNumber ['\n'] := endsNumber_cons (by decide)
  exact ⟨tree_line h (scans_compactChars v _ _ h hends hline), tree_line h (scans_prettyChars v 0 _ _ h hends hline)⟩

end RouteCompiler.Json
