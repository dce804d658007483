/-!
# Sets of texts

A set of texts is kept as the list of its members in strictly ascending order of code points, so that
two sets with the same members are the same value and are written alike.
-/

namespace RouteCompiler.Text

/-- Puts a text at its place in an ascending list, unless the list holds it. -/
def insertSorted (s : String) : List String → List String
  | [] => [s]
  | t :: rest => if s < t then s :: t :: rest else if s = t then t :: rest else t :: insertSorted s rest

/-- A set of texts, in strictly ascending order of code points. -/
structure TextSet where
  values : List String
  ascending : values.Pairwise (· < ·)
deriving DecidableEq

theorem mem_insertSorted {s t : String} {l : List String} : t ∈ insertSorted s l ↔ t = s ∨ t ∈ l := by
  induction l with
  | nil => simp [insertSorted]
  | cons u rest ih =>
    rw [insertSorted]
    split
    · simp
    · split
      · rename_i h
        subst h
        simp
      · rw [List.mem_cons, List.mem_cons, ih, or_left_comm]

theorem pairwise_insertSorted {s : String} {l : List String} (h : l.Pairwise (· < ·)) :
    (insertSorted s l).Pairwise (· < ·) := by
  induction l with
  | nil => simp [insertSorted]
  | cons u rest ih =>
    obtain ⟨hu, hrest⟩ := List.pairwise_cons.mp h
    rw [insertSorted]
    split
    · rename_i hs
      exact List.pairwise_cons.mpr ⟨fun v hv => (List.mem_cons.mp hv).elim (fun e => e ▸ hs)
        fun hv => String.lt_trans hs (hu v hv), h⟩
    · split
      · exact h
      · rename_i hlt hne
        refine List.pairwise_cons.mpr ⟨fun v hv => ?_, ih hrest⟩
        rcases mem_insertSorted.mp hv with rfl | hv
        · exact Std.lt_of_le_of_ne (String.not_lt.mp hlt) (Ne.symm hne)
        · exact hu v hv

namespace TextSet

/-- The set of the members of a list. -/
def ofList : List String → TextSet
  | [] => ⟨[], .nil⟩
  | s :: rest => ⟨insertSorted s (ofList rest).values, pairwise_insertSorted (ofList rest).ascending⟩

theorem nodup (set : TextSet) : set.values.Nodup := by
  refine List.Pairwise.imp ?_ set.ascending
  intro s t hst e
  exact String.lt_irrefl t (e ▸ hst)

/-- A set is determined by its members. -/
theorem eq_of_mem_iff {a b : TextSet} (h : ∀ s, s ∈ a.values ↔ s ∈ b.values) : a = b := by
  have perm : a.values.Perm b.values := (List.perm_ext_iff_of_nodup a.nodup b.nodup).mpr h
  have values : a.values = b.values := perm.eq_of_pairwise
    (fun _ _ _ _ hst hts => absurd hts (String.lt_asymm hst)) a.ascending b.ascending
  obtain ⟨as, _⟩ := a
  obtain ⟨bs, _⟩ := b
  obtain rfl : as = bs := values
  rfl

/-- Whether the text is a member. -/
def contains (set : TextSet) (s : String) : Bool := set.values.contains s

theorem mem_values_ofList {s : String} {l : List String} : s ∈ (ofList l).values ↔ s ∈ l := by
  induction l with
  | nil => simp [ofList]
  | cons t rest ih => simp [ofList, mem_insertSorted, ih]

@[simp] theorem contains_ofList {s : String} {l : List String} :
    (ofList l).contains s = true ↔ s ∈ l := by
  simp [contains, mem_values_ofList]

end TextSet
end RouteCompiler.Text
