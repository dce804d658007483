import RouteCompiler.Routing.Method

/-!
# Sets of methods

A set of methods has one bit for each method, so two sets with the same members are the same value.
-/

namespace RouteCompiler

/-- A set of methods, one bit each. -/
structure MethodSet where
  bits : BitVec 7
deriving DecidableEq, Repr

namespace MethodSet

def empty : MethodSet := ⟨0⟩

def contains (set : MethodSet) (m : Method) : Bool := set.bits.getLsbD m.rank

def insert (set : MethodSet) (m : Method) : MethodSet := ⟨set.bits ||| BitVec.twoPow 7 m.rank⟩

/-- The set with every method of a list added. -/
def insertAll (set : MethodSet) (methods : List Method) : MethodSet := methods.foldl insert set

/-- The members, in the order of methods. -/
def toList (set : MethodSet) : List Method := Method.all.filter set.contains

def size (set : MethodSet) : Nat := set.toList.length

@[simp] theorem contains_empty (m : Method) : empty.contains m = false := by
  cases m <;> rfl

@[simp] theorem contains_insert (set : MethodSet) (m n : Method) :
    (set.insert m).contains n = (n == m || set.contains n) := by
  have h : (n == m) = decide (n.rank = m.rank) := by
    rw [Bool.eq_iff_iff, beq_iff_eq, decide_eq_true_iff, Method.rank_inj]
  simp [contains, insert, Method.rank_lt, h, Bool.or_comm]

@[simp] theorem contains_insertAll (set : MethodSet) (methods : List Method) (n : Method) :
    (set.insertAll methods).contains n = (methods.contains n || set.contains n) := by
  induction methods generalizing set with
  | nil => simp [insertAll]
  | cons m rest ih =>
    have h := ih (set.insert m)
    simp only [insertAll, List.foldl_cons] at h ⊢
    rw [h, contains_insert, List.contains_cons]
    cases n == m <;> simp

@[simp] theorem mem_toList {set : MethodSet} {m : Method} : m ∈ set.toList ↔ set.contains m = true := by
  simp [toList, Method.mem_all]

/-- A set is determined by its members. -/
theorem ext {s t : MethodSet} (h : ∀ m, s.contains m = t.contains m) : s = t := by
  obtain ⟨s⟩ := s
  obtain ⟨t⟩ := t
  congr 1
  ext i hi
  match i, hi with
  | 0, _ => exact h .get
  | 1, _ => exact h .post
  | 2, _ => exact h .put
  | 3, _ => exact h .patch
  | 4, _ => exact h .options
  | 5, _ => exact h .head
  | 6, _ => exact h .delete

end MethodSet
end RouteCompiler
