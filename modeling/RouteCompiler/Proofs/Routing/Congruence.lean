import Mathlib.Data.List.Forall2
import RouteCompiler.Proofs.Routing.Renaming

/-! # Declarations with other bindings

A pass sees of a binding the key that it denotes, or the reason why it denotes none. So when the bindings of some
declarations are replaced, each by one with the same key or with a reason alike, the passes go alike: both end with
the same table, or both at the same place, for reasons alike. -/

namespace RouteCompiler

/-- The results are one value, or two errors in the relation. -/
inductive AgreeUpTo {ε α : Type} (R : ε → ε → Prop) : Except ε α → Except ε α → Prop where
  | ok (a : α) : AgreeUpTo R (.ok a) (.ok a)
  | error {e e' : ε} (h : R e e') : AgreeUpTo R (.error e) (.error e')

theorem agreeUpTo_eq_iff {ε α : Type} {r r' : Except ε α} : AgreeUpTo Eq r r' ↔ r = r' := by
  constructor
  · rintro (a | rfl) <;> rfl
  · rintro rfl
    cases r with
    | ok a => exact .ok a
    | error e => exact .error rfl

/-! ### Declarations -/

/-- The same target, with bindings that are in the relation, one by one. -/
structure TargetRoutes.Rewritten (S : RouteBinding → RouteBinding → Prop) (declared other : TargetRoutes) : Prop where
  target : other.target = declared.target
  bindings : List.Forall₂ S declared.bindings other.bindings

theorem forall₂_declaredPairs {S : RouteBinding → RouteBinding → Prop} {declarations others : List TargetRoutes}
    (h : List.Forall₂ (TargetRoutes.Rewritten S) declarations others) :
    List.Forall₂ (fun declared other => other.1 = declared.1 ∧ S declared.2 other.2)
      (declaredPairs declarations) (declaredPairs others) := by
  refine List.rel_flatMap h fun declared other hd => ?_
  rw [List.forall₂_map_left_iff, List.forall₂_map_right_iff]
  exact hd.bindings.imp fun b b' hb => ⟨hd.target, hb⟩

/-! ### Two passes -/

namespace RouteTable
variable {R : RouteError → RouteError → Prop}

section Bind
variable {target : Target} {b b' : RouteBinding}

/-- Bindings with keys that agree are answered alike by every table. -/
theorem bind_agree (hR : ∀ e, R e e) (h : AgreeUpTo R (b.key target.name) (b'.key target.name)) (table : RouteTable) :
    AgreeUpTo R (table.bind target b) (table.bind target b') := by
  generalize hk : b.key target.name = k at h
  generalize hk' : b'.key target.name = k' at h
  cases h with
  | ok key =>
    rw [bind_of_key hk, bind_of_key hk']
    split
    · exact .error (hR _)
    · split
      · exact .error (hR _)
      · exact .ok _
  | error h =>
    rw [bind_of_key_error hk, bind_of_key_error hk']
    exact .error h

end Bind

/-- Passes over bindings of the same targets, with keys that agree, log the same and end alike. -/
theorem bindAll_agree (hR : ∀ e, R e e) {pairs others : List (Target × RouteBinding)}
    (h : List.Forall₂ (fun declared other => other.1 = declared.1 ∧
      AgreeUpTo R (declared.2.key declared.1.name) (other.2.key declared.1.name)) pairs others) (table : RouteTable) :
    (table.bindAll others).events = (table.bindAll pairs).events ∧
    ((∃ next, (table.bindAll pairs).value = .ok next ∧ (table.bindAll others).value = .ok next) ∨
      ∃ j e e', R e e' ∧ (table.bindAll pairs).value = .error e ∧ table.RejectsAt pairs j e ∧
        (table.bindAll others).value = .error e' ∧ table.RejectsAt others j e') := by
  -- An accepted binding has the same key in both lists, so the table stays the same for both (`bind_agree`).
  induction h generalizing table with
  | nil => exact ⟨rfl, Or.inl ⟨table, rfl, rfl⟩⟩
  | @cons declared other pairs others hpair _ ih =>
    obtain ⟨target, b⟩ := declared
    obtain ⟨target', b'⟩ := other
    obtain ⟨rfl, hkeys⟩ := hpair
    have hbind := bind_agree hR hkeys table
    generalize hb : table.bind target' b = answer at hbind
    generalize hb' : table.bind target' b' = answer' at hbind
    cases hbind with
    | ok accepted =>
      obtain ⟨key, next⟩ := accepted
      obtain ⟨hevents, hvalues⟩ := ih next
      rw [bindAll_of_ok hb, bindAll_of_ok hb', hevents]
      refine ⟨rfl, ?_⟩
      rcases hvalues with hok | ⟨j, e, e', he, hvalue, hrejects, hvalue', hrejects'⟩
      · exact Or.inl hok
      · exact Or.inr ⟨j + 1, e, e', he, hvalue, rejectsAt_succ hb hrejects, hvalue', rejectsAt_succ hb' hrejects'⟩
    | @error e e' he =>
      rw [bindAll_of_error hb, bindAll_of_error hb']
      exact ⟨rfl, Or.inr ⟨0, e, e', he, rfl, rejectsAt_zero hb _, rfl, rejectsAt_zero hb' _⟩⟩

/-- Passes over bindings of the same targets, with the same keys or errors, are the same. -/
theorem bindAll_congr {pairs others : List (Target × RouteBinding)}
    (h : List.Forall₂ (fun declared other => other.1 = declared.1 ∧
      other.2.key declared.1.name = declared.2.key declared.1.name) pairs others) (table : RouteTable) :
    table.bindAll others = table.bindAll pairs := by
  have hagree := h.imp fun declared other hd => And.imp_right (fun hk => agreeUpTo_eq_iff.mpr hk.symm) hd
  obtain ⟨hevents, hvalues⟩ := bindAll_agree (fun _ => rfl) hagree table
  have hvalue : (table.bindAll others).value = (table.bindAll pairs).value := by
    rcases hvalues with ⟨next, hok, hok'⟩ | ⟨j, e, e', rfl, herror, -, herror', -⟩
    · rw [hok, hok']
    · rw [herror, herror']
  calc table.bindAll others
      = ⟨(table.bindAll others).events, (table.bindAll others).value⟩ := rfl
    _ = table.bindAll pairs := by rw [hevents, hvalue]

end RouteTable
end RouteCompiler
