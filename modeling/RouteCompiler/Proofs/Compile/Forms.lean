import RouteCompiler.Compile.Api
import RouteCompiler.Proofs.Routing.Congruence
import RouteCompiler.Proofs.Routing.Decision

/-! # Two forms of one binding

A shorthand and a binding by fields that say the same are of equal worth, and so are the spellings of the catch-all, the
star and `ANY` as methods of another path, and an empty field and a missing one. Replacing one by the other, in any
number of places, changes neither the compiled API nor the error, whatever the error quotes. -/

namespace RouteCompiler

/-- The second binding is the first in another form. -/
inductive RouteBinding.OtherForm : RouteBinding → RouteBinding → Prop where
  | fields {route token path : String} (h : Shorthand route token path) :
    OtherForm (.shorthand route) (.structured (some token) (some path))
  | star : OtherForm (.shorthand "*") (.structured none (some "*"))
  | starMethod : OtherForm (.shorthand "*") (.structured (some "*") (some "*"))
  | any {path : String} (hne : path ≠ "") (hstar : path ≠ "*") :
    OtherForm (.structured (some "*") (some path)) (.structured (some "ANY") (some path))
  | emptyMethod (path : Option String) : OtherForm (.structured (some "") path) (.structured none path)
  | emptyPath (method : Option String) : OtherForm (.structured method (some "")) (.structured method none)

/-- The bindings are one binding, in forms that are reached from one another. -/
def RouteBinding.SameButForm : RouteBinding → RouteBinding → Prop := Relation.EqvGen OtherForm

namespace RouteBinding
variable {b b' : RouteBinding}

/-- Bindings that say the same, with a path, are alike; without one, an error quotes them. -/
theorem key_congr (hsaid : b.normalize = b'.normalize)
    (hquoted : (∃ method path, b.normalize = some ⟨method, some path⟩) ∨ b.display = b'.display) (target : String) :
    b.key target = b'.key target := by
  rcases hquoted with ⟨method, path, hpath⟩ | hdisplay
  · rw [key, key, ← hsaid, hpath]
  · rw [key, key, hsaid, hdisplay]

/-- Another form of a binding denotes the same key, or is rejected with the same error. -/
theorem OtherForm.key (h : OtherForm b b') (target : String) : b.key target = b'.key target := by
  cases h with
  | @fields route token path h =>
    have hfields := (Says.fields (some token) (some path)).normalize
    rw [nonEmpty_of_ne h.token_ne, nonEmpty_of_ne h.path_ne] at hfields
    exact key_congr (h.normalize.trans hfields.symm) (Or.inl ⟨_, _, h.normalize⟩) target
  | star => rfl
  | starMethod => rfl
  | @any path hne hstar =>
    have hstarMethod := (Says.fields (some "*") (some path)).key hne hstar (by decide) target
    have hanyMethod := (Says.fields (some "ANY") (some path)).key hne hstar (by decide) target
    rw [if_pos (by decide)] at hstarMethod hanyMethod
    rw [hstarMethod, hanyMethod]
  | emptyMethod path => exact key_congr rfl (Or.inr rfl) target
  | emptyPath method => exact key_congr rfl (Or.inr rfl) target

theorem SameButForm.key (h : SameButForm b b') (target : String) : b.key target = b'.key target := by
  induction h with
  | rel b b' h => exact h.key target
  | refl b => rfl
  | symm b b' _ ih => exact ih.symm
  | trans b b' b'' _ _ ih ih' => exact ih.trans ih'

end RouteBinding

/-- Declarations in which any of the bindings are written in another form compile to the same: to the same table, in
the same order, with the same policy, or to the same error, and with the same events on the way. -/
theorem compile_sameButForm {declarations others : List TargetRoutes}
    (h : List.Forall₂ (TargetRoutes.Rewritten RouteBinding.SameButForm) declarations others)
    (cors : Option CorsSetting) : compile others cors = compile declarations cors := by
  have hpairs := (forall₂_declaredPairs h).imp fun declared other hd =>
    And.imp_right (fun hform => (hform.key declared.1.name).symm) hd
  have hresolve : resolve others = resolve declarations := RouteTable.bindAll_congr hpairs .empty
  rw [compile, compile, hresolve]

/-- Every binding but the catch-all's is in another form, and the error still quotes the last one in the same way. -/
theorem compile_sameButForm_of_missing_path :
    let users : Target := ⟨"users", none⟩
    let orders : Target := ⟨"orders", none⟩
    let declarations : List TargetRoutes := [⟨users, [.shorthand "get  /a", .structured (some "*") (some "/b")]⟩,
      ⟨orders, [.shorthand "*", .structured (some "") none]⟩]
    let others : List TargetRoutes := [⟨users, [.structured (some "get") (some " /a"), .structured (some "ANY") (some "/b")]⟩,
      ⟨orders, [.shorthand "*", .structured none (some "")]⟩]
    List.Forall₂ (TargetRoutes.Rewritten RouteBinding.SameButForm) declarations others ∧
      (compile others (some (.enabled true))).value =
        .error (.missingPath "orders" "\x7b method: \"\", path: \"\" \x7d") := by
  intro users orders declarations others
  have hget : Shorthand "get  /a" "get" " /a" := by decide
  have hmissing : RouteBinding.SameButForm (.structured (some "") none) (.structured none (some "")) :=
    .trans _ _ _ (.rel _ _ (.emptyMethod none)) (.symm _ _ (.rel _ _ (.emptyPath none)))
  have hforms : List.Forall₂ (TargetRoutes.Rewritten RouteBinding.SameButForm) declarations others :=
    .cons ⟨rfl, .cons (.rel _ _ (.fields hget)) (.cons (.rel _ _ (.any (by decide) (by decide))) .nil)⟩
      (.cons ⟨rfl, .cons (.refl _) (.cons hmissing .nil)⟩ .nil)
  have hquoted : (RouteBinding.structured (some "") none).display = "\x7b method: \"\", path: \"\" \x7d" := by decide
  have hflaw : RouteTable.FirstFlaw (declaredPairs declarations)
      (.missingPath "orders" (RouteBinding.structured (some "") none).display) := ⟨3, rfl, by decide⟩
  refine ⟨hforms, ?_⟩
  rw [compile_sameButForm hforms, ← hquoted]
  exact compile_eq_error_iff.mpr (resolve_eq_error_iff.mpr hflaw)

end RouteCompiler
