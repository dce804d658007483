import Mathlib.Tactic.SplitIfs
import RouteCompiler.Proofs.Routing.KeyText
import RouteCompiler.Proofs.Routing.Resolution

/-! # Renaming paths and targets

Nothing looks inside a path, apart from asking whether it is the catch-all path, and a target is only passed on. So
when all paths of some declarations are renamed, different ones differently, and each target is replaced, the two
passes go alike: they accept the same bindings, under renamed keys, up to the first that both reject for the same
reason. -/

namespace RouteCompiler

/-- Different paths get different names, the catch-all path keeps its own, and a path of one line stays one. The
empty text is no path. -/
structure PathRenaming where
  rename : String → String
  inj : ∀ p q, p ≠ "" → q ≠ "" → rename p = rename q → p = q
  star : rename catchAllText = catchAllText
  ne : ∀ p, p ≠ "" → rename p ≠ ""
  line : ∀ p, p ≠ "" → OneLine p → OneLine (rename p)

/-! ### What is renamed -/

section Renamed
variable (f : PathRenaming) (g : Target → Target)

/-- The binding with its path renamed, if it has one; a text that is no shorthand stays. -/
def RouteBinding.renamed : RouteBinding → RouteBinding
  | structured method path => structured method (path.map fun p => if p = "" then p else f.rename p)
  | shorthand route =>
    match splitRoute route with
    | some (token, path) => shorthand (token ++ " " ++ f.rename path)
    | none => shorthand route

def RouteKey.renamed : RouteKey → RouteKey
  | catchAll => catchAll
  | route method path => route method (f.rename path)

def RouteEntry.renamed (entry : RouteEntry) : RouteEntry := ⟨entry.key.renamed f, g entry.target⟩

/-- The error with its key and path renamed, in the name of another target. -/
def RouteError.renamed (target : String) : RouteError → RouteError
  | malformedRoute _ route => malformedRoute target route
  | missingPath _ binding => missingPath target binding
  | missingMethod _ path => missingMethod target (f.rename path)
  | catchAllMethod _ method => catchAllMethod target method
  | unsupportedMethod _ method path => unsupportedMethod target method (f.rename path)
  | duplicateRoute _ key => duplicateRoute target (key.renamed f)
  | shadowedRoute _ key path => shadowedRoute target (key.renamed f) (f.rename path)

def TargetRoutes.renamed (declared : TargetRoutes) : TargetRoutes :=
  ⟨g declared.target, declared.bindings.map (·.renamed f)⟩

/-- A declared binding with its path renamed and on the other target. -/
def renamedPair (declared : Target × RouteBinding) : Target × RouteBinding := (g declared.1, declared.2.renamed f)

theorem declaredPairs_renamed (declarations : List TargetRoutes) :
    declaredPairs (declarations.map (·.renamed f g)) = (declaredPairs declarations).map (renamedPair f g) := by
  simp only [declaredPairs, List.flatMap_map, List.map_flatMap]
  refine congrArg (fun h => List.flatMap h declarations) (funext fun declared => ?_)
  simp [TargetRoutes.renamed, renamedPair]

end Renamed

/-! ### Bindings and their keys -/

section Bindings
variable (f : PathRenaming)

theorem PathRenaming.star_iff {p : String} (hp : p ≠ "") : f.rename p = catchAllText ↔ p = catchAllText := by
  constructor
  · intro h
    exact f.inj p catchAllText hp (by decide) (h.trans f.star.symm)
  · rintro rfl
    exact f.star

theorem splitRoute_renamed {route token path : String} (h : splitRoute route = some (token, path)) :
    splitRoute (token ++ " " ++ f.rename path) = some (token, f.rename path) := by
  obtain ⟨-, htoken, hletters, hpath, hline⟩ := splitRoute_eq_some_iff.mp h
  exact splitRoute_eq_some_iff.mpr ⟨rfl, htoken, hletters, f.ne path hpath, f.line path hpath hline⟩

theorem nonEmpty_renamed (path : Option String) :
    nonEmpty (path.map fun p => if p = "" then p else f.rename p) = (nonEmpty path).map f.rename := by
  cases path with
  | none => rfl
  | some p =>
    by_cases hp : p = ""
    · subst hp
      rfl
    · simp [nonEmpty, Option.filter, hp, f.ne p hp]

/-- What a renamed binding says is what the binding says, with the path renamed. -/
theorem RouteBinding.normalize_renamed (b : RouteBinding) :
    (b.renamed f).normalize = b.normalize.map fun raw => ⟨raw.method, raw.path.map f.rename⟩ := by
  cases b with
  | structured method path => simp [renamed, normalize, nonEmpty_renamed]
  | shorthand route =>
    by_cases hstar : route = catchAllText
    · subst hstar
      have hnone : splitRoute catchAllText = none := by decide
      simp [renamed, normalize, hnone, f.star]
    · cases hsplit : splitRoute route with
      | none => simp [renamed, normalize, hsplit, hstar]
      | some parts =>
        obtain ⟨token, path⟩ := parts
        have hsplit' := splitRoute_renamed f hsplit
        have hstar' : token ++ " " ++ f.rename path ≠ catchAllText := by
          intro heq
          rw [heq] at hsplit'
          cases hsplit'
        simp [renamed, normalize, hsplit, hstar, hsplit', hstar']

/-- A binding without a path has nothing to rename. -/
theorem RouteBinding.renamed_eq_self {b : RouteBinding} (h : ∀ method path, b.normalize ≠ some ⟨method, some path⟩) :
    b.renamed f = b := by
  cases b with
  | structured method path =>
    cases path with
    | none => rfl
    | some p =>
      have hp : p = "" := by
        by_contra hp
        exact h (nonEmpty method) p (by simp [normalize, nonEmpty, hp])
      simp [renamed, hp]
  | shorthand route =>
    rw [renamed]
    cases hsplit : splitRoute route with
    | none => rfl
    | some parts =>
      obtain ⟨token, path⟩ := parts
      have hstar : route ≠ catchAllText := by
        rintro rfl
        cases hsplit
      exact absurd (by simp [normalize, hstar, hsplit]) (h (some token) path)

/-- A renamed binding denotes the renamed key, or is ill-formed for the same reason. -/
theorem RouteBinding.key_renamed (b : RouteBinding) (target target' : String) :
    (b.renamed f).key target' = ((b.key target).map (·.renamed f)).mapError (·.renamed f target') := by
  have hnormal := b.normalize_renamed f
  cases hraw : b.normalize with
  | none =>
    -- The error quotes the binding, which has no path and so is not changed.
    have hself : b.renamed f = b := renamed_eq_self f (by simp [hraw])
    simp [hself, key, hraw, RouteError.renamed, Except.map, Except.mapError]
  | some raw =>
    obtain ⟨method, path⟩ := raw
    cases path with
    | none =>
      have hself : b.renamed f = b := renamed_eq_self f (by simp [hraw])
      simp [hself, key, hraw, RouteError.renamed, Except.map, Except.mapError]
    | some p =>
      have hstar := f.star_iff (path_ne_of_normalize hraw)
      rw [hraw, Option.map_some, Option.map_some] at hnormal
      simp only [key, hraw, hnormal, hstar]
      by_cases hp : p = catchAllText
      · cases method with
        | none => simp [hp, RouteKey.renamed, Except.map, Except.mapError]
        | some m =>
          by_cases hm : m = catchAllText
          · simp [hp, hm, RouteKey.renamed, Except.map, Except.mapError]
          · simp [hp, hm, RouteError.renamed, Except.map, Except.mapError]
      · cases method with
        | none => simp [hp, RouteError.renamed, Except.map, Except.mapError]
        | some m =>
          by_cases hany : meansAny m = true
          · simp [hp, hany, RouteKey.renamed, Except.map, Except.mapError]
          · cases hparse : Method.parse m with
            | ok exact => simp [hp, hany, hparse, RouteKey.renamed, Except.map, Except.mapError]
            | error unknown => simp [hp, hany, hparse, RouteError.renamed, Except.map, Except.mapError]

/-- Different keys are renamed differently. -/
theorem RouteKey.renamed_inj {k k' : RouteKey} (hk : k.Proper) (hk' : k'.Proper) (h : k.renamed f = k'.renamed f) :
    k = k' := by
  cases k with
  | catchAll =>
    cases k' with
    | catchAll => rfl
    | route _ _ => cases h
  | route m p =>
    cases k' with
    | catchAll => cases h
    | route n q =>
      obtain ⟨rfl, hpath⟩ := RouteKey.route.inj h
      rw [f.inj p q hk.1 hk'.1 hpath]

theorem RouteKey.Proper.renamed {k : RouteKey} (h : k.Proper) : (k.renamed f).Proper := by
  cases k with
  | catchAll => trivial
  | route m p => exact ⟨f.ne p h.1, fun hstar => h.2 ((f.star_iff h.1).mp hstar)⟩

theorem RouteKey.path_renamed (k : RouteKey) : (k.renamed f).path = f.rename k.path := by
  cases k with
  | catchAll => exact f.star.symm
  | route _ _ => rfl

theorem RouteKey.method_renamed (k : RouteKey) : (k.renamed f).method = k.method := by
  cases k <;> rfl

end Bindings

/-! ### Two passes -/

namespace RouteTable
variable {f : PathRenaming} {g : Target → Target}

/-- The second table has the entries of the first, renamed and in order, and serves the same methods. -/
structure Mirrors (f : PathRenaming) (g : Target → Target) (table other : RouteTable) : Prop where
  consistent : table.Consistent
  consistent' : other.Consistent
  entries : other.entries.toList = table.entries.toList.map (·.renamed f g)
  boundMethods : other.boundMethods = table.boundMethods

theorem mirrors_empty : Mirrors f g empty empty := ⟨consistent_empty, consistent_empty, rfl, rfl⟩

namespace Mirrors
variable {table other : RouteTable} (h : Mirrors f g table other)
include h

theorem contains {key : RouteKey} (hkey : key.Proper) : other.contains (key.renamed f) = table.contains key := by
  have hentry : ∀ a, a ∈ other.entries ↔ ∃ b ∈ table.entries, b.renamed f g = a := by
    intro a
    rw [← Array.mem_toList_iff, h.entries, List.mem_map]
    simp only [Array.mem_toList_iff]
  rw [Bool.eq_iff_iff, h.consistent.contains_iff, h.consistent'.contains_iff]
  constructor
  · rintro ⟨a, ha, hk⟩
    obtain ⟨b, hb, rfl⟩ := (hentry a).mp ha
    exact ⟨b, hb, RouteKey.renamed_inj f (h.consistent.proper b hb) hkey hk⟩
  · rintro ⟨b, hb, rfl⟩
    exact ⟨_, (hentry _).mpr ⟨b, hb, rfl⟩, rfl⟩

theorem shadows {key : RouteKey} (hkey : key.Proper) : other.shadows (key.renamed f) = table.shadows key := by
  cases key with
  | catchAll => rfl
  | route method path =>
    have hcontains : ∀ m, other.contains (.route m (f.rename path)) = table.contains (.route m path) := by
      intro m
      have hproper : (RouteKey.route m path).Proper := hkey
      exact h.contains hproper
    cases method <;> simp only [RouteTable.shadows, RouteKey.renamed, hcontains]

theorem insert {key : RouteKey} (hkey : key.Proper) (hshadows : table.shadows key = false)
    (hcontains : table.contains key = false) (target : Target) :
    Mirrors f g (table.insert key target) (other.insert (key.renamed f) (g target)) where
  consistent := h.consistent.insert hkey hshadows hcontains
  consistent' := by
    refine h.consistent'.insert (hkey.renamed f) ?_ ?_
    · rw [h.shadows hkey, hshadows]
    · rw [h.contains hkey, hcontains]
  entries := by simp [h.entries, RouteEntry.renamed]
  boundMethods := by simp only [RouteTable.insert, h.boundMethods, RouteKey.method_renamed]

/-- One binding is accepted by both tables, which stay alike, or rejected by both for the same reason. -/
theorem bind (target : Target) (binding : RouteBinding) :
    (∃ key, table.bind target binding = .ok (key, table.insert key target) ∧
      other.bind (g target) (binding.renamed f) = .ok (key.renamed f, other.insert (key.renamed f) (g target)) ∧
      Mirrors f g (table.insert key target) (other.insert (key.renamed f) (g target))) ∨
    ∃ e, table.bind target binding = .error e ∧
      other.bind (g target) (binding.renamed f) = .error (e.renamed f (g target).name) := by
  have hrenamed := binding.key_renamed f target.name (g target).name
  cases hkey : binding.key target.name with
  | error e =>
    rw [hkey] at hrenamed
    exact Or.inr ⟨e, bind_of_key_error hkey, bind_of_key_error hrenamed⟩
  | ok key =>
    rw [hkey] at hrenamed
    have hproper := RouteBinding.proper_key hkey
    rw [bind_of_key hkey, bind_of_key hrenamed, h.shadows hproper, h.contains hproper]
    by_cases hshadows : table.shadows key = true
    · refine Or.inr ⟨_, if_pos hshadows, ?_⟩
      rw [if_pos hshadows, RouteKey.path_renamed]
      rfl
    · rw [if_neg hshadows, if_neg hshadows]
      by_cases hcontains : table.contains key = true
      · exact Or.inr ⟨_, if_pos hcontains, if_pos hcontains⟩
      · rw [Bool.not_eq_true] at hshadows hcontains
        refine Or.inl ⟨key, ?_, ?_, h.insert hproper hshadows hcontains target⟩ <;> simp [hcontains]

end Mirrors

/-- The pass from the table accepts the bindings before the place and rejects the one at the place. -/
def RejectsAt (table : RouteTable) (pairs : List (Target × RouteBinding)) (j : Nat) (e : RouteError) : Prop :=
  ∃ next target binding, (table.bindAll (pairs.take j)).value = .ok next ∧ pairs[j]? = some (target, binding) ∧
    next.bind target binding = .error e

theorem rejectsAt_zero {table : RouteTable} {target : Target} {binding : RouteBinding} {e : RouteError}
    (hbind : table.bind target binding = .error e) (later : List (Target × RouteBinding)) :
    table.RejectsAt ((target, binding) :: later) 0 e := ⟨table, target, binding, rfl, rfl, hbind⟩

theorem rejectsAt_succ {table next : RouteTable} {target : Target} {binding : RouteBinding} {key : RouteKey}
    {later : List (Target × RouteBinding)} {j : Nat} {e : RouteError}
    (hbind : table.bind target binding = .ok (key, next)) (h : next.RejectsAt later j e) :
    table.RejectsAt ((target, binding) :: later) (j + 1) e := by
  obtain ⟨last, target', binding', hlast, hplace, hrejected⟩ := h
  refine ⟨last, target', binding', ?_, hplace, hrejected⟩
  rw [List.take_succ_cons, bindAll_of_ok hbind, hlast]

/-- Passes over the same bindings from tables that are alike end with tables that are alike, or both at the same
binding for the same reason. -/
theorem Mirrors.bindAll {table other : RouteTable} (h : Mirrors f g table other)
    (pairs : List (Target × RouteBinding)) :
    (∃ next next', (table.bindAll pairs).value = .ok next ∧
      (other.bindAll (pairs.map (renamedPair f g))).value = .ok next' ∧ Mirrors f g next next') ∨
    ∃ j target binding e, pairs[j]? = some (target, binding) ∧
      (table.bindAll pairs).value = .error e ∧ table.RejectsAt pairs j e ∧
      (other.bindAll (pairs.map (renamedPair f g))).value = .error (e.renamed f (g target).name) ∧
      other.RejectsAt (pairs.map (renamedPair f g)) j (e.renamed f (g target).name) := by
  -- Both tables grow with an accepted binding and are still alike (`Mirrors.bind`).
  induction pairs generalizing table other with
  | nil => exact Or.inl ⟨table, other, rfl, rfl, h⟩
  | cons declared later ih =>
    obtain ⟨target, binding⟩ := declared
    rcases h.bind target binding with ⟨key, hbind, hbind', hnext⟩ | ⟨e, hbind, hbind'⟩
    · rw [List.map_cons, renamedPair, bindAll_of_ok hbind, bindAll_of_ok hbind']
      rcases ih hnext with hok | ⟨j, target', binding', e, hplace, herror, hrejects, herror', hrejects'⟩
      · exact Or.inl hok
      · exact Or.inr ⟨j + 1, target', binding', e, hplace, herror, rejectsAt_succ hbind hrejects, herror',
          rejectsAt_succ hbind' hrejects'⟩
    · rw [List.map_cons, renamedPair, bindAll_of_error hbind, bindAll_of_error hbind']
      exact Or.inr ⟨0, target, binding, e, rfl, rfl, rejectsAt_zero hbind later, rfl, rejectsAt_zero hbind' _⟩

end RouteTable

/-- Declarations with renamed paths and other targets resolve just if the declarations do. The entries are then the
same in their order, under renamed keys and with the other targets, and the same methods are served; else both passes
end at the same binding for the same reason, in the name of the target that replaces the one of the binding. -/
theorem resolve_renamed (f : PathRenaming) (g : Target → Target) (declarations : List TargetRoutes) :
    let pairs := declaredPairs declarations
    let others := declarations.map (·.renamed f g)
    ((∃ table, (resolve declarations).value = .ok table) ↔ ∃ other, (resolve others).value = .ok other) ∧
    (∀ table other, (resolve declarations).value = .ok table → (resolve others).value = .ok other →
      other.entries.toList = table.entries.toList.map (·.renamed f g) ∧ other.boundMethods = table.boundMethods) ∧
    ∀ e, (resolve declarations).value = .error e →
      ∃ j target binding, pairs[j]? = some (target, binding) ∧ RouteTable.empty.RejectsAt pairs j e ∧
        (resolve others).value = .error (e.renamed f (g target).name) ∧
        RouteTable.empty.RejectsAt (declaredPairs others) j (e.renamed f (g target).name) := by
  intro pairs others
  have hpairs : declaredPairs others = pairs.map (renamedPair f g) := declaredPairs_renamed f g declarations
  have hempty : RouteTable.Mirrors f g .empty .empty := RouteTable.mirrors_empty
  rw [resolve, resolve, hpairs]
  rcases hempty.bindAll pairs with
    ⟨next, next', hnext, hnext', h⟩ | ⟨j, target, binding, e, hplace, herror, hrejects, herror', hrejects'⟩
  · refine ⟨iff_of_true ⟨next, hnext⟩ ⟨next', hnext'⟩, ?_, ?_⟩
    · intro table other htable hother
      obtain rfl := Except.ok.inj (hnext.symm.trans htable)
      obtain rfl := Except.ok.inj (hnext'.symm.trans hother)
      exact ⟨h.entries, h.boundMethods⟩
    · intro e herror
      cases hnext.symm.trans herror
  · refine ⟨iff_of_false ?_ ?_, ?_, ?_⟩
    · rintro ⟨table, htable⟩
      cases herror.symm.trans htable
    · rintro ⟨other, hother⟩
      cases herror'.symm.trans hother
    · intro table other htable _
      cases herror.symm.trans htable
    · intro e' he'
      obtain rfl := Except.error.inj (herror.symm.trans he')
      exact ⟨j, target, binding, hplace, hrejects, herror', hrejects'⟩

/-! ### A renaming -/

/-- Every path but the catch-all path is put behind the same first part. -/
def PathRenaming.behindVersion : PathRenaming where
  rename p := if p = catchAllText then p else "/v1" ++ p
  inj p q _ _ h := by
    have hversion : ∀ p, "/v1" ++ p ≠ catchAllText := by
      intro p heq
      have hchars := congrArg String.toList heq
      simp [catchAllText] at hchars
    by_cases hp : p = catchAllText
    · by_cases hq : q = catchAllText
      · rw [hp, hq]
      · rw [if_pos hp, if_neg hq, hp] at h
        exact absurd h.symm (hversion q)
    · by_cases hq : q = catchAllText
      · rw [if_neg hp, if_pos hq, hq] at h
        exact absurd h (hversion p)
      · rw [if_neg hp, if_neg hq] at h
        have hchars := congrArg String.toList h
        rw [String.toList_append, String.toList_append] at hchars
        exact String.toList_inj.mp (List.append_cancel_left hchars)
  star := rfl
  ne p hp := by
    split_ifs with hstar
    · exact hp
    · intro hempty
      have hchars := congrArg String.toList hempty
      simp at hchars
  line p _ hp := by
    split_ifs with hstar
    · exact hp
    · have hversion : OneLine "/v1" := by decide
      intro c hc
      rw [String.toList_append, List.mem_append] at hc
      exact hc.elim (hversion c) (hp c)

/-- Two targets that become one are still told apart by their bindings alone. -/
theorem resolve_renamed_of_duplicate :
    let users : Target := ⟨"users", none⟩
    let orders : Target := ⟨"orders", none⟩
    let declarations : List TargetRoutes :=
      [⟨users, [.shorthand "GET /a"]⟩, ⟨orders, [.structured (some "get") (some "/a"), .shorthand "*"]⟩]
    let others := declarations.map (·.renamed .behindVersion fun _ => users)
    others = [⟨users, [.shorthand "GET /v1/a"]⟩,
      ⟨users, [.structured (some "get") (some "/v1/a"), .shorthand "*"]⟩] ∧
    (resolve others).value = .error (.duplicateRoute "users" (.route (.exact .get) "/v1/a")) := by
  intro users orders declarations others
  have herror : (resolve declarations).value = .error (.duplicateRoute "orders" (.route (.exact .get) "/a")) :=
    resolve_eq_error_iff.mpr ⟨1, by decide, by decide⟩
  obtain ⟨j, target, binding, -, -, hrenamed, -⟩ :=
    (resolve_renamed .behindVersion (fun _ => users) declarations).2.2 _ herror
  exact ⟨by decide, hrenamed⟩

end RouteCompiler
