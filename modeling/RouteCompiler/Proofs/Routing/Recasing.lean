import RouteCompiler.Proofs.Routing.Congruence
import RouteCompiler.Proofs.Routing.Decision
import RouteCompiler.Proofs.Text.LetterCase

/-! # The case of methods and of paths

A method is read whatever the case of its letters is, as far as they are letters of ASCII. So a pass does not depend on
this case: it ends with the same table, or at the same binding for the same reason, though three kinds of errors quote
what was written. Paths are compared to the letter: a key has the very path that its binding says. -/

namespace RouteCompiler

/-- The bindings differ at most in the case of the method's letters: of those of a field, or of those before the first
space of a shorthand. -/
inductive RouteBinding.Recased : RouteBinding → RouteBinding → Prop where
  | method {method method' : String} (path : Option String) (h : Text.SameLetters method method') :
    Recased (.structured (some method) path) (.structured (some method') path)
  | noMethod (path : Option String) : Recased (.structured none path) (.structured none path)
  | token {route route' token token' rest : String} (hroute : route = token ++ " " ++ rest)
      (hroute' : route' = token' ++ " " ++ rest) (hspace : ' ' ∉ token.toList) (h : Text.SameLetters token token') :
    Recased (.shorthand route) (.shorthand route')
  | word {route route' : String} (hspace : ' ' ∉ route.toList) (h : Text.SameLetters route route') :
    Recased (.shorthand route) (.shorthand route')

/-- The errors differ at most in the text that was written: in the quoted binding, or in the method that stands with
the catch-all path. -/
inductive RouteError.SameButQuote : RouteError → RouteError → Prop where
  | malformedRoute (target route route' : String) : SameButQuote (.malformedRoute target route) (.malformedRoute target route')
  | missingPath (target binding binding' : String) : SameButQuote (.missingPath target binding) (.missingPath target binding')
  | catchAllMethod (target method method' : String) :
    SameButQuote (.catchAllMethod target method) (.catchAllMethod target method')
  | refl (e : RouteError) : SameButQuote e e

/-! ### Methods -/

theorem Method.parse_eq_ok_iff_sameLetters {s : String} {m : Method} :
    Method.parse s = .ok m ↔ Text.SameLetters s m.name := by
  rw [Method.parse_eq_ok_iff, Text.sameLetters_iff, m.upper_name]

section Texts
variable {s t : String}

theorem meansAny_of_sameLetters (h : Text.SameLetters s t) : meansAny s = meansAny t := by
  rw [meansAny, meansAny, Text.sameLetters_iff.mp h]

theorem Method.parse_of_sameLetters (h : Text.SameLetters s t) : Method.parse s = Method.parse t := by
  rw [Method.parse, Method.parse, Text.sameLetters_iff.mp h]

theorem eq_empty_iff_of_sameLetters (h : Text.SameLetters s t) : s = "" ↔ t = "" :=
  h.eq_iff_of_no_letters (by simp)

theorem eq_star_iff_of_sameLetters (h : Text.SameLetters s t) : s = "*" ↔ t = "*" :=
  h.eq_iff_of_no_letters (by simp)

end Texts

/-! ### Shorthands -/

section Shorthands
variable {token token' rest : String}

theorem Shorthand.recased (h : Shorthand (token ++ " " ++ rest) token rest) (hsame : Text.SameLetters token token') :
    Shorthand (token' ++ " " ++ rest) token' rest where
  text := rfl
  token_ne := mt (eq_empty_iff_of_sameLetters hsame).mpr h.token_ne
  letters := hsame.letters h.letters
  path_ne := h.path_ne
  line := h.line

theorem normalize_of_notMem (hspace : ' ' ∉ token.toList) (rest : String) :
    ((RouteBinding.shorthand (token ++ " " ++ rest)).normalize = some ⟨some token, some rest⟩ ∧
      Shorthand (token ++ " " ++ rest) token rest) ∨
    ((RouteBinding.shorthand (token ++ " " ++ rest)).normalize = none ∧
      ¬Shorthand (token ++ " " ++ rest) token rest) := by
  by_cases h : Shorthand (token ++ " " ++ rest) token rest
  · exact Or.inl ⟨h.normalize, h⟩
  · have hstar : token ++ " " ++ rest ≠ "*" := ne_star_of_mem (c := ' ') (by simp) (by decide)
    refine Or.inr ⟨RouteBinding.normalize_malformed hstar fun t p hform => h ?_, h⟩
    obtain ⟨rfl, rfl⟩ := hform.eq_of_notMem hspace
    exact hform

end Shorthands

namespace RouteBinding
variable {b b' : RouteBinding}

/-- Bindings that differ in the case of the method's letters say nothing, both of them, or say the same path and methods
that differ in the case of their letters. -/
theorem Recased.normalize (h : Recased b b') : (b.normalize = none ∧ b'.normalize = none) ∨
    ∃ method method' path, b.normalize = some ⟨method, path⟩ ∧ b'.normalize = some ⟨method', path⟩ ∧
      Option.Rel Text.SameLetters method method' := by
  cases h with
  | @method method method' path h =>
    refine Or.inr ⟨_, _, _, rfl, rfl, ?_⟩
    have hboth := eq_empty_iff_of_sameLetters h
    by_cases hempty : method = ""
    · rw [hempty, hboth.mp hempty]
      exact .none
    · rw [nonEmpty_of_ne hempty, nonEmpty_of_ne (mt hboth.mpr hempty)]
      exact .some h
  | noMethod path => exact Or.inr ⟨_, _, _, rfl, rfl, .none⟩
  | @token route route' token token' rest hroute hroute' hspace h =>
    subst hroute hroute'
    have hspace' := h.notMem (by decide) hspace
    rcases normalize_of_notMem hspace rest with ⟨hsaid, hform⟩ | ⟨hsaid, hform⟩
    · have hform' := hform.recased h
      exact Or.inr ⟨_, _, _, hsaid, hform'.normalize, .some h⟩
    · rcases normalize_of_notMem hspace' rest with ⟨-, hform'⟩ | ⟨hsaid', -⟩
      · exact absurd (hform'.recased h.symm) hform
      · exact Or.inl ⟨hsaid, hsaid'⟩
  | @word route route' hspace h =>
    have hspace' := h.notMem (by decide) hspace
    have hboth := eq_star_iff_of_sameLetters h
    by_cases hstar : route = "*"
    · rw [hstar, hboth.mp hstar]
      exact Or.inr ⟨none, none, some "*", rfl, rfl, .none⟩
    · exact Or.inl ⟨normalize_malformed hstar (not_shorthand_of_notMem hspace),
        normalize_malformed (mt hboth.mpr hstar) (not_shorthand_of_notMem hspace')⟩

/-- They denote the same key, or are rejected with errors that differ at most in what they quote. -/
theorem Recased.key (h : Recased b b') (target : String) :
    AgreeUpTo RouteError.SameButQuote (b.key target) (b'.key target) := by
  rcases h.normalize with ⟨hsaid, hsaid'⟩ | ⟨method, method', path, hsaid, hsaid', hmethods⟩
  · rw [RouteBinding.key, RouteBinding.key, hsaid, hsaid']
    exact .error (.malformedRoute ..)
  rw [RouteBinding.key, RouteBinding.key, hsaid, hsaid']
  cases path with
  | none => exact .error (.missingPath ..)
  | some path =>
    by_cases hpath : path = catchAllText
    · simp only [hpath, if_true]
      cases hmethods with
      | none => exact .ok _
      | @some m m' hm =>
        have hboth : m = catchAllText ↔ m' = catchAllText := eq_star_iff_of_sameLetters hm
        by_cases hstar : m = catchAllText
        · simp only [hstar, hboth.mp hstar, if_true]
          exact .ok _
        · simp only [hstar, mt hboth.mpr hstar, if_false]
          exact .error (.catchAllMethod ..)
    · simp only [hpath, if_false]
      cases hmethods with
      | none => exact .error (.refl _)
      | @some m m' hm =>
        -- The rest reads the methods in upper case only.
        simp only [meansAny_of_sameLetters hm, Method.parse_of_sameLetters hm]
        split
        · exact .ok _
        · split
          · exact .ok _
          · exact .error (.refl _)

/-! ### Paths -/

theorem Says.path_eq {method path : Option String} {target : String} {key : RouteKey} (h : b.Says method path)
    (hkey : b.key target = .ok key) : path = some key.path := by
  obtain ⟨m, p, hsaid, hcases⟩ := key_eq_ok hkey
  have hpath : key.path = p := by
    rcases hcases with ⟨rfl, -, rfl⟩ | ⟨-, _, -, ⟨-, rfl⟩ | ⟨-, _, -, rfl⟩⟩ <;> rfl
  rw [h.normalize] at hsaid
  obtain ⟨-, hp⟩ := RawRoute.mk.inj (Option.some.inj hsaid)
  rw [(nonEmpty_eq_some_iff.mp hp).1, hpath]

theorem exists_says_of_key {target : String} {key : RouteKey} (h : b.key target = .ok key) :
    ∃ method, b.Says method (some key.path) := by
  cases b with
  | structured method path =>
    have hpath := (Says.fields method path).path_eq h
    exact ⟨method, hpath ▸ .fields method path⟩
  | shorthand route =>
    obtain ⟨m, p, hsaid, -⟩ := key_eq_ok h
    rcases normalize_shorthand_eq_some_iff.mp hsaid with ⟨rfl, -⟩ | ⟨token, path, hform, -⟩
    · exact ⟨none, Says.star.path_eq h ▸ .star⟩
    · exact ⟨some token, (Says.shorthand hform).path_eq h ▸ .shorthand hform⟩

end RouteBinding

/-- A text is read as a method just if it is the name of this method up to the case of ASCII letters, and is else
reported with these letters in upper case. Declarations that differ in the case of their methods only resolve to the
same table, or are both rejected, at the same binding, with errors of the same kind for the same target; the errors are
the same but for the quoted binding, or the quoted method of the catch-all path. A binding that says another path, or
says nothing, does not denote the same key. -/
theorem resolve_recased :
    (∀ (s : String) (m : Method), Method.parse s = .ok m ↔ Text.SameLetters s m.name) ∧
    (∀ s : String, (∀ m : Method, ¬Text.SameLetters s m.name) → Method.parse s = .error ⟨Text.upper s⟩) ∧
    (∀ s : String, Text.SameLetters s (Text.upper s) ∧ ∀ c ∈ (Text.upper s).toList, c.isLower = false) ∧
    (∀ declarations others : List TargetRoutes,
      List.Forall₂ (TargetRoutes.Rewritten RouteBinding.Recased) declarations others →
      (∃ table, (resolve declarations).value = .ok table ∧ (resolve others).value = .ok table) ∨
      ∃ j e e', RouteError.SameButQuote e e' ∧
        (resolve declarations).value = .error e ∧ RouteTable.empty.RejectsAt (declaredPairs declarations) j e ∧
        (resolve others).value = .error e' ∧ RouteTable.empty.RejectsAt (declaredPairs others) j e') ∧
    (∀ (b b' : RouteBinding) (target target' : String) (key : RouteKey) (method path method' path' : Option String),
      b.Says method path → b.key target = .ok key → b'.Says method' path' → path' ≠ path →
      b'.key target' ≠ .ok key) ∧
    ∀ (b : RouteBinding) (target : String) (key : RouteKey), (∀ method path, ¬b.Says method path) →
      b.key target ≠ .ok key := by
  refine ⟨fun s m => Method.parse_eq_ok_iff_sameLetters, fun s hunknown => ?_, fun s => ?_,
    fun declarations others h => ?_, ?_, ?_⟩
  · refine Method.parse_eq_error fun m => ?_
    rw [Bool.eq_false_iff, Ne, Text.sameUpToCase_iff]
    exact hunknown m
  · exact ⟨Text.sameLetters_upper s, fun c => Text.isLower_of_mem_upper⟩
  · have hpairs := (forall₂_declaredPairs h).imp fun declared other hd =>
      And.imp_right (fun hcase => RouteBinding.Recased.key hcase declared.1.name) hd
    exact (RouteTable.bindAll_agree .refl hpairs .empty).2
  · intro b b' target target' key method path method' path' hsaid hkey hsaid' hpath hkey'
    exact hpath ((hsaid'.path_eq hkey').trans (hsaid.path_eq hkey).symm)
  · intro b target key hsilent hkey
    obtain ⟨method, hsaid⟩ := RouteBinding.exists_says_of_key hkey
    exact hsilent method _ hsaid

/-- Three methods in another case, of which the last is quoted; a letter that has an ASCII letter as its upper case in
other alphabets; and a path in upper case. -/
theorem resolve_recased_of_quoted :
    let users : Target := ⟨"users", none⟩
    let orders : Target := ⟨"orders", none⟩
    let declarations : List TargetRoutes :=
      [⟨users, [.shorthand "get /a", .structured (some "Any") (some "/b")]⟩, ⟨orders, [.shorthand "put *"]⟩]
    let others : List TargetRoutes :=
      [⟨users, [.shorthand "GET /a", .structured (some "aNY") (some "/b")]⟩, ⟨orders, [.shorthand "Put *"]⟩]
    List.Forall₂ (TargetRoutes.Rewritten RouteBinding.Recased) declarations others ∧
      (∃ j method, RouteTable.empty.RejectsAt (declaredPairs declarations) j (.catchAllMethod "orders" "put") ∧
        RouteTable.empty.RejectsAt (declaredPairs others) j (.catchAllMethod "orders" method)) ∧
      Method.parse "poſt" = .error ⟨"POſT"⟩ ∧
      (RouteBinding.shorthand "GET /A").key "users" ≠ .ok (.route (.exact .get) "/a") := by
  intro users orders declarations others
  obtain ⟨-, hunknown, -, hcases, hpaths, -⟩ := resolve_recased
  have hget : RouteBinding.Recased (.shorthand "get /a") (.shorthand "GET /a") :=
    @RouteBinding.Recased.token _ _ "get" "GET" "/a" rfl rfl (by decide) (Text.sameLetters_iff.mpr rfl)
  have hany : RouteBinding.Recased (.structured (some "Any") (some "/b")) (.structured (some "aNY") (some "/b")) :=
    .method (some "/b") (Text.sameLetters_iff.mpr rfl)
  have hput : RouteBinding.Recased (.shorthand "put *") (.shorthand "Put *") :=
    @RouteBinding.Recased.token _ _ "put" "Put" "*" rfl rfl (by decide) (Text.sameLetters_iff.mpr rfl)
  have hcase : List.Forall₂ (TargetRoutes.Rewritten RouteBinding.Recased) declarations others :=
    .cons ⟨rfl, .cons hget (.cons hany .nil)⟩ (.cons ⟨rfl, .cons hput .nil⟩ .nil)
  have herror : (resolve declarations).value = .error (.catchAllMethod "orders" "put") :=
    resolve_eq_error_iff.mpr ⟨2, rfl, by decide⟩
  refine ⟨hcase, ?_, hunknown "poſt" fun m => ?_, ?_⟩
  · rcases hcases declarations others hcase with ⟨table, hok, -⟩ | ⟨j, e, e', he, hvalue, hrejects, -, hrejects'⟩
    · cases herror.symm.trans hok
    · obtain rfl := Except.error.inj (hvalue.symm.trans herror)
      cases he with
      | catchAllMethod _ _ method' => exact ⟨j, method', hrejects, hrejects'⟩
      | refl => exact ⟨j, "put", hrejects, hrejects'⟩
  · rw [Text.sameLetters_iff]
    cases m <;> decide
  · have hsmall : (RouteBinding.shorthand "GET /a").Says (some "GET") (some "/a") := .shorthand (by decide)
    have hcapital : (RouteBinding.shorthand "GET /A").Says (some "GET") (some "/A") := .shorthand (by decide)
    exact hpaths _ _ "users" "users" _ _ _ _ _ hsmall rfl hcapital (by decide)

end RouteCompiler
