import RouteCompiler.Proofs.Routing.Conflict

/-! # The text of a key

A key is written with one space behind its method, and the name of a method has no space. So the first space
ends the method, whatever the path is made of: keys with the same text are the same, and a shorthand that is
the text of a key denotes this key, unless the path takes more than one line. -/

namespace RouteCompiler

/-- The path has none of the four characters that end a line. -/
def OneLine (path : String) : Prop := ∀ c ∈ path.toList, c ∉ ['\n', '\r', '\u2028', '\u2029']

instance (path : String) : Decidable (OneLine path) := List.decidableBAll _ path.toList

theorem isLineBreak_iff {c : Char} : isLineBreak c = true ↔ c ∈ ['\n', '\r', '\u2028', '\u2029'] := by
  simp [isLineBreak, or_assoc]

theorem oneLine_iff {path : String} : OneLine path ↔ path.toList.all (!isLineBreak ·) = true := by
  simp only [OneLine, List.all_eq_true, Bool.not_eq_true', ← Bool.not_eq_true, isLineBreak_iff]

/-! ### Names of methods -/

theorem RouteMethod.name_letters (m : RouteMethod) : m.name.toList ≠ [] ∧ ∀ c ∈ m.name.toList, c.isAlpha = true := by
  rw [← List.all_eq_true]
  cases m with
  | any => decide
  | exact m => cases m <;> decide

theorem RouteMethod.space_notMem_name (m : RouteMethod) : ' ' ∉ m.name.toList :=
  fun h => absurd (m.name_letters.2 ' ' h) (by decide)

theorem RouteMethod.name_inj {m n : RouteMethod} (h : m.name = n.name) : m = n := by
  cases m with
  | any =>
    cases n with
    | any => rfl
    | exact n => cases n <;> exact absurd h (by decide)
  | exact m =>
    cases n with
    | any => cases m <;> exact absurd h (by decide)
    | exact n => rw [Method.name_inj.mp h]

/-- The name of a method is in upper case, so it is read as this method. -/
theorem Method.parse_name (m : Method) : Method.parse m.name = .ok m := by
  rw [Method.parse_eq_ok_iff]
  cases m <;> decide

theorem Method.not_meansAny_name (m : Method) : meansAny m.name = false := by
  cases m <;> decide

/-! ### Splitting a shorthand -/

section Cut
variable {word : List Char}

/-- The first space behind a word without a space ends this word. -/
theorem takeWhile_word (h : ' ' ∉ word) (rest : List Char) : (word ++ ' ' :: rest).takeWhile (· != ' ') = word := by
  have hword : ∀ c ∈ word, (c != ' ') = true := fun c hc => bne_iff_ne.mpr (ne_of_mem_of_not_mem hc h)
  rw [List.takeWhile_append_of_pos hword, List.takeWhile_cons_of_neg (by decide), List.append_nil]

theorem dropWhile_word (h : ' ' ∉ word) (rest : List Char) :
    (word ++ ' ' :: rest).dropWhile (· != ' ') = ' ' :: rest := by
  have hword : ∀ c ∈ word, (c != ' ') = true := fun c hc => bne_iff_ne.mpr (ne_of_mem_of_not_mem hc h)
  rw [List.dropWhile_append_of_pos hword, List.dropWhile_cons_of_neg (by decide)]

end Cut

/-- The text is a run of ASCII letters and a path, with a space between; the path is one line and not empty. -/
structure Shorthand (route token path : String) : Prop where
  text : route = token ++ " " ++ path
  token_ne : token ≠ ""
  letters : ∀ c ∈ token.toList, c.isAlpha = true
  path_ne : path ≠ ""
  line : OneLine path

namespace Shorthand
variable {route token path : String} (h : Shorthand route token path)
include h

theorem space_notMem_token : ' ' ∉ token.toList := fun hc => absurd (h.letters ' ' hc) (by decide)

theorem toList_eq : route.toList = token.toList ++ ' ' :: path.toList := by
  simp [h.text]

theorem takeWhile_eq : route.toList.takeWhile (· != ' ') = token.toList := by
  rw [h.toList_eq, takeWhile_word h.space_notMem_token]

theorem dropWhile_eq : route.toList.dropWhile (· != ' ') = ' ' :: path.toList := by
  rw [h.toList_eq, dropWhile_word h.space_notMem_token]

end Shorthand

/-- The first space of the text ends the token. -/
theorem Shorthand.eq_of_notMem {word rest token path : String} (hspace : ' ' ∉ word.toList)
    (h : Shorthand (word ++ " " ++ rest) token path) : token = word ∧ path = rest := by
  have hchars : (word ++ " " ++ rest).toList = word.toList ++ ' ' :: rest.toList := by simp
  have htoken := h.takeWhile_eq
  have hpath := h.dropWhile_eq
  rw [hchars, takeWhile_word hspace] at htoken
  rw [hchars, dropWhile_word hspace] at hpath
  exact ⟨String.toList_inj.mp htoken.symm, String.toList_inj.mp (List.cons.inj hpath).2.symm⟩

/-- A text is split just if it is a shorthand, into the parts of which it is made. -/
theorem splitRoute_eq_some_iff {route token path : String} :
    splitRoute route = some (token, path) ↔ Shorthand route token path := by
  rw [splitRoute]
  constructor
  · intro h
    have hparts := List.takeWhile_append_dropWhile (p := (· != ' ')) (l := route.toList)
    split at h
    · cases h
    · rename_i c rest hrest
      have hspace : c = ' ' := by
        have hhead := List.head?_dropWhile_not (· != ' ') route.toList
        simpa [hrest] using hhead
      split at h
      · rename_i hform
        obtain ⟨hne, hletters, hrestne, hline⟩ := hform
        obtain ⟨rfl, rfl⟩ := Prod.mk.inj (Option.some.inj h)
        rw [hrest, hspace] at hparts
        refine ⟨?_, ?_, ?_, ?_, ?_⟩
        · refine String.toList_inj.mp (hparts.symm.trans ?_)
          simp
        · simpa using hne
        · simpa using hletters
        · simpa using hrestne
        · rw [oneLine_iff, String.toList_ofList]
          exact hline
      · cases h
  · intro h
    have htoken : token.toList ≠ [] := fun hnil => h.token_ne (String.toList_eq_nil_iff.mp hnil)
    have hrest : path.toList ≠ [] := fun hnil => h.path_ne (String.toList_eq_nil_iff.mp hnil)
    have hall : token.toList.all Char.isAlpha = true := List.all_eq_true.mpr h.letters
    rw [h.takeWhile_eq, h.dropWhile_eq]
    simp [htoken, hall, hrest, oneLine_iff.mp h.line]

instance (route token path : String) : Decidable (Shorthand route token path) :=
  decidable_of_iff (splitRoute route = some (token, path)) splitRoute_eq_some_iff

theorem not_shorthand_of_notMem {route : String} (h : ' ' ∉ route.toList) (token path : String) :
    ¬Shorthand route token path := by
  intro hform
  exact h (by simp [hform.toList_eq])

theorem not_shorthand_star (token path : String) : ¬Shorthand "*" token path := not_shorthand_of_notMem (by decide) token path

theorem ne_star_of_mem {s : String} {c : Char} (hc : c ∈ s.toList) (hne : c ≠ '*') : s ≠ "*" := by
  rintro rfl
  have hchars : "*".toList = ['*'] := rfl
  rw [hchars, List.mem_singleton] at hc
  exact hne hc

/-- A shorthand says something just if it is the star, which says the path `*` alone, or a token and a path with a
space between, which says these two. -/
theorem RouteBinding.normalize_shorthand_eq_some_iff {route : String} {raw : RawRoute} :
    (shorthand route).normalize = some raw ↔
      (route = "*" ∧ raw = ⟨none, some "*"⟩) ∨
        ∃ token path, Shorthand route token path ∧ raw = ⟨some token, some path⟩ := by
  by_cases hstar : route = "*"
  · subst hstar
    have hnormal : (shorthand "*").normalize = some ⟨none, some "*"⟩ := rfl
    simp [hnormal, not_shorthand_star, eq_comm]
  · have hstar' : route ≠ catchAllText := hstar
    rw [normalize, if_neg hstar', Option.map_eq_some_iff]
    simp [hstar, splitRoute_eq_some_iff, eq_comm (b := raw)]

theorem Shorthand.normalize {route token path : String} (h : Shorthand route token path) :
    (RouteBinding.shorthand route).normalize = some ⟨some token, some path⟩ :=
  RouteBinding.normalize_shorthand_eq_some_iff.mpr (Or.inr ⟨token, path, h, rfl⟩)

namespace RouteKey

theorem toList_text_route (m : RouteMethod) (p : String) :
    (route m p).text.toList = m.name.toList ++ ' ' :: p.toList := by
  simp [text]

theorem takeWhile_text_route (m : RouteMethod) (p : String) :
    (route m p).text.toList.takeWhile (· != ' ') = m.name.toList := by
  rw [toList_text_route, takeWhile_word m.space_notMem_name]

theorem dropWhile_text_route (m : RouteMethod) (p : String) :
    (route m p).text.toList.dropWhile (· != ' ') = ' ' :: p.toList := by
  rw [toList_text_route, dropWhile_word m.space_notMem_name]

theorem text_route_ne (m : RouteMethod) (p : String) : (route m p).text ≠ catchAllText := by
  intro h
  have space := dropWhile_text_route m p
  rw [h] at space
  cases space

theorem text_inj {k k' : RouteKey} (h : k.text = k'.text) : k = k' := by
  cases k with
  | catchAll =>
    cases k' with
    | catchAll => rfl
    | route m p => exact absurd h.symm (text_route_ne m p)
  | route m p =>
    cases k' with
    | catchAll => exact absurd h (text_route_ne m p)
    | route n q =>
      have hname : m.name.toList = n.name.toList := by
        rw [← takeWhile_text_route m p, h, takeWhile_text_route]
      have hpath : ' ' :: p.toList = ' ' :: q.toList := by
        rw [← dropWhile_text_route m p, h, dropWhile_text_route]
      rw [RouteMethod.name_inj (String.toList_inj.mp hname), String.toList_inj.mp (List.cons.inj hpath).2]

/-- The text of a route is split into its method and its path, if the path is one line and not empty. -/
theorem splitRoute_text (m : RouteMethod) {p : String} (hne : p ≠ "") :
    splitRoute (route m p).text = if OneLine p then some (m.name, p) else none := by
  have hp : p.toList ≠ [] := fun h => hne (String.toList_eq_nil_iff.mp h)
  have hletters : m.name.toList.all Char.isAlpha = true := List.all_eq_true.mpr m.name_letters.2
  rw [splitRoute, takeWhile_text_route, dropWhile_text_route]
  simp only [m.name_letters.1, hletters, hp, ← oneLine_iff, String.ofList_toList, ne_eq, not_false_eq_true, true_and]

end RouteKey

namespace RouteBinding

variable {k : RouteKey} (target : String)

theorem normalize_text_route (m : RouteMethod) {p : String} (hne : p ≠ "") :
    (shorthand (RouteKey.route m p).text).normalize = if OneLine p then some ⟨some m.name, some p⟩ else none := by
  rw [normalize, if_neg (RouteKey.text_route_ne m p), RouteKey.splitRoute_text m hne]
  split <;> rfl

/-- A shorthand that is the text of a key denotes the key. -/
theorem key_text (hk : k.Proper) (hl : OneLine k.path) : (shorthand k.text).key target = .ok k := by
  cases k with
  | catchAll => rfl
  | route m p =>
    obtain ⟨hne, hp⟩ := hk
    have hl' : OneLine p := hl
    rw [RouteBinding.key, normalize_text_route m hne, if_pos hl']
    cases m with
    | any => simp [hp, RouteMethod.name, show meansAny "ANY" = true by decide]
    | exact m => simp [hp, RouteMethod.name, m.not_meansAny_name, m.parse_name]

/-- A path of several lines cannot be written in a shorthand. -/
theorem key_text_of_lines (hk : k.Proper) (hl : ¬OneLine k.path) :
    (shorthand k.text).key target = .error (.malformedRoute target (shorthand k.text).display) := by
  cases k with
  | catchAll => exact absurd (by decide) hl
  | route m p =>
    have hl' : ¬OneLine p := hl
    rw [RouteBinding.key, normalize_text_route m hk.1, if_neg hl']

/-- The path of a key that a shorthand denotes is one line. -/
theorem oneLine_of_shorthand {route target : String} (h : (shorthand route).key target = .ok k) : OneLine k.path := by
  obtain ⟨method, path, hn, ⟨-, -, rfl⟩ | ⟨hp, m, -, hk⟩⟩ := key_eq_ok h
  · decide
  · have hpath : k.path = path := by
      rcases hk with ⟨-, rfl⟩ | ⟨-, _, -, rfl⟩ <;> rfl
    rcases normalize_shorthand_eq_some_iff.mp hn with ⟨-, hraw⟩ | ⟨token, rest, hform, hraw⟩
    · obtain ⟨-, hstar⟩ := RawRoute.mk.inj hraw
      exact absurd (Option.some.inj hstar) hp
    · obtain ⟨-, hrest⟩ := RawRoute.mk.inj hraw
      rw [hpath, Option.some.inj hrest]
      exact hform.line

end RouteBinding
end RouteCompiler
