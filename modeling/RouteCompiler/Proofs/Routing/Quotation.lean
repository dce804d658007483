import RouteCompiler.Proofs.Routing.Consistent
import RouteCompiler.Proofs.Text.Quoted

/-! # Bindings in messages

A message quotes the binding that is rejected. A shorthand is quoted as one text and starts with a quote; fields are
quoted one by one, between braces. Each quoted text ends where its closing quote is, so no text can pass for a form or
for a field that it is not: what is shown gives the binding back, but for whether an empty field was given at all. -/

namespace RouteCompiler
namespace RouteBinding

/-- The binding with an empty text for each field that is not given. -/
def filled : RouteBinding → RouteBinding
  | shorthand route => shorthand route
  | structured method path => structured (some (method.getD "")) (some (path.getD ""))

theorem display_filled (b : RouteBinding) : b.filled.display = b.display := by
  cases b <;> rfl

theorem nonEmpty_getD (field : Option String) : nonEmpty (some (field.getD "")) = nonEmpty field := by
  cases field <;> rfl

theorem normalize_filled (b : RouteBinding) : b.filled.normalize = b.normalize := by
  cases b with
  | shorthand route => rfl
  | structured method path => simp only [filled, normalize, nonEmpty_getD]

theorem display_shorthand_ne (route : String) (method path : Option String) :
    (shorthand route).display ≠ (structured method path).display := by
  intro h
  have hhead := congrArg (fun s : String => s.toList.head?) h
  simp [display, Text.toList_quoted] at hhead

theorem display_structured_inj {method path method' path' : Option String}
    (h : (structured method path).display = (structured method' path').display) :
    method.getD "" = method'.getD "" ∧ path.getD "" = path'.getD "" := by
  simp only [display, String.append_assoc, String.append_right_inj] at h
  obtain ⟨hmethod, hbehind⟩ := Text.quoted_append_inj h
  rw [String.append_right_inj] at hbehind
  exact ⟨hmethod, (Text.quoted_append_inj hbehind).1⟩

/-- Bindings are shown alike just if they are equal but for empty fields. -/
theorem display_eq_iff {b b' : RouteBinding} : b'.display = b.display ↔ b'.filled = b.filled := by
  refine ⟨fun h => ?_, fun h => by rw [← display_filled, h, display_filled]⟩
  cases b with
  | shorthand route =>
    cases b' with
    | shorthand route' =>
      have happend : Text.quoted route' ++ "" = Text.quoted route ++ "" := congrArg (· ++ "") h
      exact congrArg shorthand (Text.quoted_append_inj happend).1
    | structured method path => exact absurd h.symm (display_shorthand_ne route method path)
  | structured method path =>
    cases b' with
    | shorthand route => exact absurd h (display_shorthand_ne route method path)
    | structured method' path' =>
      obtain ⟨hmethod, hpath⟩ := display_structured_inj h
      rw [filled, filled, hmethod, hpath]

end RouteBinding

/-! ### Messages -/

section Messages
variable {b : RouteBinding} {target : Target} {e : RouteError}

theorem RouteBinding.key_error_quotes {target : String} (h : b.key target = .error e) :
    (e.kind = .malformedRouteSyntax → e = .malformedRoute target b.display) ∧
      (e.kind = .missingPath → e = .missingPath target b.display) := by
  rw [RouteBinding.key] at h
  repeat' split at h
  all_goals cases h <;> simp [RouteError.kind]

/-- An error of one of these two kinds quotes the binding that is rejected. -/
theorem RouteTable.bind_error_quotes {table : RouteTable} (h : table.bind target b = .error e) :
    (e.kind = .malformedRouteSyntax → e = .malformedRoute target.name b.display) ∧
      (e.kind = .missingPath → e = .missingPath target.name b.display) := by
  cases hkey : b.key target.name with
  | error e' =>
    rw [bind_of_key_error hkey] at h
    obtain rfl := Except.error.inj h
    exact RouteBinding.key_error_quotes hkey
  | ok key =>
    rw [bind_of_key hkey] at h
    repeat' split at h
    all_goals cases h <;> simp [RouteError.kind]

theorem RouteError.message_malformedRoute_inj {target route route' : String} :
    (malformedRoute target route').message = (malformedRoute target route).message ↔ route' = route := by
  unfold message
  rw [String.append_left_inj, String.append_left_inj, String.append_right_inj]

theorem RouteError.message_missingPath_inj {target binding binding' : String} :
    (missingPath target binding').message = (missingPath target binding).message ↔ binding' = binding := by
  unfold message
  rw [String.append_left_inj, String.append_left_inj, String.append_right_inj]

end Messages

namespace RouteBinding

/-- Two bindings are shown alike just if they are equal, a field that is not given taken for an empty one; so they say
the same, and a shorthand is not shown like fields. Two errors of one kind that quote the binding, as malformed or for
its missing path, and that name the same target have the same message just if their bindings are equal in this sense,
whatever was bound before them. -/
theorem display_identifies (b b' : RouteBinding) :
    (b'.display = b.display ↔ b'.filled = b.filled) ∧
    (b'.display = b.display → b'.normalize = b.normalize) ∧
    (∀ route method path, (shorthand route).display ≠ (structured method path).display) ∧
    ∀ (table table' : RouteTable) (target target' : Target) (e e' : RouteError), table.bind target b = .error e →
      table'.bind target' b' = .error e' → e'.target = e.target → e'.kind = e.kind →
        e.kind = .malformedRouteSyntax ∨ e.kind = .missingPath → (e'.message = e.message ↔ b'.filled = b.filled) := by
  refine ⟨display_eq_iff, fun h => ?_, display_shorthand_ne, ?_⟩
  · rw [← normalize_filled b', display_eq_iff.mp h, normalize_filled]
  · intro table table' target target' e e' he he' htarget hkind hquotes
    rw [RouteTable.bind_error_target he, RouteTable.bind_error_target he'] at htarget
    obtain ⟨hmalformed, hmissing⟩ := RouteTable.bind_error_quotes he
    obtain ⟨hmalformed', hmissing'⟩ := RouteTable.bind_error_quotes he'
    rw [← display_eq_iff]
    rcases hquotes with h | h
    · rw [hmalformed h, hmalformed' (hkind.trans h), htarget, RouteError.message_malformedRoute_inj]
    · rw [hmissing h, hmissing' (hkind.trans h), htarget, RouteError.message_missingPath_inj]

/-- A method that imitates a path is told apart from a method with this path, and an empty path is shown like none. -/
theorem display_identifies_of_imitation :
    let imitation : RouteBinding := .structured (some "GET\", path: \"/a") none
    let users : Target := ⟨"users", none⟩
    imitation.display ≠ (structured (some "GET") (some "/a\", path: \"")).display ∧
      ∃ e e', RouteTable.empty.bind users imitation = .error e ∧
        RouteTable.empty.bind users (.structured (some "GET\", path: \"/a") (some "")) = .error e' ∧
        e'.message = e.message := by
  intro imitation users
  refine ⟨fun h => ?_, .missingPath "users" _, .missingPath "users" _, rfl, rfl, ?_⟩
  · obtain ⟨hshown, -⟩ := display_identifies (.structured (some "GET") (some "/a\", path: \"")) imitation
    exact absurd (hshown.mp h) (by decide)
  · obtain ⟨-, -, -, hmessage⟩ := display_identifies imitation (.structured (some "GET\", path: \"/a") (some ""))
    exact (hmessage .empty .empty users users _ _ rfl rfl rfl rfl (Or.inr rfl)).mpr rfl

end RouteBinding
end RouteCompiler
