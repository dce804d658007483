import RouteCompiler.Proofs.Routing.Resolution

/-! # Histories of calls

A table under construction takes calls that bind a route and calls that ask for a key, in any order, and a
call of `bind` may be rejected. A rejected call leaves no trace: without it every other call has the answer
that it had, and the table is the same. Since a table only grows, and what stands in the way of a binding
stays, a call that is repeated later is rejected for the same reason, or as a duplicate of itself. -/

namespace RouteCompiler

/-- A call on a table under construction. -/
inductive Call where
  | bind (target : Target) (binding : RouteBinding)
  | contains (key : RouteKey)
deriving DecidableEq, Repr

/-- What a call is answered. -/
inductive Answer where
  | bound (key : RouteKey)
  | rejected (error : RouteError)
  | contained (yes : Bool)
deriving DecidableEq, Repr

def Answer.isRejected : Answer → Bool
  | rejected _ => true
  | _ => false

namespace RouteTable

/-- The answer of a table to a call. -/
def answer (table : RouteTable) : Call → Answer
  | .bind target binding =>
    match table.bind target binding with
    | .ok (key, _) => .bound key
    | .error e => .rejected e
  | .contains key => .contained (table.contains key)

/-- The table after a call; only a binding that is accepted changes it. -/
def afterCall (table : RouteTable) : Call → RouteTable
  | .bind target binding => table.afterBind target binding
  | .contains _ => table

/-- The table after a list of calls. -/
def afterCalls (table : RouteTable) (calls : List Call) : RouteTable := calls.foldl afterCall table

/-- The calls, each with its answer. -/
def history (table : RouteTable) : List Call → List (Call × Answer)
  | [] => []
  | call :: rest => (call, table.answer call) :: (table.afterCall call).history rest

/-- The bindings that a history accepts, each with its target. -/
def boundPairs (history : List (Call × Answer)) : List (Target × RouteBinding) :=
  history.filterMap fun
    | (.bind target binding, .bound _) => some (target, binding)
    | _ => none

@[simp] theorem afterCalls_nil (table : RouteTable) : table.afterCalls [] = table := rfl

@[simp] theorem afterCalls_cons (table : RouteTable) (call : Call) (rest : List Call) :
    table.afterCalls (call :: rest) = (table.afterCall call).afterCalls rest := rfl

theorem afterCalls_append (table : RouteTable) (calls rest : List Call) :
    table.afterCalls (calls ++ rest) = (table.afterCalls calls).afterCalls rest := by
  simp [afterCalls, List.foldl_append]

/-! ### Rejected calls leave no trace -/

theorem afterCall_of_isRejected {table : RouteTable} {call : Call} (h : (table.answer call).isRejected = true) :
    table.afterCall call = table := by
  cases call with
  | contains key => rfl
  | bind target binding =>
    rcases afterBind_cases table target binding with ⟨key, hb, -⟩ | ⟨e, -, heq⟩
    · simp [answer, hb, Answer.isRejected] at h
    · exact heq

/-- Without its rejected calls a history is the same, and leads to the same table. -/
theorem history_accepted (table : RouteTable) (calls : List Call) :
    let accepted := (table.history calls).filter (!·.2.isRejected)
    table.history (accepted.map Prod.fst) = accepted ∧
      table.afterCalls (accepted.map Prod.fst) = table.afterCalls calls := by
  induction calls generalizing table with
  | nil => exact ⟨rfl, rfl⟩
  | cons call rest ih =>
    obtain ⟨hist, after⟩ := ih (table.afterCall call)
    cases h : (table.answer call).isRejected with
    | false =>
      simp only [history, h, Bool.not_false, List.filter_cons_of_pos, List.map_cons, afterCalls_cons]
      exact ⟨by rw [hist], after⟩
    | true =>
      -- The rejected call leaves the table as it is, so the rest meets the table that it met before.
      rw [afterCall_of_isRejected h] at hist after
      simp only [history, h, Bool.not_true, Bool.false_eq_true, not_false_eq_true, List.filter_cons_of_neg,
        afterCalls_cons, afterCall_of_isRejected h]
      exact ⟨hist, after⟩

/-- The bindings that a history accepts are all accepted by one pass, which makes the same table. -/
theorem bindAll_boundPairs (table : RouteTable) (calls : List Call) :
    (table.bindAll (boundPairs (table.history calls))).value = .ok (table.afterCalls calls) := by
  induction calls generalizing table with
  | nil => rfl
  | cons call rest ih =>
    cases call with
    | contains key => exact ih table
    | bind target binding =>
      rcases afterBind_cases table target binding with ⟨key, hb, heq⟩ | ⟨e, hb, heq⟩
      · have hpairs : boundPairs (table.history (.bind target binding :: rest)) =
            (target, binding) :: boundPairs ((table.insert key target).history rest) := by
          simp [history, boundPairs, answer, hb, afterCall, heq]
        rw [hpairs, bindAll_of_ok hb, afterCalls_cons, afterCall, heq]
        exact ih (table.insert key target)
      · have hpairs : boundPairs (table.history (.bind target binding :: rest)) =
            boundPairs (table.history rest) := by
          simp [history, boundPairs, answer, hb, afterCall, heq]
        simp only [hpairs, afterCalls_cons, afterCall, heq]
        exact ih table

/-! ### A table only grows -/

theorem Reachable.afterCalls {table : RouteTable} (h : Reachable table) (calls : List Call) :
    Reachable (table.afterCalls calls) := by
  induction calls generalizing table with
  | nil => exact h
  | cons call rest ih =>
    cases call with
    | contains key => exact ih h
    | bind target binding => exact ih (h.bind target binding)

theorem contains_afterCall {table : RouteTable} {key : RouteKey} (h : table.contains key = true) (call : Call) :
    (table.afterCall call).contains key = true := by
  cases call with
  | contains k => exact h
  | bind target binding =>
    rcases afterBind_cases table target binding with ⟨k, -, heq⟩ | ⟨e, -, heq⟩
    · simp [afterCall, heq, h]
    · simp [afterCall, heq, h]

theorem contains_afterCalls {table : RouteTable} {key : RouteKey} (h : table.contains key = true)
    (calls : List Call) : (table.afterCalls calls).contains key = true := by
  induction calls generalizing table with
  | nil => exact h
  | cons call rest ih => exact ih (contains_afterCall h call)

theorem shadows_mono {table later : RouteTable} (grows : ∀ k, table.contains k = true → later.contains k = true)
    {key : RouteKey} (h : table.shadows key = true) : later.shadows key = true := by
  cases key with
  | catchAll => cases h
  | route method path =>
    cases method with
    | any =>
      obtain ⟨m, hm, hc⟩ := List.any_eq_true.mp h
      exact List.any_eq_true.mpr ⟨m, hm, grows _ hc⟩
    | exact m => exact grows _ h

/-! ### Repeated calls -/

section Again
variable {table later : RouteTable} {target : Target} {binding : RouteBinding}

/-- A binding of a key that the table holds is a duplicate, and is reported as nothing else. -/
theorem Consistent.bind_of_contains (h : later.Consistent) {key : RouteKey}
    (hkey : binding.key target.name = .ok key) (hc : later.contains key = true) :
    later.bind target binding = .error (.duplicateRoute target.name key) := by
  have hs : ¬later.shadows key = true := fun hs =>
    h.not_contains_and_shadows (RouteBinding.proper_key hkey) ⟨hc, hs⟩
  rw [bind_of_key hkey, if_neg hs, if_pos hc]

/-- What rejects a binding rejects it in every table that holds more keys. -/
theorem Consistent.bind_error_mono (h : later.Consistent)
    (grows : ∀ k, table.contains k = true → later.contains k = true) {e : RouteError}
    (hb : table.bind target binding = .error e) : later.bind target binding = .error e := by
  cases hkey : binding.key target.name with
  | error e' =>
    rw [bind_of_key_error hkey] at hb ⊢
    exact hb
  | ok key =>
    rw [bind_of_key hkey] at hb
    split at hb
    · rename_i hs
      rw [bind_of_key hkey, if_pos (shadows_mono grows hs)]
      exact hb
    · split at hb
      · rename_i hc
        -- Nothing that came in between shadows a key that was bound already, so the same test rejects it.
        rw [h.bind_of_contains hkey (grows key hc)]
        exact hb
      · cases hb

end Again

/-- For every list of calls on a new table: without those that are rejected, every call has the answer that it
    had, the table is the same, and resolving the bindings that were accepted makes this table too. A call of
    `bind` that is repeated at any later point is rejected with the error that it had, or, if it was accepted,
    as a duplicate of its own key. -/
theorem rejected_leave_no_trace (calls : List Call) :
    let accepted := (empty.history calls).filter (!·.2.isRejected)
    empty.history (accepted.map Prod.fst) = accepted ∧
    empty.afterCalls (accepted.map Prod.fst) = empty.afterCalls calls ∧
    (∀ declarations, declaredPairs declarations = boundPairs (empty.history calls) →
      (resolve declarations).value = .ok (empty.afterCalls calls)) ∧
    ∀ earlier target binding between, calls = earlier ++ .bind target binding :: between →
      (∀ e, (empty.afterCalls earlier).bind target binding = .error e →
        (empty.afterCalls calls).bind target binding = .error e) ∧
      ∀ key next, (empty.afterCalls earlier).bind target binding = .ok (key, next) →
        (empty.afterCalls calls).bind target binding = .error (.duplicateRoute target.name key) := by
  intro accepted
  obtain ⟨hist, after⟩ := history_accepted empty calls
  refine ⟨hist, after, fun declarations hd => by rw [resolve, hd, bindAll_boundPairs], ?_⟩
  intro earlier target binding between hcalls
  have hlater : (empty.afterCalls calls).Consistent := (Reachable.empty.afterCalls calls).consistent
  have hsplit : empty.afterCalls calls =
      ((empty.afterCalls earlier).afterCall (.bind target binding)).afterCalls between := by
    rw [hcalls, afterCalls_append, afterCalls_cons]
  refine ⟨fun e hb => ?_, fun key next hb => ?_⟩
  · refine hlater.bind_error_mono (fun k hk => ?_) hb
    rw [hsplit]
    exact contains_afterCalls (contains_afterCall hk _) between
  · obtain ⟨hkey, -, -, rfl⟩ := bind_eq_ok_iff.mp hb
    refine hlater.bind_of_contains hkey ?_
    rw [hsplit]
    refine contains_afterCalls ?_ between
    simp [afterCall, afterBind, hb]

/-- `ANY` is rejected beside `GET`, leaves no trace, and is rejected again behind the catch-all. -/
theorem rejected_leave_no_trace_of_any :
    let shadowed : Call := .bind ⟨"orders", none⟩ (.shorthand "ANY /a")
    let calls : List Call :=
      [.bind ⟨"users", none⟩ (.shorthand "GET /a"), shadowed, .bind ⟨"orders", none⟩ (.shorthand "*")]
    let error : RouteError := .shadowedRoute "orders" (.route .any "/a") "/a"
    (resolve [⟨⟨"users", none⟩, [.shorthand "GET /a"]⟩, ⟨⟨"orders", none⟩, [.shorthand "*"]⟩]).value =
      .ok (empty.afterCalls calls) ∧
    (empty.afterCalls (calls.take 1)).answer shadowed = .rejected error ∧
    (empty.afterCalls calls).bind ⟨"orders", none⟩ (.shorthand "ANY /a") = .error error := by
  intro shadowed calls error
  obtain ⟨-, -, resolved, again⟩ := rejected_leave_no_trace calls
  have hget : (RouteBinding.shorthand "GET /a").key "users" = .ok (.route (.exact .get) "/a") := rfl
  have hany : (RouteBinding.shorthand "ANY /a").key "orders" = .ok (.route .any "/a") := rfl
  have hall : (RouteBinding.shorthand "*").key "orders" = .ok .catchAll := rfl
  have hpairs : boundPairs (empty.history calls) =
      [(⟨"users", none⟩, .shorthand "GET /a"), (⟨"orders", none⟩, .shorthand "*")] := by
    simp [calls, shadowed, boundPairs, history, answer, afterCall, afterBind_of_key, bind_of_key, hget, hany, hall,
      shadows, contains, empty, insert, Method.all]
  have hb : (empty.afterCalls (calls.take 1)).bind ⟨"orders", none⟩ (.shorthand "ANY /a") = .error error := by
    simp [calls, error, afterCall, afterBind_of_key, bind_of_key, hget, hany, shadows, contains, empty, insert,
      Method.all, RouteKey.path]
  refine ⟨resolved _ hpairs.symm, ?_, (again _ _ _ _ rfl).1 error hb⟩
  simp only [answer, shadowed, hb]

end RouteTable
end RouteCompiler
