import RouteCompiler.Proofs.Document.Reading
import RouteCompiler.Proofs.Json.RoundTrip
import RouteCompiler.Service.Load
import RouteCompiler.Service.Write

/-! # Services read back

What is written of a service, or of a part of one, is read back to the same value: each missing part, each
form of a binding, of a CORS setting and of a list of texts is written in a way that no other part or form
is. -/

namespace RouteCompiler
open Document

variable {ε : Type}

/-! ### Values of several forms -/

theorem OneOrMany.read_toValue (o : OneOrMany) :
    OneOrMany.read o.toValue.node = (.ok o : Reading ε OneOrMany) := by
  cases o with
  | one s => exact readChoice_first rfl
  | many ss =>
    have hlist : (Value.texts ss).node.readList (ε := ε) Node.readText = .ok ss := readList_map fun _ _ => rfl
    exact readChoice_second rfl (by rw [toValue, hlist]; rfl)

theorem readOption_optionalText (o : Option String) :
    (Value.optionalText o).node.readOption Node.readText = (.ok o : Reading ε (Option String)) := by
  cases o <;> rfl

theorem RouteBinding.read_toValue (b : RouteBinding) :
    RouteBinding.read b.toValue.node = (.ok b : Reading ε RouteBinding) := by
  cases b with
  | shorthand route => exact readChoice_first rfl
  | structured method path =>
    refine readChoice_second rfl ?_
    have hread : RouteBinding.format.readMembers .empty (valueMembers
        [("method", Value.optionalText method), ("path", Value.optionalText path)]) =
          (.ok ((Draft.empty.set .method method).set .path path) : Reading ε _) := by
      rw [RecordFormat.readMembers_cons rfl rfl (readOption_optionalText method),
        RecordFormat.readMembers_cons rfl (by simp [Draft.empty]) (readOption_optionalText path)]
      rfl
    show RouteBinding.format.readTable ofDraft (valueMembers _) = _
    simp [RecordFormat.readTable, hread, RecordFormat.finish, ofDraft]

/-! ### CORS -/

theorem OneOrMany.readOption_toValue (o : OneOrMany) :
    o.toValue.node.readOption OneOrMany.read = (.ok (some o) : Reading ε (Option OneOrMany)) :=
  readOption_of_ok (by cases o <;> exact nofun) o.read_toValue

theorem readOption_readUInt64 (n : UInt64) :
    (Value.integer n.toNat).node.readOption Node.readUInt64 = (.ok (some n) : Reading ε (Option UInt64)) := by
  have hlt := n.toNat_lt_size
  have hrange : (0 : Int) ≤ n.toNat ∧ (n.toNat : Int) < UInt64.size := by omega
  refine readOption_of_ok nofun ?_
  rw [Value.node, Node.readUInt64, if_pos hrange, Int.toNat_natCast, UInt64.ofNat_toNat]

theorem CorsOverrides.read_toValue (surplus : Option (Problem ε)) (o : CorsOverrides) :
    CorsOverrides.read surplus o.toValue.node = .ok o := by
  have hmaxAge (n : UInt64) : (format (ε := ε)).read .maxAge (Value.integer n.toNat).node = .ok (some n) := by
    have hread : (format (ε := ε)).read .maxAge = Node.readOption Node.readUInt64 := rfl
    rw [hread, readOption_readUInt64]
  apply RecordFormat.readRecord_table
  case hread =>
    simp only [List.append_assoc]
    rw [RecordFormat.readMembers_memberIfSome o.allowedOrigins rfl rfl OneOrMany.readOption_toValue,
      RecordFormat.readMembers_memberIfSome o.allowedHeaders rfl (by simp) OneOrMany.readOption_toValue,
      RecordFormat.readMembers_memberIfSome o.allowedMethods rfl (by simp) OneOrMany.readOption_toValue,
      RecordFormat.readMembers_memberIfSome o.allowCredentials rfl (by simp) fun _ => rfl,
      RecordFormat.readMembers_memberIfSome o.exposedResponseHeaders rfl (by simp) OneOrMany.readOption_toValue]
    exact RecordFormat.readMembers_memberIfSome_last o.maxAge rfl (by simp) hmaxAge
  case hmake =>
    simp [ofDraft]

theorem CorsSetting.read_toValue (s : CorsSetting) :
    CorsSetting.read s.toValue.node = (.ok s : Reading ε CorsSetting) := by
  cases s with
  | enabled on => exact readChoice_first rfl
  | custom overrides =>
    refine readChoice_second rfl ?_
    rw [toValue, readCustom, CorsOverrides.read_toValue]
    rfl

theorem HttpApiConfig.read_toValue (surplus : Option (Problem ε)) (c : HttpApiConfig) :
    HttpApiConfig.read surplus c.toValue.node = .ok c := by
  obtain ⟨cors⟩ := c
  cases cors with
  | none => rfl
  | some setting =>
    have hsetting : setting.toValue.node.readOption CorsSetting.read =
        (.ok (some setting) : Reading ε (Option CorsSetting)) :=
      readOption_of_ok (by cases setting <;> exact nofun) setting.read_toValue
    apply RecordFormat.readRecord_table
    case hread => exact RecordFormat.readMembers_cons rfl rfl hsetting
    case hmake => simp [ofDraft]

/-! ### Functions and services -/

theorem TargetAlias.read_toValue (surplus : Option (Problem ε)) (a : TargetAlias) :
    TargetAlias.read surplus a.toValue.node = .ok a := by
  apply RecordFormat.readRecord_table
  case hread =>
    rw [RecordFormat.readMembers_cons (f := .name) rfl rfl rfl]
    exact RecordFormat.readMembers_memberIfSome_last a.logicalId rfl (by simp) fun _ => rfl
  case hmake => simp [ofDraft]

theorem TargetAlias.readOption_toValue (surplus : Option (Problem ε)) (a : TargetAlias) :
    a.toValue.node.readOption (TargetAlias.read surplus) = .ok (some a) :=
  readOption_of_ok nofun (a.read_toValue surplus)

theorem Target.read_toValue (surplus : Option (Problem ε)) (t : Target) :
    Target.read surplus t.toValue.node = .ok t := by
  apply RecordFormat.readRecord_table
  case hread =>
    rw [RecordFormat.readMembers_cons (f := .name) rfl rfl rfl]
    exact RecordFormat.readMembers_memberIfSome_last t.pin rfl (by simp) (TargetAlias.readOption_toValue surplus)
  case hmake => simp [ofDraft]

/-- An event is read back however its binding is written, if the binding is. -/
theorem EventConfig.read_table (surplus : Option (Problem ε)) {write : RouteBinding → Value}
    (hbinding : ∀ b, (write b).node.readOption RouteBinding.read = (.ok (some b) : Reading ε (Option RouteBinding)))
    (e : EventConfig) :
    EventConfig.read surplus (Value.table (Value.memberIfSome "http_api" write e.httpApi)).node = .ok e := by
  apply RecordFormat.readRecord_table
  case hread => exact RecordFormat.readMembers_memberIfSome_last e.httpApi rfl rfl hbinding
  case hmake => simp [ofDraft]

theorem EventConfig.read_toValue (surplus : Option (Problem ε)) (e : EventConfig) :
    EventConfig.read surplus e.toValue.node = .ok e :=
  EventConfig.read_table surplus (fun b => readOption_of_ok (by cases b <;> exact nofun) b.read_toValue) e

theorem FunctionConfig.read_table (surplus : Option (Problem ε)) {write : EventConfig → Value}
    (hevent : ∀ e, EventConfig.read surplus (write e).node = .ok e) (f : FunctionConfig) :
    FunctionConfig.read surplus
      (Value.table (("name", .text f.name) :: Value.memberIfSome "target_alias" TargetAlias.toValue f.targetAlias ++
        [("events", .list (f.events.map write))])).node = .ok f := by
  have hevents : (Value.list (f.events.map write)).node.readList (EventConfig.read surplus) = .ok f.events :=
    readList_map fun e _ => hevent e
  apply RecordFormat.readRecord_table
  case hread =>
    rw [List.cons_append, RecordFormat.readMembers_cons (f := .name) rfl rfl rfl,
      RecordFormat.readMembers_memberIfSome f.targetAlias rfl (by simp) (TargetAlias.readOption_toValue surplus)]
    exact RecordFormat.readMembers_cons rfl (by simp) hevents
  case hmake => simp [ofDraft]

theorem FunctionConfig.read_toValue (surplus : Option (Problem ε)) (f : FunctionConfig) :
    FunctionConfig.read surplus f.toValue.node = .ok f :=
  FunctionConfig.read_table surplus (EventConfig.read_toValue surplus) f

theorem ServiceConfig.read_table (surplus : Option (Problem ε)) {writeApi : HttpApiConfig → Value}
    {write : FunctionConfig → Value} (hapi : ∀ a, HttpApiConfig.read surplus (writeApi a).node = .ok a)
    (hfunction : ∀ f, FunctionConfig.read surplus (write f).node = .ok f) (c : ServiceConfig) :
    ServiceConfig.read surplus
      (Value.table [("service", .text c.service), ("http_api", writeApi c.httpApi),
        ("functions", .list (c.functions.map write))]).node = .ok c := by
  have hfunctions : (Value.list (c.functions.map write)).node.readList (FunctionConfig.read surplus) =
      .ok c.functions := readList_map fun f _ => hfunction f
  apply RecordFormat.readRecord_table
  case hread =>
    rw [RecordFormat.readMembers_cons (f := .service) rfl rfl rfl,
      RecordFormat.readMembers_cons rfl (by simp) (hapi c.httpApi)]
    exact RecordFormat.readMembers_cons rfl (by simp) hfunctions
  case hmake => simp [ofDraft]

theorem ServiceConfig.read_toValue (surplus : Option (Problem ε)) (c : ServiceConfig) :
    ServiceConfig.read surplus c.toValue.node = .ok c :=
  ServiceConfig.read_table surplus (HttpApiConfig.read_toValue surplus) (FunctionConfig.read_toValue surplus) c

/-! ### How deep the values go -/

section Fits
open Json (Fits)

theorem TargetAlias.fits (a : TargetAlias) : Fits 1 a.toValue :=
  .table (List.forall_mem_cons.mpr ⟨.text _, Fits.memberIfSome a.logicalId fun _ => .text _⟩)

theorem Target.fits (t : Target) : Fits 2 t.toValue :=
  .table (List.forall_mem_cons.mpr ⟨.text _, Fits.memberIfSome t.pin TargetAlias.fits⟩)

theorem RouteBinding.fits (b : RouteBinding) : Fits 1 b.toValue := by
  have hpart (o : Option String) : Fits 0 (Value.optionalText o) := by
    cases o with
    | none => exact .null
    | some s => exact .text s
  cases b with
  | shorthand route => exact .text route
  | structured method path =>
    refine .table ?_
    simp only [List.forall_mem_cons]
    exact ⟨hpart method, hpart path, nofun⟩

theorem OneOrMany.fits (o : OneOrMany) : Fits 1 o.toValue := by
  cases o with
  | one s => exact .text s
  | many ss => exact Fits.listMap fun _ _ => .text _

theorem CorsOverrides.fits (o : CorsOverrides) : Fits 2 o.toValue := by
  have hmaxAge (n : UInt64) : Fits 1 (.integer n.toNat) := by
    have hlt := n.toNat_lt_size
    have hrange : Json.InRange n.toNat := by
      rw [Json.InRange]
      omega
    exact .integer hrange
  refine .table ?_
  simp only [List.forall_mem_append]
  refine ⟨⟨⟨⟨⟨?_, ?_⟩, ?_⟩, ?_⟩, ?_⟩, ?_⟩
  · exact Fits.memberIfSome _ OneOrMany.fits
  · exact Fits.memberIfSome _ OneOrMany.fits
  · exact Fits.memberIfSome _ OneOrMany.fits
  · exact Fits.memberIfSome _ .bool
  · exact Fits.memberIfSome _ OneOrMany.fits
  · exact Fits.memberIfSome _ hmaxAge

theorem CorsSetting.fits (s : CorsSetting) : Fits 2 s.toValue := by
  cases s with
  | enabled on => exact .bool on
  | custom overrides => exact overrides.fits

theorem HttpApiConfig.fits (c : HttpApiConfig) : Fits 3 c.toValue := by
  obtain ⟨cors⟩ := c
  refine .table (List.forall_mem_singleton.mpr ?_)
  cases cors with
  | none => exact .null
  | some setting => exact setting.fits

theorem EventConfig.fits (e : EventConfig) : Fits 2 e.toValue :=
  .table (Fits.memberIfSome e.httpApi RouteBinding.fits)

theorem FunctionConfig.fits (f : FunctionConfig) : Fits 4 f.toValue := by
  have hevents : Fits 3 (.list (f.events.map EventConfig.toValue)) := Fits.listMap fun e _ => e.fits
  refine .table ?_
  simp only [List.cons_append, List.forall_mem_cons, List.forall_mem_append]
  refine ⟨.text _, ?_, hevents, nofun⟩
  exact Fits.memberIfSome f.targetAlias fun a => a.fits.mono (by omega)

theorem ServiceConfig.fits (c : ServiceConfig) : Fits 6 c.toValue := by
  have hfunctions : Fits 5 (.list (c.functions.map FunctionConfig.toValue)) := Fits.listMap fun f _ => f.fits
  refine .table ?_
  simp only [List.forall_mem_cons]
  exact ⟨.text _, c.httpApi.fits.mono (by omega), hfunctions, nofun⟩

end Fits

/-! ### The text of a service -/

/-- Everything is read back from the text that is written of it. -/
def ReadsBack {α : Type} (reader : Node Json.Fault → Reading Json.Fault α) (toValue : α → Value) : Prop :=
  ∀ a, Json.read reader (Json.write (toValue a)) = .ok a

theorem readsBack_of_fits {α : Type} {reader : Node Json.Fault → Reading Json.Fault α} {toValue : α → Value}
    (room : Nat) (hroom : room ≤ Json.maxDepth) (hfits : ∀ a, Json.Fits room (toValue a))
    (hread : ∀ a, reader (toValue a).node = .ok a) : ReadsBack reader toValue :=
  fun a => Json.read_write ((hfits a).mono hroom) (hread a)

theorem ServiceConfig.readsBack : ReadsBack (ServiceConfig.read Json.surplus) ServiceConfig.toValue :=
  readsBack_of_fits 6 (by decide) ServiceConfig.fits (ServiceConfig.read_toValue _)

theorem ServiceConfig.validated_eq (c : ServiceConfig) :
    c.validated = if c.problems = [] then .ok c else .error (.invalid c.problems) := by
  cases hproblems : c.problems <;> simp [validated, hproblems]

/-- A service that has been written is loaded if it has no problem, and is refused for all its problems if it
has any. -/
theorem ServiceConfig.parse_write (c : ServiceConfig) : ServiceConfig.parse (Json.write c.toValue) .json =
    if c.problems = [] then .ok c else .error (.invalid c.problems) := by
  rw [parse, decode, ServiceConfig.readsBack c]
  exact c.validated_eq

/-- Writing a service to a file and loading it from there keeps it. -/
theorem ServiceConfig.load_write (c : ServiceConfig) {path : String} (hformat : Format.ofPath path = .json) :
    ServiceConfig.load path (.ok (Json.write c.toValue).toUTF8) =
      if c.problems = [] then .ok c else .error (.invalid c.problems) := by
  have htext : String.fromUTF8? (Json.write c.toValue).toUTF8 = some (Json.write c.toValue) :=
    dif_pos (Json.write c.toValue).isValidUTF8
  simp only [load, htext, hformat, parse_write]

/-- A service, and everything of which one is made, is read back from its text. So the text of a service is
loaded or refused just as the service itself is valid or not. -/
theorem json_readsBack :
    ReadsBack (ServiceConfig.read Json.surplus) ServiceConfig.toValue ∧
    ReadsBack (FunctionConfig.read Json.surplus) FunctionConfig.toValue ∧
    ReadsBack (EventConfig.read Json.surplus) EventConfig.toValue ∧
    ReadsBack (HttpApiConfig.read Json.surplus) HttpApiConfig.toValue ∧
    ReadsBack RouteBinding.read RouteBinding.toValue ∧
    ReadsBack CorsSetting.read CorsSetting.toValue ∧
    ReadsBack (CorsOverrides.read Json.surplus) CorsOverrides.toValue ∧
    ReadsBack OneOrMany.read OneOrMany.toValue ∧
    ReadsBack (Target.read Json.surplus) Target.toValue ∧
    ReadsBack (TargetAlias.read Json.surplus) TargetAlias.toValue ∧
    ∀ c : ServiceConfig, ServiceConfig.parse (Json.write c.toValue) .json =
      if c.problems = [] then .ok c else .error (.invalid c.problems) := by
  refine ⟨ServiceConfig.readsBack, ?_, ?_, ?_, ?_, ?_, ?_, ?_, ?_, ?_, ServiceConfig.parse_write⟩
  · exact readsBack_of_fits 4 (by decide) FunctionConfig.fits (FunctionConfig.read_toValue _)
  · exact readsBack_of_fits 2 (by decide) EventConfig.fits (EventConfig.read_toValue _)
  · exact readsBack_of_fits 3 (by decide) HttpApiConfig.fits (HttpApiConfig.read_toValue _)
  · exact readsBack_of_fits 1 (by decide) RouteBinding.fits RouteBinding.read_toValue
  · exact readsBack_of_fits 2 (by decide) CorsSetting.fits CorsSetting.read_toValue
  · exact readsBack_of_fits 2 (by decide) CorsOverrides.fits (CorsOverrides.read_toValue _)
  · exact readsBack_of_fits 1 (by decide) OneOrMany.fits OneOrMany.read_toValue
  · exact readsBack_of_fits 2 (by decide) Target.fits (Target.read_toValue _)
  · exact readsBack_of_fits 1 (by decide) TargetAlias.fits (TargetAlias.read_toValue _)

end RouteCompiler
