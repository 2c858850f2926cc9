import ApiDecl.Proofs.CanonicalText

/-!
# Reading an exported model

`Model.ofJson` reads the model back from its JSON. Members are found by their keys, so a reader
gives the same for values that are equal up to the order of members (`Orderless`). Together with
the round trip of every part, this makes exported models differ whenever the models do.
-/

namespace ApiDecl.Json

/-! ## Readers -/

/-- The value is a text. -/
def asText : Json → Option String
  | .str s => some s
  | _ => none

/-- The value is a text or null. -/
def asText? : Json → Option (Option String)
  | .null => some none
  | .str s => some (some s)
  | _ => none

/-- The value is true or false. -/
def asBool : Json → Option Bool
  | .bool b => some b
  | _ => none

/-- The value is a list whose items can all be read. -/
def asList {α : Type} (read : Json → Option α) : Json → Option (List α)
  | .arr items => items.mapM read
  | _ => none

/-- A member of an object is read. -/
def field {α : Type} (key : String) (read : Json → Option α) (v : Json) : Option α :=
  (v.get? key).bind read

theorem sizeOf_lt_of_get? {key : String} {v w : Json} (h : v.get? key = some w) :
    sizeOf w < sizeOf v := by
  cases v with
  | obj members =>
    obtain ⟨before, after, rfl, -⟩ := List.lookup_eq_some_iff.1 h
    have hmember := List.sizeOf_lt_of_mem (List.mem_append_right before
      (List.mem_cons_self (a := (key, w)) (l := after)))
    simp only [Prod.mk.sizeOf_spec] at hmember
    simp only [Json.obj.sizeOf_spec]
    omega
  | _ => simp [get?] at h

variable {α : Type}

theorem asText?_ofText? (s : Option String) : asText? (.ofText? s) = some s := by
  cases s <;> rfl

theorem asList_map {write : α → Json} {read : Json → Option α}
    (h : ∀ a, read (write a) = some a) (l : List α) :
    asList read (.arr (l.map write)) = some l := by
  show (l.map write).mapM read = some l
  induction l with
  | nil => rfl
  | cons a l ih =>
    rw [List.map_cons, List.mapM_cons, h, ih]
    rfl

/-! ## Readers that do not look at the order of members -/

/-- Values that are equal up to the order of members are read alike. -/
def Orderless (read : Json → Option α) : Prop := ∀ ⦃v w⦄, Same v w → read v = read w

/-- A reader that takes no lists and no objects has no members to look at. -/
theorem orderless_of_scalar {read : Json → Option α} (harr : ∀ items, read (.arr items) = none)
    (hobj : ∀ members, read (.obj members) = none) : Orderless read := by
  intro v w h
  cases h with
  | refl => rfl
  | arr => rw [harr, harr]
  | obj => rw [hobj, hobj]

theorem orderless_asText : Orderless asText := orderless_of_scalar (fun _ => rfl) fun _ => rfl

theorem orderless_asText? : Orderless asText? := orderless_of_scalar (fun _ => rfl) fun _ => rfl

theorem orderless_asBool : Orderless asBool := orderless_of_scalar (fun _ => rfl) fun _ => rfl

theorem Orderless.asList {read : Json → Option α} (hread : Orderless read) :
    Orderless (asList read) := by
  intro v w h
  cases h with
  | refl => rfl
  | obj => rfl
  | @arr items items' length item =>
    have hitems : items.map read = items'.map read := by
      refine List.ext_getElem (by simpa using length) fun i hi hi' => ?_
      rw [List.length_map] at hi hi'
      rw [List.getElem_map, List.getElem_map]
      exact hread (item i _ _ (List.getElem?_eq_getElem hi) (List.getElem?_eq_getElem hi'))
    calc items.mapM read = (items.map read).mapM id := by simp [List.mapM_map]
      _ = items'.mapM read := by simp [hitems, List.mapM_map]

theorem bind_lookup_eq {members members' : List (String × Json)} {key : String}
    {read : Json → Option α}
    (hkey : (members.lookup key).isSome = (members'.lookup key).isSome)
    (hread : ∀ v w, members.lookup key = some v → members'.lookup key = some w →
      read v = read w) :
    (members.lookup key).bind read = (members'.lookup key).bind read := by
  cases hv : members.lookup key with
  | none =>
    rw [hv, Option.isSome_none, eq_comm, Option.isSome_eq_false_iff,
      Option.isNone_iff_eq_none] at hkey
    rw [hkey]
  | some v =>
    rw [hv, Option.isSome_some, eq_comm] at hkey
    obtain ⟨w, hw⟩ := Option.isSome_iff_exists.1 hkey
    rw [hw, Option.bind_some, Option.bind_some]
    exact hread v w hv hw

theorem Orderless.field {read : Json → Option α} (hread : Orderless read) (key : String) :
    Orderless (field key read) := by
  intro v w h
  cases h with
  | refl => rfl
  | arr => rfl
  | obj keys member => exact bind_lookup_eq (keys key) fun v w hv hw => hread (member key v w hv hw)

end ApiDecl.Json

namespace ApiDecl.Model

open Json (Orderless Same field asText asText? asBool asList)

/-! ## Reading the parts of a model -/

/-- A type from its JSON. -/
def TypeExpr.ofJson (v : Json) : Option TypeExpr :=
  match field "kind" asText v with
  | some "type" => do return named (← field "name" asText v)
  | some "array" => do
    -- The equation of a member is kept for the proof that the recursion ends.
    return array (← (v.get? "of").pbind fun of _ => ofJson of)
  | some "map" => do
    return map (← (v.get? "key").pbind fun key _ => ofJson key)
      (← (v.get? "value").pbind fun value _ => ofJson value)
  | some "unresolved" => do
    return unresolved (← field "node_type" asText v) (← field "text" asText v)
  | _ => none
termination_by v
decreasing_by all_goals exact Json.sizeOf_lt_of_get? (by assumption)

/-- A property from its JSON. -/
def Property.ofJson (v : Json) : Option Property := do
  return {
    name := ← field "name" asText v
    type := ← field "type" TypeExpr.ofJson v
    optional := ← field "optional" asBool v
    documentation := ← field "documentation" asText? v }

/-- An interface from its JSON. -/
def Interface.ofJson (v : Json) : Option Interface := do
  return {
    name := ← field "name" asText v
    properties := ← field "properties" (asList Property.ofJson) v
    documentation := ← field "documentation" asText? v }

/-- A member of an enum from its JSON. -/
def EnumMember.ofJson (v : Json) : Option EnumMember := do
  return {
    name := ← field "name" asText v
    documentation := ← field "documentation" asText? v }

/-- An enum from its JSON. -/
def Enum.ofJson (v : Json) : Option Enum := do
  return {
    name := ← field "name" asText v
    members := ← field "members" (asList EnumMember.ofJson) v
    documentation := ← field "documentation" asText? v }

/-- The whole model from its JSON. -/
def ofJson (v : Json) : Option Model := do
  return {
    interfaces := ← field "interfaces" (asList Interface.ofJson) v
    enums := ← field "enums" (asList Enum.ofJson) v }

/-! ## Round trips -/

theorem TypeExpr.ofJson_eq (v : Json) :
    ofJson v = match field "kind" asText v with
      | some "type" => do return named (← field "name" asText v)
      | some "array" => do return array (← field "of" ofJson v)
      | some "map" => do return map (← field "key" ofJson v) (← field "value" ofJson v)
      | some "unresolved" => do
        return unresolved (← field "node_type" asText v) (← field "text" asText v)
      | _ => none := by
  rw [ofJson]
  simp only [Option.pbind_eq_bind]
  rfl

theorem TypeExpr.ofJson_toJson (t : TypeExpr) : ofJson t.toJson = some t := by
  induction t with
  | named name => rw [ofJson_eq]; rfl
  | array of ih =>
    rw [ofJson_eq]
    show (ofJson of.toJson >>= fun of => pure (array of)) = _
    rw [ih]
    rfl
  | map key value hkey hvalue =>
    rw [ofJson_eq]
    show (ofJson key.toJson >>= fun key => ofJson value.toJson >>= fun value =>
      pure (map key value)) = _
    rw [hkey, hvalue]
    rfl
  | unresolved shape text => rw [ofJson_eq]; rfl

theorem Property.ofJson_toJson (p : Property) : ofJson p.toJson = some p := by
  show (TypeExpr.ofJson p.type.toJson >>= fun type =>
    asText? (.ofText? p.documentation) >>= fun documentation =>
      pure { p with type, documentation }) = _
  rw [TypeExpr.ofJson_toJson, Json.asText?_ofText?]
  rfl

theorem Interface.ofJson_toJson (i : Interface) : ofJson i.toJson = some i := by
  show (asList Property.ofJson (.arr (i.properties.map Property.toJson)) >>= fun properties =>
    asText? (.ofText? i.documentation) >>= fun documentation =>
      pure { i with properties, documentation }) = _
  rw [Json.asList_map Property.ofJson_toJson, Json.asText?_ofText?]
  rfl

theorem EnumMember.ofJson_toJson (m : EnumMember) : ofJson m.toJson = some m := by
  show (asText? (.ofText? m.documentation) >>= fun documentation =>
    pure { m with documentation }) = _
  rw [Json.asText?_ofText?]
  rfl

theorem Enum.ofJson_toJson (e : Enum) : ofJson e.toJson = some e := by
  show (asList EnumMember.ofJson (.arr (e.members.map EnumMember.toJson)) >>= fun members =>
    asText? (.ofText? e.documentation) >>= fun documentation =>
      pure { e with members, documentation }) = _
  rw [Json.asList_map EnumMember.ofJson_toJson, Json.asText?_ofText?]
  rfl

theorem ofJson_toJson (m : Model) : ofJson m.toJson = some m := by
  show (asList Interface.ofJson (.arr (m.interfaces.map Interface.toJson)) >>= fun interfaces =>
    asList Enum.ofJson (.arr (m.enums.map Enum.toJson)) >>= fun enums =>
      pure (⟨interfaces, enums⟩ : Model)) = _
  rw [Json.asList_map Interface.ofJson_toJson, Json.asList_map Enum.ofJson_toJson]
  rfl

/-! ## The order of members plays no part -/

theorem TypeExpr.orderless_ofJson : Orderless TypeExpr.ofJson := by
  intro v w h
  induction h with
  | refl => rfl
  | arr => rw [ofJson_eq, ofJson_eq]; rfl
  | @obj members members' keys member ih =>
    have hsame := Same.obj keys member
    have htext : ∀ key, field key asText (.obj members) = field key asText (.obj members') :=
      fun key => Json.orderless_asText.field key hsame
    -- The parts are types themselves, so the induction hypothesis takes the place of `Orderless`.
    have htype : ∀ key, field key ofJson (.obj members) = field key ofJson (.obj members') :=
      fun key => Json.bind_lookup_eq (keys key) (ih key)
    rw [ofJson_eq, ofJson_eq, htext, htext, htext, htext, htype, htype, htype]

theorem Property.orderless_ofJson : Orderless Property.ofJson := by
  intro v w h
  rw [ofJson, ofJson, Json.orderless_asText.field _ h, TypeExpr.orderless_ofJson.field _ h,
    Json.orderless_asBool.field _ h, Json.orderless_asText?.field _ h]

theorem Interface.orderless_ofJson : Orderless Interface.ofJson := by
  intro v w h
  rw [ofJson, ofJson, Json.orderless_asText.field _ h,
    Property.orderless_ofJson.asList.field _ h, Json.orderless_asText?.field _ h]

theorem EnumMember.orderless_ofJson : Orderless EnumMember.ofJson := by
  intro v w h
  rw [ofJson, ofJson, Json.orderless_asText.field _ h, Json.orderless_asText?.field _ h]

theorem Enum.orderless_ofJson : Orderless Enum.ofJson := by
  intro v w h
  rw [ofJson, ofJson, Json.orderless_asText.field _ h,
    EnumMember.orderless_ofJson.asList.field _ h, Json.orderless_asText?.field _ h]

theorem orderless_ofJson : Orderless ofJson := by
  intro v w h
  rw [ofJson, ofJson, Interface.orderless_ofJson.asList.field _ h,
    Enum.orderless_ofJson.asList.field _ h]

/-! ## Nothing is lost -/

/-- **Exporting loses nothing.** The model is read back from its JSON, whatever the nesting of its
types, and models that differ in anything have different JSON, even if the order of members is not
looked at. -/
theorem export_lossless (m n : Model) :
    ofJson m.toJson = some m ∧ (m.toJson.Same n.toJson ↔ m = n) := by
  refine ⟨ofJson_toJson m, fun h => ?_, fun h => h ▸ .refl _⟩
  have hread := orderless_ofJson h
  rw [ofJson_toJson, ofJson_toJson] at hread
  exact Option.some.inj hread

/-- The model can also be read back from the file that it is written to. -/
theorem exists_read_artifactBytes (m : Model) :
    ∃ text v, Text.Utf8.decodeChars (Run.artifactBytes m.toJson) = .ok text ∧
      Json.parse text = .ok v ∧ ofJson v = some m := by
  have hplain := m.plain_toJson
  refine ⟨_, m.toJson.sorted, Text.Utf8.decodeChars_encodeChars _, Json.parse_render hplain, ?_⟩
  rw [orderless_ofJson hplain.same_sorted, ofJson_toJson]

end ApiDecl.Model
