import CaptureFilter.Http.Body

/-!
# Bodies that are read back

The reader of bodies that the services run with reads what clients have written, so that all that
holds of faithful readers holds of it.
Spec guidance: `SPEC_FULL.md` §C (`AttributeRequest`, `CompileRequest`).
-/

namespace CaptureFilter.Http

open Validation

private theorem required_eq_ok {α : Type} {check : Json.Value → Checked α} {name : String}
    {v field : Json.Value} {a : α} (hf : v.field? name = some field) (h : check field = .ok a) :
    required check name v = .ok a := by
  rw [required, hf, Option.elim_some, h]
  rfl

private theorem withDefault_eq_ok {α : Type} {check : Json.Value → Checked α} {name : String}
    {v field : Json.Value} {default a : α} (hf : v.field? name = some field)
    (h : check field = .ok a) : withDefault default check name v = .ok a := by
  rw [withDefault, hf, Option.elim_some, h]
  rfl

private theorem sectionName_value (place : SectionName) : sectionName place.value = .ok place := by
  cases place <;> rfl

/-- A submission that has been written is read. -/
theorem submission_toJson (s : Submission) : submission s.toJson = .ok s := by
  have hkind : required text "type" s.toJson = .ok s.kind := required_eq_ok rfl rfl
  have hplace : required sectionName "section" s.toJson = .ok s.place :=
    required_eq_ok rfl (sectionName_value s.place)
  have hoperator : required text "match" s.toJson = .ok s.operator := required_eq_ok rfl rfl
  have hinput : withDefault "" text "input" s.toJson = .ok s.input := withDefault_eq_ok rfl rfl
  change (both (required text "type" s.toJson)
    (both (required sectionName "section" s.toJson)
      (both (required text "match" s.toJson) (withDefault "" text "input" s.toJson)))).map _ = _
  rw [hkind, hplace, hoperator, hinput]
  rfl

private theorem itemsFrom_map {α : Type} {check : Json.Value → Checked α} {write : α → Json.Value}
    (h : ∀ a, check (write a) = .ok a) (index : Nat) (all : List α) :
    itemsFrom index check (all.map write) = .ok all := by
  induction all generalizing index with
  | nil => rfl
  | cons a rest ih =>
    rw [List.map_cons, itemsFrom, h, ih]
    rfl

private theorem nullable_text (name : Option String) :
    nullable text (name.elim .null .text) = .ok name := by
  cases name <;> rfl

/-- A request for an expression that has been written is read. -/
theorem compileRequest_toJson (r : CompileRequest) : compileRequest r.toJson = .ok r := by
  have hattributes : withDefault [] (listOf submission) "attributes" r.toJson =
      .ok r.submissions :=
    withDefault_eq_ok rfl (itemsFrom_map submission_toJson 0 r.submissions)
  have hvlan : withDefault none (nullable bool) "vlan_supported" r.toJson = .ok r.vlan := by
    cases hv : r.vlan with
    | none =>
      have hf : r.toJson.field? "vlan_supported" = none := by
        rw [CompileRequest.toJson, hv]
        rfl
      rw [withDefault, hf]
      rfl
    | some vlan =>
      have hf : r.toJson.field? "vlan_supported" = some (.bool vlan) := by
        rw [CompileRequest.toJson, hv]
        rfl
      exact withDefault_eq_ok hf rfl
  have hinterface : withDefault none (nullable text) "interface" r.toJson = .ok r.interface :=
    withDefault_eq_ok rfl (nullable_text r.interface)
  change (both (withDefault [] (listOf submission) "attributes" r.toJson)
    (both (withDefault none (nullable bool) "vlan_supported" r.toJson)
      (withDefault none (nullable text) "interface" r.toJson))).map _ = _
  rw [hattributes, hvlan, hinterface]
  rfl

/-- The reader that the services run with is faithful. -/
theorem bodyReader_faithful : bodyReader.Faithful where
  submission_toJson s _ := by
    change behind _ (submission s.toJson) = _
    rw [submission_toJson]
    rfl
  compileRequest_toJson r _ := by
    change behind _ (compileRequest r.toJson) = _
    rw [compileRequest_toJson]
    rfl

end CaptureFilter.Http
