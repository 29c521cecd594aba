import ClassGraph.Diagram.Format
import ClassGraph.Proofs.Json.Written

/-!
# Class models are read back from JSON

`Diagram.render_json_readable`: from the text that a list of class models is written as, the reader
gets the same list. Each kind of record has its own law `ofJson?_toJson`, which rests on the laws of
the kinds that it holds. What a record leaves out is what its reader takes for a member that is not
there (`memberOr?_nullable?`). That the text stands for the value is `Numberless.parse?_pretty`, for
a class model holds no number.
-/

namespace ClassGraph

namespace Json

variable {α : Type}

/-- An object without members has none of any name. -/
@[simp] theorem member?_object_nil (key : String) : (Json.object []).member? key = none := rfl

/-- Of several members under a key the last one counts. -/
@[simp] theorem member?_object_cons (key name : String) (value : Json)
    (members : List (String × Json)) :
    (Json.object ((name, value) :: members)).member? key =
      ((Json.object members).member? key).or (if name = key then some value else none) := by
  rw [member?, member?, List.reverse_cons, List.find?_append, Option.map_or]
  by_cases hname : name = key <;> simp [hname]

/-- Without members that are present there is none of any name. -/
@[simp] theorem member?_objectOfPresent_nil (key : String) :
    (objectOfPresent []).member? key = none := rfl

/-- A member without a value is not found under its key. -/
@[simp] theorem member?_objectOfPresent_cons (key name : String) (value : Option Json)
    (members : List (String × Option Json)) :
    (objectOfPresent ((name, value) :: members)).member? key =
      ((objectOfPresent members).member? key).or (if name = key then value else none) := by
  cases value with
  | none => simp [objectOfPresent]
  | some value => exact member?_object_cons key name value _

/-- A list is read back when each of its items is. -/
theorem list?_map {read : Json → Option α} {write : α → Json}
    (h : ∀ x, read (write x) = some x) (l : List α) :
    list? read (.array (l.map write)) = some l := by
  have hitems : (l.map write).mapM read = some l := by
    induction l with
    | nil => rfl
    | cons x l ih => simp [h x, ih]
  exact hitems

/-- Texts are read from the array of them. -/
theorem strings?_ofStrings (texts : List String) : (ofStrings texts).strings? = some texts := by
  have hread : ∀ s, string? (.string s) = some s := fun _ => rfl
  exact list?_map hread texts

/-- A text that is written only where there is one is read back, be it there or not. -/
theorem memberOr?_nullable? {j : Json} {key : String} {write : α → String}
    {read : Json → Option α} (hread : ∀ x, read (.string (write x)) = some x) {value : Option α}
    (h : j.member? key = value.map fun x => .string (write x)) :
    j.memberOr? key none (nullable? read) = some value := by
  rw [memberOr?, h]
  cases value with
  | none => rfl
  | some x => simp [nullable?, hread x]

/-- No number occurs in an array whose items hold none. -/
theorem numberless_array_map {write : α → Json} (h : ∀ x, Numberless (write x)) (l : List α) :
    Numberless (.array (l.map write)) := by
  refine .array fun item hitem => ?_
  obtain ⟨x, -, rfl⟩ := List.mem_map.mp hitem
  exact h x

/-- No number occurs in an object whose present members hold none. -/
theorem numberless_objectOfPresent {members : List (String × Option Json)}
    (h : ∀ member ∈ members, ∀ value ∈ member.2, Numberless value) :
    Numberless (objectOfPresent members) := by
  refine .object fun member hmember => ?_
  obtain ⟨⟨key, value⟩, hmem, hvalue⟩ := List.mem_filterMap.mp hmember
  obtain ⟨value, rfl, rfl⟩ := Option.map_eq_some_iff.mp hvalue
  exact h _ hmem value rfl

end Json

namespace Field

/-- A field is read from its own value. -/
theorem ofJson?_toJson (f : Field) : ofJson? f.toJson = some f := by
  simp [ofJson?, toJson, Json.required?, Json.memberOr?, Json.string?, Json.bool?, Json.word?,
    Visibility.ofName?_name]

/-- No number occurs in the value of a field. -/
theorem numberless_toJson (f : Field) : f.toJson.Numberless :=
  .object (by simp [Json.Numberless.string, Json.Numberless.bool])

end Field

namespace Parameter

/-- A parameter is read from its own value. -/
theorem ofJson?_toJson (p : Parameter) : ofJson? p.toJson = some p := by
  simp [ofJson?, toJson, Json.required?, Json.string?]

/-- No number occurs in the value of a parameter. -/
theorem numberless_toJson (p : Parameter) : p.toJson.Numberless :=
  .object (by simp [Json.Numberless.string])

end Parameter

namespace Method

/-- A method is read from its own value. -/
theorem ofJson?_toJson (m : Method) : ofJson? m.toJson = some m := by
  have hparameters := Json.list?_map Parameter.ofJson?_toJson m.parameters
  simp [ofJson?, toJson, Json.required?, Json.memberOr?, Json.string?, Json.bool?, Json.word?,
    Visibility.ofName?_name, hparameters]

/-- No number occurs in the value of a method. -/
theorem numberless_toJson (m : Method) : m.toJson.Numberless := by
  have hparameters := Json.numberless_array_map Parameter.numberless_toJson m.parameters
  exact .object (by simp [Json.Numberless.string, Json.Numberless.bool, hparameters])

end Method

namespace Relation

/-- A relation is read from its own value. -/
theorem ofJson?_toJson (r : Relation) : ofJson? r.toJson = some r := by
  have hvia : r.toJson.memberOr? "via" none (Json.nullable? Json.string?) = some r.via :=
    Json.memberOr?_nullable? (fun _ => rfl) (by simp [toJson])
  have hcardinality : r.toJson.memberOr? "cardinality" none
      (Json.nullable? (Json.word? Cardinality.ofName?)) = some r.cardinality :=
    Json.memberOr?_nullable? Cardinality.ofName?_name (by simp [toJson])
  simp only [ofJson?, hvia, hcardinality]
  simp [toJson, Json.required?, Json.string?, Json.word?, RelationKind.ofName?_name]

/-- No number occurs in the value of a relation. -/
theorem numberless_toJson (r : Relation) : r.toJson.Numberless :=
  Json.numberless_objectOfPresent (by simp [Json.Numberless.string])

end Relation

namespace Classifier

/-- A class is read from its own value. -/
theorem ofJson?_toJson (c : Classifier) : ofJson? c.toJson = some c := by
  have hsuperclass :
      c.toJson.memberOr? "extends" none (Json.nullable? Json.string?) = some c.superclass :=
    Json.memberOr?_nullable? (fun _ => rfl) (by simp [toJson])
  have hpackage :
      c.toJson.memberOr? "package" none (Json.nullable? Json.string?) = some c.package :=
    Json.memberOr?_nullable? (fun _ => rfl) (by simp [toJson])
  have hfields := Json.list?_map Field.ofJson?_toJson c.fields
  have hmethods := Json.list?_map Method.ofJson?_toJson c.methods
  have hinterfaces := Json.strings?_ofStrings c.interfaces
  have hrelations := Json.list?_map Relation.ofJson?_toJson c.relations
  simp only [ofJson?, hsuperclass, hpackage]
  simp [toJson, Json.required?, Json.memberOr?, Json.string?, Json.bool?, Json.word?,
    ClassifierKind.ofName?_name, Visibility.ofName?_name, hfields, hmethods, hinterfaces,
    hrelations]

/-- No number occurs in the value of a class. -/
theorem numberless_toJson (c : Classifier) : c.toJson.Numberless := by
  have hfields := Json.numberless_array_map Field.numberless_toJson c.fields
  have hmethods := Json.numberless_array_map Method.numberless_toJson c.methods
  have hinterfaces := Json.numberless_array_map Json.Numberless.string c.interfaces
  have hrelations := Json.numberless_array_map Relation.numberless_toJson c.relations
  refine Json.numberless_objectOfPresent ?_
  simp [Json.Numberless.string, Json.Numberless.bool, Json.ofStrings, hfields, hmethods,
    hinterfaces, hrelations]

end Classifier

/-- From the JSON text of any class models the reader gets the same models. -/
theorem Diagram.render_json_readable (settings : Settings) (classes : List Classifier) :
    ∃ text, Diagram.render settings .json classes = .ok text ∧
      (Json.parse? text).bind (Json.list? Classifier.ofJson?) = some classes := by
  refine ⟨_, rfl, ?_⟩
  have hnumberless := Json.numberless_array_map Classifier.numberless_toJson classes
  rw [hnumberless.parse?_pretty, Option.bind_some]
  exact Json.list?_map Classifier.ofJson?_toJson classes

end ClassGraph
