/-
  LintBroker.Proofs.Schema

  What the schemas of the tools accept.  A schema is a table of keywords; `Accepts`
  gives each keyword its meaning, and nothing else constrains a value: members that no
  keyword names are free.  The check of arguments finds nothing wrong exactly with the
  tables that the listed schema of the tool accepts (`violation?_eq_none_iff_accepts`).
-/
import LintBroker.Tool.Schema

namespace LintBroker.Tool

/-! ## Schemas -/

/-- The name of the type of a value, as schemas call it.  Numbers and moments have none here: no tool
    asks for them. -/
def typeName? : Datum → Option String
  | .null => some "null"
  | .bool _ => some "boolean"
  | .text _ => some "string"
  | .list _ => some "array"
  | .table _ => some "object"
  | _ => none

/-- A schema accepts a value: each of its keywords is satisfied.  The keywords about members are
    satisfied by every value that is no table, the one about items by every value that is no
    list. -/
inductive Accepts : Datum → Datum → Prop where
  | keywords {schema : Members} {value : Datum}
      (type : ∀ name, schema.get? "type" = some (.text name) → typeName? value = some name)
      (choices : ∀ choices, schema.get? "enum" = some (.list choices) → value ∈ choices)
      (required : ∀ names, schema.get? "required" = some (.list names) →
        ∀ members : Members, value = .table members →
        ∀ name, .text name ∈ names → (members.get? name).isSome)
      (properties : ∀ parts, schema.get? "properties" = some (.table parts) →
        ∀ members : Members, value = .table members → ∀ name part, (name, part) ∈ parts →
        ∀ member, members.get? name = some member → Accepts part member)
      (items : ∀ part, schema.get? "items" = some part →
        ∀ items, value = .list items → ∀ item ∈ items, Accepts part item) :
      Accepts (.table schema) value

theorem accepts_table_iff {schema : Members} {value : Datum} :
    Accepts (.table schema) value ↔
      (∀ name, schema.get? "type" = some (.text name) → typeName? value = some name)
      ∧ (∀ choices, schema.get? "enum" = some (.list choices) → value ∈ choices)
      ∧ (∀ names, schema.get? "required" = some (.list names) →
        ∀ members : Members, value = .table members →
        ∀ name, .text name ∈ names → (members.get? name).isSome)
      ∧ (∀ parts, schema.get? "properties" = some (.table parts) →
        ∀ members : Members, value = .table members → ∀ name part, (name, part) ∈ parts →
        ∀ member, members.get? name = some member → Accepts part member)
      ∧ ∀ part, schema.get? "items" = some part →
        ∀ items, value = .list items → ∀ item ∈ items, Accepts part item := by
  constructor
  · rintro ⟨type, choices, required, properties, items⟩
    exact ⟨type, choices, required, properties, items⟩
  · rintro ⟨type, choices, required, properties, items⟩
    exact .keywords type choices required properties items

theorem typeName?_eq_string_iff {value : Datum} :
    typeName? value = some "string" ↔ ∃ s, value = .text s := by
  cases value <;> simp [typeName?]

theorem typeName?_eq_boolean_iff {value : Datum} :
    typeName? value = some "boolean" ↔ ∃ b, value = .bool b := by
  cases value <;> simp [typeName?]

theorem typeName?_eq_array_iff {value : Datum} :
    typeName? value = some "array" ↔ ∃ items, value = .list items := by
  cases value <;> simp [typeName?]

/-! ## Shapes -/

/-- A value has a shape. -/
inductive Shape.Fits : Shape → Datum → Prop where
  | text (s : String) : Fits .text (.text s)
  | choice {words : List String} {s : String} (h : s ∈ words) : Fits (.choice words) (.text s)
  | flag (byDefault b : Bool) : Fits (.flag byDefault) (.bool b)
  | texts (ss : List String) : Fits .texts (.list (ss.map .text))

/-- A list holds nothing but texts exactly if none of its items is another thing. -/
theorem otherThanTexts_eq_nil_iff {items : List Datum} :
    otherThanTexts items = [] ↔ ∃ ss : List String, items = ss.map .text := by
  induction items with
  | nil => exact iff_of_true rfl ⟨[], rfl⟩
  | cons item rest ih =>
    cases item with
    | text s =>
      have hskip : otherThanTexts (.text s :: rest) = otherThanTexts rest := rfl
      rw [hskip, ih]
      constructor
      · rintro ⟨ss, rfl⟩
        exact ⟨s :: ss, rfl⟩
      · rintro ⟨ss, hss⟩
        cases ss with
        | nil => cases hss
        | cons s' rest' => exact ⟨rest', (List.cons.inj hss).2⟩
    | _ =>
      refine iff_of_false (List.cons_ne_nil _ _) ?_
      rintro ⟨ss, hss⟩
      cases ss with
      | nil => cases hss
      | cons s rest' => cases (List.cons.inj hss).1

/-- A value has a shape exactly if nothing is wrong with it or inside it. -/
theorem Shape.fits_iff {shape : Shape} {value : Datum} :
    shape.Fits value
      ↔ shape.violation? value = none ∧ shape.innerViolation? value = none := by
  constructor
  · intro h
    cases h with
    | text s => exact ⟨rfl, rfl⟩
    | choice h => exact ⟨if_pos (List.contains_iff_mem.mpr h), rfl⟩
    | flag byDefault b => exact ⟨rfl, rfl⟩
    | texts ss =>
      refine ⟨rfl, ?_⟩
      rw [innerViolation?, otherThanTexts_eq_nil_iff.mpr ⟨ss, rfl⟩]
      rfl
  · rintro ⟨hown, hinner⟩
    cases shape with
    | text =>
      cases value with
      | text s => exact .text s
      | _ => cases hown
    | choice words =>
      cases value with
      | text s =>
        rw [violation?, ite_eq_left_iff] at hown
        by_cases h : words.contains s
        · exact .choice (List.contains_iff_mem.mp h)
        · cases hown h
      | _ => cases hown
    | flag byDefault =>
      cases value with
      | bool b => exact .flag byDefault b
      | _ => cases hown
    | texts =>
      cases value with
      | list items =>
        rw [innerViolation?, Option.map_eq_none_iff, List.getLast?_eq_none_iff,
          otherThanTexts_eq_nil_iff] at hinner
        obtain ⟨ss, rfl⟩ := hinner
        exact .texts ss
      | _ => cases hown

/-- The schema of a text accepts texts. -/
theorem accepts_string_iff {value : Datum} :
    Accepts (.table [("type", .text "string")]) value ↔ ∃ s, value = .text s := by
  rw [← typeName?_eq_string_iff]
  simp [accepts_table_iff, Members.get?, List.lookup_cons]

/-- The description of an argument accepts the values of its shape. -/
theorem accepts_datum_iff (p : Parameter) {value : Datum} :
    Accepts p.datum value ↔ p.shape.Fits value := by
  obtain ⟨name, description, shape⟩ := p
  cases shape with
  | text =>
    have hkeywords : Accepts (Parameter.datum ⟨name, description, .text⟩) value
        ↔ typeName? value = some "string" := by
      simp [Parameter.datum, Shape.members, accepts_table_iff, Members.get?, List.lookup_cons]
    rw [hkeywords, typeName?_eq_string_iff]
    constructor
    · rintro ⟨s, rfl⟩
      exact .text s
    · rintro ⟨s⟩
      exact ⟨s, rfl⟩
  | choice words =>
    have hkeywords : Accepts (Parameter.datum ⟨name, description, .choice words⟩) value
        ↔ typeName? value = some "string" ∧ value ∈ words.map Datum.text := by
      simp [Parameter.datum, Shape.members, accepts_table_iff, Members.get?, List.lookup_cons, textList]
    rw [hkeywords, List.mem_map]
    constructor
    · rintro ⟨-, s, hs, rfl⟩
      exact .choice hs
    · intro h
      cases h with
      | choice hs => exact ⟨rfl, _, hs, rfl⟩
  | flag byDefault =>
    have hkeywords : Accepts (Parameter.datum ⟨name, description, .flag byDefault⟩) value
        ↔ typeName? value = some "boolean" := by
      simp [Parameter.datum, Shape.members, accepts_table_iff, Members.get?, List.lookup_cons]
    rw [hkeywords, typeName?_eq_boolean_iff]
    constructor
    · rintro ⟨b, rfl⟩
      exact .flag byDefault b
    · intro h
      cases h with
      | flag _ b => exact ⟨b, rfl⟩
  | texts =>
    have hkeywords : Accepts (Parameter.datum ⟨name, description, .texts⟩) value
        ↔ typeName? value = some "array" ∧ ∀ items, value = .list items → ∀ item ∈ items,
          Accepts (.table [("type", .text "string")]) item := by
      rw [Parameter.datum, accepts_table_iff]
      simp [Shape.members, Members.get?, List.lookup_cons]
    simp only [hkeywords, typeName?_eq_array_iff, accepts_string_iff]
    constructor
    · rintro ⟨⟨items, rfl⟩, hitems⟩
      have hnone : otherThanTexts items = [] := by
        rw [otherThanTexts, List.filter_eq_nil_iff]
        intro item hitem
        obtain ⟨s, rfl⟩ := hitems items rfl item hitem
        exact Bool.false_ne_true
      obtain ⟨ss, rfl⟩ := otherThanTexts_eq_nil_iff.mp hnone
      exact .texts ss
    · rintro ⟨ss⟩
      refine ⟨⟨_, rfl⟩, fun items hitems item hitem => ?_⟩
      cases hitems
      obtain ⟨s, -, rfl⟩ := List.mem_map.mp hitem
      exact ⟨s, rfl⟩

/-! ## Tools -/

/-- Arguments fit a tool: those that are required are there, and each one that is there has the shape
    of its parameter. -/
structure Spec.Fits (spec : Spec) (arguments : Members) : Prop where
  required : ∀ name ∈ spec.required, (arguments.get? name).isSome
  shapes : ∀ p ∈ spec.parameters, ∀ value, arguments.get? p.name = some value → p.shape.Fits value

namespace Spec.Fits

variable {spec : Spec} {arguments : Members} {name description : String}

end Spec.Fits

/-- No argument of a tool has something that a test finds wrong. -/
theorem firstViolation_eq_none_iff {test : Shape → Datum → Option Violation} {arguments : Members}
    {parameters : List Parameter} :
    firstViolation test arguments parameters = none
      ↔ ∀ p ∈ parameters, ∀ value, arguments.get? p.name = some value →
        test p.shape value = none := by
  induction parameters with
  | nil => simp [firstViolation]
  | cons p rest ih =>
    rw [firstViolation, List.forall_mem_cons, ← ih, ← Option.bind_eq_none_iff]
    cases (arguments.get? p.name).bind (test p.shape) with
    | none => simp
    | some v => simp

/-- Nothing is wrong with arguments exactly if they fit the tool. -/
theorem Spec.violation?_eq_none_iff {spec : Spec} {arguments : Members} :
    spec.violation? arguments = none ↔ spec.Fits arguments := by
  have hshapes : (firstViolation Shape.violation? arguments spec.parameters = none
      ∧ firstViolation Shape.innerViolation? arguments spec.parameters = none)
      ↔ ∀ p ∈ spec.parameters, ∀ value, arguments.get? p.name = some value →
        p.shape.Fits value := by
    rw [firstViolation_eq_none_iff, firstViolation_eq_none_iff]
    constructor
    · rintro ⟨hown, hinner⟩ p hp value hvalue
      exact Shape.fits_iff.mpr ⟨hown p hp value hvalue, hinner p hp value hvalue⟩
    · intro hfits
      exact ⟨fun p hp value hvalue => (Shape.fits_iff.mp (hfits p hp value hvalue)).1,
        fun p hp value hvalue => (Shape.fits_iff.mp (hfits p hp value hvalue)).2⟩
  unfold violation?
  cases hmissing : spec.required.find? fun name => (arguments.get? name).isNone with
  | some name =>
    refine iff_of_false (Option.some_ne_none _) fun hfits => ?_
    have hthere := hfits.required name (List.mem_of_find?_eq_some hmissing)
    have hnone := List.find?_some hmissing
    rw [Option.isSome_iff_ne_none] at hthere
    exact hthere (Option.isNone_iff_eq_none.mp hnone)
  | none =>
    have hrequired : ∀ name ∈ spec.required, (arguments.get? name).isSome := by
      intro name hname
      have h := List.find?_eq_none.mp hmissing name hname
      rwa [Option.isNone_iff_eq_none, ← ne_eq, ← Option.isSome_iff_ne_none] at h
    constructor
    · intro h
      simp only at h
      split at h
      · cases h
      · rename_i hown
        exact ⟨hrequired, hshapes.mp ⟨hown, h⟩⟩
    · intro hfits
      obtain ⟨hown, hinner⟩ := hshapes.mpr hfits.shapes
      simp only [hown, hinner]

/-- The listed schema of a tool accepts the tables that fit the tool. -/
theorem Spec.accepts_inputSchema_iff {spec : Spec} {arguments : Members} :
    Accepts spec.inputSchema (.table arguments) ↔ spec.Fits arguments := by
  have hkeywords : Accepts spec.inputSchema (.table arguments)
      ↔ (∀ name, .text name ∈ spec.required.map Datum.text → (arguments.get? name).isSome)
        ∧ ∀ name part, (name, part) ∈ spec.parameters.map (fun p => (p.name, p.datum)) →
          ∀ value, arguments.get? name = some value → Accepts part value := by
    rw [inputSchema, accepts_table_iff]
    simp [Members.get?, List.lookup_cons, textList, typeName?]
  rw [hkeywords]
  constructor
  · rintro ⟨hrequired, hparts⟩
    refine ⟨fun name hname => hrequired name (List.mem_map_of_mem hname), ?_⟩
    intro p hp value hvalue
    exact (accepts_datum_iff p).mp (hparts _ _ (List.mem_map_of_mem hp) value hvalue)
  · rintro ⟨hrequired, hshapes⟩
    constructor
    · intro name hname
      obtain ⟨name', hname', heq⟩ := List.mem_map.mp hname
      cases heq
      exact hrequired name hname'
    · intro name part hpart value hvalue
      obtain ⟨p, hp, heq⟩ := List.mem_map.mp hpart
      cases heq
      exact (accepts_datum_iff p).mpr (hshapes p hp value hvalue)

/-- The check of arguments finds nothing wrong exactly with what the listed schema accepts. -/
theorem Spec.violation?_eq_none_iff_accepts {spec : Spec} {arguments : Members} :
    spec.violation? arguments = none ↔ Accepts spec.inputSchema (.table arguments) :=
  violation?_eq_none_iff.trans accepts_inputSchema_iff.symm

end LintBroker.Tool
