import Mathlib.Data.List.Induction
import RequestValidation.Error
import RequestValidation.Proofs.Distinct
import RequestValidation.Proofs.Traversal
import RequestValidation.Schema.Plan
/-!
# Which documents are schemas

A schema is an object of objects in which `in` and `errorMessage`, where they are given, have the
right form. All other members are uses of rules and may have any form.

Results:
* `isOn_ofJson`: a use is on unless it is written as something falsy.
* `FieldSchema.ofJson_ok_iff`: which documents configure a field.
* `readsField_ofJson`: what is read of them.
* `ofJson_reads_grammar`: which documents are schemas, what is read of them, and how others fail.
-/
namespace RequestValidation

/-- What may be given for `in`: nothing, a name or names. -/
inductive WritesLocations : Json → Prop
  | null : WritesLocations .null
  | one (name : String) : WritesLocations (.string name)
  | many (names : List String) : WritesLocations (.array (names.map .string))

/-- What may be given for `errorMessage`. -/
inductive WritesMessage : Json → Prop
  | null : WritesMessage .null
  | text (s : String) : WritesMessage (.string s)

/-- Whether a member may stand in the configuration of a field. Rules may have any form. -/
def WritesMember (p : String × Json) : Prop :=
  (p.1 = "in" → WritesLocations p.2) ∧ (p.1 = "errorMessage" → WritesMessage p.2)

/-- A document that configures a field. -/
def WritesField (v : Json) : Prop := ∃ ms, v = .object ms ∧ ∀ p ∈ ms, WritesMember p

/-- A document that is a schema: an object of documents that configure fields. -/
def WritesSchema (v : Json) : Prop := ∃ ms, v = .object ms ∧ ∀ p ∈ ms, WritesField p.2

/-- `null`, `false`, a zero or the empty string. -/
inductive Falsy : Json → Prop
  | null : Falsy .null
  | false : Falsy (.bool false)
  | zero {n : Number} (h : n.isZero = true) : Falsy (.number n)
  | empty : Falsy (.string "")

/-- The names of rules among the members of a field. -/
def ruleKeys (ms : Members Json) : List String :=
  ms.keys.filter fun key => decide (key ∉ reservedKeys)

/-- What is read of the members of a field: its rules in order, each on unless its value is falsy.
If a document repeats a name, its first place counts and its last value. -/
structure ReadsField (ms : Members Json) (f : FieldSchema) : Prop where
  keys : f.rules.keys = distinct (ruleKeys ms)
  isOn : ∀ key u, f.rules.get? key = some u →
    ∃ v, Members.get? ms.reverse key = some v ∧ (u.isOn = true ↔ ¬ Falsy v)

/-! ## Uses of rules -/

theorem isFalsy_iff (v : Json) : Json.isFalsy (some v) = true ↔ Falsy v := by
  constructor
  · intro h
    cases v with
    | null => exact .null
    | bool b => cases b with
      | false => exact .false
      | true => cases h
    | number n => exact .zero h
    | string s =>
      obtain rfl : s = "" := by simpa [Json.isFalsy] using h
      exact .empty
    | array _ => cases h
    | object _ => cases h
  · rintro (_ | _ | h | _)
    · rfl
    · rfl
    · exact h
    · rfl

theorem isOn_ofJson_eq (v : Json) : (RuleUse.ofJson v).isOn = !Json.isFalsy (some v) := by
  cases v with
  | null => rfl
  | bool b => cases b <;> rfl
  | number n => rfl
  | string s => rfl
  | array items =>
    rw [RuleUse.ofJson]
    · cases Modifiers.ofJson? (.array items) <;> rfl
    all_goals simp
  | object ms =>
    rw [RuleUse.ofJson]
    · cases Modifiers.ofJson? (.object ms) <;> rfl
    all_goals simp

/-- A use is on unless it is written as something falsy. -/
theorem isOn_ofJson (v : Json) : (RuleUse.ofJson v).isOn = true ↔ ¬ Falsy v := by
  rw [isOn_ofJson_eq, ← isFalsy_iff]
  simp

/-! ## One member -/

theorem eq_map_of_mapM_string? {items : List Json} {names : List String}
    (h : items.mapM Json.string? = some names) : items = names.map .string := by
  induction items generalizing names with
  | nil =>
    obtain rfl := Option.some.inj h
    rfl
  | cons v items ih =>
    rw [List.mapM_cons] at h
    cases v with
    | string s =>
      cases hm : items.mapM Json.string? with
      | none => simp [hm] at h
      | some rest =>
        obtain rfl : s :: rest = names := by simpa [hm, Json.string?] using h
        rw [ih hm, List.map_cons]
    | _ => cases h

theorem exists_locationChoice_iff {v : Json} (hv : v ≠ .null) :
    (∃ choice, LocationChoice.ofJson? v = some choice) ↔ WritesLocations v := by
  constructor
  · rintro ⟨choice, h⟩
    cases v with
    | string name => exact .one name
    | array items =>
      obtain ⟨names, hnames, -⟩ := Option.map_eq_some_iff.mp h
      exact eq_map_of_mapM_string? hnames ▸ .many names
    | null | bool _ | number _ | object _ => cases h
  · rintro (_ | name | names)
    · exact absurd rfl hv
    · exact ⟨.one name, rfl⟩
    · have hread : ∀ name ∈ names, Json.string? (.string name) = some name := fun _ _ => rfl
      have hnames := mapM_map_of_inverse hread
      exact ⟨.many names, Option.map_eq_some_iff.mpr ⟨names, hnames, rfl⟩⟩

namespace FieldSchema

theorem add_in (f : FieldSchema) {v : Json} (hv : v ≠ .null) :
    f.add "in" v =
      match LocationChoice.ofJson? v with
      | some choice => .ok { f with locations := some choice }
      | none => .error .invalidLocations := by
  cases v with
  | null => exact absurd rfl hv
  | _ => rfl

theorem add_in_ok_iff (f : FieldSchema) (v : Json) :
    (∃ g, f.add "in" v = .ok g) ↔ WritesLocations v := by
  by_cases hv : v = .null
  · subst hv
    exact ⟨fun _ => .null, fun _ => ⟨_, rfl⟩⟩
  · rw [← exists_locationChoice_iff hv, add_in f hv]
    cases LocationChoice.ofJson? v <;> simp

theorem add_message_ok_iff (f : FieldSchema) (v : Json) :
    (∃ g, f.add "errorMessage" v = .ok g) ↔ WritesMessage v := by
  constructor
  · rintro ⟨g, h⟩
    cases v with
    | null => exact .null
    | string s => exact .text s
    | bool _ | number _ | array _ | object _ => cases h
  · rintro (_ | s)
    · exact ⟨_, rfl⟩
    · exact ⟨_, rfl⟩

theorem add_rule (f : FieldSchema) {key : String} (hkey : key ∉ reservedKeys) (v : Json) :
    f.add key v = .ok { f with rules := Members.insert f.rules key (.ofJson v) } := by
  simp only [reservedKeys, List.mem_cons, List.not_mem_nil, or_false, not_or] at hkey
  delta add
  rw [if_neg hkey.1, if_neg hkey.2]

theorem add_ok_iff (f : FieldSchema) (key : String) (v : Json) :
    (∃ g, f.add key v = .ok g) ↔ WritesMember (key, v) := by
  by_cases hin : key = "in"
  · subst hin
    simp [add_in_ok_iff, WritesMember]
  · by_cases hmessage : key = "errorMessage"
    · subst hmessage
      simp [add_message_ok_iff, WritesMember]
    · have hkey : key ∉ reservedKeys := by simp [reservedKeys, hin, hmessage]
      simp [add_rule f hkey, WritesMember, hin, hmessage]

/-- The reserved members are no rules. -/
theorem rules_of_add_reserved {f g : FieldSchema} {key : String} (hkey : key ∈ reservedKeys)
    {v : Json} (h : f.add key v = .ok g) : g.rules = f.rules := by
  simp only [reservedKeys, List.mem_cons, List.not_mem_nil, or_false] at hkey
  rcases hkey with rfl | rfl
  · by_cases hv : v = .null
    · subst hv
      exact Except.ok.inj h ▸ rfl
    · rw [add_in f hv] at h
      split at h
      · exact Except.ok.inj h ▸ rfl
      · cases h
  · cases v with
    | null => exact Except.ok.inj h ▸ rfl
    | string s => exact Except.ok.inj h ▸ rfl
    | bool _ | number _ | array _ | object _ => cases h

/-- Any other type than the right one is a fault of the document. -/
theorem hasSource_of_add_error {f : FieldSchema} {key : String} {v : Json} {e : SchemaFault}
    (h : f.add key v = .error e) : e.hasSource = true := by
  by_cases hin : key = "in"
  · subst hin
    by_cases hv : v = .null
    · subst hv
      cases h
    · rw [add_in f hv] at h
      split at h
      · cases h
      · exact Except.error.inj h ▸ rfl
  · by_cases hmessage : key = "errorMessage"
    · subst hmessage
      cases v with
      | null | string _ => cases h
      | bool _ | number _ | array _ | object _ => exact Except.error.inj h ▸ rfl
    · have hkey : key ∉ reservedKeys := by simp [reservedKeys, hin, hmessage]
      rw [add_rule f hkey] at h
      cases h

/-! ## One field -/

theorem foldlM_add_ok_iff (ms : Members Json) (f : FieldSchema) :
    (∃ g, ms.foldlM (fun f p => f.add p.1 p.2) f = .ok g) ↔ ∀ p ∈ ms, WritesMember p := by
  induction ms generalizing f with
  | nil => exact ⟨fun _ _ hp => absurd hp List.not_mem_nil, fun _ => ⟨f, rfl⟩⟩
  | cons p ms ih =>
    obtain ⟨key, v⟩ := p
    rw [List.foldlM_cons, List.forall_mem_cons, ← add_ok_iff f key v]
    simp only [bind_ok_iff]
    constructor
    · rintro ⟨h, g, hg, hms⟩
      exact ⟨⟨g, hg⟩, (ih g).mp ⟨h, hms⟩⟩
    · rintro ⟨⟨g, hg⟩, hms⟩
      obtain ⟨h, hms⟩ := (ih g).mpr hms
      exact ⟨h, g, hg, hms⟩

theorem ofJson_ok_iff (v : Json) : (∃ f, ofJson v = .ok f) ↔ WritesField v := by
  cases v with
  | object ms =>
    rw [ofJson, foldlM_add_ok_iff]
    simp [WritesField]
  | _ => simp [ofJson, WritesField]

theorem hasSource_of_foldlM_error {ms : Members Json} {f : FieldSchema} {e : SchemaFault}
    (h : ms.foldlM (fun f p => f.add p.1 p.2) f = .error e) : e.hasSource = true := by
  induction ms generalizing f with
  | nil => cases h
  | cons p ms ih =>
    rw [List.foldlM_cons, bind_error_iff] at h
    rcases h with hadd | ⟨g, -, h⟩
    · exact hasSource_of_add_error hadd
    · exact ih h

theorem hasSource_of_ofJson_error {v : Json} {e : SchemaFault} (h : ofJson v = .error e) :
    e.hasSource = true := by
  cases v with
  | object ms => exact hasSource_of_foldlM_error h
  | null | bool _ | number _ | string _ | array _ => exact Except.error.inj h ▸ rfl

/-- The members are read in order. -/
theorem ofJson_concat (ms : Members Json) (p : String × Json) :
    ofJson (.object (ms ++ [p])) = ofJson (.object ms) >>= fun f => f.add p.1 p.2 := by
  rw [ofJson, ofJson, List.foldlM_append]
  refine congrArg (_ >>= ·) (funext fun f => ?_)
  rw [List.foldlM_cons]
  cases f.add p.1 p.2 <;> rfl

end FieldSchema

theorem keys_insert (ms : Members RuleUse) (key : String) (u : RuleUse) :
    (ms.insert key u).keys = if key ∈ ms.keys then ms.keys else ms.keys ++ [key] := by
  split
  · rename_i h
    exact Members.keys_insert_of_mem ms u h
  · rename_i h
    exact Members.keys_insert_of_not_mem ms u h

theorem ruleKeys_concat (ms : Members Json) (p : String × Json) :
    ruleKeys (ms ++ [p]) = if p.1 ∈ reservedKeys then ruleKeys ms else ruleKeys ms ++ [p.1] := by
  rw [ruleKeys, Members.keys, List.map_append, List.filter_append]
  split <;> simp [ruleKeys, Members.keys, *]

theorem readsField_nil : ReadsField [] {} where
  keys := rfl
  isOn _ _ h := nomatch h

/-- One more member is read in its place. -/
theorem ReadsField.concat {ms : Members Json} {f g : FieldSchema} {p : String × Json}
    (h : ReadsField ms f) (hadd : f.add p.1 p.2 = .ok g) : ReadsField (ms ++ [p]) g := by
  obtain ⟨key, v⟩ := p
  by_cases hkey : key ∈ reservedKeys
  · have hrules := FieldSchema.rules_of_add_reserved hkey hadd
    refine ⟨?_, fun other u hu => ?_⟩
    · rw [hrules, h.keys, ruleKeys_concat, if_pos hkey]
    · rw [hrules] at hu
      obtain ⟨w, hw, hon⟩ := h.isOn other u hu
      refine ⟨w, ?_, hon⟩
      have hne : key ≠ other := by
        rintro rfl
        have hmem : key ∈ f.rules.keys := (Members.get?_isSome_iff _ _).mp (by simp [hu])
        rw [h.keys, mem_distinct, ruleKeys, List.mem_filter, decide_eq_true_eq] at hmem
        exact hmem.2 hkey
      rw [List.reverse_append, List.reverse_singleton, List.singleton_append, Members.get?,
        if_neg hne, hw]
  · rw [FieldSchema.add_rule f hkey, Except.ok.injEq] at hadd
    subst hadd
    refine ⟨?_, fun other u hu => ?_⟩
    · rw [keys_insert, h.keys, ruleKeys_concat, if_neg hkey, distinct_concat]
      simp only [mem_distinct]
    · rw [List.reverse_append, List.reverse_singleton, List.singleton_append, Members.get?]
      by_cases hne : key = other
      · subst hne
        rw [Members.get?_insert_self, Option.some.injEq] at hu
        exact ⟨v, if_pos rfl, hu ▸ isOn_ofJson v⟩
      · rw [Members.get?_insert_of_ne _ _ (Ne.symm hne)] at hu
        rw [if_neg hne]
        exact h.isOn other u hu

theorem readsField_ofJson {ms : Members Json} {f : FieldSchema}
    (h : FieldSchema.ofJson (.object ms) = .ok f) : ReadsField ms f := by
  -- on the members from the last: what is read of those in front of it grows by one
  induction ms using List.reverseRecOn generalizing f with
  | nil =>
    obtain rfl := Except.ok.inj h
    exact readsField_nil
  | append_singleton ms p ih =>
    rw [FieldSchema.ofJson_concat, bind_ok_iff] at h
    obtain ⟨g, hms, hadd⟩ := h
    exact (ih hms).concat hadd

/-! ## The schema -/

namespace Schema

/-- A field with its name. -/
def namedField (p : String × Json) : Except SchemaFault (String × FieldSchema) := do
  let f ← FieldSchema.ofJson p.2
  .ok (p.1, f)

theorem namedField_ok_iff {p : String × Json} {q : String × FieldSchema} :
    namedField p = .ok q ↔ q.1 = p.1 ∧ FieldSchema.ofJson p.2 = .ok q.2 := by
  obtain ⟨name, f⟩ := q
  rw [namedField, bind_ok_iff]
  simp [and_comm, eq_comm]

theorem namedField_error_iff {p : String × Json} {e : SchemaFault} :
    namedField p = .error e ↔ FieldSchema.ofJson p.2 = .error e := by
  rw [namedField, bind_error_iff]
  simp

theorem ofJson_object (ms : Members Json) :
    ofJson (.object ms) = ms.mapM namedField >>= fun fields => .ok ⟨fields⟩ := rfl

theorem ofJson_object_ok_iff {ms : Members Json} {s : Schema} :
    ofJson (.object ms) = .ok s ↔ ms.mapM namedField = .ok s.fields := by
  obtain ⟨fields⟩ := s
  rw [ofJson_object, bind_ok_iff]
  simp

/-- The fields are read one by one. -/
theorem forall₂_of_ofJson_object {ms : Members Json} {s : Schema}
    (h : ofJson (.object ms) = .ok s) :
    List.Forall₂ (fun p q => q.1 = p.1 ∧ FieldSchema.ofJson p.2 = .ok q.2) ms s.fields :=
  (mapM_eq_ok_iff.mp (ofJson_object_ok_iff.mp h)).imp fun _ _ => namedField_ok_iff.mp

/-- An object that is no schema has a member that configures no field. -/
theorem exists_of_ofJson_object_error {ms : Members Json} {e : SchemaFault}
    (h : ofJson (.object ms) = .error e) : ∃ p ∈ ms, FieldSchema.ofJson p.2 = .error e := by
  rw [ofJson_object, bind_error_iff] at h
  rcases h with hms | ⟨fields, -, h⟩
  · obtain ⟨p, hp, he⟩ := exists_of_mapM_error hms
    exact ⟨p, hp, namedField_error_iff.mp he⟩
  · cases h

theorem eq_object_of_ofJson_ok {v : Json} {s : Schema} (h : ofJson v = .ok s) :
    ∃ ms, v = .object ms := by
  cases v with
  | object ms => exact ⟨ms, rfl⟩
  | null | bool _ | number _ | string _ | array _ => cases h

theorem ofJson_ok_iff (v : Json) : (∃ s, ofJson v = .ok s) ↔ WritesSchema v := by
  have hfield (p : String × Json) : (∃ q, namedField p = .ok q) ↔ WritesField p.2 := by
    rw [← FieldSchema.ofJson_ok_iff]
    simp [namedField_ok_iff]
  cases v with
  | object ms =>
    calc (∃ s, ofJson (.object ms) = .ok s)
      _ ↔ ∃ fields, ms.mapM namedField = .ok fields :=
        ⟨fun ⟨_, h⟩ => ⟨_, ofJson_object_ok_iff.mp h⟩,
          fun ⟨fields, h⟩ => ⟨⟨fields⟩, ofJson_object_ok_iff.mpr h⟩⟩
      _ ↔ ∀ p ∈ ms, WritesField p.2 := by simp only [exists_mapM_ok_iff, hfield]
      _ ↔ WritesSchema (.object ms) := by simp [WritesSchema]
  | null | bool _ | number _ | string _ | array _ => simp [ofJson, WritesSchema]

/-- A fault lies behind the failure just if there were fields to read. -/
theorem hasSource_of_ofJson_error {v : Json} {e : SchemaFault} (h : ofJson v = .error e) :
    e.hasSource = true ↔ ∃ ms, v = .object ms := by
  cases v with
  | object ms =>
    obtain ⟨p, -, hp⟩ := exists_of_ofJson_object_error h
    exact ⟨fun _ => ⟨ms, rfl⟩, fun _ => FieldSchema.hasSource_of_ofJson_error hp⟩
  | null | bool _ | number _ | string _ | array _ =>
    obtain rfl := Except.error.inj h
    exact iff_of_false (fun hsource => nomatch hsource) (fun ⟨_, hobject⟩ => nomatch hobject)

end Schema

/-- **Which documents are schemas.** A document is one just if it is an object of objects, in which
`in` is missing, `null`, a name or a list of names, and `errorMessage` is missing, `null` or a text;
how a rule is written never matters. Then the fields are those of the document in their order, and
so are the rules of each, which are on unless they are written as something falsy. Any other
document fails for its structure, and a fault of it lies behind that just if it is an object. -/
theorem ofJson_reads_grammar (v : Json) :
    ((∃ s, Schema.ofJson v = .ok s) ↔ WritesSchema v) ∧
    (∀ s, Schema.ofJson v = .ok s → ∃ ms, v = .object ms ∧
      List.Forall₂ (fun p q => q.1 = p.1 ∧ ∃ ns, p.2 = .object ns ∧ ReadsField ns q.2)
        ms s.fields) ∧
    ∀ e, (Schema.ofJson v).mapError Error.schemaStructure = .error e →
      ∃ fault, e = .schemaStructure fault ∧
        (fault.hasSource = true ↔ ∃ ms, v = .object ms) := by
  refine ⟨Schema.ofJson_ok_iff v, fun s h => ?_, fun e h => ?_⟩
  · obtain ⟨ms, rfl⟩ := Schema.eq_object_of_ofJson_ok h
    refine ⟨ms, rfl, (Schema.forall₂_of_ofJson_object h).imp fun p q ⟨hname, hq⟩ => ⟨hname, ?_⟩⟩
    obtain ⟨ns, hns, -⟩ := (FieldSchema.ofJson_ok_iff p.2).mp ⟨q.2, hq⟩
    rw [hns] at hq
    exact ⟨ns, hns, readsField_ofJson hq⟩
  · cases hv : Schema.ofJson v with
    | ok s =>
      rw [hv] at h
      cases h
    | error fault =>
      rw [hv] at h
      exact ⟨fault, (Except.error.inj h).symm, Schema.hasSource_of_ofJson_error hv⟩

/-- A check that is off, and a change with a modifier of the wrong type. -/
def quietAge : Json :=
  .object [("age", .object [("in", .array [.string "body"]), ("isInt", .int 0),
    ("errorMessage", .null), ("trim", .object [("bail", .int 3)])])]

/-- The two rules are read in order, the first as off; a field that is no object and a list of
schemas are refused, the list without a fault of it behind that. -/
theorem quietAge_read :
    (∃ s f, Schema.ofJson quietAge = .ok s ∧ s.fields = [("age", f)] ∧
      f.rules.keys = ["isInt", "trim"] ∧
      ∀ u, f.rules.get? "isInt" = some u → u.isOn = false) ∧
    (¬ ∃ s, Schema.ofJson (.object [("age", .array [quietAge])]) = .ok s) ∧
    ∃ e fault, (Schema.ofJson (.array [quietAge])).mapError Error.schemaStructure = .error e ∧
      e = .schemaStructure fault ∧ fault.hasSource = false := by
  have hwrites : WritesSchema quietAge := by
    refine ⟨_, rfl, ?_⟩
    simp only [List.forall_mem_singleton]
    refine ⟨_, rfl, ?_⟩
    have hin : WritesLocations (.array [.string "body"]) := .many ["body"]
    simp [WritesMember, hin, WritesMessage.null]
  refine ⟨?_, ?_, ?_⟩
  · obtain ⟨hok, hread, -⟩ := ofJson_reads_grammar quietAge
    obtain ⟨s, hs⟩ := hok.mpr hwrites
    obtain ⟨ms, hms, hfields⟩ := hread s hs
    obtain rfl := Json.object.inj hms
    obtain ⟨⟨name, f⟩, rest, ⟨hname, ns, hns, hf⟩, hrest, hs'⟩ :=
      List.forall₂_cons_left_iff.mp hfields
    obtain rfl := Json.object.inj hns
    obtain rfl := List.forall₂_nil_left_iff.mp hrest
    obtain rfl : name = "age" := hname
    refine ⟨s, f, hs, hs', hf.keys.trans (by decide), fun u hu => ?_⟩
    obtain ⟨v, hv, hon⟩ := hf.isOn "isInt" u hu
    obtain rfl := Option.some.inj hv
    exact Bool.eq_false_iff.mpr fun honu => hon.mp honu (.zero rfl)
  · rw [(ofJson_reads_grammar _).1]
    rintro ⟨ms, hms, hfields⟩
    obtain rfl := Json.object.inj hms
    obtain ⟨ns, hns, -⟩ := hfields _ List.mem_cons_self
    cases hns
  · obtain ⟨fault, he, hsource⟩ := (ofJson_reads_grammar (.array [quietAge])).2.2 _ rfl
    exact ⟨_, fault, rfl, he, by simpa using hsource⟩

end RequestValidation
