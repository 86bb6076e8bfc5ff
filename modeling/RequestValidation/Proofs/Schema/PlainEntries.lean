import RequestValidation.Proofs.Schema.Grammar
import RequestValidation.Proofs.Schema.Ignored
/-!
# Entries that are no objects

A rule is meant to get arguments and modifiers from an object, and to stand alone in a chain under
any other entry. But an array is one more way to write modifiers: up to four of them in order, if
each has the right type. An array that happens to fit is read as arguments, a message, a negation
and a bail.

Results:
* `Modifiers.ofJson?_array_iff`: which arrays are modifiers, and what they say.
* `stepsFor_eq`: the steps that stand in a chain for one use of a rule.
* `rules_get?_eq`: what is read of the entry of a rule.
* `plain_entries_bare_iff`: when a rule stands alone in the chain of its field.
* `listed_names_not_bare`: a list of two names is read as an argument and a message.
-/
namespace RequestValidation

open Chain (said hasValidation)

/-! ## Arrays as modifiers -/

/-- The arguments that a document gives, `null` for none. -/
def Modifiers.given? (v : Json) : Option Json := if v.isNull then none else some v

/-- Whether a list is one of modifiers in order, and what they are; those that are not in the list
say nothing. -/
structure ListsModifiers (items : List Json) (m : Modifiers) : Prop where
  length_le : items.length ≤ 4
  arguments : items[0]?.bind Modifiers.given? = m.arguments
  message : items[1]?.elim (none = m.message) fun v => Modifiers.message? v = some m.message
  negated : items[2]?.elim (false = m.negated) fun v => v = .bool m.negated
  bail : items[3]?.elim (false = m.bail) fun v => v = .bool m.bail
  condition : none = m.condition

namespace Modifiers

theorem eq_bool_iff {v : Json} {b : Bool} : v = .bool b ↔ v.bool? = some b := by
  cases v <;> simp [Json.bool?]

theorem set?_options (u : Modifiers) (v : Json) :
    u.set? "options" v = some { u with arguments := given? v } := rfl

theorem set?_message (u : Modifiers) (v : Json) :
    u.set? "errorMessage" v = (message? v).map fun text => { u with message := text } := rfl

theorem set?_negated (u : Modifiers) (v : Json) :
    u.set? "negated" v = v.bool?.map fun b => { u with negated := b } := rfl

theorem set?_bail (u : Modifiers) (v : Json) :
    u.set? "bail" v = v.bool?.map fun b => { u with bail := b } := rfl

/-- Which arrays are modifiers, and what they say. -/
theorem ofJson?_array_iff (items : List Json) (m : Modifiers) :
    ofJson? (.array items) = some m ↔ ListsModifiers items m := by
  have hparts : ListsModifiers items m ↔ items.length ≤ 4 ∧ items[0]?.bind given? = m.arguments ∧
      (items[1]?.elim (none = m.message) fun v => message? v = some m.message) ∧
      (items[2]?.elim (false = m.negated) fun v => v = .bool m.negated) ∧
      (items[3]?.elim (false = m.bail) fun v => v = .bool m.bail) ∧ none = m.condition :=
    ⟨fun h => ⟨h.1, h.2, h.3, h.4, h.5, h.6⟩, fun ⟨h, k, l, n, o, p⟩ => ⟨h, k, l, n, o, p⟩⟩
  obtain ⟨arguments, message, negated, bail, condition⟩ := m
  simp only [hparts, eq_bool_iff, ofJson?, names]
  match items with
  | [] => simp
  | [a] => simp [set?_options]
  | [a, b] => cases hb : message? b <;> simp [set?_options, set?_message, hb, and_left_comm]
  | [a, b, c] =>
    cases hb : message? b <;> cases hc : c.bool? <;>
      simp [set?_options, set?_message, set?_negated, hb, hc]
  | [a, b, c, d] =>
    cases hb : message? b <;> cases hc : c.bool? <;> cases hd : d.bool? <;>
      simp [set?_options, set?_message, set?_negated, set?_bail, hb, hc, hd]
  | a :: b :: c :: d :: e :: rest => simp

end Modifiers

/-- An entry that is no object is read as modifiers if it lists some, and else has none. -/
theorem ofJson_plain {v : Json} (hplain : ∀ ms, v ≠ .object ms) :
    (∃ items m, v = .array items ∧ ListsModifiers items m ∧ RuleUse.ofJson v = .modified m) ∨
      (∀ items m, v = .array items → ¬ ListsModifiers items m) ∧
        (RuleUse.ofJson v).arguments = [] ∧ (RuleUse.ofJson v).modifiers = {} := by
  cases v with
  | object ms => exact absurd rfl (hplain ms)
  | array items =>
    rw [RuleUse.ofJson]
    · cases h : Modifiers.ofJson? (.array items) with
      | some m => exact .inl ⟨items, m, rfl, (Modifiers.ofJson?_array_iff items m).mp h, rfl⟩
      | none =>
        refine .inr ⟨?_, rfl, rfl⟩
        rintro items' m ⟨⟩ hm
        rw [(Modifiers.ofJson?_array_iff items m).mpr hm] at h
        cases h
    all_goals simp
  | null | bool _ | number _ | string _ =>
    refine .inr ⟨?_, rfl, rfl⟩
    rintro items m ⟨⟩

/-! ## The steps for one use -/

namespace FieldSchema

/-- How many steps there are once the chain has come through some uses of rules. -/
def stepsAfter (f : FieldSchema) (field : String) (defaults : List Location)
    (uses : List (String × RuleUse)) : Nat :=
  ({ f with rules := uses }.chain field defaults).steps.length

/-- The steps that stand in the chain of a field for a use of a rule, behind those for the uses
before. -/
def stepsFor (f : FieldSchema) (field : String) (defaults : List Location)
    (before : List (String × RuleUse)) (use : String × RuleUse) : List Step :=
  ((f.chain field defaults).steps.take (f.stepsAfter field defaults (before ++ [use]))).drop
    (f.stepsAfter field defaults before)

end FieldSchema

theorem length_said (m : Option Message) (steps : List Step) :
    (said m steps).length = steps.length := by
  have h := congrArg List.length (Chain.kind_said m steps)
  rwa [List.length_map, List.length_map] at h

/-- A use has the steps that it queues, and a later use may give the validator among them a
message. -/
theorem stepsFor_eq {f : FieldSchema} {before after : List (String × RuleUse)}
    {use : String × RuleUse} (h : f.rules = before ++ use :: after) (field : String)
    (defaults : List Location) :
    f.stepsFor field defaults before use =
      said (lateMessage after) (queuedBy (pendingNot before) use) := by
  let c := (f.start field defaults).addUses before
  let d := c.addUse use.1 use.2
  let e : Chain := { f.start field defaults with negateNext := d.negateNext }
  let queued := queuedBy (pendingNot before) use
  have hpending : c.negateNext = pendingNot before := Chain.addUses_negateNext _ _
  have hd : d.steps = said (messageBack use) c.steps ++ queued := by
    rw [Chain.addUse_steps, hpending]
  have hchain : f.chain field defaults = d.addUses after := by
    rw [FieldSchema.chain_eq, h, Chain.addUses, List.foldl_append]
    rfl
  have hsteps : d.steps = d.steps ++ e.steps := (List.append_nil _).symm
  have hall : (f.chain field defaults).steps =
      said (lateMessage after) d.steps ++ (e.addUses after).steps := by
    rw [hchain, Chain.addUses_append_steps after hsteps rfl]
    exact congrArg (· ++ _) (if_neg Bool.false_ne_true)
  have hbefore : f.stepsAfter field defaults before = c.steps.length := rfl
  have hwith : f.stepsAfter field defaults (before ++ [use]) = d.steps.length := by
    rw [FieldSchema.stepsAfter, FieldSchema.chain_eq, Chain.addUses, List.foldl_append]
    rfl
  -- the late message goes to the use if it queues a validator, else to the steps before
  obtain ⟨front, hfront, hsaid⟩ : ∃ front, front.length = c.steps.length ∧
      said (lateMessage after) d.steps = front ++ said (lateMessage after) queued := by
    rw [hd, Chain.said_append]
    cases hq : hasValidation queued with
    | true => exact ⟨_, length_said _ _, if_pos rfl⟩
    | false =>
      refine ⟨said (lateMessage after) (said (messageBack use) c.steps), ?_, ?_⟩
      · rw [length_said, length_said]
      · rw [Chain.said_of_no_validation _ hq]
        exact if_neg Bool.false_ne_true
  rw [FieldSchema.stepsFor, hwith, hbefore, hall, List.take_left' (length_said _ _), hsaid,
    List.drop_left' hfront]

namespace Chain

theorem ready_optional (c : Chain) (m : Modifiers) : (c.ready m).optional = c.optional := by
  unfold ready
  cases m.condition <;> cases m.negated <;> rfl

theorem settled_optional (c : Chain) (m : Modifiers) : (c.settled m).optional = c.optional := by
  unfold settled
  cases m.message <;> cases m.bail <;> rfl

theorem rule_optional (c : Chain) (r : Rule) (args : Arguments) :
    (c.rule r args).optional =
      if r = .optional then some (.ofArguments args) else c.optional := by
  unfold rule
  split
  · rfl
  · cases r.role <;> rfl

/-- The optional rule sets the mode of the chain, and no other rule does. -/
theorem addUse_optional (c : Chain) (p : String × RuleUse) :
    (c.addUse p.1 p.2).optional =
      if usedRule? p = some .optional then some (.ofArguments p.2.arguments) else c.optional := by
  rw [addUse_eq]
  cases usedRule? p with
  | none => rfl
  | some r =>
    cases hr : r.role with
    | validator =>
      simp only [hr, addValidator_eq, settled_optional, rule_optional, ready_optional,
        Option.some.injEq]
    | sanitizer => simp only [hr, rule_optional, Option.some.injEq]

theorem addUses_optional (c : Chain) {uses : List (String × RuleUse)}
    (h : ∀ p ∈ uses, usedRule? p ≠ some .optional) : (c.addUses uses).optional = c.optional := by
  induction uses generalizing c with
  | nil => rfl
  | cons p uses ih =>
    have hone : (c.addUse p.1 p.2).optional = c.optional := by
      rw [addUse_optional, if_neg (h p List.mem_cons_self)]
    rw [addUses, List.foldl_cons, ← addUses, ih _ fun q hq => h q (List.mem_cons_of_mem p hq), hone]

end Chain

/-! ## What is read of an entry -/

theorem not_reserved_of_ofName? {key : String} {r : Rule} (h : Rule.ofName? key = some r) :
    key ∉ reservedKeys := by
  rw [← Rule.name_of_ofName? h]
  cases r <;> decide

/-- The entry of a rule is read by itself; if its name is given twice, the last entry counts. -/
theorem rules_get?_eq {config : Members Json} {f : FieldSchema}
    (h : FieldSchema.ofJson (.object config) = .ok f) {key : String} (hkey : key ∉ reservedKeys) :
    f.rules.get? key = (Members.get? config.reverse key).map RuleUse.ofJson := by
  -- on the members from the last
  induction config using List.reverseRecOn generalizing f with
  | nil =>
    obtain rfl := Except.ok.inj h
    rfl
  | append_singleton config p ih =>
    rw [FieldSchema.ofJson_concat, bind_ok_iff] at h
    obtain ⟨g, hg, hadd⟩ := h
    obtain ⟨name, v⟩ := p
    rw [List.reverse_append, List.reverse_singleton, List.singleton_append, Members.get?]
    by_cases hname : name = key
    · subst hname
      rw [FieldSchema.add_rule g hkey, Except.ok.injEq] at hadd
      rw [← hadd, if_pos rfl, Members.get?_insert_self]
      rfl
    · rw [if_neg hname, ← ih hg]
      by_cases hreserved : name ∈ reservedKeys
      · rw [FieldSchema.rules_of_add_reserved hreserved hadd]
      · rw [FieldSchema.add_rule g hreserved, Except.ok.injEq] at hadd
        rw [← hadd, Members.get?_insert_of_ne _ _ (Ne.symm hname)]

theorem nodup_rules {config : Members Json} {f : FieldSchema}
    (h : FieldSchema.ofJson (.object config) = .ok f) : f.rules.keys.Nodup := by
  rw [(readsField_ofJson h).keys]
  exact nodup_distinct _

/-! ## Entries that are no objects -/

/-- An entry of a configuration that is no object and stands under the name of a rule, in its place
among the uses of rules that are read. -/
structure PlainEntry (config : Members Json) (f : FieldSchema) where
  key : String
  value : Json
  rule : Rule
  before : List (String × RuleUse)
  after : List (String × RuleUse)
  /-- If the name is given twice, the last entry counts. -/
  written : Members.get? config.reverse key = some value
  plain : ∀ ms, value ≠ .object ms
  named : Rule.ofName? key = some rule
  read : FieldSchema.ofJson (.object config) = .ok f
  rules_eq : f.rules = before ++ (key, .ofJson value) :: after

/-- Every such entry has its place. -/
theorem exists_plainEntry {config : Members Json} {f : FieldSchema}
    (h : FieldSchema.ofJson (.object config) = .ok f) {key : String} {value : Json} {rule : Rule}
    (hwritten : Members.get? config.reverse key = some value) (hplain : ∀ ms, value ≠ .object ms)
    (hnamed : Rule.ofName? key = some rule) :
    ∃ e : PlainEntry config f, e.key = key ∧ e.value = value ∧ e.rule = rule := by
  have hread : f.rules.get? key = some (.ofJson value) := by
    rw [rules_get?_eq h (not_reserved_of_ofName? hnamed), hwritten]
    rfl
  obtain ⟨before, after, hrules⟩ := List.append_of_mem (Members.mem_of_get? hread)
  exact ⟨⟨key, value, rule, before, after, hwritten, hplain, hnamed, h, hrules⟩, rfl, rfl, rfl⟩

/-- The steps of a rule that has neither arguments nor modifiers. -/
def Rule.bareSteps (r : Rule) : List Step :=
  if r = .optional then []
  else match r.role with
    | .validator => [.validation ⟨r, [], false, none⟩]
    | .sanitizer => [.sanitization ⟨r, []⟩]

/-- Whether what is said about a rule comes to nothing. A sanitizer only takes its arguments, and of
the optional rule those only count for the mode. -/
def RuleUse.Idle (u : RuleUse) (r : Rule) : Prop :=
  if r = .optional then Absence.ofArguments u.arguments = .missing ∧ u.modifiers.bail = false
  else u.arguments = [] ∧ (r.role = .validator →
    u.modifiers.negated = false ∧ u.modifiers.message = none ∧ u.modifiers.bail = false)

/-- The steps for a use are those of the bare rule just if nothing is said about it, and nothing is
left over for it from uses nearby. -/
theorem said_queuedBy_eq_bareSteps_iff {p : String × RuleUse} {r : Rule}
    (hused : usedRule? p = some r) (hcondition : p.2.modifiers.condition = none) (pending : Bool)
    (late : Option Message) :
    (said late (queuedBy pending p) = r.bareSteps ∧
        (r = .optional → Absence.ofArguments p.2.arguments = .missing)) ↔
      p.2.Idle r ∧
        (r.role = .validator → r ≠ .optional → pending = false ∧ late = none) := by
  have hbail : hasValidation p.2.modifiers.bailSteps = false := by
    unfold Modifiers.bailSteps
    cases p.2.modifiers.bail <;> rfl
  rw [queuedBy, hused, Rule.bareSteps, RuleUse.Idle]
  simp only [Modifiers.conditionSteps, hcondition, Option.map_none, Option.toList_none,
    List.nil_append]
  by_cases hopt : r = .optional
  · rw [if_pos hopt, if_pos hopt, if_pos hopt, Chain.said_of_no_validation late hbail]
    cases hb : p.2.modifiers.bail <;> simp [Modifiers.bailSteps, hb, hopt]
  · rw [if_neg hopt, if_neg hopt, if_neg hopt]
    cases hr : r.role with
    | sanitizer =>
      have hnone : hasValidation [.sanitization ⟨r, p.2.arguments⟩] = false := rfl
      simp only [Chain.said_of_no_validation late hnone]
      simp [hopt]
    | validator =>
      have hlast := Chain.said_last late []
        ⟨r, p.2.arguments, p.2.modifiers.negated || pending, p.2.modifiers.message⟩ hbail
      simp only [List.nil_append] at hlast
      simp only [hlast]
      cases hb : p.2.modifiers.bail with
      | true => simp [Modifiers.bailSteps, hb, hopt]
      | false =>
        -- the parts of the one step, in the order in which they are asked for
        simp [Modifiers.bailSteps, hb, hopt, and_assoc, and_left_comm, and_comm]

namespace PlainEntry

variable {config : Members Json} {f : FieldSchema}

def use (e : PlainEntry config f) : String × RuleUse := (e.key, .ofJson e.value)

theorem rules_eq_use (e : PlainEntry config f) : f.rules = e.before ++ e.use :: e.after :=
  e.rules_eq

/-- A falsy entry is skipped, and under any other the rule stands alone in the chain. -/
def Bare (e : PlainEntry config f) (field : String) (defaults : List Location) : Prop :=
  (Falsy e.value ∧
    f.chain field defaults = { f with rules := e.before ++ e.after }.chain field defaults) ∨
  (¬ Falsy e.value ∧ f.stepsFor field defaults e.before e.use = e.rule.bareSteps ∧
    (e.rule = .optional → (f.chain field defaults).optional = some .missing))

/-- The entry does not list modifiers that come to something. -/
def ListsNothing (e : PlainEntry config f) : Prop :=
  ∀ items m, e.value = .array items → ListsModifiers items m → (RuleUse.modified m).Idle e.rule

/-- No optional rule nearby leaves a validator its negation or its message. -/
def Undisturbed (e : PlainEntry config f) : Prop :=
  e.rule.role = .validator → e.rule ≠ .optional →
    pendingNot e.before = false ∧ lateMessage e.after = none

theorem condition_eq_none (e : PlainEntry config f) : e.use.2.modifiers.condition = none := by
  rcases ofJson_plain e.plain with ⟨items, m, -, hlists, hread⟩ | ⟨-, -, hmodifiers⟩
  · rw [use, hread]
    exact hlists.condition.symm
  · rw [use, hmodifiers]

/-- What is read of the entry comes to nothing just if it does not list modifiers that do. -/
theorem idle_iff (e : PlainEntry config f) : e.use.2.Idle e.rule ↔ e.ListsNothing := by
  rcases ofJson_plain e.plain with
    ⟨items, m, hvalue, hlists, hread⟩ | ⟨hnone, harguments, hmodifiers⟩
  · rw [use, hread]
    constructor
    · intro hidle items' m' hvalue' hlists'
      rw [hvalue, Json.array.injEq] at hvalue'
      rw [← Modifiers.ofJson?_array_iff, ← hvalue',
        (Modifiers.ofJson?_array_iff items m).mpr hlists, Option.some.injEq] at hlists'
      rwa [← hlists']
    · intro hnothing
      exact hnothing items m hvalue hlists
  · refine iff_of_true ?_ fun items m hvalue hlists => absurd hlists (hnone items m hvalue)
    rw [use, RuleUse.Idle, harguments, hmodifiers]
    split
    · exact ⟨rfl, rfl⟩
    · exact ⟨rfl, fun _ => ⟨rfl, rfl, rfl⟩⟩

/-- Under the name of a rule that is used once, the mode of the chain is what the entry asks for. -/
theorem optional_eq (e : PlainEntry config f) (hused : usedRule? e.use = some .optional)
    (field : String) (defaults : List Location) :
    (f.chain field defaults).optional = some (.ofArguments e.use.2.arguments) := by
  have hnodup := nodup_rules e.read
  rw [e.rules_eq, Members.keys, List.map_append, List.map_cons, List.nodup_append] at hnodup
  have hafter : ∀ p ∈ e.after, usedRule? p ≠ some .optional := by
    intro p hp hopt
    have hname (q : String × RuleUse) (hq : usedRule? q = some .optional) :
        q.1 = Rule.optional.name := by
      unfold usedRule? at hq
      split at hq
      · exact (Rule.name_of_ofName? hq).symm
      · cases hq
    have hkey : p.1 = e.key := (hname p hopt).trans (hname e.use hused).symm
    have hmem : p.1 ∈ e.after.map Prod.fst := List.mem_map_of_mem hp
    rw [hkey] at hmem
    exact (List.nodup_cons.mp hnodup.2.1).1 hmem
  have hchain : f.chain field defaults =
      ((((f.start field defaults).addUses e.before).addUse e.use.1 e.use.2)).addUses e.after := by
    rw [FieldSchema.chain_eq, e.rules_eq, Chain.addUses, List.foldl_append]
    rfl
  rw [hchain, Chain.addUses_optional _ hafter, Chain.addUse_optional, if_pos hused]

theorem bare_iff (e : PlainEntry config f) (field : String) (defaults : List Location) :
    e.Bare field defaults ↔ Falsy e.value ∨ e.ListsNothing ∧ e.Undisturbed := by
  by_cases hfalsy : Falsy e.value
  · refine iff_of_true (.inl ⟨hfalsy, ?_⟩) (.inl hfalsy)
    have hoff : (RuleUse.ofJson e.value).isOn = false :=
      Bool.eq_false_iff.mpr fun hon => (isOn_ofJson e.value).mp hon hfalsy
    rw [FieldSchema.chain_eq, FieldSchema.chain_eq, e.rules_eq, Chain.addUses, Chain.addUses,
      List.foldl_append, List.foldl_append, List.foldl_cons, Chain.addUse_of_off _ _ _ hoff]
    rfl
  · have hused : usedRule? e.use = some e.rule := by
      rw [usedRule?, if_pos]
      · exact e.named
      · exact (isActive_iff _ _).mpr
          ⟨(isOn_ofJson e.value).mpr hfalsy, not_reserved_of_ofName? e.named⟩
    have hmode : e.rule = .optional → ((f.chain field defaults).optional = some .missing ↔
        Absence.ofArguments e.use.2.arguments = .missing) := by
      intro hopt
      rw [e.optional_eq (hopt ▸ hused), Option.some.injEq]
    have hsteps := said_queuedBy_eq_bareSteps_iff hused e.condition_eq_none
      (pendingNot e.before) (lateMessage e.after)
    rw [← stepsFor_eq e.rules_eq_use field defaults, e.idle_iff] at hsteps
    rw [Bare, or_iff_right fun h => hfalsy h.1, and_iff_right hfalsy, or_iff_right hfalsy,
      Undisturbed, ← hsteps]
    exact and_congr_right fun _ => forall_congr' hmode

end PlainEntry

/-- **Entries that are no objects.** In the chain of every field of a schema, an entry under the
name of a rule that is no object is skipped if it is falsy, and otherwise stands for the rule alone,
with no arguments, not negated, with no message and with no bail, just if it does not list modifiers
that come to something and no optional rule nearby leaves it a negation or a message. -/
theorem plain_entries_bare_iff {document : Members Json} {s : Schema}
    (h : Schema.ofJson (.object document) = .ok s) (defaults : List Location) :
    List.Forall₂ (fun p c => ∃ config f, p.2 = .object config ∧ c = f.chain p.1 defaults ∧
        (∀ key value rule, Members.get? config.reverse key = some value →
          (∀ ms, value ≠ .object ms) → Rule.ofName? key = some rule →
          ∃ e : PlainEntry config f, e.key = key ∧ e.value = value ∧ e.rule = rule) ∧
        ∀ e : PlainEntry config f,
          e.Bare p.1 defaults ↔ Falsy e.value ∨ e.ListsNothing ∧ e.Undisturbed)
      document (s.plan defaults).chains := by
  rw [Schema.plan, List.forall₂_map_right_iff]
  refine (Schema.forall₂_of_ofJson_object h).imp fun p q hpair => ?_
  obtain ⟨hname, hq⟩ := hpair
  obtain ⟨config, hconfig, -⟩ := (FieldSchema.ofJson_ok_iff p.2).mp ⟨q.2, hq⟩
  rw [hconfig] at hq
  refine ⟨config, q.2, hconfig, by rw [hname], fun key value rule hwritten hplain hnamed => ?_,
    fun e => e.bare_iff p.1 defaults⟩
  exact exists_plainEntry hq hwritten hplain hnamed

/-- A list that is no list of modifiers, since its second item is no message, and one that is. -/
def listedEntries : Members Json :=
  [("trim", .array [.string "x", .int 3]), ("isIn", .array [.string "a", .string "b"])]

/-- The first rule stands alone in the chain of the field, the second does not. -/
theorem listedEntries_bare_in_part :
    ∃ s, Schema.ofJson (.object [("name", .object listedEntries)]) = .ok s ∧
      ∃ f, (s.plan Location.all).chains = [f.chain "name" Location.all] ∧
        (∃ e : PlainEntry listedEntries f, e.key = "trim" ∧ e.Bare "name" Location.all) ∧
        ∃ e : PlainEntry listedEntries f, e.key = "isIn" ∧ ¬ e.Bare "name" Location.all := by
  have hread : Schema.ofJson (.object [("name", .object listedEntries)]) =
      .ok ⟨[("name", { rules := [
        ("trim", .other (.array [.string "x", .int 3])),
        ("isIn", .modified
          { arguments := some (.string "a"), message := some (.fixed "b") })] })]⟩ := rfl
  refine ⟨_, hread, ?_⟩
  obtain ⟨c, cs, ⟨config, f, hconfig, hc, hplace, hbare⟩, hrest, hchains⟩ :=
    List.forall₂_cons_left_iff.mp (plain_entries_bare_iff hread Location.all)
  obtain rfl := Json.object.inj hconfig
  obtain rfl := List.forall₂_nil_left_iff.mp hrest
  refine ⟨f, by rw [hchains, hc], ?_, ?_⟩
  · obtain ⟨e, hkey, hvalue, hrule⟩ := hplace "trim" _ .trim rfl (fun _ => nofun) rfl
    refine ⟨e, hkey, (hbare e).mpr (.inr ⟨fun items m hitems hlists => ?_, fun hrole => ?_⟩)⟩
    · rw [hvalue, Json.array.injEq] at hitems
      subst hitems
      exact nomatch hlists.message
    · rw [hrule] at hrole
      cases hrole
  · obtain ⟨e, hkey, hvalue, hrule⟩ := hplace "isIn" _ .isIn rfl (fun _ => nofun) rfl
    refine ⟨e, hkey, fun h => ?_⟩
    rcases (hbare e).mp h with hfalsy | ⟨hnothing, -⟩
    · rw [hvalue] at hfalsy
      cases hfalsy
    · have hlists := (Modifiers.ofJson?_array_iff [.string "a", .string "b"]
        { arguments := some (.string "a"), message := some (.fixed "b") }).mp rfl
      have hidle := hnothing _ _ hvalue hlists
      rw [hrule] at hidle
      exact nomatch hidle.1

/-- A list of two names under a rule, in its place among the uses of rules. -/
def listedNames :
    PlainEntry [("isIn", .array [.string "a", .string "b"])]
      { rules := [("isIn", .ofJson (.array [.string "a", .string "b"]))] } :=
  ⟨"isIn", .array [.string "a", .string "b"], .isIn, [], [], rfl, fun _ => nofun, rfl, rfl, rfl⟩

/-- The first name is the argument of the rule, the second is its message. -/
theorem listed_names_not_bare :
    (FieldSchema.chain { rules := [("isIn", .ofJson (.array [.string "a", .string "b"]))] } "name"
      Location.all).steps = [.validation ⟨.isIn, [.string "a"], false, some (.fixed "b")⟩] ∧
    ¬ listedNames.Bare "name" Location.all := by
  refine ⟨rfl, ?_⟩
  rintro (⟨hfalsy, -⟩ | ⟨-, hsteps, -⟩)
  · cases hfalsy
  · cases hsteps

end RequestValidation
