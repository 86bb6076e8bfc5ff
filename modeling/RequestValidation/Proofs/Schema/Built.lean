import RequestValidation.Proofs.Chain.Built
import RequestValidation.Proofs.Schema.PlainEntries
/-!
# Chains that schemas build

A schema builds the chain of a field by calls, so all rules are in place in it as long as the
conditions among its modifiers are built by calls too. A document has no conditions.

Results:
* `Built.addUse`, `built_of_mem_plan`: the chains of a schema are built by calls.
* `conditionsBuilt_of_ofJson`: what is read of a document has no conditions that are not.
* `rules_stay_in_place`: no chain that is built, and no schema, ever finds a rule out of place.
-/
namespace RequestValidation

namespace Chain.Built

variable {c : Chain}

theorem rule (h : c.Built) (r : Rule) (args : Arguments) : (c.rule r args).Built :=
  h.call (k := .rule r args) nofun

theorem not (h : c.Built) : c.not.Built := h.call (k := .negate) nofun

theorem saying (h : c.Built) (m : Message) : (c.saying m).Built := h.call (k := .saying m) nofun

theorem bail (h : c.Built) : c.bail.Built := h.call (k := .bail) nofun

theorem when (h : c.Built) {condition : Condition} (hd : ∀ d, condition = .chain d → d.Built) :
    (c.when condition).Built :=
  h.call (k := .when condition) fun d hk => hd d (Call.when.inj hk)

end Chain.Built

/-- Whether the chain in the condition of a use, if it has one, is built by calls. -/
def RuleUse.ConditionBuilt (u : RuleUse) : Prop :=
  ∀ d, u.modifiers.condition = some (.chain d) → d.Built

/-- Whether the chains in the conditions of a schema are built by calls. -/
def Schema.ConditionsBuilt (s : Schema) : Prop :=
  ∀ p ∈ s.fields, ∀ q ∈ p.2.rules, q.2.ConditionBuilt

namespace Chain.Built

variable {c : Chain}

theorem ready (h : c.Built) {m : Modifiers} (hm : ∀ d, m.condition = some (.chain d) → d.Built) :
    (c.ready m).Built := by
  unfold Chain.ready
  cases hcondition : m.condition with
  | none =>
    cases m.negated with
    | true => exact h.not
    | false => exact h
  | some condition =>
    have hwhen := h.when fun d hd => hm d (hcondition.trans (congrArg some hd))
    cases m.negated with
    | true => exact hwhen.not
    | false => exact hwhen

theorem settled (h : c.Built) (m : Modifiers) : (c.settled m).Built := by
  unfold Chain.settled
  cases m.message with
  | none =>
    cases m.bail with
    | true => exact h.bail
    | false => exact h
  | some text =>
    have hsaying := h.saying text
    cases m.bail with
    | true => exact hsaying.bail
    | false => exact hsaying

/-- A use of a rule calls the builder. -/
theorem addUse (h : c.Built) {p : String × RuleUse} (hp : p.2.ConditionBuilt) :
    (c.addUse p.1 p.2).Built := by
  rw [addUse_eq]
  cases usedRule? p with
  | none => exact h
  | some r =>
    cases hr : r.role with
    | validator =>
      simp only [hr, addValidator_eq]
      exact ((h.ready hp).rule r _).settled _
    | sanitizer =>
      simp only [hr]
      exact h.rule r _

theorem addUses (h : c.Built) {uses : List (String × RuleUse)}
    (huses : ∀ p ∈ uses, p.2.ConditionBuilt) : (c.addUses uses).Built := by
  induction uses generalizing c with
  | nil => exact h
  | cons p uses ih =>
    obtain ⟨hp, huses⟩ := List.forall_mem_cons.mp huses
    exact ih (h.addUse hp) huses

end Chain.Built

theorem built_of_mem_plan {s : Schema} (hs : s.ConditionsBuilt) {defaults : List Location}
    {c : Chain} (hc : c ∈ (s.plan defaults).chains) : c.Built := by
  obtain ⟨p, hp, rfl⟩ := List.mem_map.mp hc
  exact (Chain.Built.new _ _ _).addUses (hs p hp)

/-! ## Schemas from documents -/

theorem Modifiers.condition_of_set? {m n : Modifiers} {name : String} {v : Json}
    (h : m.set? name v = some n) : n.condition = m.condition := by
  unfold set? at h
  split at h
  · exact Option.some.inj h ▸ rfl
  · split at h
    · obtain ⟨_, -, rfl⟩ := Option.map_eq_some_iff.mp h
      rfl
    · split at h
      · obtain ⟨_, -, rfl⟩ := Option.map_eq_some_iff.mp h
        rfl
      · split at h
        · obtain ⟨_, -, rfl⟩ := Option.map_eq_some_iff.mp h
          rfl
        · exact Option.some.inj h ▸ rfl

theorem Modifiers.condition_of_foldlM_set? {named : Members Json} {m n : Modifiers}
    (h : named.foldlM (fun u p => u.set? p.1 p.2) m = some n) : n.condition = m.condition := by
  induction named generalizing m with
  | nil => exact Option.some.inj h ▸ rfl
  | cons p named ih =>
    rw [List.foldlM_cons, Option.bind_eq_bind, Option.bind_eq_some_iff] at h
    obtain ⟨next, hnext, h⟩ := h
    exact (ih h).trans (condition_of_set? hnext)

/-- Modifiers in a document have no condition. -/
theorem Modifiers.condition_of_ofJson? {v : Json} {m : Modifiers} (h : ofJson? v = some m) :
    m.condition = none := by
  cases v with
  | object ms => exact condition_of_foldlM_set? h
  | array items =>
    rw [ofJson?] at h
    split at h
    · exact condition_of_foldlM_set? h
    · cases h
  | null | bool _ | number _ | string _ => cases h

theorem RuleUse.condition_ofJson (v : Json) : (ofJson v).modifiers.condition = none := by
  unfold ofJson
  split
  · rfl
  · rfl
  · split
    · rename_i hread
      exact Modifiers.condition_of_ofJson? hread
    · rfl

theorem exists_ofJson_of_mem_rules {config : Members Json} {f : FieldSchema}
    (h : FieldSchema.ofJson (.object config) = .ok f) {q : String × RuleUse} (hq : q ∈ f.rules) :
    ∃ v, q.2 = .ofJson v := by
  obtain ⟨key, u⟩ := q
  have hkey : key ∉ reservedKeys := by
    have hmem : key ∈ f.rules.keys := List.mem_map_of_mem hq
    rw [(readsField_ofJson h).keys, mem_distinct, ruleKeys, List.mem_filter] at hmem
    exact of_decide_eq_true hmem.2
  have hread := Members.get?_of_mem (nodup_rules h) hq
  rw [rules_get?_eq h hkey] at hread
  obtain ⟨v, -, hv⟩ := Option.map_eq_some_iff.mp hread
  exact ⟨v, hv.symm⟩

/-- A schema that is read of a document has no conditions. -/
theorem conditionsBuilt_of_ofJson {v : Json} {s : Schema} (h : Schema.ofJson v = .ok s) :
    s.ConditionsBuilt := by
  intro p hp q hq d hd
  obtain ⟨ms, rfl⟩ := Schema.eq_object_of_ofJson_ok h
  obtain ⟨member, -, -, hfield⟩ := exists_of_forall₂ (Schema.forall₂_of_ofJson_object h).flip hp
  obtain ⟨config, hconfig, -⟩ := (FieldSchema.ofJson_ok_iff member.2).mp ⟨p.2, hfield⟩
  rw [hconfig] at hfield
  obtain ⟨entry, hentry⟩ := exists_ofJson_of_mem_rules hfield hq
  rw [hentry, RuleUse.condition_ofJson] at hd
  cases hd

/-! ## Runs -/

/-- What the chains of a plan fail with is the failure of one of them. -/
theorem exists_of_plan_run_error {plan : SchemaPlan} {request : Request} {e : InvalidArguments}
    (h : plan.run request = .error e) : ∃ c ∈ plan.chains, c.run request = .error e :=
  exists_of_mapM_error h

/-- **Rules stay in place.** In a chain that is built by calls, with any conditions that are built
so too, every rule that checks is a validator other than the optional one, every rule that changes
is a sanitizer, and the same holds in the chains of the conditions. So are the chains of a schema,
whose conditions come from calls or, in a document, are not there at all. No run of any of them
fails with one of the three faults that blame the role of a rule. -/
theorem rules_stay_in_place :
    (∀ c : Chain, c.Built → (∀ step ∈ c.steps, step.InPlace) ∧
      (∀ d, .condition (.chain d) ∈ c.steps → d.RulesInPlace) ∧
      ∀ request e, c.run request = .error e → e.cause.message ∉ ArgumentError.roleTexts) ∧
    (∀ s : Schema, s.ConditionsBuilt → ∀ defaults,
      (∀ c ∈ (s.plan defaults).chains, c.Built ∧ ∀ step ∈ c.steps, step.InPlace) ∧
      ∀ request e, (s.plan defaults).run request = .error e →
        e.cause.message ∉ ArgumentError.roleTexts) ∧
    ∀ document s, Schema.ofJson document = .ok s → s.ConditionsBuilt := by
  have hchain (c : Chain) (h : c.Built) (request : Request) (e : InvalidArguments)
      (he : c.run request = .error e) : e.cause.message ∉ ArgumentError.roleTexts := fun hmem =>
    h.rulesInPlace.spares he ((ArgumentError.message_mem_roleTexts_iff _).mp hmem)
  refine ⟨fun c h => ⟨h.rulesInPlace.own, h.rulesInPlace.inner, hchain c h⟩,
    fun s hs defaults => ⟨fun c hc => ?_, fun request e he => ?_⟩,
    fun document s h => conditionsBuilt_of_ofJson h⟩
  · have hbuilt := built_of_mem_plan hs hc
    exact ⟨hbuilt, hbuilt.rulesInPlace.own⟩
  · obtain ⟨c, hc, hfail⟩ := exists_of_plan_run_error he
    exact hchain c (built_of_mem_plan hs hc) request e hfail

/-- A chain that trims a name wherever the body has one from a list, which was forgotten. -/
def listForgotten : Chain :=
  ((Chain.check "name").when
    (.chain ((Chain.new "name" [.body] none).rule .isIn []))).rule .trim []

/-- The run fails for the list, not for the roles of rules, and so it does for a schema that names
the rule without a list. -/
theorem listForgotten_not_misplaced :
    listForgotten.Built ∧ (∀ step ∈ listForgotten.steps, step.InPlace) ∧
      listForgotten.run { body := .object [("name", .string " a ")] } =
        .error ⟨.isIn, .required 1⟩ ∧
      ∃ s, Schema.ofJson (.object [("name", .object [("isIn", .bool true)])]) = .ok s ∧
        (∀ c ∈ (s.plan Location.all).chains, ∀ step ∈ c.steps, step.InPlace) ∧
        (s.plan Location.all).run { body := .object [("name", .string " a ")] } =
          .error ⟨.isIn, .required 1⟩ ∧
        (ArgumentError.required 1).message ∉ ArgumentError.roleTexts := by
  obtain ⟨hchain, hplan, hdocument⟩ := rules_stay_in_place
  have hcondition : ((Chain.new "name" [.body] none).rule .isIn []).Built :=
    (Chain.Built.new _ _ _).rule _ _
  have hbuilt : listForgotten.Built := by
    refine ((Chain.Built.check "name").when fun d hd => ?_).rule .trim []
    obtain rfl := Condition.chain.inj hd
    exact hcondition
  have hread : Schema.ofJson (.object [("name", .object [("isIn", .bool true)])]) =
      .ok ⟨[("name", { rules := [("isIn", .switch true)] })]⟩ := rfl
  obtain ⟨hchains, hruns⟩ := hplan _ (hdocument _ _ hread) Location.all
  exact ⟨hbuilt, (hchain _ hbuilt).1, rfl, _, hread, fun c hc => (hchains c hc).2, rfl,
    hruns { body := .object [("name", .string " a ")] } _ rfl⟩

end RequestValidation
