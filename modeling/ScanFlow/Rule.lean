import ScanFlow.Cwe
import ScanFlow.Json.Record

/-!
Rules, templates that choose rules, and their snapshots.

The catalog of rules may change at any time. What the engines are asked to look for is
fixed when the analysis of a task begins: a snapshot copies the template's name and the
rules that are active at that moment.
-/

namespace ScanFlow

/-- The severity of a rule in the catalog. -/
inductive RuleLevel where
  | low
  | medium
  | high
  deriving DecidableEq, Repr

namespace RuleLevel

def code : RuleLevel → Nat
  | low => 1
  | medium => 2
  | high => 3

def ofCode? : Nat → Option RuleLevel
  | 1 => some low
  | 2 => some medium
  | 3 => some high
  | _ => none

def name : RuleLevel → String
  | low => "Low"
  | medium => "Medium"
  | high => "High"

/-- What is said about a number that is no level. -/
def refusal (code : Nat) : String := s!"Invalid rule level: {code}"

def toJson (level : RuleLevel) : Json := .ofNat level.code

def ofJson? (j : Json) : Option RuleLevel := (j.nat? Digits.maxWord8).bind ofCode?

instance : Wire RuleLevel := ⟨toJson, ofJson?⟩

end RuleLevel

/-- A rule as it stands in the catalog. -/
structure Rule where
  id : Uuid
  name : String
  cwe : String
  category : String
  level : RuleLevel
  source : List String
  sink : List String
  enabled : Bool
  deleted : Bool
  deriving DecidableEq, Repr

/-- The copy of a rule in a snapshot. -/
structure RuleSnapshot where
  ruleId : Uuid
  name : String
  cwe : String
  category : String
  level : RuleLevel
  source : List String
  sink : List String
  deriving DecidableEq, Repr

/-- A named choice of rules. -/
structure RuleTemplate where
  id : Uuid
  name : String
  ruleIds : List Uuid
  enabled : Bool
  isDefault : Bool
  deriving DecidableEq, Repr

/-- A template with copies of its active rules, as they were at one moment. -/
structure TemplateSnapshot where
  templateId : Uuid
  templateName : String
  rules : List RuleSnapshot
  capturedAt : Timestamp
  deriving DecidableEq, Repr

namespace Rule

def isActive (rule : Rule) : Bool := rule.enabled && !rule.deleted

def snapshot (rule : Rule) : RuleSnapshot :=
  { ruleId := rule.id
    name := rule.name
    cwe := rule.cwe
    category := rule.category
    level := rule.level
    source := rule.source
    sink := rule.sink }

def toJson (rule : Rule) : Json :=
  .object
    [("id", .ofUuid rule.id), ("name", .string rule.name), ("cwe", .string rule.cwe),
      ("category", .string rule.category), ("level", rule.level.toJson),
      ("source", .ofList .string rule.source), ("sink", .ofList .string rule.sink),
      ("enabled", .bool rule.enabled), ("deleted", .bool rule.deleted)]

def ofJson? : Json → Option Rule := Json.record? do
  let id ← Json.required "id" Json.uuid?
  let name ← Json.required "name" Json.string?
  let cwe ← Json.required "cwe" Json.string?
  let category ← Json.required "category" Json.string?
  let level ← Json.required "level" RuleLevel.ofJson?
  let source ← Json.required "source" (Json.list? Json.string?)
  let sink ← Json.required "sink" (Json.list? Json.string?)
  let enabled ← Json.required "enabled" Json.bool?
  let deleted ← Json.required "deleted" Json.bool?
  return { id, name, cwe, category, level, source, sink, enabled, deleted }

instance : Wire Rule := ⟨toJson, ofJson?⟩

end Rule

namespace RuleSnapshot

/-- The members of a copied rule; the name of its identifier differs between a stored
snapshot and a request to an engine. -/
def toJsonAs (idName : String) (rule : RuleSnapshot) : Json :=
  .object
    [(idName, .ofUuid rule.ruleId), ("name", .string rule.name), ("cwe", .string rule.cwe),
      ("category", .string rule.category), ("level", rule.level.toJson),
      ("source", .ofList .string rule.source), ("sink", .ofList .string rule.sink)]

def ofJsonAs? (idName : String) : Json → Option RuleSnapshot := Json.record? do
  let ruleId ← Json.required idName Json.uuid?
  let name ← Json.required "name" Json.string?
  let cwe ← Json.required "cwe" Json.string?
  let category ← Json.required "category" Json.string?
  let level ← Json.required "level" RuleLevel.ofJson?
  let source ← Json.required "source" (Json.list? Json.string?)
  let sink ← Json.required "sink" (Json.list? Json.string?)
  return { ruleId, name, cwe, category, level, source, sink }

def toJson : RuleSnapshot → Json := toJsonAs "rule_id"

def ofJson? : Json → Option RuleSnapshot := ofJsonAs? "rule_id"

instance : Wire RuleSnapshot := ⟨toJson, ofJson?⟩

end RuleSnapshot

namespace RuleTemplate

def toJson (template : RuleTemplate) : Json :=
  .object
    [("id", .ofUuid template.id), ("name", .string template.name),
      ("rule_ids", .ofList .ofUuid template.ruleIds), ("enabled", .bool template.enabled),
      ("is_default", .bool template.isDefault)]

def ofJson? : Json → Option RuleTemplate := Json.record? do
  let id ← Json.required "id" Json.uuid?
  let name ← Json.required "name" Json.string?
  let ruleIds ← Json.required "rule_ids" (Json.list? Json.uuid?)
  let enabled ← Json.required "enabled" Json.bool?
  let isDefault ← Json.required "is_default" Json.bool?
  return { id, name, ruleIds, enabled, isDefault }

instance : Wire RuleTemplate := ⟨toJson, ofJson?⟩

end RuleTemplate

namespace TemplateSnapshot

def capture (template : RuleTemplate) (rules : List Rule) (moment : Timestamp) :
    TemplateSnapshot :=
  { templateId := template.id
    templateName := template.name
    rules := rules.map Rule.snapshot
    capturedAt := moment }

/-- The name of the first rule for a weakness, in any spelling. -/
def nameForCwe? (snapshot : TemplateSnapshot) (cwe : String) : Option String :=
  (snapshot.rules.find? fun rule => Cwe.normalize rule.cwe = Cwe.normalize cwe).map (·.name)

def toJson (snapshot : TemplateSnapshot) : Json :=
  .object
    [("rule_template_id", .ofUuid snapshot.templateId),
      ("rule_template_name", .string snapshot.templateName),
      ("rules", .ofList RuleSnapshot.toJson snapshot.rules),
      ("captured_at", .ofTimestamp snapshot.capturedAt)]

def ofJson? : Json → Option TemplateSnapshot := Json.record? do
  let templateId ← Json.required "rule_template_id" Json.uuid?
  let templateName ← Json.required "rule_template_name" Json.string?
  let rules ← Json.required "rules" (Json.list? RuleSnapshot.ofJson?)
  let capturedAt ← Json.required "captured_at" Json.timestamp?
  return { templateId, templateName, rules, capturedAt }

instance : Wire TemplateSnapshot := ⟨toJson, ofJson?⟩

end TemplateSnapshot

end ScanFlow
