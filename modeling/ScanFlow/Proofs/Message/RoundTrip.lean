import ScanFlow.Proofs.Json.Rereading
import ScanFlow.Proofs.Message.Accepted

/-!
Completion messages that are written and read again.

Whatever a body looked like that a message was accepted from, the message has one form that it
is written in, and from that form the same queue accepts the same message. The records are gone
through from the innermost ones outwards.
-/

namespace ScanFlow

open Json

/-! ### The answer of the compiler -/

theorem CompileArtifact.rereads : Rereads ofJson? toJson := by
  refine yieldsFrom_record hereditary_proper ?_
  refine yieldsFrom_bind (yieldsFrom_required "name" rereads_string) fun name hname => ?_
  refine yieldsFrom_bind (yieldsFrom_required "size" (rereads_nat _)) fun size hsize => ?_
  refine yieldsFrom_bind (yieldsFrom_required "objectKey" rereads_string) fun key hkey => ?_
  refine yieldsFrom_bind (yieldsFrom_required "md5" rereads_string) fun md5 hmd5 => ?_
  refine yieldsFrom_pure (record?_object ?_)
  refine reads_required rfl hname ?_
  refine reads_required rfl hsize ?_
  refine reads_required rfl hkey ?_
  exact reads_required rfl hmd5 rfl

theorem CompileFinished.rereads : Rereads ofJson? toJson := by
  refine yieldsFrom_record hereditary_proper ?_
  refine yieldsFrom_bind (yieldsFrom_required "workflowId" rereads_uuid) fun id hid => ?_
  refine yieldsFrom_bind (yieldsFrom_required "success" rereads_bool) fun success hsuccess => ?_
  refine yieldsFrom_bind (yieldsFrom_defaulted "compileResult"
    (rereads_option CompileArtifact.rereads (by simp [CompileArtifact.toJson])) rfl)
    fun artifact hartifact => ?_
  refine yieldsFrom_pure (record?_object ?_)
  refine reads_required rfl hid ?_
  refine reads_required rfl hsuccess ?_
  exact reads_defaulted hartifact rfl

/-! ### The answer of the static analysis -/

theorem RuleLevel.ofJson?_toJson (level : RuleLevel) : ofJson? level.toJson = some level := by
  cases level <;> rfl

theorem RuleLevel.rereads : Rereads ofJson? toJson := fun _ level _ _ => level.ofJson?_toJson

theorem PathStep.rereads : Rereads ofJson? toJson := by
  refine yieldsFrom_record hereditary_proper ?_
  refine yieldsFrom_bind (yieldsFrom_required "file" rereads_string) fun file hfile => ?_
  refine yieldsFrom_bind (yieldsFrom_defaulted "function" rereads_string rfl)
    fun function hfunction => ?_
  refine yieldsFrom_bind (yieldsFrom_defaulted "jimpleStmt" rereads_string rfl)
    fun jimpleStmt hjimpleStmt => ?_
  refine yieldsFrom_bind (yieldsFrom_defaulted "javaStmt" rereads_string rfl)
    fun javaStmt hjavaStmt => ?_
  refine yieldsFrom_bind (yieldsFrom_defaulted "jspStmt" rereads_string rfl)
    fun jspStmt hjspStmt => ?_
  refine yieldsFrom_bind (yieldsFrom_required "line" (rereads_nat _)) fun line hline => ?_
  refine yieldsFrom_bind (yieldsFrom_defaulted "jspLine"
    (rereads_option (rereads_nat _) (by simp [ofNat])) rfl) fun jspLine hjspLine => ?_
  refine yieldsFrom_bind (yieldsFrom_defaulted "javaClass"
    (rereads_option rereads_string (by simp)) rfl) fun javaClass hjavaClass => ?_
  refine yieldsFrom_bind (yieldsFrom_defaulted "jspFile"
    (rereads_option rereads_string (by simp)) rfl) fun jspFile hjspFile => ?_
  refine yieldsFrom_pure (record?_object ?_)
  -- Which members there are depends on the last three fields.
  cases jspLine <;> cases javaClass <;> cases jspFile
  all_goals
    refine reads_required rfl hfile ?_
    refine reads_defaulted hfunction ?_
    refine reads_defaulted hjimpleStmt ?_
    refine reads_defaulted hjavaStmt ?_
    refine reads_defaulted hjspStmt ?_
    refine reads_required rfl hline ?_
    refine reads_defaulted hjspLine ?_
    refine reads_defaulted hjavaClass ?_
    exact reads_defaulted hjspFile rfl

theorem SaFinding.rereads : Rereads ofJson? toJson := by
  refine yieldsFrom_record hereditary_proper ?_
  refine yieldsFrom_bind (yieldsFrom_required "sourceSig" rereads_string) fun source hsource => ?_
  refine yieldsFrom_bind (yieldsFrom_required "sinkSig" rereads_string) fun sink hsink => ?_
  refine yieldsFrom_bind (yieldsFrom_required "path" (rereads_list PathStep.rereads))
    fun path hpath => ?_
  refine yieldsFrom_pure (record?_object ?_)
  refine reads_required rfl hsource ?_
  refine reads_required rfl hsink ?_
  exact reads_required rfl hpath rfl

theorem SaRuleResult.rereads : Rereads ofJson? toJson := by
  refine yieldsFrom_record hereditary_proper ?_
  refine yieldsFrom_bind (yieldsFrom_required "ruleName" rereads_string) fun name hname => ?_
  refine yieldsFrom_bind (yieldsFrom_required "ruleCwe" rereads_string) fun cwe hcwe => ?_
  refine yieldsFrom_bind (yieldsFrom_defaulted "ruleCategory" rereads_string rfl)
    fun category hcategory => ?_
  refine yieldsFrom_bind (yieldsFrom_required "ruleLevel" RuleLevel.rereads)
    fun level hlevel => ?_
  refine yieldsFrom_bind (yieldsFrom_defaulted "detectedResults"
    (rereads_list SaFinding.rereads) rfl) fun findings hfindings => ?_
  refine yieldsFrom_pure (record?_object ?_)
  refine reads_required rfl hname ?_
  refine reads_required rfl hcwe ?_
  refine reads_defaulted hcategory ?_
  refine reads_required rfl hlevel ?_
  exact reads_defaulted hfindings rfl

/-- The answers of both engines have the same fields, and differ in what they report. -/
theorem rereads_answer {α β : Type} {read : Json → Option α} {write : α → Json}
    {answer : Uuid → Uuid → Bool → Option α → β} {toJson : β → Json} (h : Rereads read write)
    (hnull : ∀ a, write a ≠ .null)
    (hwritten : ∀ id task success result, toJson (answer id task success result) = .object
      [("workflowId", .ofUuid id), ("taskId", .ofUuid task), ("success", .bool success),
        ("result", .ofOption write result)]) :
    Rereads (record? do
      let id ← required "workflowId" uuid?
      let task ← required "taskId" uuid?
      let success ← required "success" bool?
      let result ← defaulted "result" (option? read) none
      return answer id task success result) toJson := by
  refine yieldsFrom_record hereditary_proper ?_
  refine yieldsFrom_bind (yieldsFrom_required "workflowId" rereads_uuid) fun id hid => ?_
  refine yieldsFrom_bind (yieldsFrom_required "taskId" rereads_uuid) fun task htask => ?_
  refine yieldsFrom_bind (yieldsFrom_required "success" rereads_bool) fun success hsuccess => ?_
  refine yieldsFrom_bind (yieldsFrom_defaulted "result" (rereads_option h hnull) rfl)
    fun result hresult => ?_
  refine yieldsFrom_pure ?_
  rw [hwritten]
  refine record?_object ?_
  refine reads_required rfl hid ?_
  refine reads_required rfl htask ?_
  refine reads_required rfl hsuccess ?_
  exact reads_defaulted hresult rfl

theorem SaFinished.rereads : Rereads ofJson? toJson :=
  rereads_answer (rereads_nameMap SaRuleResult.rereads) (by simp [ofNameMap]) fun _ _ _ _ => rfl

/-! ### The answer of the machine-learning engine -/

theorem FileVerdict.ofJson?_object (members : List (String × Json)) :
    ofJson? (.object members) =
      ((lookup? members "status").bind (nat? Digits.maxWord16)).bind fun status =>
        (nameMap? real? (.object (members.filter fun member => member.1 != "status"))).map
          fun probabilities => ⟨status, probabilities⟩ := by
  simp only [ofJson?, Option.map_eq_bind]
  rfl

/-- The status is found among the rule keys, none of which has its name. -/
theorem FileVerdict.ofJson?_toJson {verdict : FileVerdict}
    (hstatus : verdict.status ≤ Digits.maxWord16)
    (hkeys : ∀ entry ∈ verdict.probabilities.entries, entry.1 ≠ "status")
    (hfinite : ∀ entry ∈ verdict.probabilities.entries, entry.2.isFinite = true) :
    ofJson? verdict.toJson = some verdict := by
  let written := verdict.probabilities.entries.map fun entry => (entry.1, ofReal entry.2)
  have hnames : ∀ member ∈ written, member.1 ≠ "status" := List.forall_mem_map.mpr hkeys
  have hlookup : lookup? (("status", ofNat verdict.status) :: written) "status" =
      some (ofNat verdict.status) := by
    have hnone : lookup? written "status" = none :=
      List.lookup_eq_none_iff.mpr fun member hmember =>
        bne_iff_ne.mpr (hnames member (List.mem_reverse.mp hmember)).symm
    rw [← List.singleton_append, lookup?_append, hnone]
    rfl
  have hothers : (("status", ofNat verdict.status) :: written).filter
      (fun member => member.1 != "status") = written := by
    rw [List.filter_cons_of_neg (by simp)]
    exact List.filter_eq_self.mpr fun member hmember => by simpa using hnames member hmember
  have hprobabilities : nameMap? real? (.object written) = some verdict.probabilities :=
    nameMap?_ofNameMap fun entry member => real?_ofReal (hfinite entry member)
  change ofJson? (.object (("status", ofNat verdict.status) :: written)) = some verdict
  rw [ofJson?_object, hlookup, hothers, hprobabilities, Option.bind_some, nat?_ofNat hstatus]
  rfl

theorem FileVerdict.rereads : Rereads ofJson? toJson := by
  intro j verdict hj hread
  cases j with
  | object members =>
    rw [ofJson?_object] at hread
    obtain ⟨status, hstatus, hrest⟩ := Option.bind_eq_some_iff.mp hread
    obtain ⟨probabilities, hprobabilities, rfl⟩ := Option.map_eq_some_iff.mp hrest
    obtain ⟨number, -, hnumber⟩ := Option.bind_eq_some_iff.mp hstatus
    have hentries := mem_of_nameMap? hprobabilities
    refine FileVerdict.ofJson?_toJson (yields_nat _ number status hnumber) ?_ ?_
    · intro entry member
      obtain ⟨value, hvalue, -⟩ := hentries entry member
      simpa using (List.mem_filter.mp hvalue).2
    · intro entry member
      obtain ⟨value, hvalue, hreal⟩ := hentries entry member
      have hproper := hereditary_proper.members members hj _ (List.mem_filter.mp hvalue).1
      exact yieldsFrom_real value entry.2 hproper hreal
  | _ => cases hread

theorem MlReport.rereads : Rereads ofJson? toJson := rereads_nameMap FileVerdict.rereads

theorem MlFinished.rereads : Rereads ofJson? toJson :=
  rereads_answer MlReport.rereads (by simp [MlReport.toJson, ofNameMap]) fun _ _ _ _ => rfl

/-! ### Messages -/

namespace Completion

theorem decode_toJson {queue : Queue} {body : Json} {message : Completion} (hbody : body.Proper)
    (h : decode queue body = .ok message) :
    message.queue = queue ∧ decode queue message.toJson = .ok message := by
  cases queue with
  | compileFinish =>
    cases hread : CompileFinished.ofJson? body with
    | none => simp [decode, hread] at h
    | some finished =>
      obtain rfl : compile finished = message := by simpa [decode, hread] using h
      have hback := CompileFinished.rereads body finished hbody hread
      exact ⟨rfl, by simp [decode, toJson, hback]⟩
  | saFinish =>
    cases hread : SaFinished.ofJson? body with
    | none => simp [decode, hread] at h
    | some finished =>
      obtain rfl : sa finished = message := by simpa [decode, hread] using h
      have hback := SaFinished.rereads body finished hbody hread
      exact ⟨rfl, by simp [decode, toJson, hback]⟩
  | mlFinish =>
    cases hread : MlFinished.ofJson? body with
    | none => simp [decode, hread] at h
    | some finished =>
      obtain rfl : ml finished = message := by simpa [decode, hread] using h
      have hback := MlFinished.rereads body finished hbody hread
      exact ⟨rfl, by simp [decode, toJson, hback]⟩
  | _ => cases h

/-- A message that has been accepted from a queue is accepted from there again as it is
written. -/
theorem parse_toJson (queue : Queue) (body : Json) (message : Completion) (hbody : body.Proper)
    (h : parse queue body = .ok message) :
    message.queue = queue ∧ parse queue message.toJson = .ok message := by
  obtain ⟨hdecode, hvalid⟩ := parse_eq_ok h
  obtain ⟨hqueue, hback⟩ := decode_toJson hbody hdecode
  refine ⟨hqueue, ?_⟩
  unfold parse
  rw [hback]
  change (message.validate >>= fun _ => pure message) = .ok message
  rw [hvalid]
  rfl

/-- An answer of the compiler with a capital identifier without hyphens, a member that no answer
has, and the artifact as an array. -/
def unusualCompile : Json :=
  .object
    [("compileResult", .array [.string "shop.jar", .ofNat 1, .string " k ", .string ""]),
      ("host", .object [("cores", .ofNat 8)]), ("success", .bool true),
      ("workflowId", .string "0000000A00000000000000000000000B")]

def compileAnswer : Completion :=
  .compile
    { workflowId := ⟨0xa00000000000000000000000b⟩, success := true
      artifact := some { name := "shop.jar", size := 1, objectKey := " k ", md5 := "" } }

/-- An answer of the static analysis as an array. The rules come out of order, one with nothing
but what it must have; the steps of the other leave members out, have them null, or have one
more. -/
def unusualSa : Json :=
  .array
    [.string "\x7b0000000a-0000-0000-0000-00000000000B\x7d",
      .string "0000000C-0000-0000-0000-00000000000d", .bool true,
      .object
        [("xss", .object
            [("ruleLevel", .ofNat 1), ("ruleCwe", .string "CWE-79"), ("ruleName", .string "")]),
          ("path-traversal", .array
            [.string "Path Traversal", .string "22", .string "files", .ofNat 3,
              .array [.object
                [("sinkSig", .string "open"), ("sourceSig", .string ""),
                  ("path", .array
                    [.object
                      [("line", .ofNat 0), ("file", .string "a/B.java"), ("jspLine", .null),
                        ("column", .ofReal (.ofRatio false 1 2))],
                      .array
                        [.string "C.jsp", .string "f", .string "", .string "", .string "",
                          .ofNat 7, .ofNat 4294967295, .null, .string "C.jsp"]])]]])]]

def saAnswer : Completion :=
  .sa
    { workflowId := ⟨0xa00000000000000000000000b⟩, taskId := ⟨0xc00000000000000000000000d⟩
      success := true
      result := some (SortedMap.ofList
        [("path-traversal",
            { ruleName := "Path Traversal", ruleCwe := "22", ruleCategory := "files"
              ruleLevel := .high
              findings := [{
                sourceSig := "", sinkSig := "open"
                path := [{ file := "a/B.java", line := 0 },
                  { file := "C.jsp", function := "f", line := 7, jspLine := some 4294967295
                    jspFile := some "C.jsp" }] }] }),
          ("xss",
            { ruleName := "", ruleCwe := "CWE-79", ruleCategory := "", ruleLevel := .low
              findings := [] })]) }

/-- An answer of the machine-learning engine as an array, its identifiers as a name and in
braces, with a whole number for one of its scores. -/
def unusualMl : Json :=
  .array
    [.string "urn:uuid:0000000A-0000-0000-0000-00000000000B",
      .string "\x7b0000000c-0000-0000-0000-00000000000D\x7d", .bool true,
      .object
        [("/x/a/B.java", .object
          [("CWE-89", .ofNat 1), ("status", .ofNat 200), ("078", .ofReal (.ofRatio false 1 2))])]]

def mlAnswer : Completion :=
  .ml
    { workflowId := ⟨0xa00000000000000000000000b⟩, taskId := ⟨0xc00000000000000000000000d⟩
      success := true
      result := some (SortedMap.ofList
        [("/x/a/B.java",
          ⟨200, SortedMap.ofList [("078", .ofRatio false 1 2), ("CWE-89", .one)]⟩)]) }

theorem parse_of_toOption {queue : Queue} {body : Json} {message : Completion}
    (h : (parse queue body).toOption = some message) : parse queue body = .ok message := by
  cases hparse : parse queue body with
  | error e => simp [hparse, Except.toOption] at h
  | ok read => simpa [hparse, Except.toOption] using h

/-- Each of the three is accepted from its queue, and accepted again as it is written. -/
theorem parse_unusualBody :
    (parse .compileFinish unusualCompile = .ok compileAnswer ∧
        parse .compileFinish compileAnswer.toJson = .ok compileAnswer) ∧
      (parse .saFinish unusualSa = .ok saAnswer ∧
        parse .saFinish saAnswer.toJson = .ok saAnswer) ∧
      (parse .mlFinish unusualMl = .ok mlAnswer ∧
        parse .mlFinish mlAnswer.toJson = .ok mlAnswer) := by
  have hcompile : parse .compileFinish unusualCompile = .ok compileAnswer :=
    parse_of_toOption (by decide +kernel)
  have hsa : parse .saFinish unusualSa = .ok saAnswer :=
    parse_of_toOption (by decide +kernel)
  have hml : parse .mlFinish unusualMl = .ok mlAnswer :=
    parse_of_toOption (by decide +kernel)
  have hproper : unusualCompile.isProper = true ∧ unusualSa.isProper = true ∧
      unusualMl.isProper = true := by decide +kernel
  exact ⟨⟨hcompile, (parse_toJson _ _ _ hproper.1 hcompile).2⟩,
    ⟨hsa, (parse_toJson _ _ _ hproper.2.1 hsa).2⟩,
    ⟨hml, (parse_toJson _ _ _ hproper.2.2 hml).2⟩⟩

end Completion

end ScanFlow
