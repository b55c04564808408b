import Rollout.Proofs.Json.Rearranged
import Rollout.Proofs.Json.Writing
import Rollout.Proofs.Wire.Fields
import Rollout.Wire.Platform
/-!
# Objects that stand for records

Which objects are decoded as a record of a type, and that the answers of a server may come with
their members in any order and with members nobody asked for.
-/

namespace Rollout.Wire

open Json Text

instance : Record Docker where
  name := "DockerContainer"
  fields :=
    [.required "image" Docker.image, .default "forcePullImage" Docker.forcePullImage false rfl]
  get_ofDatum
    | [_, _], _ => by repeat' constructor

instance : Record Container where
  name := "Container"
  fields := [.required "type" Container.kind, .maybe "docker" Container.docker]
  get_ofDatum
    | [_, _], _ => by repeat' constructor

instance : Record PortDefinition where
  name := "PortDefinition"
  fields :=
    [.required "port" PortDefinition.port, .default "protocol" PortDefinition.protocol "tcp" rfl,
     .maybe "name" PortDefinition.name]
  get_ofDatum
    | [_, _, _], _ => by repeat' constructor

instance : Record HealthCheck where
  name := "HealthCheck"
  fields :=
    [.required "protocol" HealthCheck.protocol, .maybe "path" HealthCheck.path,
     .default "portIndex" HealthCheck.portIndex 0 rfl,
     .required "gracePeriodSeconds" HealthCheck.gracePeriodSeconds,
     .required "intervalSeconds" HealthCheck.intervalSeconds,
     .required "timeoutSeconds" HealthCheck.timeoutSeconds,
     .required "maxConsecutiveFailures" HealthCheck.maxConsecutiveFailures]
  get_ofDatum
    | [_, _, _, _, _, _, _], _ => by repeat' constructor

instance : Record ReadinessCheck where
  name := "ReadinessCheck"
  fields :=
    [.required "name" ReadinessCheck.name, .required "protocol" ReadinessCheck.protocol,
     .required "path" ReadinessCheck.path, .required "portName" ReadinessCheck.portName,
     .required "intervalSeconds" ReadinessCheck.intervalSeconds,
     .required "timeoutSeconds" ReadinessCheck.timeoutSeconds,
     .default "httpStatusCodesForReady" ReadinessCheck.httpStatusCodesForReady [] stands_nil,
     .default "preserveLastResponse" ReadinessCheck.preserveLastResponse false rfl]
  get_ofDatum
    | [_, _, _, _, _, _, _, _], _ => by repeat' constructor

instance : Record App where
  name := "AppDefinition"
  fields :=
    [.required "id" App.id, .maybe "cmd" App.cmd, .default "cpus" App.cpus .zero rfl,
     .default "mem" App.mem .zero rfl, .default "disk" App.disk .zero rfl,
     .default "instances" App.instances 0 rfl, .maybe "container" App.container,
     .sparsely "portDefinitions" App.portDefinitions [] stands_nil,
     .default "requirePorts" App.requirePorts false rfl, .sparsely "labels" App.labels .empty rfl,
     .sparsely "healthChecks" App.healthChecks [] stands_nil,
     .sparsely "readinessChecks" App.readinessChecks [] stands_nil, .maybe "version" App.version]
  get_ofDatum
    | [_, _, _, _, _, _, _, _, _, _, _, _, _], _ => by repeat' constructor

instance : Record DeploymentRef where
  name := "DeploymentRef"
  fields := [.required "id" DeploymentRef.id]
  get_ofDatum
    | [_], _ => by repeat' constructor

instance : Record AppListing where
  name := "AppListResponse"
  fields := [.required "apps" AppListing.apps]
  get_ofDatum
    | [_], _ => by repeat' constructor

instance : Record ReadinessResponse where
  name := "ReadinessResponse"
  fields :=
    [.required "status" ReadinessResponse.status,
     .default "contentType" ReadinessResponse.contentType "" rfl,
     .default "body" ReadinessResponse.body "" rfl]
  get_ofDatum
    | [_, _, _], _ => by repeat' constructor

instance : Record ReadinessResult where
  name := "ReadinessCheckResult"
  fields :=
    [.required "name" ReadinessResult.name, .required "taskId" ReadinessResult.taskId,
     .required "ready" ReadinessResult.ready, .maybe "lastResponse" ReadinessResult.lastResponse]
  get_ofDatum
    | [_, _, _, _], _ => by repeat' constructor

instance : Record Action where
  name := "DeploymentAction"
  fields :=
    [.required "action" Action.action, .maybe "app" Action.app, .maybe "pod" Action.pod,
     .sparsely "readinessCheckResults" Action.readinessCheckResults [] stands_nil]
  get_ofDatum
    | [_, _, _, _], _ => by repeat' constructor

instance : Record DeploymentStep where
  name := "DeploymentStep"
  fields := [.default "actions" DeploymentStep.actions [] stands_nil]
  get_ofDatum
    | [_], _ => by repeat' constructor

instance : Record Deployment where
  name := "Deployment"
  fields :=
    [.required "id" Deployment.id, .required "version" Deployment.version,
     .default "affectedApps" Deployment.affectedApps [] stands_nil,
     .default "affectedPods" Deployment.affectedPods [] stands_nil,
     .default "steps" Deployment.steps [] stands_nil,
     .default "currentActions" Deployment.currentActions [] stands_nil,
     .default "currentStep" Deployment.currentStep 0 rfl,
     .default "totalSteps" Deployment.totalSteps 0 rfl]
  get_ofDatum
    | [_, _, _, _, _, _, _, _], _ => by repeat' constructor

instance : Record Removal where
  name := "DeploymentResult"
  fields := [.required "deploymentId" Removal.deploymentId, .required "version" Removal.version]
  get_ofDatum
    | [_, _], _ => by repeat' constructor

instance : Record Framework where
  name := "Framework"
  fields :=
    [.required "id" Framework.id, .required "name" Framework.name,
     .required "active" Framework.active, .maybe "webui_url" Framework.webuiUrl]
  get_ofDatum
    | [_, _, _, _], _ => by repeat' constructor

instance : Record FrameworkListing where
  name := "FrameworksResponse"
  fields := [.default "frameworks" FrameworkListing.frameworks [] stands_nil]
  get_ofDatum
    | [_], _ => by repeat' constructor

instance : Record PackageRequest where
  name := "PackageInstallRequest"
  fields :=
    [.required "packageName" PackageRequest.packageName,
     .maybe "packageVersion" PackageRequest.packageVersion,
     .default "options" PackageRequest.options .null rfl]
  get_ofDatum
    | [_, _, _], _ => by repeat' constructor

instance : Record PackageInstalled where
  name := "PackageInstallResponse"
  fields :=
    [.required "packageName" PackageInstalled.packageName,
     .required "packageVersion" PackageInstalled.packageVersion,
     .maybe "appId" PackageInstalled.appId]
  get_ofDatum
    | [_, _, _], _ => by repeat' constructor

instance : Record PlatformVersion where
  name := "DcosVersion"
  fields :=
    [.required "version" PlatformVersion.version,
     .default "dcos-image-commit" PlatformVersion.imageCommit none rfl,
     .default "bootstrap-id" PlatformVersion.bootstrapId none rfl]
  get_ofDatum
    | [_, _, _], _ => by repeat' constructor

instance : Record OrchestratorInfo where
  name := "MarathonInfo"
  fields :=
    [.required "name" OrchestratorInfo.name, .required "version" OrchestratorInfo.version,
     .maybe "frameworkId" OrchestratorInfo.frameworkId, .maybe "leader" OrchestratorInfo.leader]
  get_ofDatum
    | [_, _, _, _], _ => by repeat' constructor

instance : Record ErrorBody where
  name := "ErrorResponse"
  fields := [.required "message" ErrorBody.message, .maybe "details" ErrorBody.details]
  get_ofDatum
    | [_, _], _ => by repeat' constructor

instance : Record Settings where
  name := "Settings"
  fields :=
    [.default "cluster_url" Settings.clusterUrl "http://localhost" rfl,
     .default "auth_token" (fun s => Token.mk s.authToken) ⟨none⟩ (Or.inl ⟨rfl, rfl⟩),
     .default "log_level" Settings.logLevel .info rfl,
     .default "json_logs" Settings.jsonLogs false rfl,
     .default "mom_service_name" Settings.nestedServiceName "marathon-user" rfl,
     .default "request_timeout_secs" Settings.requestTimeoutSecs 30 rfl,
     .default "deployment_wait_timeout_secs" Settings.deploymentWaitTimeoutSecs 120 rfl,
     .default "service_endpoint_timeout_secs" Settings.serviceEndpointTimeoutSecs 120 rfl,
     .default "poll_interval_ms" Settings.pollIntervalMs 1000 rfl,
     .default "time_unit_ms" Settings.timeUnitMs 1000 rfl]
  get_ofDatum
    | [_, _, _, _, _, _, _, _, _, _], _ => by repeat' constructor

theorem root_of_brace {s t : List Symbol} (h : skipSpace s = .char '\x7b' :: t) :
    ∃ members ending, (Document.ofSymbols s).root = .object members ending := by
  unfold Document.ofSymbols
  rw [readValue, h]
  have hdigit : '\x7b'.isDigit = false := rfl
  simp only [Char.reduceEq, if_false, if_true, hdigit, Bool.false_eq_true]
  split <;> exact ⟨_, _, rfl⟩

variable {α : Type} [Wire α] [Record α]

/-- An object is decoded as a record if and only if its text spells a tree, its keys are texts, no
field has two members, every member of a field decodes, and no required field lacks a member. -/
theorem read_object_iff {s t : List Symbol} (hs : skipSpace s = .char '\x7b' :: t) {a : α} :
    (Document.ofSymbols s).read = .ok a ↔ ∃ members ds,
      DocumentText (.object members .closed) s ∧
        (∀ m ∈ members, ∃ key, m.1.text = .ok key) ∧
      (rowOf (Record.fields (α := α))).FieldsOf 127 members ds ∧
        a = Wire.ofDatum (.record ds) := by
  have hshape := Record.shape_eq (α := α)
  have hrow := Record.distinct (α := α)
  rw [read_eq_ok, hshape]
  constructor
  · rintro ⟨d, hd, htrailing, rfl⟩
    obtain ⟨members, ending, hroot⟩ := root_of_brace hs
    rw [hroot] at hd
    have hskipped := Shape.skipped_of_ofNode _ hd
    obtain ⟨inner, fields, -, -, ⟨_, _, hn, -⟩ | ⟨_, hn, -⟩⟩ := ofNode_record.mp hd
    · cases hn
      obtain ⟨inner, fields, hinner, rfl, hmembers, hfields⟩ :=
        (ofNode_record_object hrow).mp hd
      cases hinner
      refine ⟨members, fields, documentText_iff.mpr ⟨?_, hskipped⟩,
        fun m hm => (hmembers m hm).1, hfields, rfl⟩
      cases hdoc : Document.ofSymbols s with
      | mk root trailing =>
          rw [hdoc] at hroot htrailing
          cases hroot
          cases htrailing
          rfl
    · cases hn
  · rintro ⟨members, fields, htext, hkeys, hfields, rfl⟩
    obtain ⟨hread, hskipped⟩ := documentText_iff.mp htext
    rw [hread]
    have hvalues := skipped_object.mp hskipped
    exact ⟨.record fields, (ofNode_record_object hrow).mpr ⟨127, fields, rfl, rfl,
      fun m hm => ⟨hkeys m hm, (hvalues m hm).2⟩, hfields⟩, rfl, rfl⟩

/-- Objects are read as records by their members' names alone, field by field, and all
rearrangements of an object alike. -/
theorem read_object_by_names {s t : List Symbol} (hs : skipSpace s = .char '\x7b' :: t) :
    (∀ a : α, (Document.ofSymbols s).read = .ok a ↔ ∃ members,
      DocumentText (.object members .closed) s ∧
        (∀ m ∈ members, ∃ key, m.1.text = .ok key) ∧
      ∀ f ∈ Record.fields, Field.ReadFrom f 127 members a) ∧
    ∀ n other s', DocumentText n s → DocumentText other s' →
      Rearranged (Wire.shape α) n other →
      ∀ a : α, (Document.ofSymbols s).read = .ok a → (Document.ofSymbols s').read = .ok a := by
  refine ⟨fun a => (read_object_iff hs).trans ⟨?_, ?_⟩, ?_⟩
  · rintro ⟨members, ds, htext, hkeys, hds, rfl⟩
    have hget := Record.get_ofDatum (α := α) ds (length_of_stems hds.stems)
    exact ⟨members, htext, hkeys, readFrom_of_fieldsOf hds hget⟩
  · rintro ⟨members, htext, hkeys, hfields⟩
    obtain ⟨ds, hds, hget⟩ := exists_fieldsOf hfields
    exact ⟨members, ds, htext, hkeys, hds, (Record.ofDatum_eq hget).symm⟩
  · intro n other s' htext htext' hother a hread
    rw [Document.ofSymbols_of_text htext, read_eq_ok] at hread
    rw [Document.ofSymbols_of_text htext', read_eq_ok]
    obtain ⟨d, hd, htrailing, ha⟩ := hread
    have hdistinct : (Wire.shape α).distinct = true := by
      rw [Record.shape_eq]
      exact Record.distinct
    exact ⟨d, hother.ofNode_eq_ok hdistinct hd, htrailing, ha⟩

/-- A removal in two orders, once with a member that it does not have. -/
theorem read_removal_by_names :
    (Document.ofSymbols (Symbol.ofString
        "\x7b\"deploymentId\":\"d\",\"version\":\"1\"\x7d")).read =
          .ok (⟨"d", "1"⟩ : Removal) ∧
      (Document.ofSymbols (Symbol.ofString
        "\x7b\"by\":[null],\"version\":\"1\",\"deploymentId\":\"d\"\x7d")).read =
          .ok (⟨"d", "1"⟩ : Removal) := by
  let id : Literal × Node := (literal "deploymentId", .string (literal "d"))
  let version : Literal × Node := (literal "version", .string (literal "1"))
  let unknown : Literal × Node := (literal "by", .array [.null] .closed)
  have hspellsId : SpellsMember (memberChars "deploymentId" (stringChars "d")) id :=
    .intro _ (spells_string "d")
  have hspellsVersion : SpellsMember (memberChars "version" (stringChars "1")) version :=
    .intro _ (spells_string "1")
  have hunknown : SpellsMember (memberChars "by" (bracketed '[' ']' [Value.null.chars])) unknown :=
    .intro _ (.array (.cons spells_null .nil))
  have htext := (Spells.object (.cons hspellsId (.cons hspellsVersion .nil))).documentText
  have hother := (Spells.object
    (.cons hunknown (.cons hspellsVersion (.cons hspellsId .nil)))).documentText
  obtain ⟨hiff, hsame⟩ := read_object_by_names (α := Removal) (s := Symbol.ofString
    "\x7b\"deploymentId\":\"d\",\"version\":\"1\"\x7d") rfl
  have hid : Field.ReadFrom (.required "deploymentId" Removal.deploymentId) 127 [id, version]
      ⟨"d", "1"⟩ := by
    refine .found ?_ (ofNode_text.mpr ⟨_, _, rfl, text_literal "d", rfl⟩) rfl
    exact (valuesNamed_cons_self (text_literal _) _ _).trans
      (congrArg _ (valuesNamed_cons_of_ne (text_literal _) (by decide) _ _))
  have hversion : Field.ReadFrom (.required "version" Removal.version) 127 [id, version]
      ⟨"d", "1"⟩ := by
    refine .found ?_ (ofNode_text.mpr ⟨_, _, rfl, text_literal "1", rfl⟩) rfl
    exact (valuesNamed_cons_of_ne (text_literal _) (by decide) _ _).trans
      (valuesNamed_cons_self (text_literal _) _ _)
  have hread := (hiff ⟨"d", "1"⟩).mpr ⟨_, htext, by
    simp only [List.forall_mem_cons]
    exact ⟨⟨_, text_literal _⟩, ⟨_, text_literal _⟩,
      fun m hm => absurd hm List.not_mem_nil⟩,
      List.forall_mem_cons.mpr ⟨hid, List.forall_mem_cons.mpr ⟨hversion, nofun⟩⟩⟩
  have hrearranged : Rearranged Removal.shape (.object [id, version] .closed)
      (.object [unknown, version, id] .closed) :=
    .trans (.reordered (.swap version id [])) (.added (text_literal "by") (by decide) rfl)
  exact ⟨hread, hsame _ _ _ htext hother hrearranged _ hread⟩

end Rollout.Wire
