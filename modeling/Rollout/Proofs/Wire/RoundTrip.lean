import Rollout.Proofs.Json.RoundTrip
import Rollout.Wire.Deployment
import Rollout.Wire.Platform
/-!
# Values that survive being written

A value of a wire type is written so that the same value is read again. Only two of the types have
values for which this fails: those that hold a value of any kind, which may nest too deep, or be a
null where it is taken for nothing.
-/

namespace Rollout.Wire

open Json Decimal

section

variable {α : Type} [Wire α]

/-- Nothing in a value is lost in writing. -/
def Fits (a : α) : Prop := (Wire.shape α).Describes depthLimit (Wire.toDatum a)

/-- The doubles in a value. -/
def doubles (a : α) : List Double := (Wire.toDatum a).doubles

end

/-- A type whose shape fits its values. -/
class Lawful (α : Type) [Wire α] : Prop where
  legible : (Wire.shape α).legible = true := by decide
  distinct : (Wire.shape α).distinct = true := by decide
  levels : (Wire.shape α).levels < depthLimit := by decide
  ofDatum_toDatum (a : α) : Wire.ofDatum (Wire.toDatum a) = a
  fits_of_ofNode {n : Node} {d : Datum} (h : (Wire.shape α).ofNode depthLimit n = .ok d) :
    Fits (Wire.ofDatum d : α)

/-- A type of which every value fits, wherever it stands. -/
class Plain (α : Type) [Wire α] : Prop extends Lawful α where
  describes (a : α) (depth : Nat) : (Wire.shape α).Describes depth (Wire.toDatum a)
  fits_of_ofNode _ := describes _ depthLimit

theorem fits_of_plain {α : Type} [Wire α] [Plain α] (a : α) : Fits a :=
  Plain.describes a depthLimit

section

variable {depth : Nat} {row : Row} {fields : List Datum} {name : String}

theorem describes_w16 (n : UInt16) :
    (Shape.natural .w16).Describes depth (.natural n.toUInt64) :=
  .natural (by rw [UInt16.toNat_toUInt64]; exact n.toNat_lt)

theorem describes_w32 (n : UInt32) :
    (Shape.natural .w32).Describes depth (.natural n.toUInt64) :=
  .natural (by rw [UInt32.toNat_toUInt64]; exact n.toNat_lt)

theorem describes_maybeText {o : Option String} (later : row.Describes depth fields) :
    (Row.maybe name .text row).Describes depth (.ofOption .text o :: fields) :=
  .maybe (fun s _ => .text s) (fun _ _ => ⟨nofun, rfl⟩) later

theorem asText_ofOption (o : Option String) : (Datum.ofOption .text o).asOption Datum.asText = o :=
  asOption_ofOption (fun _ => rfl) nofun o

end

/-! ## Apps -/

instance : Plain Docker where
  ofDatum_toDatum _ := rfl
  describes d _ := .record (.required (.text d.image) (.default (.bool d.forcePullImage) .nil))

instance : Plain Container where
  ofDatum_toDatum c := by
    simp only [Wire.ofDatum, Wire.toDatum, Container.ofDatum, Container.toDatum, Datum.asText]
    rw [asOption_ofOption (fun _ => rfl) nofun]
  describes c _ := .record (.required (.text c.kind)
    (.maybe (fun d _ => Plain.describes d _) (fun _ _ => ⟨nofun, rfl⟩) .nil))

instance : Plain PortDefinition where
  ofDatum_toDatum p := by
    simp only [Wire.ofDatum, Wire.toDatum, PortDefinition.ofDatum, PortDefinition.toDatum,
      Datum.asText, Datum.asNatural, asText_ofOption, UInt16.toUInt16_toUInt64]
  describes p _ := .record (.required (describes_w16 p.port) (.default (.text p.protocol)
    (describes_maybeText .nil)))

instance : Plain HealthCheck where
  ofDatum_toDatum h := by
    simp only [Wire.ofDatum, Wire.toDatum, HealthCheck.ofDatum, HealthCheck.toDatum, Datum.asText,
      Datum.asNatural, asText_ofOption, UInt32.toUInt32_toUInt64]
  describes h _ := .record (.required (.text h.protocol) (describes_maybeText
    (.default (describes_w32 h.portIndex) (.required (describes_w32 h.gracePeriodSeconds)
    (.required (describes_w32 h.intervalSeconds) (.required (describes_w32 h.timeoutSeconds)
    (.required (describes_w32 h.maxConsecutiveFailures) .nil)))))))

instance : Plain ReadinessCheck where
  ofDatum_toDatum r := by
    simp only [Wire.ofDatum, Wire.toDatum, ReadinessCheck.ofDatum, ReadinessCheck.toDatum,
      Datum.asText, Datum.asNatural, Datum.asBool, UInt32.toUInt32_toUInt64]
    rw [asList_ofList UInt16.toUInt16_toUInt64]
  describes r _ := .record (.required (.text r.name) (.required (.text r.protocol)
    (.required (.text r.path) (.required (.text r.portName)
    (.required (describes_w32 r.intervalSeconds) (.required (describes_w32 r.timeoutSeconds)
    (.default (describes_ofList describes_w16) (.default (.bool r.preserveLastResponse) .nil))))))))

instance : Plain App where
  ofDatum_toDatum a := by
    simp only [Wire.ofDatum, Wire.toDatum, App.ofDatum, App.toDatum, Datum.asText, Datum.asNatural,
      Datum.asBool, Datum.asDouble, Datum.asLabels, asText_ofOption, UInt32.toUInt32_toUInt64]
    rw [asOption_ofOption (f := Container.toDatum) (g := Container.ofDatum)
        Lawful.ofDatum_toDatum nofun,
      asList_ofList (f := PortDefinition.toDatum) (g := PortDefinition.ofDatum)
        Lawful.ofDatum_toDatum,
      asList_ofList (f := HealthCheck.toDatum) (g := HealthCheck.ofDatum) Lawful.ofDatum_toDatum,
      asList_ofList (f := ReadinessCheck.toDatum) (g := ReadinessCheck.ofDatum)
        Lawful.ofDatum_toDatum]
  describes a _ := .record (.required (.text a.id) (describes_maybeText
    (.default (.double a.cpus) (.default (.double a.mem) (.default (.double a.disk)
    (.default (describes_w32 a.instances)
    (.maybe (fun c _ => Plain.describes c _) (fun _ _ => ⟨nofun, rfl⟩)
    (.sparseList (fun p => Plain.describes p _) (.default (.bool a.requirePorts)
    (.sparseLabels (.sparseList (fun h => Plain.describes h _)
    (.sparseList (fun r => Plain.describes r _) (describes_maybeText .nil)))))))))))))

instance : Plain DeploymentRef where
  ofDatum_toDatum _ := rfl
  describes d _ := .record (.required (.text d.id) .nil)

instance : Plain AppCreated where
  ofDatum_toDatum a := by
    simp only [Wire.ofDatum, Wire.toDatum, AppCreated.ofDatum, AppCreated.toDatum]
    rw [asList_ofList (f := DeploymentRef.toDatum) (g := DeploymentRef.ofDatum)
      Lawful.ofDatum_toDatum]
    exact congrArg (AppCreated.mk · a.deployments) (Lawful.ofDatum_toDatum a.app)
  describes a depth := .flattened (describes_record.mp (Plain.describes a.app depth))
    (.default (describes_ofList fun d => Plain.describes d _) .nil)

instance : Plain AppListing where
  ofDatum_toDatum l := by
    simp only [Wire.ofDatum, Wire.toDatum, AppListing.ofDatum, AppListing.toDatum]
    rw [asList_ofList (f := App.toDatum) (g := App.ofDatum) Lawful.ofDatum_toDatum]
  describes l _ := .record (.required (describes_ofList fun a => Plain.describes a _) .nil)

/-! ## Deployments -/

instance : Plain ReadinessResponse where
  ofDatum_toDatum r := by
    simp only [Wire.ofDatum, Wire.toDatum, ReadinessResponse.ofDatum, ReadinessResponse.toDatum,
      Datum.asText, Datum.asNatural, UInt16.toUInt16_toUInt64]
  describes r _ := .record (.required (describes_w16 r.status) (.default (.text r.contentType)
    (.default (.text r.body) .nil)))

instance : Plain ReadinessResult where
  ofDatum_toDatum r := by
    simp only [Wire.ofDatum, Wire.toDatum, ReadinessResult.ofDatum, ReadinessResult.toDatum,
      Datum.asText, Datum.asBool]
    rw [asOption_ofOption (f := ReadinessResponse.toDatum) (g := ReadinessResponse.ofDatum)
      Lawful.ofDatum_toDatum nofun]
  describes r _ := .record (.required (.text r.name) (.required (.text r.taskId)
    (.required (.bool r.ready)
    (.maybe (fun l _ => Plain.describes l _) (fun _ _ => ⟨nofun, rfl⟩) .nil))))

instance : Plain Action where
  ofDatum_toDatum a := by
    simp only [Wire.ofDatum, Wire.toDatum, Action.ofDatum, Action.toDatum, Datum.asText,
      asText_ofOption]
    rw [asList_ofList (f := ReadinessResult.toDatum) (g := ReadinessResult.ofDatum)
      Lawful.ofDatum_toDatum]
  describes a _ := .record (.required (.text a.action) (describes_maybeText (describes_maybeText
    (.sparseList (fun r => Plain.describes r _) .nil))))

instance : Plain DeploymentStep where
  ofDatum_toDatum s := by
    simp only [Wire.ofDatum, Wire.toDatum, DeploymentStep.ofDatum, DeploymentStep.toDatum]
    rw [asList_ofList (f := Action.toDatum) (g := Action.ofDatum) Lawful.ofDatum_toDatum]
  describes s _ := .record (.default (describes_ofList fun a => Plain.describes a _) .nil)

instance : Plain Deployment where
  ofDatum_toDatum d := by
    simp only [Wire.ofDatum, Wire.toDatum, Deployment.ofDatum, Deployment.toDatum, Datum.asText,
      Datum.asNatural, UInt32.toUInt32_toUInt64]
    rw [asList_ofList (f := .text) (g := Datum.asText) fun _ => rfl,
      asList_ofList (f := .text) (g := Datum.asText) fun _ => rfl,
      asList_ofList (f := DeploymentStep.toDatum) (g := DeploymentStep.ofDatum)
        Lawful.ofDatum_toDatum,
      asList_ofList (f := Action.toDatum) (g := Action.ofDatum) Lawful.ofDatum_toDatum]
  describes d _ := .record (.required (.text d.id) (.required (.text d.version)
    (.default (describes_ofList .text) (.default (describes_ofList .text)
    (.default (describes_ofList fun s => Plain.describes s _)
    (.default (describes_ofList fun a => Plain.describes a _)
    (.default (describes_w32 d.currentStep) (.default (describes_w32 d.totalSteps) .nil))))))))

instance : Plain (List Deployment) where
  ofDatum_toDatum := asList_ofList Lawful.ofDatum_toDatum
  describes _ _ := describes_ofList fun d => Plain.describes d _

instance : Plain Removal where
  ofDatum_toDatum _ := rfl
  describes r _ := .record (.required (.text r.deploymentId) (.required (.text r.version) .nil))

/-! ## The platform -/

instance : Plain Framework where
  ofDatum_toDatum f := by
    simp only [Wire.ofDatum, Wire.toDatum, Framework.ofDatum, Framework.toDatum, Datum.asText,
      Datum.asBool, asText_ofOption]
  describes f _ := .record (.required (.text f.id) (.required (.text f.name)
    (.required (.bool f.active) (describes_maybeText .nil))))

instance : Plain FrameworkListing where
  ofDatum_toDatum l := by
    simp only [Wire.ofDatum, Wire.toDatum, FrameworkListing.ofDatum, FrameworkListing.toDatum]
    rw [asList_ofList (f := Framework.toDatum) (g := Framework.ofDatum) Lawful.ofDatum_toDatum]
  describes l _ := .record (.default (describes_ofList fun f => Plain.describes f _) .nil)

instance : Plain PackageInstalled where
  ofDatum_toDatum p := by
    simp only [Wire.ofDatum, Wire.toDatum, PackageInstalled.ofDatum, PackageInstalled.toDatum,
      Datum.asText, asText_ofOption]
  describes p _ := .record (.required (.text p.packageName) (.required (.text p.packageVersion)
    (describes_maybeText .nil)))

theorem describes_optionalText {depth : Nat} {o : Option String} :
    (Shape.optional .text).Describes depth (.ofOption .text o) :=
  describes_ofOption (fun s _ => .text s) fun _ _ => nofun

instance : Plain PlatformVersion where
  ofDatum_toDatum v := by
    simp only [Wire.ofDatum, Wire.toDatum, PlatformVersion.ofDatum, PlatformVersion.toDatum,
      Datum.asText, asText_ofOption]
  describes v _ := .record (.required (.text v.version) (.default describes_optionalText
    (.default describes_optionalText .nil)))

instance : Plain OrchestratorInfo where
  ofDatum_toDatum i := by
    simp only [Wire.ofDatum, Wire.toDatum, OrchestratorInfo.ofDatum, OrchestratorInfo.toDatum,
      Datum.asText, asText_ofOption]
  describes i _ := .record (.required (.text i.name) (.required (.text i.version)
    (describes_maybeText (describes_maybeText .nil))))

theorem PackageRequest.fits_iff (r : PackageRequest) : Fits r ↔ r.options.Within 126 := by
  constructor
  · intro h
    obtain ⟨-, -, h⟩ := Row.describes_cons.mp (describes_record.mp h)
    obtain ⟨-, -, h⟩ := Row.describes_cons.mp h
    obtain ⟨h, -⟩ := Row.describes_cons.mp h
    exact describes_any.mp h
  · intro h
    exact .record (.required (.text r.packageName)
      (describes_maybeText (.default (.any h) .nil)))

instance : Lawful PackageRequest where
  ofDatum_toDatum r := by
    simp only [Wire.ofDatum, Wire.toDatum, PackageRequest.ofDatum, PackageRequest.toDatum,
      Datum.asText, Datum.asValue, asText_ofOption]
  fits_of_ofNode h := by
    obtain ⟨inner, fields, hinner, rfl, hfields⟩ := stems_of_ofNode (by decide) h
    cases hinner
    rcases hfields with _ | ⟨-, hlater⟩
    rcases hlater with _ | ⟨-, hlater⟩
    rcases hlater with _ | ⟨hoptions, hend⟩
    cases hend
    refine (PackageRequest.fits_iff _).mpr ?_
    rcases hoptions with ⟨n, hn⟩ | hdefault
    · obtain ⟨v, rfl, hwithin⟩ := within_of_any hn
      exact hwithin
    · cases hdefault
      exact .null

theorem ErrorBody.fits_iff (e : ErrorBody) :
    Fits e ↔ ∀ v, e.details = some v → v ≠ .null ∧ v.Within 126 := by
  constructor
  · intro h v hv
    obtain ⟨-, -, h⟩ := Row.describes_cons.mp (describes_record.mp h)
    obtain ⟨h, -⟩ := Row.describes_cons.mp h
    rw [hv] at h
    cases h with
    | present hany null =>
        exact ⟨fun heq => null (congrArg Datum.any heq), describes_any.mp hany⟩
  · intro h
    refine .record (.required (.text e.message) (.maybe (fun v hv => .any (h v hv).2) ?_ .nil))
    exact fun v hv => ⟨fun heq => (h v hv).1 (Datum.any.inj heq), rfl⟩

instance : Lawful ErrorBody where
  ofDatum_toDatum e := by
    simp only [Wire.ofDatum, Wire.toDatum, ErrorBody.ofDatum, ErrorBody.toDatum, Datum.asText]
    rw [asOption_ofOption (fun _ => rfl) nofun]
  fits_of_ofNode h := by
    obtain ⟨inner, fields, hinner, rfl, hfields⟩ := stems_of_ofNode (by decide) h
    cases hinner
    rcases hfields with _ | ⟨-, hlater⟩
    rcases hlater with _ | ⟨hdetails, hend⟩
    cases hend
    refine (ErrorBody.fits_iff _).mpr ?_
    rcases hdetails with ⟨n, hn⟩ | hdefault
    · rcases within_of_optionalAny hn with rfl | ⟨v, rfl, hnull, hwithin⟩
      · exact nofun
      · intro w hw
        obtain rfl : v = w := Option.some.inj hw
        exact ⟨hnull, hwithin⟩
    · cases hdefault
      exact nofun

/-! ## Round trips -/

section

variable {α : Type} [Wire α] [Lawful α]

theorem decode_encode {a : α} (hfits : Fits a) (hdoubles : ∀ x ∈ doubles a, ReadsBack x) :
    decode (encode a) = .ok a := by
  obtain ⟨n, hn⟩ := hfits.written Lawful.legible Lawful.distinct Lawful.levels hdoubles
  have hdocument : Document.ofString (encode a) = ⟨n, false⟩ :=
    Document.ofSymbols_of_text hn.text.documentText
  rw [decode, hdocument]
  exact read_eq_ok.mpr ⟨Wire.toDatum a, hn.read, rfl, Lawful.ofDatum_toDatum a⟩

theorem fits_of_read {doc : Document} {a : α} (h : doc.read = .ok a) : Fits a := by
  obtain ⟨d, hd, -, rfl⟩ := read_eq_ok.mp h
  exact Lawful.fits_of_ofNode hd

end

/-- Values with a property are read from their own texts, and so is whatever was read, which is
written alike again. -/
structure RoundTrips (α : Type) [Wire α] (P : α → Prop) : Prop where
  of_value (a : α) (h : P a) (back : ∀ x ∈ doubles a, ReadsBack x) : decode (encode a) = .ok a
  of_read (doc : Document) (a : α) (h : doc.read = .ok a)
    (back : ∀ x ∈ doubles a, ReadsBack x) :
    decode (encode a) = .ok a ∧ ∀ b : α, decode (encode a) = .ok b → encode b = encode a

theorem roundTrips_of_fits {α : Type} [Wire α] [Lawful α] {P : α → Prop}
    (h : ∀ a, P a → Fits a) :
    RoundTrips α P where
  of_value a ha back := decode_encode (h a ha) back
  of_read doc a hread back := by
    have hagain := decode_encode (fits_of_read hread) back
    refine ⟨hagain, fun b hb => ?_⟩
    rw [ok_unique hb hagain]

theorem roundTrips_of_plain {α : Type} [Wire α] [Plain α] : RoundTrips α fun _ => True :=
  roundTrips_of_fits fun a _ => fits_of_plain a

/-- Every value of every type is read from its own text, but for values of any kind that nest too
deep, and details that are null. -/
theorem roundTrips_all :
    (RoundTrips App (fun _ => True) ∧ RoundTrips Container (fun _ => True) ∧
      RoundTrips Docker (fun _ => True) ∧ RoundTrips PortDefinition (fun _ => True) ∧
      RoundTrips HealthCheck (fun _ => True) ∧ RoundTrips ReadinessCheck (fun _ => True) ∧
      RoundTrips DeploymentRef (fun _ => True) ∧ RoundTrips AppCreated (fun _ => True) ∧
      RoundTrips AppListing (fun _ => True)) ∧
    (RoundTrips Deployment (fun _ => True) ∧ RoundTrips DeploymentStep (fun _ => True) ∧
      RoundTrips Action (fun _ => True) ∧ RoundTrips ReadinessResult (fun _ => True) ∧
      RoundTrips ReadinessResponse (fun _ => True) ∧
      RoundTrips (List Deployment) (fun _ => True) ∧ RoundTrips Removal (fun _ => True)) ∧
    (RoundTrips Framework (fun _ => True) ∧ RoundTrips FrameworkListing (fun _ => True) ∧
      RoundTrips PackageRequest (fun r => r.options.Within 126) ∧
      RoundTrips PackageInstalled (fun _ => True) ∧ RoundTrips PlatformVersion (fun _ => True) ∧
      RoundTrips OrchestratorInfo (fun _ => True) ∧
      RoundTrips ErrorBody fun e => ∀ v, e.details = some v → v ≠ .null ∧
        v.Within 126) := by
  refine ⟨⟨?_, ?_, ?_, ?_, ?_, ?_, ?_, ?_, ?_⟩, ⟨?_, ?_, ?_, ?_, ?_, ?_, ?_⟩,
    ?_, ?_, ?request, ?_, ?_, ?_, ?error⟩
  case request => exact roundTrips_of_fits fun r => r.fits_iff.mpr
  case error => exact roundTrips_of_fits fun e => e.fits_iff.mpr
  all_goals exact roundTrips_of_plain

/-- A request whose options hold one half. -/
theorem roundTrips_all_half :
    let half : Double := ⟨0x3FE0000000000000⟩
    let request : PackageRequest := ⟨"kafka", none, .object [("cpus", .number (.real half))]⟩
    encode request = "\x7b\"packageName\":\"kafka\",\"options\":\x7b\"cpus\":0.5\x7d\x7d" ∧
      decode (encode request) = .ok request := by
  intro half request
  have hchars : doubleChars half = ['0', '.', '5'] := by decide +kernel
  have hback : ReadsBack half := by
    refine .of_text (n := ⟨false, ['0'], some ['5'], none⟩) ?_ (by decide +kernel)
    rw [hchars]
    have hwhole : AreWhole ['0'] :=
      ⟨⟨nofun, List.forall_mem_singleton.mpr rfl⟩, fun _ h => (List.cons.inj h).2.symm⟩
    exact ⟨.absent, hwhole, .present ⟨nofun, List.forall_mem_singleton.mpr rfl⟩, .absent⟩
  have hwithin : request.options.Within 126 :=
    .object (List.pairwise_singleton _ _) (List.forall_mem_singleton.mpr (.real half))
  obtain ⟨-, -, -, -, hrequest, -⟩ := roundTrips_all
  exact ⟨by decide +kernel,
    hrequest.of_value request hwithin (List.forall_mem_singleton.mpr hback)⟩

end Rollout.Wire
