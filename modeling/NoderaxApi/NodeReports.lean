/-
# What an agent reports about its node

`markOnline` writes the versions and the location that an agent reports by an UPDATE if the node was
offline, and by a save of the loaded row if it was online.  A location also arrives with an
enrollment or a node install, where `readLocation` reads it first.
-/
import NoderaxApi.Enrollments
import NoderaxApi.NodeLocations
import NoderaxApi.NodeSettings
import NoderaxApi.Words

namespace NodeReports

open NodeLocation NodesService EnrollmentsService

/-! ## Rows with a location -/

/-- The columns of the location. -/
structure LocationColumns where
  locationProvider : Option NodeLocationProvider := none
  locationSource : Option NodeLocationSource := none
  locationRegion : Option String := none
  locationZone : Option String := none
  locationLatitude : Option ℚ := none
  locationLongitude : Option ℚ := none
  locationUpdatedAt : Option ℤ := none
  deriving DecidableEq, Repr

/-- A row of `nodes` with its location. -/
structure LocatedNode extends NodeRow where
  location : LocationColumns := {}
  deriving DecidableEq, Repr

/-- The columns after a patch with all of `NodeLocationFields`. -/
def locationColumns (fields : NodeLocationFields) : LocationColumns where
  locationProvider := some fields.locationProvider
  locationSource := some fields.locationSource
  locationRegion := some fields.locationRegion
  locationZone := fields.locationZone
  locationLatitude := fields.locationLatitude
  locationLongitude := fields.locationLongitude
  locationUpdatedAt := some fields.locationUpdatedAt

section Operations

variable (platform : TextPlatform)

/-- `resolveLocationPatch` on the columns, and `applyLocationPatch`: a report that is not accepted
leaves them alone. -/
def patchLocation (location : Option NodeLocationInput) (now : ℤ) (columns : LocationColumns) :
    LocationColumns :=
  match resolveNodeLocationFields platform location now with
  | none => columns
  | some fields => locationColumns fields

/-! ## `markOnline` -/

/-- What `markOnline` receives. -/
structure NodeUpdates extends NodeVersions where
  location : Option NodeLocationInput := none
  deriving DecidableEq, Repr

/-- `markOnline` on the row of the node, and whether the node came online. -/
def markOnline (now : ℤ) (updates : NodeUpdates) (node : LocatedNode) : LocatedNode × Bool :=
  if node.status = .offline then
    -- the UPDATE
    ({ markedOnline now updates.toNodeVersions node.toNodeRow with
        location := patchLocation platform updates.location now node.location }, true)
  else
    -- the save of the loaded entity
    ({ seenOnline now updates.toNodeVersions node.toNodeRow with
        location := patchLocation platform updates.location now node.location }, false)

/-! ## Enrollments and node installs -/

/-- A coordinate in a JSON record. -/
def coordinateJson : Option Coordinate → Json
  | some (.number value) => .num value
  | some (.text value) => .str value
  | none => .null

/-- The location object as a JSON record. -/
def locationJson (location : NodeLocationInput) : JsonObject :=
  [("provider", Json.ofString? location.provider), ("source", Json.ofString? location.source),
    ("region", Json.ofString? location.region), ("zone", Json.ofString? location.zone),
    ("latitude", coordinateJson location.latitude),
    ("longitude", coordinateJson location.longitude)]

/-- `readLocation`. -/
def readLocation (record : Option JsonObject) : Option NodeLocationInput :=
  match record.bind (·.get "location") with
  | some (.obj location) =>
      some {
        provider := readString (some location) ["provider"]
        source := readString (some location) ["source"]
        region := readString (some location) ["region"]
        zone := readString (some location) ["zone"] }
  | _ => none

/-- A node that `createFromEnrollment` inserts, with its location. -/
structure PlacedNode extends EnrolledNode where
  location : LocationColumns
  deriving DecidableEq, Repr

/-- The node that `createFromEnrollment` inserts. -/
def createFromEnrollment (now : ℤ) (id : Uuid) (input : NodeInput)
    (location : Option NodeLocationInput) : PlacedNode :=
  { input.row id now with location := patchLocation platform location now {} }

end Operations

variable {platform : TextPlatform}

/-! ## The two paths of `markOnline` -/

/-- The columns that the reports of an agent fill. -/
structure ReportedColumns where
  agentVersion : Option String
  platformVersion : Option String
  kernelVersion : Option String
  lastVersionReportedAt : Option ℤ
  location : LocationColumns
  deriving DecidableEq, Repr

def LocatedNode.reported (node : LocatedNode) : ReportedColumns where
  agentVersion := node.agentVersion
  platformVersion := node.platformVersion
  kernelVersion := node.kernelVersion
  lastVersionReportedAt := node.lastVersionReportedAt
  location := node.location

/-- A field that is absent from the updates keeps its stored value. -/
structure AbsentKept (updates : NodeUpdates) (before after : ReportedColumns) : Prop where
  agentVersion : updates.agentVersion = none → after.agentVersion = before.agentVersion
  platformVersion : updates.platformVersion = none →
    after.platformVersion = before.platformVersion
  kernelVersion : updates.kernelVersion = none → after.kernelVersion = before.kernelVersion
  location : updates.location = none → after.location = before.location

/-- The row of a node by the time of a report. -/
def LocatedNode.withStatus (node : LocatedNode) (status : NodeStatus) : LocatedNode :=
  { node with status := status }

/-- **What the two paths should do**: the same, and leave alone what is absent. -/
structure PathsAgree (platform : TextPlatform) (now : ℤ) (updates : NodeUpdates)
    (node : LocatedNode) : Prop where
  same : (markOnline platform now updates (node.withStatus .offline)).1.reported =
    (markOnline platform now updates (node.withStatus .online)).1.reported
  kept : ∀ status, AbsentKept updates node.reported
    (markOnline platform now updates (node.withStatus status)).1.reported

/-- Each version is given or is the one that is stored. -/
def KeepsVersions (updates : NodeVersions) (node : NodeRow) : Prop :=
  (isVersionSet updates.agentVersion = true ∨ updates.agentVersion = node.agentVersion) ∧
  (isVersionSet updates.platformVersion = true ∨
    updates.platformVersion = node.platformVersion) ∧
  (isVersionSet updates.kernelVersion = true ∨ updates.kernelVersion = node.kernelVersion)

/-- The merge of a version that only replaces by a given one. -/
def mergeVersion (update stored : Option String) : Option String :=
  if isVersionSet update then update else stored

theorem eq_mergeVersion_iff {update stored : Option String} :
    update = mergeVersion update stored ↔ isVersionSet update = true ∨ update = stored := by
  unfold mergeVersion
  split
  next hset => exact ⟨fun _ => Or.inl hset, fun _ => rfl⟩
  next hset => exact ⟨Or.inr, fun h => h.resolve_left hset⟩

theorem patchLocation_none (now : ℤ) (columns : LocationColumns) :
    patchLocation platform none now columns = columns := by
  unfold patchLocation
  have hnone : resolveNodeLocationFields platform none now = none := rfl
  rw [hnone]

/-- What the UPDATE makes of the columns. -/
theorem reported_offline (now : ℤ) (updates : NodeUpdates) (node : LocatedNode) :
    (markOnline platform now updates (node.withStatus .offline)).1.reported =
      { agentVersion := if updates.reported then updates.agentVersion else node.agentVersion
        platformVersion :=
          if updates.reported then updates.platformVersion else node.platformVersion
        kernelVersion := if updates.reported then updates.kernelVersion else node.kernelVersion
        lastVersionReportedAt := if updates.reported then some now else node.lastVersionReportedAt
        location := patchLocation platform updates.location now node.location } := by
  simp only [markOnline, LocatedNode.withStatus, if_true, LocatedNode.reported, markedOnline]
  cases updates.reported with
  | true => rfl
  | false => rfl

/-- What the save makes of the columns. -/
theorem reported_online (now : ℤ) (updates : NodeUpdates) (node : LocatedNode) :
    (markOnline platform now updates (node.withStatus .online)).1.reported =
      { agentVersion := mergeVersion updates.agentVersion node.agentVersion
        platformVersion := mergeVersion updates.platformVersion node.platformVersion
        kernelVersion := mergeVersion updates.kernelVersion node.kernelVersion
        lastVersionReportedAt := if updates.reported then some now else node.lastVersionReportedAt
        location := patchLocation platform updates.location now node.location } := rfl

/-- Nothing is merged from a report without a version. -/
theorem mergeVersion_of_not_reported {updates : NodeVersions} (h : updates.reported = false)
    (node : NodeRow) :
    mergeVersion updates.agentVersion node.agentVersion = node.agentVersion ∧
      mergeVersion updates.platformVersion node.platformVersion = node.platformVersion ∧
      mergeVersion updates.kernelVersion node.kernelVersion = node.kernelVersion := by
  simp only [NodeVersions.reported, Bool.or_eq_false_iff] at h
  obtain ⟨⟨hagent, hplatform⟩, hkernel⟩ := h
  simp [mergeVersion, hagent, hplatform, hkernel]

/-- **The two paths agree exactly if no version is reported or no stored version is left out.**  The
UPDATE writes all three versions as soon as one is given. -/
theorem markOnline_agree_iff (platform : TextPlatform) (now : ℤ) (updates : NodeUpdates)
    (node : LocatedNode) :
    PathsAgree platform now updates node ↔
      updates.reported = false ∨ KeepsVersions updates.toNodeVersions node.toNodeRow := by
  constructor
  · intro h
    have hsame := h.same
    rw [reported_offline, reported_online] at hsame
    cases hreported : updates.reported with
    | false => exact Or.inl rfl
    | true =>
        rw [hreported] at hsame
        injection hsame with hagent hplatform hkernel
        exact Or.inr ⟨eq_mergeVersion_iff.mp hagent, eq_mergeVersion_iff.mp hplatform,
          eq_mergeVersion_iff.mp hkernel⟩
  · intro h
    have hsame : (markOnline platform now updates (node.withStatus .offline)).1.reported =
        (markOnline platform now updates (node.withStatus .online)).1.reported := by
      rw [reported_offline, reported_online]
      cases hreported : updates.reported with
      | false =>
          obtain ⟨hagent, hplatform, hkernel⟩ :=
            mergeVersion_of_not_reported hreported node.toNodeRow
          simp [hagent, hplatform, hkernel]
      | true =>
          obtain ⟨hagent, hplatform, hkernel⟩ :=
            h.resolve_left (by rw [hreported]; exact Bool.noConfusion)
          simp only [if_true]
          rw [← eq_mergeVersion_iff.mpr hagent, ← eq_mergeVersion_iff.mpr hplatform,
            ← eq_mergeVersion_iff.mpr hkernel]
    -- the save keeps what is absent, and the UPDATE does the same
    have hkept : AbsentKept updates node.reported
        (markOnline platform now updates (node.withStatus .online)).1.reported := by
      rw [reported_online]
      refine ⟨fun h => ?_, fun h => ?_, fun h => ?_, fun h => ?_⟩
      · exact congrArg (mergeVersion · node.agentVersion) h
      · exact congrArg (mergeVersion · node.platformVersion) h
      · exact congrArg (mergeVersion · node.kernelVersion) h
      · dsimp only
        rw [h, patchLocation_none]
        rfl
    refine ⟨hsame, fun status => ?_⟩
    cases status with
    | online => exact hkept
    | offline =>
        rw [hsame]
        exact hkept

/-- The functions of JavaScript where no letter is upper case and no number is a text. -/
def asciiPlatform : TextPlatform where
  toLowerCase text := text
  toLowerCase_empty := rfl
  toNumber _ := none

/-- A node whose platform and kernel are known. -/
def knownNode : LocatedNode where
  id := "n1"
  workspaceId := "w1"
  hostname := "host-1"
  agentVersion := some "1.0.0"
  platformVersion := some "24.04"
  kernelVersion := some "6.8.0"

/-- What the realtime metrics of an agent report. -/
def metricsUpdates : NodeUpdates where
  agentVersion := some "1.0.1"

/-- **A reconnect erases versions.**  The metrics report the version of the agent alone. -/
theorem markOnline_erases :
    ((markOnline asciiPlatform 1000 metricsUpdates
      (knownNode.withStatus .offline)).1.platformVersion = none ∧
    (markOnline asciiPlatform 1000 metricsUpdates
      (knownNode.withStatus .online)).1.platformVersion = some "24.04") ∧
    ¬ PathsAgree asciiPlatform 1000 metricsUpdates knownNode := by
  have hvalues : (markOnline asciiPlatform 1000 metricsUpdates
        (knownNode.withStatus .offline)).1.platformVersion = none ∧
      (markOnline asciiPlatform 1000 metricsUpdates
        (knownNode.withStatus .online)).1.platformVersion = some "24.04" := by
    decide
  refine ⟨hvalues, fun h => ?_⟩
  have hsame := congrArg ReportedColumns.platformVersion h.same
  exact absurd (hvalues.1.symm.trans (hsame.trans hvalues.2)) (by decide)

/-! ## The two ways of a location -/

/-- A location that is not in a cloud and that its label and its own coordinates place. -/
def PlacedByCoordinates (platform : TextPlatform) (location : NodeLocationInput) : Prop :=
  ∃ provider, normalizeProvider platform location.provider = some provider ∧
    (∀ cloud, provider ≠ .cloud cloud) ∧
    (effectiveSource platform provider location.source).isSome = true ∧
    (normalizeLocationLabel location.region).isSome = true ∧
    (normalizeInputCoordinates platform location.latitude location.longitude).isSome = true

/-- `readString` on a field of one key. -/
theorem readString_singleton (record : JsonObject) (key : String) :
    readString (some record) [key] = trimToNull (record.string? key) := by
  unfold readString
  rw [Option.bind_some, List.findSome?_cons]
  cases trimToNull (record.string? key) with
  | none => rfl
  | some text => rfl

theorem string?_locationJson (location : NodeLocationInput) :
    (locationJson location).string? "provider" = location.provider ∧
    (locationJson location).string? "source" = location.source ∧
    (locationJson location).string? "region" = location.region ∧
    (locationJson location).string? "zone" = location.zone := by
  have hstring : ∀ (record : JsonObject) (key : String) (value : Option String),
      record.get key = some (Json.ofString? value) → record.string? key = value := by
    intro record key value hget
    rw [JsonObject.string?, hget]
    cases value with
    | none => rfl
    | some s => rfl
  exact ⟨hstring _ _ _ rfl, hstring _ _ _ rfl, hstring _ _ _ rfl, hstring _ _ _ rfl⟩

/-- The strings of a location without white space at their ends, and no coordinates. -/
def readInput (location : NodeLocationInput) : NodeLocationInput where
  provider := trimToNull location.provider
  source := trimToNull location.source
  region := trimToNull location.region
  zone := trimToNull location.zone

theorem readLocation_set (additionalInfo : JsonObject) (location : NodeLocationInput) :
    readLocation (some (additionalInfo.set "location" (.obj (locationJson location)))) =
      some (readInput location) := by
  unfold readLocation
  rw [Option.bind_some, JsonObject.get_set_self]
  simp only [readString_singleton, string?_locationJson]
  rfl

/-! ## What is lost on the way -/

theorem trimToNull_blank {text : String} (h : jsTrim text = "") :
    trimToNull (some text) = none := by
  rw [trimToNull, Option.map_some, h]
  rfl

theorem trimToNull_some {text : String} (h : jsTrim text ≠ "") :
    trimToNull (some text) = some (jsTrim text) := by
  rw [trimToNull, Option.map_some]
  split
  next hblank => exact absurd (Option.some.inj hblank) h
  next => rfl

theorem trimToNull_trimToNull (value : Option String) :
    trimToNull (trimToNull value) = trimToNull value := by
  cases value with
  | none => rfl
  | some text =>
      by_cases hblank : jsTrim text = ""
      · rw [trimToNull_blank hblank]
        rfl
      · rw [trimToNull_some hblank, trimToNull_some (by rwa [jsTrim_jsTrim]), jsTrim_jsTrim]

/-- A blank text reads like an absent one, and any other like itself without its ends. -/
theorem map_trimToNull {f : String → String} (hf : f "" = "") (value : Option String) :
    ((trimToNull value).map fun text => f (jsTrim text)).filter (· ≠ "") =
      (value.map fun text => f (jsTrim text)).filter (· ≠ "") := by
  cases value with
  | none => rfl
  | some text =>
      by_cases hblank : jsTrim text = ""
      · rw [trimToNull_blank hblank, Option.map_some, hblank, hf]
        rfl
      · rw [trimToNull_some hblank, Option.map_some, jsTrim_jsTrim]
        rfl

theorem normalizeToken_trimToNull (value : Option String) :
    normalizeToken platform (trimToNull value) = normalizeToken platform value :=
  map_trimToNull platform.toLowerCase_empty value

theorem effectiveSource_trimToNull (provider : NodeLocationProvider) (value : Option String) :
    effectiveSource platform provider (trimToNull value) =
      effectiveSource platform provider value := by
  unfold effectiveSource normalizeSource
  rw [trimToNull_trimToNull, normalizeToken_trimToNull]

theorem resolveCloudFields_readInput (provider : CloudLocationProvider)
    (source : NodeLocationSource) (location : NodeLocationInput) (now : ℤ) :
    resolveCloudFields platform provider source (readInput location) now =
      resolveCloudFields platform provider source location now := by
  unfold resolveCloudFields normalizeCloudRegion readInput
  simp only [normalizeToken_trimToNull]

/-- Without coordinates no label is a location. -/
theorem resolveLabelledFields_readInput (provider : NodeLocationProvider)
    (source : NodeLocationSource) (location : NodeLocationInput) (now : ℤ) :
    resolveLabelledFields platform provider source (readInput location) now = none := by
  unfold resolveLabelledFields
  cases normalizeLocationLabel (readInput location).region with
  | none => rfl
  | some region => rfl

theorem resolveLabelledFields_eq_none_iff (provider : NodeLocationProvider)
    (source : NodeLocationSource) (location : NodeLocationInput) (now : ℤ) :
    resolveLabelledFields platform provider source location now = none ↔
      ¬ ((normalizeLocationLabel location.region).isSome = true ∧
        (normalizeInputCoordinates platform location.latitude location.longitude).isSome
          = true) := by
  unfold resolveLabelledFields
  cases normalizeLocationLabel location.region with
  | none => simp
  | some region =>
      cases normalizeInputCoordinates platform location.latitude location.longitude with
      | none => simp
      | some coordinates => simp

/-- What is read and what is reported resolve to the same unless the coordinates are needed. -/
theorem resolve_readInput_iff (location : NodeLocationInput) (now : ℤ) :
    resolveNodeLocationFields platform (some (readInput location)) now =
        resolveNodeLocationFields platform (some location) now ↔
      ¬ PlacedByCoordinates platform location := by
  have hprovider : normalizeProvider platform (readInput location).provider =
      normalizeProvider platform location.provider :=
    congrArg (Option.bind · NodeLocationProvider.ofString?) (normalizeToken_trimToNull _)
  have hsource : ∀ provider, effectiveSource platform provider (readInput location).source =
      effectiveSource platform provider location.source :=
    fun provider => effectiveSource_trimToNull provider _
  rw [resolveNodeLocationFields_some, resolveNodeLocationFields_some, hprovider]
  simp only [hsource, resolveCloudFields_readInput, resolveLabelledFields_readInput]
  unfold PlacedByCoordinates
  cases normalizeProvider platform location.provider with
  | none => simp
  | some provider =>
      cases hsource : effectiveSource platform provider location.source with
      | none => simp [hsource]
      | some source =>
          cases provider with
          | cloud cloud => simp
          | manual =>
              simp [hsource, eq_comm (a := none), resolveLabelledFields_eq_none_iff]
          | publicIp =>
              simp [hsource, eq_comm (a := none), resolveLabelledFields_eq_none_iff]

/-- A patch of a node without a location tells what was resolved. -/
theorem patchLocation_inj {location location' : Option NodeLocationInput} {now : ℤ} :
    patchLocation platform location now {} = patchLocation platform location' now {} ↔
      resolveNodeLocationFields platform location now =
        resolveNodeLocationFields platform location' now := by
  unfold patchLocation
  cases resolveNodeLocationFields platform location now with
  | none =>
      cases resolveNodeLocationFields platform location' now with
      | none => simp
      | some fields' => simp [locationColumns]
  | some fields =>
      cases resolveNodeLocationFields platform location' now with
      | none => simp [locationColumns]
      | some fields' =>
          obtain ⟨provider, source, region, zone, latitude, longitude, updatedAt⟩ := fields
          obtain ⟨provider', source', region', zone', latitude', longitude', updatedAt'⟩ := fields'
          simp [locationColumns]

/-- **An enrollment stores what the agent's authentication stores, exactly unless the location is
placed by its own coordinates.**  `readLocation` drops them. -/
theorem locations_agree_iff (platform : TextPlatform) (now : ℤ) (id : Uuid) (input : NodeInput)
    (additionalInfo : JsonObject) (location : NodeLocationInput) (updates : NodeUpdates)
    (node : LocatedNode) :
    (createFromEnrollment platform now id input
        (readLocation
          (some (additionalInfo.set "location" (.obj (locationJson location)))))).location
      = (markOnline platform now { updates with location := some location }
        { node with location := {} }).1.location ↔
      ¬ PlacedByCoordinates platform location := by
  have hstored : (markOnline platform now { updates with location := some location }
      { node with location := {} }).1.location = patchLocation platform (some location) now {} := by
    unfold markOnline
    split
    · rfl
    · rfl
  rw [hstored, readLocation_set, ← resolve_readInput_iff location now]
  exact patchLocation_inj

/-- What an agent reports about a machine in an office. -/
def officeLocation : NodeLocationInput where
  provider := some "manual"
  source := some "manual"
  region := some "Istanbul"
  latitude := some (.number 41)
  longitude := some (.number 29)

/-- An enrollment of that machine. -/
def officeInput : NodeInput where
  workspaceId := "w1"
  teamId := none
  name := "office"
  description := none
  hostname := "host-1"
  os := "linux"
  arch := "amd64"
  agentTokenHash := "h1"
  agentVersion := none
  platformVersion := none
  kernelVersion := none

/-- **The enrollment loses a manual location.** -/
theorem officeLocation_lost :
    (createFromEnrollment asciiPlatform 1000 "n1" officeInput
      (readLocation (some (JsonObject.set [] "location"
        (.obj (locationJson officeLocation)))))).location = {} ∧
    (markOnline asciiPlatform 1000 { location := some officeLocation } knownNode).1.location ≠
      {} := by
  have hlost : (createFromEnrollment asciiPlatform 1000 "n1" officeInput
      (readLocation (some (JsonObject.set [] "location"
        (.obj (locationJson officeLocation)))))).location = {} := by
    decide +kernel
  have hplaced : (markOnline asciiPlatform 1000 { location := some officeLocation }
      knownNode).1.location.locationProvider = some .manual := by
    decide +kernel
  refine ⟨hlost, fun h => ?_⟩
  rw [h] at hplaced
  exact absurd hplaced (by decide)

end NodeReports
