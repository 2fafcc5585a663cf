/-
# Locations of nodes

`node-location.util.ts`: `resolveNodeLocationFields` makes the location columns of a node out of
what its agent reports.  A cloud location needs a region, and its coordinates come from a table; any
other location needs a label and coordinates of its own.  `String.prototype.toLowerCase` and
`Number` are parameters.
-/
import NoderaxApi.TasksService
import Mathlib.Tactic.NormNum

namespace NodeLocation

/-! ## Reports -/

/-- `CLOUD_LOCATION_PROVIDERS`. -/
inductive CloudLocationProvider
  | aws
  | gcp
  | azure
  deriving DecidableEq, Repr

/-- `NODE_LOCATION_PROVIDERS`. -/
inductive NodeLocationProvider
  | cloud (provider : CloudLocationProvider)
  | manual
  | publicIp
  deriving DecidableEq, Repr

/-- `NODE_LOCATION_SOURCES`. -/
inductive NodeLocationSource
  | cloudMetadata
  | manual
  | ipinfo
  deriving DecidableEq, Repr

/-- A latitude or longitude as it is reported. -/
inductive Coordinate
  | number (value : ℚ)
  | text (value : String)
  deriving DecidableEq, Repr

/-- `NodeLocationInput`; a field that is `null` or `undefined` is absent. -/
structure NodeLocationInput where
  provider : Option String := none
  source : Option String := none
  region : Option String := none
  zone : Option String := none
  latitude : Option Coordinate := none
  longitude : Option Coordinate := none
  deriving DecidableEq, Repr

structure RegionCoordinate where
  lat : ℚ
  lng : ℚ
  deriving DecidableEq, Repr

/-- `NodeLocationFields`. -/
structure NodeLocationFields where
  locationProvider : NodeLocationProvider
  locationSource : NodeLocationSource
  locationRegion : String
  locationZone : Option String
  locationLatitude : Option ℚ
  locationLongitude : Option ℚ
  locationUpdatedAt : ℤ
  deriving DecidableEq, Repr

/-! ## Regions -/

/-- `REGION_COORDINATES`. -/
def regionCoordinates : CloudLocationProvider → List (String × RegionCoordinate)
  | .aws =>
    [ ("af-south-1", ⟨-33.9249, 18.4241⟩),
      ("ap-east-1", ⟨22.3193, 114.1694⟩),
      ("ap-northeast-1", ⟨35.6762, 139.6503⟩),
      ("ap-northeast-2", ⟨37.5665, 126.978⟩),
      ("ap-northeast-3", ⟨34.6937, 135.5023⟩),
      ("ap-south-1", ⟨19.076, 72.8777⟩),
      ("ap-south-2", ⟨17.385, 78.4867⟩),
      ("ap-southeast-1", ⟨1.3521, 103.8198⟩),
      ("ap-southeast-2", ⟨-33.8688, 151.2093⟩),
      ("ap-southeast-3", ⟨-6.2088, 106.8456⟩),
      ("ap-southeast-4", ⟨-37.8136, 144.9631⟩),
      ("ap-southeast-5", ⟨3.139, 101.6869⟩),
      ("ap-southeast-7", ⟨13.7563, 100.5018⟩),
      ("ca-central-1", ⟨45.5017, -73.5673⟩),
      ("ca-west-1", ⟨51.0447, -114.0719⟩),
      ("cn-north-1", ⟨39.9042, 116.4074⟩),
      ("cn-northwest-1", ⟨38.2827, 109.7453⟩),
      ("eu-central-1", ⟨50.1109, 8.6821⟩),
      ("eu-central-2", ⟨47.3769, 8.5417⟩),
      ("eu-north-1", ⟨59.3293, 18.0686⟩),
      ("eu-south-1", ⟨45.4642, 9.19⟩),
      ("eu-south-2", ⟨40.4168, -3.7038⟩),
      ("eu-west-1", ⟨53.3498, -6.2603⟩),
      ("eu-west-2", ⟨51.5072, -0.1276⟩),
      ("eu-west-3", ⟨48.8566, 2.3522⟩),
      ("il-central-1", ⟨32.0853, 34.7818⟩),
      ("me-central-1", ⟨25.2048, 55.2708⟩),
      ("me-south-1", ⟨26.2285, 50.586⟩),
      ("sa-east-1", ⟨-23.5558, -46.6396⟩),
      ("us-east-1", ⟨39.0438, -77.4874⟩),
      ("us-east-2", ⟨39.9612, -82.9988⟩),
      ("us-gov-east-1", ⟨39.0438, -77.4874⟩),
      ("us-gov-west-1", ⟨47.6062, -122.3321⟩),
      ("us-west-1", ⟨37.3382, -121.8863⟩),
      ("us-west-2", ⟨45.5152, -122.6784⟩) ]
  | .gcp =>
    [ ("africa-south1", ⟨-26.2041, 28.0473⟩),
      ("asia-east1", ⟨25.033, 121.5654⟩),
      ("asia-east2", ⟨22.3193, 114.1694⟩),
      ("asia-northeast1", ⟨35.6762, 139.6503⟩),
      ("asia-northeast2", ⟨34.6937, 135.5023⟩),
      ("asia-northeast3", ⟨37.5665, 126.978⟩),
      ("asia-south1", ⟨19.076, 72.8777⟩),
      ("asia-south2", ⟨28.6139, 77.209⟩),
      ("asia-southeast1", ⟨1.3521, 103.8198⟩),
      ("asia-southeast2", ⟨-6.2088, 106.8456⟩),
      ("australia-southeast1", ⟨-33.8688, 151.2093⟩),
      ("australia-southeast2", ⟨-37.8136, 144.9631⟩),
      ("europe-central2", ⟨52.2297, 21.0122⟩),
      ("europe-north1", ⟨60.1699, 24.9384⟩),
      ("europe-southwest1", ⟨40.4168, -3.7038⟩),
      ("europe-west1", ⟨50.8503, 4.3517⟩),
      ("europe-west2", ⟨51.5072, -0.1276⟩),
      ("europe-west3", ⟨50.1109, 8.6821⟩),
      ("europe-west4", ⟨52.3676, 4.9041⟩),
      ("europe-west6", ⟨47.3769, 8.5417⟩),
      ("europe-west8", ⟨45.4642, 9.19⟩),
      ("europe-west9", ⟨48.8566, 2.3522⟩),
      ("europe-west10", ⟨52.52, 13.405⟩),
      ("europe-west12", ⟨45.0703, 7.6869⟩),
      ("me-central1", ⟨25.2854, 51.531⟩),
      ("me-central2", ⟨24.7136, 46.6753⟩),
      ("me-west1", ⟨32.0853, 34.7818⟩),
      ("northamerica-northeast1", ⟨45.5017, -73.5673⟩),
      ("northamerica-northeast2", ⟨43.6532, -79.3832⟩),
      ("southamerica-east1", ⟨-23.5558, -46.6396⟩),
      ("southamerica-west1", ⟨-33.4489, -70.6693⟩),
      ("us-central1", ⟨41.2619, -95.8608⟩),
      ("us-east1", ⟨33.8361, -81.1637⟩),
      ("us-east4", ⟨39.0438, -77.4874⟩),
      ("us-east5", ⟨39.9612, -82.9988⟩),
      ("us-south1", ⟨32.7767, -96.797⟩),
      ("us-west1", ⟨45.5152, -122.6784⟩),
      ("us-west2", ⟨34.0522, -118.2437⟩),
      ("us-west3", ⟨40.7608, -111.891⟩),
      ("us-west4", ⟨36.1699, -115.1398⟩) ]
  | .azure =>
    [ ("australiaeast", ⟨-33.8688, 151.2093⟩),
      ("australiasoutheast", ⟨-37.8136, 144.9631⟩),
      ("brazilsouth", ⟨-23.5558, -46.6396⟩),
      ("canadacentral", ⟨43.6532, -79.3832⟩),
      ("canadaeast", ⟨46.8139, -71.2082⟩),
      ("centralindia", ⟨18.5204, 73.8567⟩),
      ("centralus", ⟨41.2619, -95.8608⟩),
      ("eastasia", ⟨22.3193, 114.1694⟩),
      ("eastus", ⟨37.4316, -78.6569⟩),
      ("eastus2", ⟨36.6681, -78.3889⟩),
      ("francecentral", ⟨48.8566, 2.3522⟩),
      ("germanywestcentral", ⟨50.1109, 8.6821⟩),
      ("israelcentral", ⟨32.0853, 34.7818⟩),
      ("italynorth", ⟨45.4642, 9.19⟩),
      ("japaneast", ⟨35.6762, 139.6503⟩),
      ("japanwest", ⟨34.6937, 135.5023⟩),
      ("koreacentral", ⟨37.5665, 126.978⟩),
      ("koreasouth", ⟨35.1796, 129.0756⟩),
      ("northcentralus", ⟨41.8781, -87.6298⟩),
      ("northeurope", ⟨53.3498, -6.2603⟩),
      ("norwayeast", ⟨59.9139, 10.7522⟩),
      ("polandcentral", ⟨52.2297, 21.0122⟩),
      ("qatarcentral", ⟨25.2854, 51.531⟩),
      ("southafricanorth", ⟨-26.2041, 28.0473⟩),
      ("southcentralus", ⟨29.7604, -95.3698⟩),
      ("southeastasia", ⟨1.3521, 103.8198⟩),
      ("southindia", ⟨13.0827, 80.2707⟩),
      ("spaincentral", ⟨40.4168, -3.7038⟩),
      ("swedencentral", ⟨60.6749, 17.1413⟩),
      ("switzerlandnorth", ⟨47.3769, 8.5417⟩),
      ("uaenorth", ⟨25.2048, 55.2708⟩),
      ("uksouth", ⟨51.5072, -0.1276⟩),
      ("ukwest", ⟨53.4084, -2.9916⟩),
      ("westcentralus", ⟨40.7608, -111.891⟩),
      ("westeurope", ⟨52.3676, 4.9041⟩),
      ("westindia", ⟨19.076, 72.8777⟩),
      ("westus", ⟨37.3382, -121.8863⟩),
      ("westus2", ⟨47.6062, -122.3321⟩),
      ("westus3", ⟨33.4484, -112.074⟩) ]

/-! ## Reading a report -/

/-- The two functions of JavaScript that the reading uses. -/
structure TextPlatform where
  /-- `String.prototype.toLowerCase`. -/
  toLowerCase : String → String
  toLowerCase_empty : toLowerCase "" = ""
  /-- `Number(text)`, where it is finite. -/
  toNumber : String → Option ℚ

section Reading

variable (platform : TextPlatform)

/-- A member of `NODE_LOCATION_PROVIDERS`. -/
def NodeLocationProvider.ofString? : String → Option NodeLocationProvider
  | "aws" => some (.cloud .aws)
  | "gcp" => some (.cloud .gcp)
  | "azure" => some (.cloud .azure)
  | "manual" => some .manual
  | "public_ip" => some .publicIp
  | _ => none

/-- A member of `NODE_LOCATION_SOURCES`. -/
def NodeLocationSource.ofString? : String → Option NodeLocationSource
  | "cloud_metadata" => some .cloudMetadata
  | "manual" => some .manual
  | "ipinfo" => some .ipinfo
  | _ => none

/-- `normalizeToken`. -/
def normalizeToken (value : Option String) : Option String :=
  (value.map fun text => platform.toLowerCase (jsTrim text)).filter (· ≠ "")

/-- `normalizeProvider`. -/
def normalizeProvider (value : Option String) : Option NodeLocationProvider :=
  (normalizeToken platform value).bind NodeLocationProvider.ofString?

/-- `normalizeSource`. -/
def normalizeSource (value : Option String) : Option NodeLocationSource :=
  (normalizeToken platform value).bind NodeLocationSource.ofString?

/-- `normalizeCloudRegion`. -/
def normalizeCloudRegion (value : Option String) : Option String :=
  (normalizeToken platform value).map fun text =>
    String.ofList (text.toList.filter fun c => !isJsWhitespace c)

/-- `normalizeLocationLabel`. -/
def normalizeLocationLabel (value : Option String) : Option String :=
  let normalized := value.map fun text =>
    String.ofList (TasksService.collapseWhitespace (jsTrim text).toList)
  (normalized.filter (· ≠ "")).map (jsSliceTo 80)

/-- `normalizeCoordinate`. -/
def normalizeCoordinate (value : Option Coordinate) (min max : ℚ) : Option ℚ :=
  let parsed := value.bind fun
    | .number value => some value
    | .text value => platform.toNumber value
  parsed.filter fun parsed => !(parsed < min || parsed > max)

/-- `normalizeInputCoordinates`. -/
def normalizeInputCoordinates (latitude longitude : Option Coordinate) :
    Option RegionCoordinate := do
  let lat ← normalizeCoordinate platform latitude (-90) 90
  let lng ← normalizeCoordinate platform longitude (-180) 180
  return { lat, lng }

/-- `defaultSourceForProvider`. -/
def defaultSourceForProvider : NodeLocationProvider → NodeLocationSource
  | .cloud _ => .cloudMetadata
  | .manual => .manual
  | .publicIp => .ipinfo

/-- `isValidProviderSource`. -/
def isValidProviderSource : NodeLocationProvider → NodeLocationSource → Bool
  | .cloud _, source => source = .cloudMetadata
  | .manual, source => source = .manual
  | .publicIp, source => source = .ipinfo

/-- `[a-z]`. -/
def isLowerLetter (c : Char) : Bool := 'a' ≤ c && c ≤ 'z'

/-- The zone without a dash and a letter at its end, as the `gcp` zones have them. -/
def dropDashedLetter (zone : String) : String :=
  match zone.toList.reverse with
  | letter :: '-' :: rest => if isLowerLetter letter then String.ofList rest.reverse else zone
  | _ => zone

/-- The zone without a letter at its end, as the `aws` zones have it. -/
def dropLetter (zone : String) : String :=
  match zone.toList.reverse with
  | letter :: rest => if isLowerLetter letter then String.ofList rest.reverse else zone
  | [] => zone

/-- `deriveRegion`. -/
def deriveRegion (provider : CloudLocationProvider) (zone : Option String) : Option String :=
  match provider with
  | .gcp => zone.map dropDashedLetter
  | .aws => zone.map dropLetter
  | .azure => none

/-- The source of a location of the provider: the given one if the provider may have it, and the
provider's own if none is given. -/
def effectiveSource (provider : NodeLocationProvider) (value : Option String) :
    Option NodeLocationSource :=
  let requestedSource := trimToNull value
  let source := normalizeSource platform value
  if requestedSource.isSome && source.isNone then none
  else
    let effectiveSource := source.getD (defaultSourceForProvider provider)
    if isValidProviderSource provider effectiveSource then some effectiveSource else none

/-- `resolveNodeLocationFields` for a cloud provider: the coordinates are those of the region. -/
def resolveCloudFields (provider : CloudLocationProvider) (source : NodeLocationSource)
    (input : NodeLocationInput) (updatedAt : ℤ) : Option NodeLocationFields := do
  let zone := normalizeToken platform input.zone
  let region ← ((normalizeCloudRegion platform input.region).or
    (deriveRegion provider zone)).filter (· ≠ "")
  let coordinates := (regionCoordinates provider).lookup region
  return {
    locationProvider := .cloud provider
    locationSource := source
    locationRegion := region
    locationZone := zone
    locationLatitude := coordinates.map (·.lat)
    locationLongitude := coordinates.map (·.lng)
    locationUpdatedAt := updatedAt }

/-- `resolveNodeLocationFields` for any other provider: the coordinates are the reported ones. -/
def resolveLabelledFields (provider : NodeLocationProvider) (source : NodeLocationSource)
    (input : NodeLocationInput) (updatedAt : ℤ) : Option NodeLocationFields := do
  let region ← normalizeLocationLabel input.region
  let coordinates ← normalizeInputCoordinates platform input.latitude input.longitude
  return {
    locationProvider := provider
    locationSource := source
    locationRegion := region
    locationZone := normalizeLocationLabel input.zone
    locationLatitude := some coordinates.lat
    locationLongitude := some coordinates.lng
    locationUpdatedAt := updatedAt }

/-- `resolveNodeLocationFields`. -/
def resolveNodeLocationFields (input : Option NodeLocationInput) (updatedAt : ℤ) :
    Option NodeLocationFields := do
  -- an absent report reads like one without fields
  let input := input.getD {}
  let provider ← normalizeProvider platform input.provider
  let source ← effectiveSource platform provider input.source
  match provider with
  | .cloud cloud => resolveCloudFields platform cloud source input updatedAt
  | .manual => resolveLabelledFields platform .manual source input updatedAt
  | .publicIp => resolveLabelledFields platform .publicIp source input updatedAt

theorem resolveNodeLocationFields_some (input : NodeLocationInput) (updatedAt : ℤ) :
    resolveNodeLocationFields platform (some input) updatedAt =
      (normalizeProvider platform input.provider).bind fun provider =>
        (effectiveSource platform provider input.source).bind fun source =>
          match provider with
          | .cloud cloud => resolveCloudFields platform cloud source input updatedAt
          | .manual => resolveLabelledFields platform .manual source input updatedAt
          | .publicIp => resolveLabelledFields platform .publicIp source input updatedAt :=
  rfl

end Reading

/-! ## What a location is -/

variable {platform : TextPlatform}

/-- A point on the globe. -/
def RegionCoordinate.InRange (coordinate : RegionCoordinate) : Prop :=
  (-90 ≤ coordinate.lat ∧ coordinate.lat ≤ 90) ∧ (-180 ≤ coordinate.lng ∧ coordinate.lng ≤ 180)

instance (coordinate : RegionCoordinate) : Decidable coordinate.InRange := by
  unfold RegionCoordinate.InRange
  infer_instance

/-- The columns hold a location: of a source its provider may have, with a region, and with both
coordinates of a point or with none, which only a cloud region may lack. -/
structure NodeLocationFields.WellFormed (fields : NodeLocationFields) : Prop where
  source : isValidProviderSource fields.locationProvider fields.locationSource = true
  region : fields.locationRegion ≠ ""
  point : (∃ coordinate : RegionCoordinate, coordinate.InRange ∧
      fields.locationLatitude = some coordinate.lat ∧
      fields.locationLongitude = some coordinate.lng) ∨
    ((∃ cloud, fields.locationProvider = .cloud cloud) ∧
      fields.locationLatitude = none ∧ fields.locationLongitude = none)

theorem regionCoordinates_inRange (provider : CloudLocationProvider) :
    ∀ entry ∈ regionCoordinates provider, entry.2.InRange := by
  have hall : ((regionCoordinates provider).all fun entry => entry.2.InRange) = true := by
    cases provider with
    | aws => decide +kernel
    | gcp => decide +kernel
    | azure => decide +kernel
  intro entry hentry
  exact of_decide_eq_true (List.all_eq_true.mp hall entry hentry)

theorem normalizeCoordinate_bounds {value : Option Coordinate} {min max parsed : ℚ}
    (h : normalizeCoordinate platform value min max = some parsed) :
    min ≤ parsed ∧ parsed ≤ max := by
  have hbounds := (Option.filter_eq_some_iff.mp h).2
  simp only [Bool.not_eq_true', Bool.or_eq_false_iff, decide_eq_false_iff_not, not_lt] at hbounds
  exact hbounds

theorem normalizeInputCoordinates_inRange {latitude longitude : Option Coordinate}
    {coordinate : RegionCoordinate}
    (h : normalizeInputCoordinates platform latitude longitude = some coordinate) :
    coordinate.InRange := by
  unfold normalizeInputCoordinates at h
  obtain ⟨lat, hlat, h⟩ := Option.bind_eq_some_iff.mp h
  obtain ⟨lng, hlng, h⟩ := Option.bind_eq_some_iff.mp h
  obtain rfl := Option.some.inj h
  exact ⟨normalizeCoordinate_bounds hlat, normalizeCoordinate_bounds hlng⟩

theorem jsSliceTo_ne_empty {n : ℕ} {s : String} (hs : s ≠ "") : jsSliceTo (n + 1) s ≠ "" := by
  intro h
  have hnil : takeUtf16 (n + 1) s.toList = [] := by
    simpa [jsSliceTo] using h
  cases htext : s.toList with
  | nil => exact hs (String.toList_eq_nil_iff.mp htext)
  | cons c cs =>
      rw [htext, takeUtf16] at hnil
      split at hnil
      · cases hnil
      · cases hnil

theorem normalizeLocationLabel_ne_empty {value : Option String} {label : String}
    (h : normalizeLocationLabel value = some label) : label ≠ "" := by
  unfold normalizeLocationLabel at h
  obtain ⟨normalized, hnormalized, rfl⟩ := Option.map_eq_some_iff.mp h
  exact jsSliceTo_ne_empty (of_decide_eq_true (Option.filter_eq_some_iff.mp hnormalized).2)

theorem effectiveSource_valid {provider : NodeLocationProvider} {value : Option String}
    {source : NodeLocationSource} (h : effectiveSource platform provider value = some source) :
    isValidProviderSource provider source = true := by
  unfold effectiveSource at h
  dsimp only at h
  split at h
  · cases h
  · split at h
    next hvalid =>
      obtain rfl := Option.some.inj h
      exact hvalid
    next => cases h

theorem resolveCloudFields_wellFormed {provider : CloudLocationProvider}
    {source : NodeLocationSource} {input : NodeLocationInput} {updatedAt : ℤ}
    {fields : NodeLocationFields}
    (hsource : isValidProviderSource (.cloud provider) source = true)
    (h : resolveCloudFields platform provider source input updatedAt = some fields) :
    fields.WellFormed := by
  obtain ⟨region, hregion, h⟩ := Option.bind_eq_some_iff.mp h
  obtain rfl := Option.some.inj h
  refine ⟨hsource, of_decide_eq_true (Option.filter_eq_some_iff.mp hregion).2, ?_⟩
  -- the table may not have the region
  cases hlookup : (regionCoordinates provider).lookup region with
  | none => exact Or.inr ⟨⟨provider, rfl⟩, rfl, rfl⟩
  | some coordinate =>
      obtain ⟨before, after, hsplit, -⟩ := List.lookup_eq_some_iff.mp hlookup
      have hentry : (region, coordinate) ∈ regionCoordinates provider := by
        rw [hsplit]
        exact List.mem_append_right before (List.mem_cons_self ..)
      exact Or.inl ⟨coordinate, regionCoordinates_inRange provider _ hentry, rfl, rfl⟩

theorem resolveLabelledFields_wellFormed {provider : NodeLocationProvider}
    {source : NodeLocationSource} {input : NodeLocationInput} {updatedAt : ℤ}
    {fields : NodeLocationFields} (hsource : isValidProviderSource provider source = true)
    (h : resolveLabelledFields platform provider source input updatedAt = some fields) :
    fields.WellFormed := by
  obtain ⟨region, hregion, h⟩ := Option.bind_eq_some_iff.mp h
  obtain ⟨coordinates, hcoordinates, h⟩ := Option.bind_eq_some_iff.mp h
  obtain rfl := Option.some.inj h
  exact ⟨hsource, normalizeLocationLabel_ne_empty hregion,
    Or.inl ⟨coordinates, normalizeInputCoordinates_inRange hcoordinates, rfl, rfl⟩⟩

/-- **Whatever is reported, the columns hold a location or stay as they are.** -/
theorem resolveNodeLocationFields_wellFormed {input : Option NodeLocationInput} {updatedAt : ℤ}
    {fields : NodeLocationFields}
    (h : resolveNodeLocationFields platform input updatedAt = some fields) :
    fields.WellFormed := by
  obtain ⟨provider, -, h⟩ := Option.bind_eq_some_iff.mp h
  obtain ⟨source, hsource, h⟩ := Option.bind_eq_some_iff.mp h
  have hvalid := effectiveSource_valid hsource
  cases provider with
  | cloud cloud => exact resolveCloudFields_wellFormed hvalid h
  | manual => exact resolveLabelledFields_wellFormed hvalid h
  | publicIp => exact resolveLabelledFields_wellFormed hvalid h

end NodeLocation
