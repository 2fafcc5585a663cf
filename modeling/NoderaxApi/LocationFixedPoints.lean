/-
# Stored locations are reported again

`resolveNodeLocationFields` on the columns that it wrote.  They come out the same, with two
exceptions: a region that is derived from a zone keeps the white space of the zone, which a region
of its own does not, and a label may end in a blank where it was cut.
-/
import NoderaxApi.LocationLabels
import NoderaxApi.NodeReports

namespace NodeLocation

/-! ## Lower case -/

/-- A character that is its own lower-case form. -/
def IsLowered (platform : TextPlatform) (c : Char) : Prop :=
  platform.toLowerCase (String.singleton c) = String.singleton c

/-- What the language says of `toLowerCase`: its texts have lower-case forms only, a text of such
forms is not changed, among them the ASCII letters from `a` to `z` and the underscore, and white
space is neither made nor lost, at the ends or anywhere. -/
structure LowerCaseLaws (platform : TextPlatform) : Prop where
  lowered : ∀ text, ∀ c ∈ (platform.toLowerCase text).toList, IsLowered platform c
  fixed : ∀ text, (∀ c ∈ text.toList, IsLowered platform c) → platform.toLowerCase text = text
  ascii : ∀ c : Char, c.isLower = true ∨ c = '_' → IsLowered platform c
  trimmed : ∀ text, jsTrim text = text →
    jsTrim (platform.toLowerCase text) = platform.toLowerCase text
  blanks : ∀ text, (∀ c ∈ (platform.toLowerCase text).toList, isJsWhitespace c = false) ↔
    ∀ c ∈ text.toList, isJsWhitespace c = false

theorem lowerCaseLaws_ascii : LowerCaseLaws NodeReports.asciiPlatform where
  lowered := fun _ _ _ => rfl
  fixed := fun _ _ => rfl
  ascii := fun _ _ => rfl
  trimmed := fun _ h => h
  blanks := fun _ => Iff.rfl

section Tokens

variable {platform : TextPlatform}

/-- What `normalizeToken` answers. -/
structure IsToken (platform : TextPlatform) (token : String) : Prop where
  ne_empty : token ≠ ""
  trimmed : jsTrim token = token
  lowered : ∀ c ∈ token.toList, IsLowered platform c

theorem normalizeToken_eq_some {value : Option String} {token : String}
    (h : normalizeToken platform value = some token) :
    token ≠ "" ∧ ∃ text, value = some text ∧ token = platform.toLowerCase (jsTrim text) := by
  obtain ⟨hmap, hne⟩ := Option.filter_eq_some_iff.mp h
  obtain ⟨text, rfl, htoken⟩ := Option.map_eq_some_iff.mp hmap
  exact ⟨of_decide_eq_true hne, text, rfl, htoken.symm⟩

theorem IsToken.head {token : String} (h : IsToken platform token) :
    ∀ c ∈ token.toList.head?, isJsWhitespace c = false := by
  rw [← h.trimmed, toList_jsTrim]
  exact Words.head_trim _

theorem isToken_of_normalizeToken (laws : LowerCaseLaws platform) {value : Option String}
    {token : String} (h : normalizeToken platform value = some token) : IsToken platform token := by
  obtain ⟨hne, text, -, rfl⟩ := normalizeToken_eq_some h
  exact ⟨hne, laws.trimmed _ (jsTrim_jsTrim text), laws.lowered _⟩

/-- A text of lower-case forms is trimmed, and nothing else. -/
theorem normalizeToken_of_lowered (laws : LowerCaseLaws platform) {text : String}
    (h : ∀ c ∈ text.toList, IsLowered platform c) (hne : jsTrim text ≠ "") :
    normalizeToken platform (some text) = some (jsTrim text) := by
  have hlowered : ∀ c ∈ (jsTrim text).toList, IsLowered platform c := by
    obtain ⟨before, after, hsplit, -, -⟩ := Words.eq_append_trim isJsWhitespace text.toList
    intro c hc
    rw [toList_jsTrim] at hc
    refine h c ?_
    rw [hsplit]
    exact List.mem_append_left _ (List.mem_append_right _ hc)
  rw [normalizeToken, Option.map_some, laws.fixed _ hlowered, Option.filter_some,
    if_pos (decide_eq_true hne)]

theorem IsToken.normalizeToken (laws : LowerCaseLaws platform) {token : String}
    (h : IsToken platform token) : normalizeToken platform (some token) = some token := by
  have htoken := normalizeToken_of_lowered laws h.lowered (by rw [h.trimmed]; exact h.ne_empty)
  rwa [h.trimmed] at htoken

/-- A token is a fixed point. -/
theorem normalizeToken_again (laws : LowerCaseLaws platform) (value : Option String) :
    normalizeToken platform (normalizeToken platform value) = normalizeToken platform value := by
  cases hvalue : normalizeToken platform value with
  | none => rfl
  | some token => exact (isToken_of_normalizeToken laws hvalue).normalizeToken laws

/-- The words of the source are tokens. -/
theorem isToken_word (laws : LowerCaseLaws platform) {word : String}
    (hletters : (word.toList.all fun c => c.isLower = true ∨ c = '_') = true) (hne : word ≠ "")
    (htrim : jsTrim word = word) : IsToken platform word :=
  ⟨hne, htrim, fun c hc => laws.ascii c (of_decide_eq_true (List.all_eq_true.mp hletters c hc))⟩

end Tokens

/-! ## Reporting the columns -/

/-- The member of `NODE_LOCATION_PROVIDERS`. -/
def NodeLocationProvider.text : NodeLocationProvider → String
  | .cloud .aws => "aws"
  | .cloud .gcp => "gcp"
  | .cloud .azure => "azure"
  | .manual => "manual"
  | .publicIp => "public_ip"

/-- The member of `NODE_LOCATION_SOURCES`. -/
def NodeLocationSource.text : NodeLocationSource → String
  | .cloudMetadata => "cloud_metadata"
  | .manual => "manual"
  | .ipinfo => "ipinfo"

/-- The columns as a report. -/
def NodeLocationFields.toInput (fields : NodeLocationFields) : NodeLocationInput where
  provider := some fields.locationProvider.text
  source := some fields.locationSource.text
  region := some fields.locationRegion
  zone := fields.locationZone
  latitude := fields.locationLatitude.map .number
  longitude := fields.locationLongitude.map .number

section Columns

variable {platform : TextPlatform}

theorem normalizeProvider_text (laws : LowerCaseLaws platform) (provider : NodeLocationProvider) :
    normalizeProvider platform (some provider.text) = some provider := by
  have htoken : IsToken platform provider.text := by
    cases provider with
    | cloud cloud => cases cloud <;> exact isToken_word laws (by decide) (by decide) (by decide)
    | manual => exact isToken_word laws (by decide) (by decide) (by decide)
    | publicIp => exact isToken_word laws (by decide) (by decide) (by decide)
  rw [normalizeProvider, htoken.normalizeToken laws, Option.bind_some]
  cases provider with
  | cloud cloud => cases cloud <;> rfl
  | manual => rfl
  | publicIp => rfl

theorem effectiveSource_text (laws : LowerCaseLaws platform) {provider : NodeLocationProvider}
    {source : NodeLocationSource} (h : isValidProviderSource provider source = true) :
    effectiveSource platform provider (some source.text) = some source := by
  have htoken : IsToken platform source.text := by
    cases source <;> exact isToken_word laws (by decide) (by decide) (by decide)
  have hsource : normalizeSource platform (some source.text) = some source := by
    rw [normalizeSource, htoken.normalizeToken laws, Option.bind_some]
    cases source <;> rfl
  rw [effectiveSource, hsource]
  simp only [Option.isNone_some, Bool.and_false, Bool.false_eq_true, if_false, Option.getD_some, h,
    if_true]

/-! ## Cloud locations -/

/-- The text without white space. -/
def stripped (text : String) : String :=
  String.ofList (text.toList.filter fun c => !isJsWhitespace c)

theorem stripped_eq_self_iff {text : String} :
    stripped text = text ↔ ∀ c ∈ text.toList, isJsWhitespace c = false := by
  rw [← String.toList_inj, stripped, String.toList_ofList, List.filter_eq_self]
  simp only [Bool.not_eq_true']

theorem stripped_jsTrim (text : String) : stripped (jsTrim text) = stripped text := by
  have hblank : ∀ l : List Char, (∀ c ∈ l, isJsWhitespace c = true) →
      l.filter (fun c => !isJsWhitespace c) = [] := by
    intro l hl
    rw [List.filter_eq_nil_iff]
    intro c hc
    rw [hl c hc]
    decide
  obtain ⟨before, after, hsplit, hbefore, hafter⟩ :=
    Words.eq_append_trim isJsWhitespace text.toList
  rw [stripped, stripped, toList_jsTrim]
  conv => rhs; rw [hsplit]
  rw [List.filter_append, List.filter_append, hblank before hbefore, hblank after hafter,
    List.nil_append, List.append_nil]

/-- The region in the columns: it is given, or it is what is left of the zone. -/
structure IsRegion (platform : TextPlatform) (region : String) : Prop where
  ne_empty : region ≠ ""
  head : ∀ c ∈ region.toList.head?, isJsWhitespace c = false
  lowered : ∀ c ∈ region.toList, IsLowered platform c

/-- A region that is read again loses its white space. -/
theorem IsRegion.normalizeCloudRegion (laws : LowerCaseLaws platform) {region : String}
    (h : IsRegion platform region) :
    normalizeCloudRegion platform (some region) = some (stripped region) := by
  have htoken := normalizeToken_of_lowered laws h.lowered (jsTrim_ne_empty h.ne_empty h.head)
  rw [NodeLocation.normalizeCloudRegion, htoken, ← stripped_jsTrim region]
  rfl

theorem IsRegion.stripped_ne_empty {region : String} (h : IsRegion platform region) :
    stripped region ≠ "" := by
  intro hempty
  obtain ⟨c, rest, hregion⟩ := List.exists_cons_of_ne_nil
    (mt String.toList_eq_nil_iff.mp h.ne_empty)
  have hc := h.head c (by rw [hregion]; rfl)
  rw [stripped, hregion, List.filter_cons_of_pos (by rw [hc]; rfl), String.ofList_eq_empty_iff]
    at hempty
  exact List.cons_ne_nil _ _ hempty

theorem not_whitespace_of_isLowerLetter {c : Char} (h : isLowerLetter c = true) :
    isJsWhitespace c = false := by
  obtain ⟨hlower, hupper⟩ := Bool.and_eq_true_iff.mp h
  have hlower := UInt32.le_iff_toNat_le.mp (of_decide_eq_true hlower)
  have hupper := UInt32.le_iff_toNat_le.mp (of_decide_eq_true hupper)
  have hbounds : 'a'.val.toNat = 97 ∧ 'z'.val.toNat = 122 := by decide
  by_contra hblank
  have hrange := range_of_isJsWhitespace (Bool.not_eq_false _ ▸ hblank)
  omega

/-- What is dropped from a zone is a letter, or a dash and a letter. -/
theorem dropLetter_append (zone : String) : ∃ dropped,
    zone.toList = (dropLetter zone).toList ++ dropped ∧
      ∀ c ∈ dropped, isJsWhitespace c = false := by
  unfold dropLetter
  split
  next letter rest hreverse =>
    split
    next hletter =>
      refine ⟨[letter], ?_, fun c hc => ?_⟩
      · rw [String.toList_ofList, ← List.reverse_cons, ← hreverse, List.reverse_reverse]
      · rw [List.mem_singleton.mp hc]
        exact not_whitespace_of_isLowerLetter hletter
    next => exact ⟨[], (List.append_nil _).symm, fun c hc => absurd hc List.not_mem_nil⟩
  next => exact ⟨[], (List.append_nil _).symm, fun c hc => absurd hc List.not_mem_nil⟩

theorem dropDashedLetter_append (zone : String) : ∃ dropped,
    zone.toList = (dropDashedLetter zone).toList ++ dropped ∧
      ∀ c ∈ dropped, isJsWhitespace c = false := by
  unfold dropDashedLetter
  split
  next letter rest hreverse =>
    split
    next hletter =>
      refine ⟨['-', letter], ?_, fun c hc => ?_⟩
      · have hzone := congrArg List.reverse hreverse
        rw [List.reverse_reverse, List.reverse_cons, List.reverse_cons, List.append_assoc] at hzone
        rw [String.toList_ofList, hzone]
        rfl
      · rcases List.mem_pair.mp hc with rfl | rfl
        · decide
        · exact not_whitespace_of_isLowerLetter hletter
    next => exact ⟨[], (List.append_nil _).symm, fun c hc => absurd hc List.not_mem_nil⟩
  next => exact ⟨[], (List.append_nil _).symm, fun c hc => absurd hc List.not_mem_nil⟩

/-- A derived region is the zone without some characters at its end, none of them white space. -/
theorem deriveRegion_eq_some {provider : CloudLocationProvider} {zone : Option String}
    {region : String} (h : deriveRegion provider zone = some region) : ∃ text dropped,
      zone = some text ∧ text.toList = region.toList ++ dropped ∧
      ∀ c ∈ dropped, isJsWhitespace c = false := by
  cases provider with
  | azure => exact absurd h (Option.some_ne_none region).symm
  | aws =>
      obtain ⟨text, rfl, rfl⟩ := Option.map_eq_some_iff.mp h
      obtain ⟨dropped, htext, hdropped⟩ := dropLetter_append text
      exact ⟨text, dropped, rfl, htext, hdropped⟩
  | gcp =>
      obtain ⟨text, rfl, rfl⟩ := Option.map_eq_some_iff.mp h
      obtain ⟨dropped, htext, hdropped⟩ := dropDashedLetter_append text
      exact ⟨text, dropped, rfl, htext, hdropped⟩

/-- The region of the report, or one that is derived from its zone. -/
theorem region_cases {provider : CloudLocationProvider} {input : NodeLocationInput}
    {region : String}
    (h : ((normalizeCloudRegion platform input.region).or
      (deriveRegion provider (normalizeToken platform input.zone))).filter (· ≠ "") = some region) :
    region ≠ "" ∧
      ((∃ token, normalizeToken platform input.region = some token ∧ region = stripped token) ∨
        normalizeToken platform input.region = none ∧
          deriveRegion provider (normalizeToken platform input.zone) = some region) := by
  obtain ⟨hor, hne⟩ := Option.filter_eq_some_iff.mp h
  refine ⟨of_decide_eq_true hne, ?_⟩
  rw [normalizeCloudRegion] at hor
  cases htoken : normalizeToken platform input.region with
  | none =>
      rw [htoken] at hor
      exact .inr ⟨rfl, hor⟩
  | some token =>
      rw [htoken] at hor
      exact .inl ⟨token, rfl, (Option.some_inj.mp hor).symm⟩

/-- A report of a region, or of a zone without white space. -/
def RegionStays (platform : TextPlatform) (input : NodeLocationInput) : Prop :=
  (normalizeToken platform input.region).isSome = true ∨
    ∀ zone ∈ input.zone, ∀ c ∈ (jsTrim zone).toList, isJsWhitespace c = false

theorem isRegion_given (laws : LowerCaseLaws platform) {value : Option String} {token : String}
    (htoken : normalizeToken platform value = some token) (hne : stripped token ≠ "") :
    IsRegion platform (stripped token) ∧
      ∀ c ∈ (stripped token).toList, isJsWhitespace c = false := by
  have hblank : ∀ c ∈ (stripped token).toList, isJsWhitespace c = false := by
    intro c hc
    rw [stripped, String.toList_ofList] at hc
    exact Bool.not_eq_true' _ ▸ (List.mem_filter.mp hc).2
  have hlowered : ∀ c ∈ (stripped token).toList, IsLowered platform c := by
    intro c hc
    rw [stripped, String.toList_ofList] at hc
    exact (isToken_of_normalizeToken laws htoken).lowered c (List.mem_of_mem_filter hc)
  exact ⟨⟨hne, fun c hc => hblank c (List.mem_of_mem_head? hc), hlowered⟩, hblank⟩

/-- A derived region has the white space of the zone. -/
theorem isRegion_derived (laws : LowerCaseLaws platform) {provider : CloudLocationProvider}
    {value : Option String} {region : String} (hne : region ≠ "")
    (h : deriveRegion provider (normalizeToken platform value) = some region) :
    IsRegion platform region ∧
      ((∀ c ∈ region.toList, isJsWhitespace c = false) ↔
        ∀ zone ∈ value, ∀ c ∈ (jsTrim zone).toList, isJsWhitespace c = false) := by
  obtain ⟨zone, dropped, hzone, hsplit, hdropped⟩ := deriveRegion_eq_some h
  have htoken := isToken_of_normalizeToken laws hzone
  obtain ⟨-, text, rfl, rfl⟩ := normalizeToken_eq_some hzone
  refine ⟨⟨hne, fun c hc => htoken.head c ?_, fun c hc => htoken.lowered c ?_⟩, ?_⟩
  · rw [hsplit]
    exact List.mem_head?_append_of_mem_head? hc
  · rw [hsplit]
    exact List.mem_append_left dropped hc
  · have hzone : (∀ c ∈ region.toList, isJsWhitespace c = false) ↔
        ∀ c ∈ (jsTrim text).toList, isJsWhitespace c = false := by
      rw [← laws.blanks (jsTrim text), hsplit]
      constructor
      · exact fun hall c hc => (List.mem_append.mp hc).elim (hall c) (hdropped c)
      · exact fun hall c hc => hall c (List.mem_append_left dropped hc)
    rw [hzone]
    constructor
    · intro hall zone hmem
      rwa [← Option.some_inj.mp hmem]
    · exact fun hall => hall text rfl

theorem isRegion_and_iff (laws : LowerCaseLaws platform) {provider : CloudLocationProvider}
    {input : NodeLocationInput} {region : String}
    (h : ((normalizeCloudRegion platform input.region).or
      (deriveRegion provider (normalizeToken platform input.zone))).filter (· ≠ "") = some region) :
    IsRegion platform region ∧
      ((∀ c ∈ region.toList, isJsWhitespace c = false) ↔ RegionStays platform input) := by
  obtain ⟨hne, ⟨token, htoken, rfl⟩ | ⟨hnone, hderived⟩⟩ := region_cases h
  · obtain ⟨hregion, hblank⟩ := isRegion_given laws htoken hne
    exact ⟨hregion, fun _ => .inl (by rw [htoken]; rfl), fun _ => hblank⟩
  · obtain ⟨hregion, hiff⟩ := isRegion_derived laws hne hderived
    refine ⟨hregion, hiff.trans ⟨.inr, fun h => h.resolve_left ?_⟩⟩
    rw [hnone]
    exact Bool.false_ne_true

/-- The columns of a cloud location are a fixed point exactly if no white space is left in the
region. -/
theorem resolveCloudFields_again_iff (laws : LowerCaseLaws platform)
    {provider : CloudLocationProvider} {source : NodeLocationSource} {input : NodeLocationInput}
    {updatedAt : ℤ} {fields : NodeLocationFields}
    (h : resolveCloudFields platform provider source input updatedAt = some fields) :
    resolveCloudFields platform provider source fields.toInput updatedAt = some fields ↔
      RegionStays platform input := by
  obtain ⟨region, hregion, h⟩ := Option.bind_eq_some_iff.mp h
  obtain rfl := Option.some.inj h
  obtain ⟨hisregion, hiff⟩ := isRegion_and_iff laws hregion
  have hagain : normalizeCloudRegion platform (some region) = some (stripped region) :=
    hisregion.normalizeCloudRegion laws
  rw [← hiff, ← stripped_eq_self_iff, resolveCloudFields, NodeLocationFields.toInput]
  simp only [hagain, normalizeToken_again laws, Option.some_or, Option.filter_some,
    decide_eq_true hisregion.stripped_ne_empty, if_true, Option.bind_eq_bind, Option.bind_some,
    pure, Option.some_inj]
  constructor
  · exact congrArg NodeLocationFields.locationRegion
  · intro hsame
    rw [hsame]

/-! ## Locations with a label -/

theorem normalizeCoordinate_number {value : Option Coordinate} {min max parsed : ℚ}
    (h : normalizeCoordinate platform value min max = some parsed) :
    normalizeCoordinate platform (some (.number parsed)) min max = some parsed := by
  obtain ⟨hmin, hmax⟩ := normalizeCoordinate_bounds h
  rw [normalizeCoordinate, Option.bind_some, Option.filter_some, if_pos]
  rw [decide_eq_false (not_lt.mpr hmin), decide_eq_false (not_lt.mpr hmax)]
  rfl

theorem normalizeInputCoordinates_number {latitude longitude : Option Coordinate}
    {coordinates : RegionCoordinate}
    (h : normalizeInputCoordinates platform latitude longitude = some coordinates) :
    normalizeInputCoordinates platform (some (.number coordinates.lat))
      (some (.number coordinates.lng)) = some coordinates := by
  obtain ⟨lat, hlat, h⟩ := Option.bind_eq_some_iff.mp h
  obtain ⟨lng, hlng, h⟩ := Option.bind_eq_some_iff.mp h
  obtain rfl := Option.some.inj h
  rw [normalizeInputCoordinates, normalizeCoordinate_number hlat, normalizeCoordinate_number hlng]
  rfl

/-- The columns of any other location are a fixed point exactly if no label is cut at a blank. -/
theorem resolveLabelledFields_again_iff {provider : NodeLocationProvider}
    {source : NodeLocationSource} {input : NodeLocationInput} {updatedAt : ℤ}
    {fields : NodeLocationFields}
    (h : resolveLabelledFields platform provider source input updatedAt = some fields) :
    resolveLabelledFields platform provider source fields.toInput updatedAt = some fields ↔
      ¬ CutAtBlank input.region ∧ ¬ CutAtBlank input.zone := by
  obtain ⟨region, hregion, h⟩ := Option.bind_eq_some_iff.mp h
  obtain ⟨coordinates, hcoordinates, h⟩ := Option.bind_eq_some_iff.mp h
  obtain rfl := Option.some.inj h
  have hagain := (isLabel_of_normalizeLocationLabel hregion).normalizeLocationLabel
  have hcut := normalizeLocationLabel_again_iff input.region
  rw [hregion, hagain, Option.some_inj] at hcut
  rw [← hcut, ← normalizeLocationLabel_again_iff input.zone, resolveLabelledFields,
    NodeLocationFields.toInput]
  simp only [hagain, Option.map_some, normalizeInputCoordinates_number hcoordinates,
    Option.bind_eq_bind, Option.bind_some, pure, Option.some_inj]
  constructor
  · intro hsame
    exact ⟨congrArg NodeLocationFields.locationRegion hsame,
      congrArg NodeLocationFields.locationZone hsame⟩
  · rintro ⟨hlabel, hzone⟩
    rw [hlabel, hzone]

/-! ## Every location -/

/-- What the columns of a source report leads to. -/
theorem resolveNodeLocationFields_toInput (laws : LowerCaseLaws platform)
    {fields : NodeLocationFields}
    (hsource : isValidProviderSource fields.locationProvider fields.locationSource = true)
    (updatedAt : ℤ) : resolveNodeLocationFields platform (some fields.toInput) updatedAt =
      match fields.locationProvider with
      | .cloud cloud =>
          resolveCloudFields platform cloud fields.locationSource fields.toInput updatedAt
      | .manual =>
          resolveLabelledFields platform .manual fields.locationSource fields.toInput updatedAt
      | .publicIp =>
          resolveLabelledFields platform .publicIp fields.locationSource fields.toInput
            updatedAt := by
  have hprovider := normalizeProvider_text laws fields.locationProvider
  have heffective := effectiveSource_text laws hsource
  rw [resolveNodeLocationFields]
  simp only [Option.getD_some]
  rw [show fields.toInput.provider = some fields.locationProvider.text from rfl, hprovider,
    show fields.toInput.source = some fields.locationSource.text from rfl]
  change (effectiveSource platform fields.locationProvider (some fields.locationSource.text)).bind _
    = _
  rw [heffective]
  rfl

theorem columns_of_cloud {provider : CloudLocationProvider} {source : NodeLocationSource}
    {input : NodeLocationInput} {updatedAt : ℤ} {fields : NodeLocationFields}
    (h : resolveCloudFields platform provider source input updatedAt = some fields) :
    fields.locationProvider = .cloud provider ∧ fields.locationSource = source := by
  obtain ⟨region, -, hfields⟩ := Option.bind_eq_some_iff.mp h
  obtain rfl := Option.some.inj hfields
  exact ⟨rfl, rfl⟩

theorem columns_of_labelled {provider : NodeLocationProvider} {source : NodeLocationSource}
    {input : NodeLocationInput} {updatedAt : ℤ} {fields : NodeLocationFields}
    (h : resolveLabelledFields platform provider source input updatedAt = some fields) :
    fields.locationProvider = provider ∧ fields.locationSource = source := by
  obtain ⟨region, -, h⟩ := Option.bind_eq_some_iff.mp h
  obtain ⟨coordinates, -, hfields⟩ := Option.bind_eq_some_iff.mp h
  obtain rfl := Option.some.inj hfields
  exact ⟨rfl, rfl⟩

end Columns

/-- The reports whose columns may be reported again.  A cloud location needs a region of its own, or
a zone without white space; any other location, labels that are not cut at a blank. -/
def Settles (platform : TextPlatform) (input : NodeLocationInput) : Prop :=
  match normalizeProvider platform input.provider with
  | some (.cloud _) => RegionStays platform input
  | _ => ¬ CutAtBlank input.region ∧ ¬ CutAtBlank input.zone

/-- **A stored location is a fixed point** exactly for these reports. -/
theorem resolveNodeLocationFields_again_iff (platform : TextPlatform)
    (laws : LowerCaseLaws platform) (input : Option NodeLocationInput) (updatedAt : ℤ)
    (fields : NodeLocationFields)
    (h : resolveNodeLocationFields platform input updatedAt = some fields) :
    resolveNodeLocationFields platform (some fields.toInput) updatedAt = some fields ↔
      Settles platform (input.getD {}) := by
  rw [resolveNodeLocationFields_toInput laws (resolveNodeLocationFields_wellFormed h).source]
  obtain ⟨provider, hprovider, h⟩ := Option.bind_eq_some_iff.mp h
  obtain ⟨source, hsource, h⟩ := Option.bind_eq_some_iff.mp h
  rw [Settles, hprovider]
  cases provider with
  | cloud cloud =>
      obtain ⟨hcolumn, hsame⟩ := columns_of_cloud h
      rw [hcolumn, hsame]
      exact resolveCloudFields_again_iff laws h
  | manual =>
      obtain ⟨hcolumn, hsame⟩ := columns_of_labelled h
      rw [hcolumn, hsame]
      exact resolveLabelledFields_again_iff h
  | publicIp =>
      obtain ⟨hcolumn, hsame⟩ := columns_of_labelled h
      rw [hcolumn, hsame]
      exact resolveLabelledFields_again_iff h

/-- A report of a zone alone, and the columns of it. -/
def zoneInput : NodeLocationInput where
  provider := some "gcp"
  zone := some " us-central1-a"

def zoneFields : NodeLocationFields where
  locationProvider := .cloud .gcp
  locationSource := .cloudMetadata
  locationRegion := "us-central1"
  locationZone := some "us-central1-a"
  locationLatitude := some 41.2619
  locationLongitude := some (-95.8608)
  locationUpdatedAt := 1000

theorem zoneInput_settles :
    resolveNodeLocationFields NodeReports.asciiPlatform (some zoneFields.toInput) 1000 =
        some zoneFields ↔
      Settles NodeReports.asciiPlatform zoneInput :=
  resolveNodeLocationFields_again_iff NodeReports.asciiPlatform lowerCaseLaws_ascii
    (some zoneInput) 1000 zoneFields (by decide +kernel)

/-- A blank region, and a zone with a blank before its letter. -/
def spacedInput : NodeLocationInput where
  provider := some "gcp"
  source := some "cloud_metadata"
  region := some "  "
  zone := some "us-central1 -a"

/-- **A stored location changes.**  The derived region ends in a blank and has no coordinates; when
it is reported again it is another region, which has. -/
theorem spacedInput_changes : ∃ fields,
    resolveNodeLocationFields NodeReports.asciiPlatform (some spacedInput) 1000 = some fields ∧
      fields.locationRegion = "us-central1 " ∧ fields.locationLatitude = none ∧
      resolveNodeLocationFields NodeReports.asciiPlatform (some fields.toInput) 1000 =
        some { fields with
          locationRegion := "us-central1"
          locationLatitude := some 41.2619
          locationLongitude := some (-95.8608) } ∧
      resolveNodeLocationFields NodeReports.asciiPlatform (some fields.toInput) 1000 ≠
        some fields := by
  refine ⟨⟨.cloud .gcp, .cloudMetadata, "us-central1 ", some "us-central1 -a", none, none, 1000⟩,
    ?_⟩
  decide +kernel

end NodeLocation
