/-
# Releases of the agent

What `agent-release-catalog.service.ts` reads of a release manifest.  A release is made of texts
that are trimmed and not empty, has an artifact and has notes: what is read has to be one, and the
JSON of a release is read as that release.
-/
import NoderaxApi.Common

namespace ReleaseCatalog

/-! ## Fields -/

@[simp] theorem get_nil (key : String) : JsonObject.get [] key = none := rfl

@[simp] theorem get_cons_self (key : String) (value : Json) (rest : JsonObject) :
    JsonObject.get ((key, value) :: rest) key = some value :=
  List.lookup_cons_self

@[simp] theorem get_cons_of_ne {key other : String} (h : key ≠ other) (value : Json)
    (rest : JsonObject) :
    JsonObject.get ((other, value) :: rest) key = JsonObject.get rest key := by
  have hbeq : (key == other) = false := beq_false_of_ne h
  unfold JsonObject.get
  rw [List.lookup_cons, hbeq]

/-! ## Texts -/

/-- A text that is trimmed and not empty. -/
structure Text where
  value : String
  trimmed : jsTrim value = value
  nonempty : value ≠ ""
  deriving DecidableEq

/-- `readString`. -/
def readString : Option Json → Option Text
  | some (.str s) =>
      if h : jsTrim s = "" then none else some ⟨jsTrim s, jsTrim_jsTrim s, h⟩
  | _ => none

/-- The text as JSON. -/
def Text.toJson (text : Text) : Json := .str text.value

theorem readString_toJson (text : Text) : readString (some text.toJson) = some text := by
  obtain ⟨value, trimmed, nonempty⟩ := text
  simp only [readString, Text.toJson, trimmed, dif_neg nonempty]

/-! ## Artifacts and notes -/

/-- `AgentReleaseArtifactDto`. -/
structure AgentReleaseArtifact where
  binaryUrl : Text
  sha256 : Text
  deriving DecidableEq

/-- `normalizeArtifact`. -/
def normalizeArtifact : Option Json → Option AgentReleaseArtifact
  | some (.obj record) => do
      let binaryUrl ← readString (JsonObject.get record "binaryUrl")
      let sha256 ← readString (JsonObject.get record "sha256")
      return ⟨binaryUrl, sha256⟩
  | _ => none

/-- The artifact as JSON. -/
def AgentReleaseArtifact.toJson (artifact : AgentReleaseArtifact) : Json :=
  .obj [("binaryUrl", artifact.binaryUrl.toJson), ("sha256", artifact.sha256.toJson)]

theorem normalizeArtifact_toJson (artifact : AgentReleaseArtifact) :
    normalizeArtifact (some artifact.toJson) = some artifact := by
  unfold normalizeArtifact AgentReleaseArtifact.toJson
  simp [readString_toJson]

/-- `AgentReleaseArtifactsDto`: one of the two is there. -/
structure AgentReleaseArtifacts where
  amd64 : Option AgentReleaseArtifact
  arm64 : Option AgentReleaseArtifact
  some_artifact : amd64.isSome ∨ arm64.isSome
  deriving DecidableEq

/-- `normalizeArtifacts`. -/
def normalizeArtifacts : Option Json → Option AgentReleaseArtifacts
  | some (.obj record) =>
      let amd64 := normalizeArtifact (JsonObject.get record "amd64")
      let arm64 := normalizeArtifact (JsonObject.get record "arm64")
      if h : amd64.isSome ∨ arm64.isSome then some ⟨amd64, arm64, h⟩ else none
  | _ => none

/-- The artifacts as JSON: an architecture without one is left out. -/
def AgentReleaseArtifacts.toJson (artifacts : AgentReleaseArtifacts) : Json :=
  .obj ((artifacts.amd64.map fun artifact => ("amd64", artifact.toJson)).toList ++
    (artifacts.arm64.map fun artifact => ("arm64", artifact.toJson)).toList)

theorem normalizeArtifacts_toJson (artifacts : AgentReleaseArtifacts) :
    normalizeArtifacts (some artifacts.toJson) = some artifacts := by
  obtain ⟨amd64, arm64, hsome⟩ := artifacts
  unfold normalizeArtifacts AgentReleaseArtifacts.toJson
  have hnone : normalizeArtifact none = none := rfl
  cases amd64 with
  | none =>
      cases arm64 with
      | none => exact absurd hsome (by simp)
      | some arm64 => simp [hnone, normalizeArtifact_toJson]
  | some amd64 =>
      cases arm64 with
      | none => simp [hnone, normalizeArtifact_toJson]
      | some arm64 => simp [normalizeArtifact_toJson]

/-- `AgentReleaseNotesSectionDto`. -/
structure ReleaseNotesSection where
  title : Text
  items : List Text
  some_item : items ≠ []
  deriving DecidableEq

/-- A section of `normalizeNotes`. -/
def normalizeSection : Json → Option ReleaseNotesSection
  | .obj record => do
      let title ← readString (JsonObject.get record "title")
      let items :=
        match JsonObject.get record "items" with
        | some (.arr items) => items.filterMap fun item => readString (some item)
        | _ => []
      if h : items ≠ [] then some ⟨title, items, h⟩ else none
  | _ => none

/-- The section as JSON. -/
def ReleaseNotesSection.toJson (part : ReleaseNotesSection) : Json :=
  .obj [("title", part.title.toJson), ("items", .arr (part.items.map Text.toJson))]

theorem normalizeSection_toJson (part : ReleaseNotesSection) :
    normalizeSection part.toJson = some part := by
  obtain ⟨title, items, hitems⟩ := part
  unfold normalizeSection ReleaseNotesSection.toJson
  simp [readString_toJson, hitems]

/-- The notes of a release: there is a section. -/
structure ReleaseNotes where
  sections : List ReleaseNotesSection
  some_section : sections ≠ []
  deriving DecidableEq

/-- `normalizeNotes`, and `readChangelog` of the releases of the control plane. -/
def normalizeNotes : Option Json → Option ReleaseNotes
  | some (.arr value) =>
      let sections := value.filterMap normalizeSection
      if h : sections ≠ [] then some ⟨sections, h⟩ else none
  | _ => none

/-- The notes as JSON. -/
def ReleaseNotes.toJson (notes : ReleaseNotes) : Json :=
  .arr (notes.sections.map ReleaseNotesSection.toJson)

theorem normalizeNotes_toJson (notes : ReleaseNotes) :
    normalizeNotes (some notes.toJson) = some notes := by
  unfold normalizeNotes ReleaseNotes.toJson
  simp [normalizeSection_toJson, notes.some_section]

/-! ## Releases -/

/-- `AgentReleaseDto`, whose channel is `tag`. -/
structure AgentRelease where
  version : Text
  publishedAt : Text
  commit : Text
  artifacts : AgentReleaseArtifacts
  notes : ReleaseNotes
  deriving DecidableEq

/-- `normalizeManifest`. -/
def normalizeManifest : Json → Option AgentRelease
  | .obj record => do
      let version ← readString (JsonObject.get record "version")
      let publishedAt ← readString (JsonObject.get record "publishedAt")
      let commit ← readString (JsonObject.get record "commit")
      let channel ← readString (JsonObject.get record "channel")
      let artifacts ← normalizeArtifacts (JsonObject.get record "artifacts")
      let notes ← normalizeNotes (JsonObject.get record "notes")
      if channel.value = "tag" then some ⟨version, publishedAt, commit, artifacts, notes⟩ else none
  | _ => none

/-- The release as JSON. -/
def AgentRelease.toJson (release : AgentRelease) : Json :=
  .obj [("version", release.version.toJson), ("publishedAt", release.publishedAt.toJson),
    ("commit", release.commit.toJson), ("channel", .str "tag"),
    ("artifacts", release.artifacts.toJson), ("notes", release.notes.toJson)]

/-- **A release is read back.** -/
theorem normalizeManifest_toJson (release : AgentRelease) :
    normalizeManifest release.toJson = some release := by
  have hchannel : readString (some (.str "tag")) = some ⟨"tag", by decide, by decide⟩ :=
    readString_toJson ⟨"tag", by decide, by decide⟩
  unfold normalizeManifest AgentRelease.toJson
  simp [readString_toJson, hchannel, normalizeArtifacts_toJson, normalizeNotes_toJson]

end ReleaseCatalog
