/-
# The catalogue of agent releases

`getCatalog` and `findRelease` of `agent-release-catalog.service.ts`, cut at their requests.  The
catalogue is kept for five minutes; it is fetched from the CDN, else put together from the
releases on GitHub, and where both fail the one that is kept is answered again.

**`catalog_kept`**: in every interleaving, a catalogue that has a release is never replaced by one
that has none, its date does not go back, its releases are in order, and an answer is older than
five minutes only where both sources have failed.
-/
import NoderaxApi.AgentReleases
import NoderaxApi.Interleaving

namespace ReleaseCatalog

open Interleaving Runs

/-! ## The world -/

/-- `ReleaseCatalogCache`. -/
structure ReleaseCatalogCache where
  checkedAt : ℤ
  releases : List AgentRelease
  deriving DecidableEq

/-- `RELEASE_CACHE_TTL_MS`. -/
def releaseCacheTtlMs : ℤ := 5 * 60 * 1000

/-- What a call answers: a catalogue, with the time of the answer and whether both sources failed
before it; or the release of a version. -/
inductive CatalogAnswer
  | catalog (answered : ReleaseCatalogCache) (answeredAt : ℤ) (failed : Bool)
  | release (version : String) (found : Option AgentRelease)
  deriving DecidableEq

/-- The cache and the clock, and the answers, the latest last. -/
structure CatalogWorld where
  cache : Option ReleaseCatalogCache := none
  clock : ℤ
  answers : List CatalogAnswer := []
  deriving DecidableEq

/-- `isCacheStale`. -/
def isCacheStale (clock : ℤ) (cache : ReleaseCatalogCache) : Bool :=
  releaseCacheTtlMs < clock - cache.checkedAt

/-- A request. -/
inductive CatalogRequest
  | getCatalog (forceRefresh : Bool)
  | findRelease (version : String)

/-- What the catalogue is for. -/
inductive CatalogPurpose
  | answer
  | find (version : String)

/-- What a call awaits. -/
inductive PendingCatalogCall
  | fetchingCdn (purpose : CatalogPurpose)
  | fetchingGithub (purpose : CatalogPurpose)
  /-- A manifest of `fetchCatalogFromGithub`, with the releases that are left and the manifests
  that were read. -/
  | fetchingManifest (purpose : CatalogPurpose) (rest : List Json) (manifests : List AgentRelease)
  /-- `fetchReleaseFromCdn`. -/
  | fetchingRelease (version : String)
  /-- The two requests of `fetchReleaseFromGithub`. -/
  | fetchingTag (version : String)
  | fetchingTagManifest (version : String)

/-- The JSON of a response; `none` where the request fails. -/
abbrev CatalogInput := Option Json

/-- A step of a call. -/
abbrev CatalogStep := CatalogWorld × Option PendingCatalogCall

/-! ## Reading the sources -/

/-- Whether `!value` is false. -/
def isTruthy : Option Json → Bool
  | none | some .null | some (.bool false) => false
  | some (.bool true) | some (.arr _) | some (.obj _) => true
  | some (.num n) => n ≠ 0
  | some (.str s) => s ≠ ""

/-- `value.field` of a value that is not `null` or `undefined`: only a record has it. -/
def fieldOf (field : String) : Json → Option Json
  | .obj record => JsonObject.get record field
  | _ => none

/-- `[0-9A-Za-z._-]`. -/
def isTagChar (c : Char) : Bool := c.isAlphanum || c = '.' || c = '_' || c = '-'

/-- `/^agent-v[0-9A-Za-z._-]+$/`. -/
def isAgentTag (tag : String) : Bool :=
  "agent-v".toList.isPrefixOf tag.toList && tag.toList.drop 7 ≠ [] &&
    (tag.toList.drop 7).all isTagChar

/-- `isSupportedGithubRelease`, `none` where it throws. -/
def isSupportedGithubRelease : Json → Option Bool
  | .null => none
  | release =>
      match fieldOf "tag_name" release with
      | none | some .null => some false
      | some (.str tagName) =>
          some (!isTruthy (fieldOf "draft" release) && !isTruthy (fieldOf "prerelease" release) &&
            isAgentTag (jsTrim tagName))
      | some _ => none

/-- `release.assets?.find(…)`, `none` where it throws. -/
def manifestAsset (release : Json) : Option (Option Json) :=
  match fieldOf "assets" release with
  | none | some .null => some none
  | some (.arr assets) =>
      -- `null` has no `name` to ask for
      match assets.find? fun asset => asset matches .null ||
          fieldOf "name" asset matches some (.str "release-manifest.json") with
      | some .null => none
      | found => some found
  | some _ => none

/-- Whether a release on GitHub has a manifest to fetch; `none` where the check throws. -/
def hasManifest (release : Json) : Option Bool :=
  match isSupportedGithubRelease release with
  | none => none
  | some false => some false
  | some true => (manifestAsset release).map fun asset =>
      asset.any fun asset => isTruthy (fieldOf "browser_download_url" asset)

section

variable (localeLe : String → String → Bool)

/-- The order of `sortReleases`: the latest comes first. -/
def publishedAfter (left right : AgentRelease) : Bool :=
  localeLe right.publishedAt.value left.publishedAt.value

/-- `sortReleases`. -/
def sortReleases (releases : List AgentRelease) : List AgentRelease :=
  releases.mergeSort (publishedAfter localeLe)

/-- What `fetchCatalogFromCdn` reads in a response; `none` where it throws. -/
def readCdnCatalog (payload : Json) : Option (List AgentRelease) :=
  let rawReleases :=
    match payload with
    | .arr releases => releases
    | payload =>
        match fieldOf "releases" payload with
        | some (.arr releases) => releases
        | _ => []
  match rawReleases.filterMap normalizeManifest with
  | [] => none
  | releases => some (sortReleases localeLe releases)

/-! ## Calls -/

/-- The call returns. -/
def CatalogWorld.answer (w : CatalogWorld) (answer : CatalogAnswer) : CatalogStep :=
  ({ w with answers := w.answers ++ [answer] }, none)

/-- What follows once there is a catalogue. -/
def CatalogWorld.serve (w : CatalogWorld) (purpose : CatalogPurpose)
    (catalog : ReleaseCatalogCache) (failed : Bool) : CatalogStep :=
  match purpose with
  | .answer => w.answer (.catalog catalog w.clock failed)
  | .find version =>
      match catalog.releases.find? fun release => release.version.value = version with
      | some release => w.answer (.release version (some release))
      | none => (w, some (.fetchingRelease version))

/-- A source of `refreshCatalog` gave its releases. -/
def refreshed (purpose : CatalogPurpose) (releases : List AgentRelease) (w : CatalogWorld) :
    CatalogStep :=
  let cache : ReleaseCatalogCache := ⟨w.clock, releases⟩
  { w with cache := some cache }.serve purpose cache false

/-- `refreshCatalog` throws. -/
def refreshFailed (purpose : CatalogPurpose) (w : CatalogWorld) : CatalogStep :=
  match w.cache with
  | some cache => w.serve purpose cache true
  | none =>
      let emptyCache : ReleaseCatalogCache := ⟨w.clock, []⟩
      { w with cache := some emptyCache }.serve purpose emptyCache true

/-- `getCatalog`. -/
def getCatalog (purpose : CatalogPurpose) (forceRefresh : Bool) (w : CatalogWorld) : CatalogStep :=
  match w.cache with
  | some cache =>
      if !forceRefresh && !isCacheStale w.clock cache then w.serve purpose cache false
      else (w, some (.fetchingCdn purpose))
  | none => (w, some (.fetchingCdn purpose))

/-- The loop of `fetchCatalogFromGithub` up to its next request, and its end. -/
def nextManifest (purpose : CatalogPurpose) (manifests : List AgentRelease) (w : CatalogWorld) :
    List Json → CatalogStep
  | [] =>
      if manifests = [] then refreshFailed purpose w
      else refreshed purpose (sortReleases localeLe manifests) w
  | release :: rest =>
      match hasManifest release with
      | none => refreshFailed purpose w
      | some false => nextManifest purpose manifests w rest
      | some true => (w, some (.fetchingManifest purpose rest manifests))

/-- The start of a call. -/
def invokeCatalog (request : CatalogRequest) (_ : CatalogInput) (w : CatalogWorld) : CatalogStep :=
  match request with
  | .getCatalog forceRefresh => getCatalog .answer forceRefresh w
  | .findRelease version =>
      let normalizedVersion := jsTrim version
      if normalizedVersion = "" then w.answer (.release normalizedVersion none)
      else getCatalog (.find normalizedVersion) false w

/-- A request of a call is answered. -/
def resumeCatalog (call : PendingCatalogCall) (response : CatalogInput) (w : CatalogWorld) :
    CatalogStep :=
  match call with
  | .fetchingCdn purpose =>
      match response.bind (readCdnCatalog localeLe) with
      | some releases => refreshed purpose releases w
      | none => (w, some (.fetchingGithub purpose))
  | .fetchingGithub purpose =>
      match response with
      | some (.arr releases) => nextManifest localeLe purpose [] w releases
      | _ => refreshFailed purpose w
  | .fetchingManifest purpose rest manifests =>
      match response.bind normalizeManifest with
      | some manifest => nextManifest localeLe purpose (manifests ++ [manifest]) w rest
      | none => nextManifest localeLe purpose manifests w rest
  | .fetchingRelease version =>
      match response.bind normalizeManifest with
      | some release => w.answer (.release version (some release))
      | none => (w, some (.fetchingTag version))
  | .fetchingTag version =>
      match response.bind hasManifest with
      | some true => (w, some (.fetchingTagManifest version))
      | _ => w.answer (.release version none)
  | .fetchingTagManifest version =>
      w.answer (.release version (response.bind normalizeManifest))

/-- The calls. -/
def catalogCalls : Calls CatalogWorld CatalogRequest PendingCatalogCall CatalogInput :=
  ⟨invokeCatalog, resumeCatalog localeLe⟩

/-- Time passes. -/
def catalogEnv (ms : ℕ) (w : CatalogWorld) : CatalogWorld := { w with clock := w.clock + ms }

/-- The calls under way. -/
abbrev CatalogConfig := Config ℕ CatalogWorld PendingCatalogCall

/-- What happens next. -/
abbrev CatalogEvent := Event ℕ CatalogRequest CatalogInput ℕ

/-- One event. -/
abbrev catalogStep : CatalogConfig → CatalogEvent → CatalogConfig :=
  step (catalogCalls localeLe) catalogEnv

end

/-! ## What is kept -/

/-- `localeCompare` orders the texts, some of them alike. -/
structure LocaleOrder (localeLe : String → String → Bool) : Prop where
  trans : ∀ a b c, localeLe a b = true → localeLe b c = true → localeLe a c = true
  total : ∀ a b, (localeLe a b || localeLe b a) = true

section

variable {localeLe : String → String → Bool} {w : CatalogWorld}

/-- The releases are in order. -/
def InOrder (localeLe : String → String → Bool) (releases : List AgentRelease) : Prop :=
  releases.Pairwise fun left right => publishedAfter localeLe left right = true

theorem inOrder_sortReleases (h : LocaleOrder localeLe) (releases : List AgentRelease) :
    InOrder localeLe (sortReleases localeLe releases) := by
  refine List.pairwise_mergeSort ?_ ?_ releases
  · intro a b c hab hbc
    exact h.trans _ _ _ hbc hab
  · intro a b
    exact h.total _ _

theorem sortReleases_ne_nil {releases : List AgentRelease} (h : releases ≠ []) :
    sortReleases localeLe releases ≠ [] := by
  intro hnil
  have hperm := List.mergeSort_perm releases (publishedAfter localeLe)
  rw [sortReleases] at hnil
  rw [hnil] at hperm
  exact h hperm.nil_eq.symm

/-- A catalogue that has a release. -/
def HasReleases (w : CatalogWorld) : Prop := ∃ cache, w.cache = some cache ∧ cache.releases ≠ []

/-- An answer is in order, and recent unless both sources failed. -/
def AnswerHolds (localeLe : String → String → Bool) : CatalogAnswer → Prop
  | .catalog answered answeredAt failed =>
      InOrder localeLe answered.releases ∧ answered.checkedAt ≤ answeredAt ∧
        (failed = false → answeredAt ≤ answered.checkedAt + releaseCacheTtlMs)
  | .release _ _ => True

/-- The catalogue that is kept, and the answers, are in order. -/
structure CatalogHolds (localeLe : String → String → Bool) (w : CatalogWorld) : Prop where
  cache : ∀ cache, w.cache = some cache →
    InOrder localeLe cache.releases ∧ cache.checkedAt ≤ w.clock
  answers : ∀ answer ∈ w.answers, AnswerHolds localeLe answer

/-- From one world to a later one. -/
structure CatalogKept (w w' : CatalogWorld) : Prop where
  clock : w.clock ≤ w'.clock
  cache : ∀ cache, w.cache = some cache → ∃ cache', w'.cache = some cache' ∧
    cache.checkedAt ≤ cache'.checkedAt ∧ (cache.releases ≠ [] → cache'.releases ≠ [])
  answers : ∃ later, w'.answers = w.answers ++ later ∧
    (HasReleases w → ∀ answered answeredAt failed,
      .catalog answered answeredAt failed ∈ later → answered.releases ≠ [])

theorem CatalogKept.hasReleases {w' : CatalogWorld} (h : CatalogKept w w') (hw : HasReleases w) :
    HasReleases w' := by
  obtain ⟨cache, hcache, hreleases⟩ := hw
  obtain ⟨cache', hcache', -, hkept⟩ := h.cache cache hcache
  exact ⟨cache', hcache', hkept hreleases⟩

theorem CatalogKept.refl (w : CatalogWorld) : CatalogKept w w where
  clock := Int.le_refl _
  cache := fun cache hcache => ⟨cache, hcache, Int.le_refl _, id⟩
  answers := ⟨[], (List.append_nil _).symm, fun _ _ _ _ hmem => absurd hmem List.not_mem_nil⟩

theorem CatalogKept.trans {a b c : CatalogWorld} (h : CatalogKept a b) (h' : CatalogKept b c) :
    CatalogKept a c where
  clock := Int.le_trans h.clock h'.clock
  cache := fun cache hcache => by
    obtain ⟨cache', hcache', hdate, hkept⟩ := h.cache cache hcache
    obtain ⟨cache'', hcache'', hdate', hkept'⟩ := h'.cache cache' hcache'
    exact ⟨cache'', hcache'', Int.le_trans hdate hdate', hkept' ∘ hkept⟩
  answers := by
    obtain ⟨later, heq, hlater⟩ := h.answers
    obtain ⟨later', heq', hlater'⟩ := h'.answers
    refine ⟨later ++ later', by rw [heq', heq, List.append_assoc], ?_⟩
    intro ha answered answeredAt failed hmem
    rcases List.mem_append.mp hmem with hold | hnew
    · exact hlater ha _ _ _ hold
    · exact hlater' (h.hasReleases ha) _ _ _ hnew

/-! ## Steps -/

/-- A step that keeps the catalogue. -/
abbrev KeepsCatalog (localeLe : String → String → Bool) (w : CatalogWorld) (next : CatalogStep) :
    Prop :=
  Ascends CatalogKept (CatalogHolds localeLe) (fun _ (_ : PendingCatalogCall) => True) w next

theorem CatalogHolds.wait (h : CatalogHolds localeLe w) (call : PendingCatalogCall) :
    KeepsCatalog localeLe w (w, some call) :=
  ⟨h, CatalogKept.refl w, fun _ _ => trivial⟩

theorem CatalogHolds.answer (h : CatalogHolds localeLe w) {answer : CatalogAnswer}
    (hanswer : AnswerHolds localeLe answer)
    (hreleases : HasReleases w → ∀ answered answeredAt failed,
      answer = .catalog answered answeredAt failed → answered.releases ≠ []) :
    KeepsCatalog localeLe w (w.answer answer) := by
  refine ⟨⟨h.cache, fun other hother => ?_⟩, ⟨Int.le_refl _, (CatalogKept.refl w).cache,
    [answer], rfl, fun hw answered answeredAt failed hmem => ?_⟩, fun _ _ => trivial⟩
  · rcases List.mem_append.mp hother with hold | hnew
    · exact h.answers other hold
    · exact List.mem_singleton.mp hnew ▸ hanswer
  · exact hreleases hw answered answeredAt failed (List.mem_singleton.mp hmem).symm

theorem CatalogHolds.release (h : CatalogHolds localeLe w) (version : String)
    (found : Option AgentRelease) : KeepsCatalog localeLe w (w.answer (.release version found)) :=
  h.answer trivial fun _ _ _ _ heq => CatalogAnswer.noConfusion heq

/-- The catalogue that is kept is served. -/
theorem CatalogHolds.serve (h : CatalogHolds localeLe w) {cache : ReleaseCatalogCache}
    (hcache : w.cache = some cache) (purpose : CatalogPurpose) {failed : Bool}
    (hfresh : failed = false → w.clock ≤ cache.checkedAt + releaseCacheTtlMs) :
    KeepsCatalog localeLe w (w.serve purpose cache failed) := by
  obtain ⟨horder, hdate⟩ := h.cache cache hcache
  unfold CatalogWorld.serve
  split
  · refine h.answer ⟨horder, hdate, hfresh⟩ fun hw answered answeredAt failed' heq => ?_
    obtain ⟨kept, hkept, hreleases⟩ := hw
    obtain ⟨rfl, -, -⟩ := CatalogAnswer.catalog.inj heq
    rw [hcache] at hkept
    exact Option.some.inj hkept ▸ hreleases
  · split
    · exact h.release _ _
    · exact h.wait _

/-- A catalogue is put in the place of one that has no releases where it has none itself. -/
theorem CatalogHolds.replace (h : CatalogHolds localeLe w) {releases : List AgentRelease}
    (horder : InOrder localeLe releases) (hreleases : HasReleases w → releases ≠ [])
    (purpose : CatalogPurpose) (failed : Bool) :
    KeepsCatalog localeLe w
      ({ w with cache := some ⟨w.clock, releases⟩ }.serve purpose ⟨w.clock, releases⟩ failed) := by
  have hholds : CatalogHolds localeLe { w with cache := some ⟨w.clock, releases⟩ } := by
    refine ⟨fun cache hcache => ?_, h.answers⟩
    obtain rfl := Option.some.inj hcache
    exact ⟨horder, Int.le_refl _⟩
  have hstep : CatalogKept w { w with cache := some ⟨w.clock, releases⟩ } := by
    refine ⟨Int.le_refl _, fun cache hcache => ⟨_, rfl, (h.cache cache hcache).2, fun hne => ?_⟩,
      (CatalogKept.refl w).answers⟩
    exact hreleases ⟨cache, hcache, hne⟩
  have hfresh : failed = false → w.clock ≤ w.clock + releaseCacheTtlMs := by
    unfold releaseCacheTtlMs
    omega
  have hserved := hholds.serve rfl purpose hfresh
  exact ⟨hserved.invariant, hstep.trans hserved.ascent, hserved.pending⟩

theorem CatalogHolds.refreshFailed (h : CatalogHolds localeLe w) (purpose : CatalogPurpose) :
    KeepsCatalog localeLe w (refreshFailed purpose w) := by
  unfold ReleaseCatalog.refreshFailed
  split
  next cache hcache => exact h.serve hcache purpose fun hfailed => absurd hfailed (by decide)
  next hnone =>
    refine h.replace List.Pairwise.nil (fun hw => ?_) purpose true
    obtain ⟨cache, hcache, -⟩ := hw
    rw [hnone] at hcache
    cases hcache

theorem CatalogHolds.getCatalog (h : CatalogHolds localeLe w) (purpose : CatalogPurpose)
    (forceRefresh : Bool) : KeepsCatalog localeLe w (getCatalog purpose forceRefresh w) := by
  unfold ReleaseCatalog.getCatalog
  split
  next cache hcache =>
    split
    next hfresh =>
      refine h.serve hcache purpose fun _ => ?_
      simp only [Bool.and_eq_true, Bool.not_eq_true', isCacheStale, decide_eq_false_iff_not]
        at hfresh
      have hage := hfresh.2
      omega
    next => exact h.wait _
  next => exact h.wait _

theorem CatalogHolds.nextManifest (h : CatalogHolds localeLe w) (horder : LocaleOrder localeLe)
    (purpose : CatalogPurpose) (manifests : List AgentRelease) (releases : List Json) :
    KeepsCatalog localeLe w (nextManifest localeLe purpose manifests w releases) := by
  induction releases with
  | nil =>
      unfold ReleaseCatalog.nextManifest
      split
      · exact h.refreshFailed purpose
      next hsome =>
        exact h.replace (inOrder_sortReleases horder manifests)
          (fun _ => sortReleases_ne_nil hsome) purpose false
  | cons release rest ih =>
      unfold ReleaseCatalog.nextManifest
      split
      · exact h.refreshFailed purpose
      · exact ih
      · exact h.wait _

theorem readCdnCatalog_some (horder : LocaleOrder localeLe) {payload : Json}
    {releases : List AgentRelease} (h : readCdnCatalog localeLe payload = some releases) :
    InOrder localeLe releases ∧ releases ≠ [] := by
  unfold readCdnCatalog at h
  simp only at h
  split at h
  · cases h
  next hsome =>
    obtain rfl := Option.some.inj h
    exact ⟨inOrder_sortReleases horder _, sortReleases_ne_nil hsome⟩

theorem keepsCatalog_invoke (h : CatalogHolds localeLe w) (request : CatalogRequest)
    (response : CatalogInput) : KeepsCatalog localeLe w (invokeCatalog request response w) := by
  cases request with
  | getCatalog forceRefresh => exact h.getCatalog .answer forceRefresh
  | findRelease version =>
      simp only [invokeCatalog]
      split
      · exact h.release _ _
      · exact h.getCatalog _ false

theorem keepsCatalog_resume (h : CatalogHolds localeLe w) (horder : LocaleOrder localeLe)
    (call : PendingCatalogCall) (response : CatalogInput) :
    KeepsCatalog localeLe w (resumeCatalog localeLe call response w) := by
  cases call with
  | fetchingCdn purpose =>
      simp only [resumeCatalog]
      split
      next releases hread =>
        obtain ⟨payload, -, hpayload⟩ := Option.bind_eq_some_iff.mp hread
        obtain ⟨hsorted, hsome⟩ := readCdnCatalog_some horder hpayload
        exact h.replace hsorted (fun _ => hsome) purpose false
      next => exact h.wait _
  | fetchingGithub purpose =>
      simp only [resumeCatalog]
      split
      · exact h.nextManifest horder purpose _ _
      · exact h.refreshFailed purpose
  | fetchingManifest purpose rest manifests =>
      simp only [resumeCatalog]
      split
      · exact h.nextManifest horder purpose _ _
      · exact h.nextManifest horder purpose _ _
  | fetchingRelease version =>
      simp only [resumeCatalog]
      split
      · exact h.release _ _
      · exact h.wait _
  | fetchingTag version =>
      simp only [resumeCatalog]
      split
      · exact h.wait _
      · exact h.release _ _
  | fetchingTagManifest version => exact h.release _ _

theorem catalog_outline (horder : LocaleOrder localeLe) :
    MonotoneOutline (catalogCalls localeLe) catalogEnv (fun _ _ _ => True) (fun _ _ _ => True)
      (fun _ _ => True) CatalogKept (CatalogHolds localeLe)
      (fun _ (_ : PendingCatalogCall) => True) where
  refl := CatalogKept.refl
  trans := CatalogKept.trans
  mono := fun _ _ => trivial
  invoke := fun {_ request response} h _ => keepsCatalog_invoke h request response
  resume := fun {_ call response} h _ _ => keepsCatalog_resume h horder call response
  environment := fun {w ms} h _ => by
    have hclock : w.clock ≤ w.clock + ms := by omega
    exact ⟨⟨fun cache hcache =>
        ⟨(h.cache cache hcache).1, Int.le_trans (h.cache cache hcache).2 hclock⟩, h.answers⟩,
      ⟨hclock, (CatalogKept.refl w).cache, (CatalogKept.refl w).answers⟩⟩

/-- **The catalogue is kept.**  In every interleaving of calls, the catalogue and the answers are
in order, an answer is at most five minutes old unless both sources failed before it, and from any
point on the date of the catalogue does not go back, and one that has a release is neither
replaced nor answered by one that has none. -/
theorem catalog_kept (horder : LocaleOrder localeLe) (clock : ℤ) (es₁ es₂ : List CatalogEvent) :
    CatalogHolds localeLe
        (run (catalogStep localeLe) (Config.idle { clock }) (es₁ ++ es₂)).world ∧
      CatalogKept (run (catalogStep localeLe) (Config.idle { clock }) es₁).world
        (run (catalogStep localeLe) (Config.idle { clock }) (es₁ ++ es₂)).world := by
  have hstart : CatalogHolds localeLe { clock } :=
    ⟨fun _ hcache => absurd hcache (Option.some_ne_none _).symm,
      fun _ hanswer => absurd hanswer List.not_mem_nil⟩
  have hgood := ((catalog_outline horder).run_all es₁ (good_idle hstart)).1
  have hlater := (catalog_outline horder).run_all es₂ hgood
  rw [run_append]
  exact ⟨hlater.1.1, hlater.2⟩

end

/-- The texts in the order of their characters, which is that of dates. -/
def codePointLe (left right : String) : Bool := left ≤ right

theorem codePointLe_order : LocaleOrder codePointLe where
  trans := fun _ _ _ hab hbc =>
    decide_eq_true (String.le_trans (of_decide_eq_true hab) (of_decide_eq_true hbc))
  total := fun a b => by
    rcases String.le_total a b with h | h
    · simp [codePointLe, h]
    · simp [codePointLe, h]

/-- A catalogue of the CDN. -/
def cdnPayload : Json :=
  .arr [.obj [("version", .str "1.0.1"), ("publishedAt", .str "2026-04-01T17:00:00.000Z"),
    ("commit", .str "4b825dc"), ("channel", .str "tag"),
    ("artifacts", .obj [("amd64", .obj [("binaryUrl", .str "https://cdn.noderax.net/agent"),
      ("sha256", .str "ef797c81")])]),
    ("notes", .arr [.obj [("title", .str "Added"), ("items", .arr [.str "Updates."])]])]]

/-- The catalogue is fetched. -/
def fetchedRun : List CatalogEvent :=
  [.invoke 0 (.getCatalog false) none, .resume 0 (some cdnPayload)]

/-- Ten minutes later both sources fail. -/
def failedRun : List CatalogEvent :=
  [.env 600000, .invoke 1 (.getCatalog false) none, .resume 1 none, .resume 1 none]

theorem catalog_kept_stale :
    HasReleases (run (catalogStep codePointLe) (Config.idle { clock := 0 }) fetchedRun).world ∧
      CatalogKept (run (catalogStep codePointLe) (Config.idle { clock := 0 }) fetchedRun).world
        (run (catalogStep codePointLe) (Config.idle { clock := 0 })
          (fetchedRun ++ failedRun)).world := by
  refine ⟨?_, (catalog_kept codePointLe_order 0 fetchedRun failedRun).2⟩
  exact ⟨_, rfl, by decide +kernel⟩

end ReleaseCatalog
