/-
# What the notifications show

Whatever a request contains, the mail about it has the tags of its template and no others, its
links lead to the web app, and what it is about is shown as it stands (`mail_shows_request`).  The
same holds of the Telegram messages, where the address of the web app must not contain a quote
(`telegram_shows_event`).

The templates are checked piece by piece, with their holes left out.
-/
import NoderaxApi.NotificationTexts

namespace NotificationsService

open Markup

/-! ## What is written for a character -/

/-- The fate of a character in `escapeHtml`. -/
def escapedChar (c : Char) : List Char :=
  replaceAll '\'' "&#39;" (replaceAll '"' "&quot;" (replaceAll '>' "&gt;"
    (replaceAll '<' "&lt;" (replaceAll '&' "&amp;" [c]))))

/-- The fate of a character in `escapeTelegramHtml`. -/
def telegramChar (c : Char) : List Char :=
  replaceAll '>' "&gt;" (replaceAll '<' "&lt;" (replaceAll '&' "&amp;" [c]))

theorem replaceAll_flatMap (c : Char) (replacement : String) (value : List Char)
    (f : Char → List Char) : replaceAll c replacement (value.flatMap f)
      = value.flatMap fun d => replaceAll c replacement (f d) :=
  List.flatMap_assoc

theorem replaceAll_eq_flatMap (c : Char) (replacement : String) (value : List Char) :
    replaceAll c replacement value = value.flatMap fun d => replaceAll c replacement [d] := by
  conv_lhs => rw [← List.flatMap_singleton' value]
  exact replaceAll_flatMap c replacement value fun d => [d]

theorem escapeHtml_toList (value : String) :
    (escapeHtml value).toList = value.toList.flatMap escapedChar := by
  rw [escapeHtml, String.toList_ofList, replaceAll_eq_flatMap '&']
  simp only [replaceAll_flatMap]
  rfl

theorem escapeHtmlWithBreaks_toList (value : String) :
    (escapeHtmlWithBreaks value).toList
      = value.toList.flatMap fun c => replaceAll '\n' "<br />" (escapedChar c) := by
  rw [escapeHtmlWithBreaks, String.toList_ofList, escapeHtml_toList, replaceAll_flatMap]

theorem escapeTelegramHtml_toList (value : String) :
    (escapeTelegramHtml value).toList = value.toList.flatMap telegramChar := by
  rw [escapeTelegramHtml, String.toList_ofList, replaceAll_eq_flatMap '&']
  simp only [replaceAll_flatMap]
  rfl

theorem replaceAll_of_ne {c d : Char} (replacement : String) (h : d ≠ c) :
    replaceAll c replacement [d] = [d] := by
  rw [replaceAll, List.flatMap_cons, if_neg h, List.flatMap_nil, List.append_nil]

section Characters

variable {H : Type} (p : Place H)

/-- What `escapeHtml` writes for a character is read as that character everywhere. -/
theorem spelling_escapedChar (c : Char) : Spelling p c (escapedChar c) := by
  by_cases hamp : c = '&'
  · subst hamp
    rw [show escapedChar '&' = '&' :: (['a', 'm', 'p'] ++ [';']) by decide]
    exact .reference rfl (by decide)
  by_cases hlt : c = '<'
  · subst hlt
    rw [show escapedChar '<' = '&' :: (['l', 't'] ++ [';']) by decide]
    exact .reference rfl (by decide)
  by_cases hgt : c = '>'
  · subst hgt
    rw [show escapedChar '>' = '&' :: (['g', 't'] ++ [';']) by decide]
    exact .reference rfl (by decide)
  by_cases hquot : c = '"'
  · subst hquot
    rw [show escapedChar '"' = '&' :: (['q', 'u', 'o', 't'] ++ [';']) by decide]
    exact .reference rfl (by decide)
  by_cases hapos : c = '\''
  · subst hapos
    rw [show escapedChar '\'' = '&' :: (['#', '3', '9'] ++ [';']) by decide]
    exact .reference rfl (by decide)
  rw [escapedChar, replaceAll_of_ne _ hamp, replaceAll_of_ne _ hlt, replaceAll_of_ne _ hgt,
    replaceAll_of_ne _ hquot, replaceAll_of_ne _ hapos]
  apply Spelling.itself
  cases p with
  | data => exact ⟨hlt, hamp⟩
  | value t key before => exact ⟨hquot, hamp⟩

/-- So is what `escapeTelegramHtml` writes, except for a quote in an attribute. -/
theorem spelling_telegramChar (c : Char) (hplain : c ≠ '"' ∨ p = .data) :
    Spelling p c (telegramChar c) := by
  by_cases hamp : c = '&'
  · subst hamp
    rw [show telegramChar '&' = '&' :: (['a', 'm', 'p'] ++ [';']) by decide]
    exact .reference rfl (by decide)
  by_cases hlt : c = '<'
  · subst hlt
    rw [show telegramChar '<' = '&' :: (['l', 't'] ++ [';']) by decide]
    exact .reference rfl (by decide)
  by_cases hgt : c = '>'
  · subst hgt
    rw [show telegramChar '>' = '&' :: (['g', 't'] ++ [';']) by decide]
    exact .reference rfl (by decide)
  rw [telegramChar, replaceAll_of_ne _ hamp, replaceAll_of_ne _ hlt, replaceAll_of_ne _ hgt]
  apply Spelling.itself
  cases p with
  | data => exact ⟨hlt, hamp⟩
  | value t key before => exact ⟨hplain.resolve_right (by simp), hamp⟩

/-- A colour is read as it stands. -/
theorem spelling_color {value : CssColor} {c : Char} (hc : c ∈ value.text.toList) :
    Spelling p c [c] := by
  have hplain := List.all_eq_true.mp value.isPlain c hc
  simp only [isPlain, Bool.and_eq_true, decide_eq_true_eq] at hplain
  apply Spelling.itself
  cases p with
  | data => exact hplain.1
  | value t key before => exact ⟨hplain.2, hplain.1.2⟩

end Characters

/-! ## What the insertions are read as -/

/-- What the insertions of a message are for. -/
def Insertion.use : Insertion → Use
  | .text _ => .text
  | .lines _ => .text
  | .url _ => .address
  | .color _ => .value

/-- In a mail, a line break is a tag. -/
def lineTokens (value : String) : List (Token Empty) :=
  value.toList.flatMap fun c =>
    if c = '\n' then [.startTag { name := ['b', 'r'] } true] else [.text (.inl c)]

/-- What the insertions of a message stand for. -/
def insertionFilling (lines : String → List (Token Empty)) (urls : MessageUrl → String) :
    Filling Insertion Empty where
  text
    | .text value => textTokens value.toList
    | .lines value => lines value
    | .url _ => []
    | .color _ => []
  value
    | .text _ => []
    | .lines _ => []
    | .url which => (urls which).toList.map .inl
    | .color value => value.text.toList.map .inl

theorem newline_mem_replaceAll {c : Char} {replacement : String} {value : List Char}
    (hreplacement : '\n' ∉ replacement.toList) (h : '\n' ∈ replaceAll c replacement value) :
    '\n' ∈ value := by
  obtain ⟨d, hd, hmem⟩ := List.mem_flatMap.mp h
  split at hmem
  · exact absurd hmem hreplacement
  · exact List.mem_singleton.mp hmem ▸ hd

theorem newline_not_mem_escapedChar {c : Char} (hc : c ≠ '\n') : '\n' ∉ escapedChar c := by
  intro h
  have h := newline_mem_replaceAll (by decide) h
  have h := newline_mem_replaceAll (by decide) h
  have h := newline_mem_replaceAll (by decide) h
  have h := newline_mem_replaceAll (by decide) h
  have h := newline_mem_replaceAll (by decide) h
  exact hc (List.mem_singleton.mp h).symm

theorem replaceAll_of_not_mem {c : Char} {replacement : String} {value : List Char}
    (h : c ∉ value) : replaceAll c replacement value = value := by
  induction value with
  | nil => rfl
  | cons d value ih =>
      have hd : d ≠ c := fun hd => h (List.mem_cons.mpr (.inl hd.symm))
      rw [replaceAll_eq_flatMap, List.flatMap_cons, ← replaceAll_eq_flatMap,
        replaceAll_of_ne _ hd, ih fun hmem => h (.tail _ hmem)]
      rfl

theorem run_lines (value : String) :
    run (.inside .data) (plain (escapeHtmlWithBreaks value).toList)
      = some ((.inside .data : Mode Empty), lineTokens value) := by
  rw [escapeHtmlWithBreaks_toList]
  refine run_text value.toList fun c _ => ?_
  by_cases hbreak : c = '\n'
  · subst hbreak
    rw [show replaceAll '\n' "<br />" (escapedChar '\n') = ['<', 'b', 'r', ' ', '/', '>'] by decide]
    rfl
  · rw [if_neg hbreak, replaceAll_of_not_mem (newline_not_mem_escapedChar hbreak),
      run_spelling (spelling_escapedChar _ c)]
    rfl

/-- **The insertions of a mail** are read as what they stand for. -/
theorem escapedHtml_reads (urls : MessageUrl → String) :
    (Writing.ofWords (Insertion.escapedHtml urls)).Reads (insertionFilling lineTokens urls)
      Insertion.use where
  text h huse := by
    cases h with
    | text value =>
        simp only [Writing.ofWords, Insertion.escapedHtml, insertionFilling, escapeHtml_toList]
        exact run_spelled_text fun c _ => spelling_escapedChar _ c
    | lines value =>
        simp only [Writing.ofWords, Insertion.escapedHtml, insertionFilling]
        exact run_lines value
    | url which => cases huse
    | color value => cases huse
  value h huse t key before := by
    cases h with
    | text value => exact absurd rfl huse
    | lines value => exact absurd rfl huse
    | url which =>
        simp only [Writing.ofWords, Insertion.escapedHtml, insertionFilling, escapeHtml_toList]
        exact run_spelled_value (fun c _ _ => spelling_escapedChar _ c) before
    | color value =>
        simp only [Writing.ofWords, Insertion.escapedHtml, insertionFilling]
        conv_lhs => rw [← List.flatMap_singleton' value.text.toList]
        exact run_spelled_value (fun c hc _ => spelling_color _ hc) before

/-- **The insertions of a Telegram message** are, if its address has no quote. -/
theorem escapedTelegram_reads {webAppUrl : String}
    (hurl : '"' ∉ (buildFrontendUrl webAppUrl "").toList) :
    (Writing.ofWords (Insertion.escapedTelegram webAppUrl)).Reads
      (insertionFilling (fun value => textTokens value.toList)
        fun _ => buildFrontendUrl webAppUrl "")
      Insertion.use where
  text h huse := by
    cases h with
    | text value =>
        simp only [Writing.ofWords, Insertion.escapedTelegram, insertionFilling,
          escapeTelegramHtml_toList]
        exact run_spelled_text fun c _ => spelling_telegramChar _ c (.inr rfl)
    | lines value =>
        simp only [Writing.ofWords, Insertion.escapedTelegram, insertionFilling,
          escapeTelegramHtml_toList]
        exact run_spelled_text fun c _ => spelling_telegramChar _ c (.inr rfl)
    | url which => cases huse
    | color value => cases huse
  value h huse t key before := by
    cases h with
    | text value => exact absurd rfl huse
    | lines value => exact absurd rfl huse
    | url which =>
        simp only [Writing.ofWords, Insertion.escapedTelegram, insertionFilling,
          escapeTelegramHtml_toList]
        refine run_spelled_value (fun c hc _ => spelling_telegramChar _ c (.inl ?_)) before
        exact fun hquote => hurl (hquote ▸ hc)
    | color value =>
        simp only [Writing.ofWords, Insertion.escapedTelegram, insertionFilling]
        conv_lhs => rw [← List.flatMap_singleton' value.text.toList]
        exact run_spelled_value (fun c hc _ => spelling_color _ hc) before

theorem admits_textTokens {v : Vocabulary} {url : List (Content Empty) → Prop} {value : String}
    {token : Token Empty} (h : token ∈ textTokens value.toList) : v.Admits url token := by
  obtain ⟨c, -, hc⟩ := List.mem_flatMap.mp h
  cases List.mem_singleton.mp hc
  trivial

/-- The texts of a message have no tags of their own but line breaks. -/
theorem admits_insertion {v : Vocabulary} {url : List (Content Empty) → Prop}
    (lines : String → List (Token Empty)) (urls : MessageUrl → String)
    (hlines : ∀ value, ∀ token ∈ lines value, v.Admits url token) (insertion : Insertion) :
    ∀ token ∈ (insertionFilling lines urls).text insertion, v.Admits url token := by
  cases insertion with
  | text value => exact fun token htoken => admits_textTokens htoken
  | lines value => exact hlines value
  | url which => exact fun token htoken => absurd htoken List.not_mem_nil
  | color value => exact fun token htoken => absurd htoken List.not_mem_nil

/-- The value of an attribute is one of the addresses of a message. -/
def LinksTo (urls : MessageUrl → String) (address : List (Content Empty)) : Prop :=
  ∃ which, address = (urls which).toList.map .inl

theorem url_insertion (lines : String → List (Token Empty)) (urls : MessageUrl → String)
    (insertion : Insertion) (huse : insertion.use = .address) :
    LinksTo urls ((insertionFilling lines urls).value insertion) := by
  cases insertion with
  | url which => exact ⟨which, rfl⟩
  | text value => cases huse
  | lines value => cases huse
  | color value => cases huse

/-! ## The mails -/

/-- The tags of the mails. -/
def emailVocabulary : Vocabulary where
  declarations := ["DOCTYPE html"]
  elements := ["html", "body", "div", "table", "tr", "td", "span", "h1", "p", "a", "br"]
  attributes := ["lang", "style", "role", "width", "cellspacing", "cellpadding", "align", "valign",
    "bgcolor"]
  urls := ["href"]

theorem admits_lineTokens {url : List (Content Empty) → Prop} {value : String}
    {token : Token Empty} (h : token ∈ lineTokens value) : emailVocabulary.Admits url token := by
  obtain ⟨c, -, hc⟩ := List.mem_flatMap.mp h
  split at hc
  · cases List.mem_singleton.mp hc
    exact ⟨by decide, fun entry hentry => absurd hentry List.not_mem_nil⟩
  · cases List.mem_singleton.mp hc
    trivial

/-! The parts of a mail, with nothing filled in, each with its check.  One palette stands for all of
them. -/

namespace EmailPart

def head : emailVocabulary.Part Insertion.use :=
  ⟨headHtml (getEmailPalette .default) "" "", _, by repeat constructor, by decide +kernel⟩

def separator : emailVocabulary.Part Insertion.use :=
  ⟨[partBreak], _, by repeat constructor, by decide +kernel⟩

def greeting : emailVocabulary.Part Insertion.use :=
  ⟨greetingHtml (getEmailPalette .default) (some "-"), _, by repeat constructor, by decide +kernel⟩

def paragraph : emailVocabulary.Part Insertion.use :=
  ⟨paragraphsHtml (getEmailPalette .default) [""], _, by repeat constructor, by decide +kernel⟩

def cta : emailVocabulary.Part Insertion.use :=
  ⟨ctaBlock (getEmailPalette .default) "" "", _, by repeat constructor, by decide +kernel⟩

def opening : emailVocabulary.Part Insertion.use :=
  ⟨detailsOpening (getEmailPalette .default), _, by repeat constructor, by decide +kernel⟩

def followedDetail : emailVocabulary.Part Insertion.use :=
  ⟨detailHtml (getEmailPalette .default) true ⟨"", ""⟩, _,
    by repeat constructor, by decide +kernel⟩

def lastDetail : emailVocabulary.Part Insertion.use :=
  ⟨detailHtml (getEmailPalette .default) false ⟨"", ""⟩, _,
    by repeat constructor, by decide +kernel⟩

def closing : emailVocabulary.Part Insertion.use :=
  ⟨detailsClosing, _, by repeat constructor, by decide +kernel⟩

def footnote : emailVocabulary.Part Insertion.use :=
  ⟨footnoteHtml (getEmailPalette .default) (some "-"), _, by repeat constructor, by decide +kernel⟩

def foot : emailVocabulary.Part Insertion.use :=
  ⟨footHtml (getEmailPalette .default) "", _, by repeat constructor, by decide +kernel⟩

end EmailPart

section Parts

variable (palette : EmailPalette)

theorem headHtml_sound (eyebrow title : String) :
    emailVocabulary.Sound Insertion.use (headHtml palette eyebrow title) :=
  .of_part EmailPart.head rfl

theorem greetingHtml_sound (greeting : Option String) :
    emailVocabulary.Sound Insertion.use (greetingHtml palette greeting) := by
  unfold greetingHtml
  split
  · exact .of_part EmailPart.greeting rfl
  · exact .nil

theorem paragraphsHtml_sound (paragraphs : List String) :
    emailVocabulary.Sound Insertion.use (paragraphsHtml palette paragraphs) :=
  .flatMap fun _ _ => .of_part EmailPart.paragraph rfl

theorem ctaHtml_sound (ctaLabel ctaUrl : Option String) :
    emailVocabulary.Sound Insertion.use (ctaHtml palette ctaLabel ctaUrl) := by
  unfold ctaHtml
  split
  · exact .of_part EmailPart.cta rfl
  · exact .nil

theorem detailHtml_sound (isFollowed : Bool) (detail : EmailDetail) :
    emailVocabulary.Sound Insertion.use (detailHtml palette isFollowed detail) := by
  cases isFollowed with
  | false => exact .of_part EmailPart.lastDetail rfl
  | true => exact .of_part EmailPart.followedDetail rfl

theorem detailsHtml_sound (details : List EmailDetail) :
    emailVocabulary.Sound Insertion.use (detailsHtml palette details) := by
  unfold detailsHtml
  split
  · exact .nil
  · have hopening : emailVocabulary.Sound Insertion.use (detailsOpening palette) :=
      .of_part EmailPart.opening rfl
    exact (hopening.append (.flatMap fun entry _ => detailHtml_sound palette _ entry.1)).append
      (.of_part EmailPart.closing rfl)

theorem footnoteHtml_sound (footnote : Option String) :
    emailVocabulary.Sound Insertion.use (footnoteHtml palette footnote) := by
  unfold footnoteHtml
  split
  · exact .of_part EmailPart.footnote rfl
  · exact .nil

theorem footHtml_sound (appUrl : String) :
    emailVocabulary.Sound Insertion.use (footHtml palette appUrl) :=
  .of_part EmailPart.foot rfl

end Parts

theorem emailTemplate_sound (appUrl : String) (input : StyledEmail) :
    emailVocabulary.Sound Insertion.use (emailTemplate appUrl input) := by
  have partBreak_sound : emailVocabulary.Sound Insertion.use [partBreak] :=
    .of_part EmailPart.separator rfl
  unfold emailTemplate
  refine .append (.append (.append (.append (.append (.append (.append (.append (.append (.append
    (headHtml_sound ..) (greetingHtml_sound ..)) partBreak_sound) (paragraphsHtml_sound ..))
    partBreak_sound) (ctaHtml_sound ..)) partBreak_sound) (detailsHtml_sound ..)) partBreak_sound)
    (footnoteHtml_sound ..)) (footHtml_sound ..)

/-- The texts of a mail, other than the values of its details. -/
def StyledEmail.texts (input : StyledEmail) : List String :=
  [input.eyebrow, input.title] ++ input.greeting.toList ++ input.paragraphs ++
    input.details.map (·.label) ++ input.footnote.toList

theorem mem_headHtml (palette : EmailPalette) (eyebrow title : String) :
    shown eyebrow ∈ headHtml palette eyebrow title ∧
      shown title ∈ headHtml palette eyebrow title := by
  simp [headHtml]

theorem mem_paragraphsHtml (palette : EmailPalette) {paragraph : String}
    {paragraphs : List String} (h : paragraph ∈ paragraphs) :
    shown paragraph ∈ paragraphsHtml palette paragraphs :=
  List.mem_flatMap.mpr ⟨paragraph, h, by simp [styledParagraph]⟩

theorem mem_detailsHtml (palette : EmailPalette) {detail : EmailDetail}
    {details : List EmailDetail} (h : detail ∈ details) :
    shown detail.label ∈ detailsHtml palette details ∧
      .text (.lines detail.value) ∈ detailsHtml palette details := by
  obtain ⟨index, hindex⟩ := List.mem_iff_getElem?.mp h
  have hentry : (detail, index) ∈ details.zipIdx := by
    rw [List.mem_zipIdx_iff_getElem?]
    exact hindex
  have hrow : ∀ piece ∈ detailHtml palette (decide (index < details.length - 1)) detail,
      piece ∈ detailsHtml palette details := by
    intro piece hpiece
    rw [detailsHtml, if_neg (List.ne_nil_of_mem h)]
    exact List.mem_append_left _
      (List.mem_append_right _ (List.mem_flatMap.mpr ⟨_, hentry, hpiece⟩))
  constructor
  · apply hrow
    simp [detailHtml]
  · apply hrow
    simp [detailHtml]

theorem mem_optionalText (palette : EmailPalette) {text : String} {value : Option String}
    (h : value = some text) (hne : text ≠ "") :
    shown text ∈ greetingHtml palette value ∧ shown text ∈ footnoteHtml palette value := by
  have htruthy : isTruthy value = true := by
    rw [h]
    exact decide_eq_true hne
  rw [greetingHtml, footnoteHtml, if_pos htruthy, if_pos htruthy, h]
  simp [styledParagraph]

theorem mem_emailTemplate {appUrl text : String} {input : StyledEmail} (h : text ∈ input.texts)
    (hne : text ≠ "") : shown text ∈ emailTemplate appUrl input := by
  simp only [StyledEmail.texts, List.mem_append, List.mem_cons, List.not_mem_nil, or_false,
    Option.mem_toList, List.mem_map] at h
  rcases h with ((((h | h) | h) | h) | ⟨detail, h, rfl⟩) | h
  · subst h
    have hshows := (mem_headHtml (getEmailPalette input.tone) input.eyebrow input.title).1
    simp only [emailTemplate, List.mem_append, hshows, true_or]
  · subst h
    have hshows := (mem_headHtml (getEmailPalette input.tone) input.eyebrow input.title).2
    simp only [emailTemplate, List.mem_append, hshows, true_or]
  · have hshows := (mem_optionalText (getEmailPalette input.tone) h hne).1
    simp only [emailTemplate, List.mem_append, hshows, true_or, or_true]
  · have hshows := mem_paragraphsHtml (getEmailPalette input.tone) h
    simp only [emailTemplate, List.mem_append, hshows, true_or, or_true]
  · have hshows := (mem_detailsHtml (getEmailPalette input.tone) h).1
    simp only [emailTemplate, List.mem_append, hshows, true_or, or_true]
  · have hshows := (mem_optionalText (getEmailPalette input.tone) h hne).2
    simp only [emailTemplate, List.mem_append, hshows, true_or, or_true]

/-- **A mail is its template**, with the texts it is about, whatever these are. -/
theorem styledEmail_read (webAppUrl : String) (input : StyledEmail) :
    ∃ own tokens, read (symbols (emailTemplate (buildFrontendUrl webAppUrl "") input)) = some own ∧
      tokens = own.flatMap (insertionFilling lineTokens (input.urls webAppUrl)).token ∧
      read (plain (buildStyledEmail webAppUrl input).html.toList) = some tokens ∧
      (∀ token ∈ tokens, emailVocabulary.Admits (LinksTo (input.urls webAppUrl)) token) ∧
      (∀ text ∈ input.texts, textTokens text.toList <:+: tokens) ∧
      ∀ detail ∈ input.details, lineTokens detail.value <:+: tokens := by
  have hsound := emailTemplate_sound (buildFrontendUrl webAppUrl "") input
  have hreads := escapedHtml_reads (input.urls webAppUrl)
  simp only [buildStyledEmail]
  obtain ⟨own, hown, hread, hadmits, hshown⟩ := Vocabulary.read_template
    (LinksTo (input.urls webAppUrl)) hreads hsound
    (admits_insertion lineTokens _ fun _ _ ht => admits_lineTokens ht)
    (url_insertion lineTokens (input.urls webAppUrl))
  refine ⟨own, _, hown, rfl, hread, hadmits, fun text htext => ?_, fun detail hdetail => ?_⟩
  · by_cases hne : text = ""
    · rw [hne, textTokens, String.toList_empty, List.flatMap_nil]
      exact List.nil_infix
    · exact hshown (.text text) (mem_emailTemplate htext hne)
  · refine hshown (.lines detail.value) ?_
    have hshows := (mem_detailsHtml (getEmailPalette input.tone) hdetail).2
    simp only [emailTemplate, List.mem_append, hshows, true_or, or_true]

theorem urls_styled (webAppUrl : String) (request : MailRequest) (which : MessageUrl) :
    ∃ path ∈ ["", request.path],
      (request.styled webAppUrl).urls webAppUrl which = buildFrontendUrl webAppUrl path := by
  cases which with
  | app => exact ⟨"", .head _, rfl⟩
  | cta =>
      refine ⟨request.path, .tail _ (.head _), ?_⟩
      cases request <;> rfl

/-- **What a mail shows.**  Whatever a request contains, the mail about it reads as its template
does, token by token, each with its holes filled.  So it has no tags but those of the template,
its links lead to the start page of the web app or to the page of the request, and the texts and
details it is about are shown as they stand. -/
theorem mail_shows_request (webAppUrl : String) (request : MailRequest) :
    ∃ own tokens,
      read (symbols (emailTemplate (buildFrontendUrl webAppUrl "") (request.styled webAppUrl)))
        = some own ∧
      tokens = own.flatMap
        (insertionFilling lineTokens ((request.styled webAppUrl).urls webAppUrl)).token ∧
      read (plain (request.body webAppUrl).html.toList) = some tokens ∧
      (∀ token ∈ tokens, emailVocabulary.Admits (fun address => ∃ path ∈ ["", request.path],
        address = (buildFrontendUrl webAppUrl path).toList.map .inl) token) ∧
      (∀ text ∈ (request.styled webAppUrl).texts, textTokens text.toList <:+: tokens) ∧
      ∀ detail ∈ (request.styled webAppUrl).details, lineTokens detail.value <:+: tokens := by
  obtain ⟨own, tokens, hown, hfilled, hread, hadmits, hshown⟩ :=
    styledEmail_read webAppUrl (request.styled webAppUrl)
  refine ⟨own, tokens, hown, hfilled, hread, fun token htoken =>
    Vocabulary.Admits.imp ?_ (hadmits token htoken), hshown⟩
  rintro address ⟨which, rfl⟩
  obtain ⟨path, hpath, hurl⟩ := urls_styled webAppUrl request which
  exact ⟨path, hpath, by rw [hurl]⟩

/-! ## The Telegram messages -/

/-- The tags of the Telegram messages. -/
def telegramVocabulary : Vocabulary where
  elements := ["b", "code", "a"]
  urls := ["href"]

/-- An event about which nothing is told but its severity. -/
def blankNotice (severity : EventSeverity) : EventNotice where
  type := ""
  message := ""
  severity := severity
  createdAt := 0
  workspaceName := ""
  nodeId := none
  node := none

theorem telegramTemplate_sound (event : EventNotice) :
    telegramVocabulary.Sound Insertion.use (telegramTemplate event) := by
  obtain ⟨type, message, severity, createdAt, workspaceName, nodeId, node⟩ := event
  cases severity with
  | info =>
      have hchecked : telegramVocabulary.Checked Insertion.use
          (telegramTemplate (blankNotice .info)) :=
        ⟨_, by repeat constructor, by decide +kernel⟩
      exact .of_checked hchecked rfl
  | warning =>
      have hchecked : telegramVocabulary.Checked Insertion.use
          (telegramTemplate (blankNotice .warning)) :=
        ⟨_, by repeat constructor, by decide +kernel⟩
      exact .of_checked hchecked rfl
  | critical =>
      have hchecked : telegramVocabulary.Checked Insertion.use
          (telegramTemplate (blankNotice .critical)) :=
        ⟨_, by repeat constructor, by decide +kernel⟩
      exact .of_checked hchecked rfl

/-- The texts of a Telegram message. -/
def EventNotice.texts (event : EventNotice) : List String :=
  [event.type, event.workspaceName, event.severity.toUpperCase, event.nodeDisplay, event.message]

theorem quote_not_mem_url {webAppUrl : String} (h : '"' ∉ webAppUrl.toList) :
    '"' ∉ (buildFrontendUrl webAppUrl "").toList := by
  rw [buildFrontendUrl, String.append_empty, String.toList_ofList]
  split
  · exact fun hmem => h (List.mem_of_mem_dropLast hmem)
  · exact h

/-- What the insertions of a Telegram message stand for. -/
def telegramFilling (webAppUrl : String) : Filling Insertion Empty :=
  insertionFilling (fun value => textTokens value.toList) fun _ => buildFrontendUrl webAppUrl ""

/-- **What a Telegram message shows**: its template, token by token, each with its holes filled;
so the tags of the template, a link to the start page of the web app, and the event as it
stands. -/
theorem telegram_shows_event {webAppUrl : String} (hurl : '"' ∉ webAppUrl.toList)
    (event : EventNotice) :
    ∃ own tokens, read (symbols (telegramTemplate event)) = some own ∧
      tokens = own.flatMap (telegramFilling webAppUrl).token ∧
      read (plain (telegramText webAppUrl event).toList) = some tokens ∧
      (∀ token ∈ tokens, telegramVocabulary.Admits
        (fun address => address = (buildFrontendUrl webAppUrl "").toList.map .inl) token) ∧
      ∀ text ∈ event.texts, textTokens text.toList <:+: tokens := by
  have hreads := escapedTelegram_reads (quote_not_mem_url hurl)
  obtain ⟨own, hown, hread, hadmits, hshown⟩ :=
    Vocabulary.read_template (LinksTo fun _ => buildFrontendUrl webAppUrl "") hreads
      (telegramTemplate_sound event) (admits_insertion _ _ fun _ _ ht => admits_textTokens ht)
      (url_insertion _ _)
  refine ⟨own, _, hown, rfl, hread, fun token htoken =>
    Vocabulary.Admits.imp ?_ (hadmits token htoken), fun text htext => hshown (.text text) ?_⟩
  · rintro address ⟨which, rfl⟩
    rfl
  · simp only [EventNotice.texts, List.mem_cons, List.not_mem_nil, or_false] at htext
    rcases htext with rfl | rfl | rfl | rfl | rfl <;> simp [telegramTemplate, shown]

/-- An event with a message that looks like markup. -/
def markupNotice : EventNotice :=
  { blankNotice .critical with
    type := "node.offline"
    message := "<b>\"&amp;\"</b>" }

theorem telegram_shows_markupNotice :
    ∃ own tokens, read (symbols (telegramTemplate markupNotice)) = some own ∧
      tokens = own.flatMap (telegramFilling "https://app.noderax.net/").token ∧
      read (plain (telegramText "https://app.noderax.net/" markupNotice).toList) = some tokens ∧
      (∀ token ∈ tokens, telegramVocabulary.Admits (fun address =>
        address = (buildFrontendUrl "https://app.noderax.net/" "").toList.map .inl) token) ∧
      ∀ text ∈ markupNotice.texts, textTokens text.toList <:+: tokens :=
  telegram_shows_event (by decide +kernel) markupNotice

end NotificationsService
