/-
# The texts of the notifications

The mails and the Telegram messages of `notifications.service.ts`: `buildStyledEmail` and the four
mails that are made with it, and the text of `sendTelegramMessage`.

They are written as templates.  What comes from a row or a request is a hole, which
`escapeHtml`, `escapeHtmlWithBreaks` or `escapeTelegramHtml` fills.
-/
import NoderaxApi.MarkupReader
import NoderaxApi.Notifications

namespace NotificationsService

open Markup

/-! ## Escaping -/

/-- `value.replace(/c/g, replacement)`. -/
def replaceAll (c : Char) (replacement : String) (value : List Char) : List Char :=
  value.flatMap fun d => if d = c then replacement.toList else [d]

/-- `escapeHtml`. -/
def escapeHtml (value : String) : String :=
  String.ofList (replaceAll '\'' "&#39;" (replaceAll '"' "&quot;" (replaceAll '>' "&gt;"
    (replaceAll '<' "&lt;" (replaceAll '&' "&amp;" value.toList)))))

/-- `escapeHtmlWithBreaks`. -/
def escapeHtmlWithBreaks (value : String) : String :=
  String.ofList (replaceAll '\n' "<br />" (escapeHtml value).toList)

/-- `escapeTelegramHtml`. -/
def escapeTelegramHtml (value : String) : String :=
  String.ofList (replaceAll '>' "&gt;" (replaceAll '<' "&lt;" (replaceAll '&' "&amp;"
    value.toList)))

/-! ## Mails -/

/-- `EmailTone`. -/
inductive EmailTone
  | default
  | warning
  | critical
  deriving DecidableEq, Repr

/-- A character that the reader of a mail takes for itself, in every place. -/
def isPlain (c : Char) : Bool := c ≠ '<' && c ≠ '&' && c ≠ '"'

/-- A colour.  It is written into the styles of a mail as it stands. -/
structure CssColor where
  text : String
  isPlain : text.toList.all isPlain = true := by decide +kernel

/-- What `getEmailPalette` answers. -/
structure EmailPalette where
  accent : CssColor
  badgeBg : CssColor
  badgeText : CssColor
  button : CssColor
  surface : CssColor
  border : CssColor
  title : CssColor
  body : CssColor
  muted : CssColor

/-- `getEmailPalette`. -/
def getEmailPalette : EmailTone → EmailPalette
  | .critical =>
      { accent := { text := "#c2410c" }, badgeBg := { text := "#fff1eb" },
        badgeText := { text := "#b93815" }, button := { text := "#7f1d1d" },
        surface := { text := "#fff5f3" }, border := { text := "#f2d6cf" },
        title := { text := "#211310" }, body := { text := "#4e3c37" },
        muted := { text := "#7d6861" } }
  | .warning =>
      { accent := { text := "#b45309" }, badgeBg := { text := "#fff7e8" },
        badgeText := { text := "#a16207" }, button := { text := "#171717" },
        surface := { text := "#fffbf2" }, border := { text := "#f0e1bf" },
        title := { text := "#211910" }, body := { text := "#52463a" },
        muted := { text := "#7c6f63" } }
  | .default =>
      { accent := { text := "#d65c36" }, badgeBg := { text := "#fff1eb" },
        badgeText := { text := "#c24d29" }, button := { text := "#171717" },
        surface := { text := "#faf6f1" }, border := { text := "#eadfd7" },
        title := { text := "#1d1612" }, body := { text := "#4d433d" },
        muted := { text := "#7b7069" } }

/-- `resolveTone`. -/
def resolveTone : EventSeverity → EmailTone
  | .critical => .critical
  | .warning => .warning
  | .info => .default

/-- `EmailDetail`. -/
structure EmailDetail where
  label : String
  value : String

/-- The input of `buildStyledEmail`. -/
structure StyledEmail where
  eyebrow : String
  title : String
  paragraphs : List String
  greeting : Option String := none
  ctaLabel : Option String := none
  ctaUrl : Option String := none
  details : List EmailDetail := []
  footnote : Option String := none
  tone : EmailTone := .default

/-- `buildFrontendUrl`. -/
def buildFrontendUrl (webAppUrl path : String) : String :=
  let base := webAppUrl.toList
  String.ofList (if base.getLast? = some '/' then base.dropLast else base) ++ path

/-- The two addresses that a message links to. -/
inductive MessageUrl
  | cta
  | app
  deriving DecidableEq, Repr

/-- What is filled into a message: text, text whose lines are kept, an address, or a colour. -/
inductive Insertion
  | text (value : String)
  | lines (value : String)
  | url (which : MessageUrl)
  | color (value : CssColor)

/-- A part of a message. -/
abbrev MessagePiece := Piece Insertion

/-- `${this.escapeHtml(value)}` between the tags. -/
def shown (value : String) : MessagePiece := .text (.text value)

/-- `${palette.…}` in a style. -/
def color (value : CssColor) : MessagePiece := .value (.color value)

/-- `<p style="…">${this.escapeHtml(value)}</p>`. -/
def styledParagraph (style : List MessagePiece) (value : String) : List MessagePiece :=
  [.markup "<p style=\""] ++ style ++ [.markup "\">", shown value, .markup "</p>"]

/-- `paragraphsHtml`. -/
def paragraphsHtml (palette : EmailPalette) (paragraphs : List String) : List MessagePiece :=
  paragraphs.flatMap (styledParagraph [.markup "margin:0 0 14px;color:", color palette.body,
    .markup ";font-size:16px;line-height:1.7;"])

/-- A row of `detailsHtml`; `index < details.length - 1` says whether another one follows. -/
def detailHtml (palette : EmailPalette) (isFollowed : Bool) (detail : EmailDetail) :
    List MessagePiece :=
  [.markup "
                <tr>
                  <td style=\"padding:14px 18px;"] ++
  (if isFollowed then
    [.markup "border-bottom:1px solid ", color palette.border, .markup ";"] else []) ++
  [.markup "\">
                    <div style=\"margin:0 0 4px;color:", color palette.muted,
    .markup ";font-size:12px;font-weight:700;letter-spacing:0.08em;text-transform:uppercase;\">
                      ", shown detail.label, .markup "
                    </div>
                    <div style=\"margin:0;color:", color palette.title,
    .markup ";font-size:15px;line-height:1.6;font-weight:600;\">
                      ", .text (.lines detail.value), .markup "
                    </div>
                  </td>
                </tr>
              "]

/-- `detailsHtml` up to its rows. -/
def detailsOpening (palette : EmailPalette) : List MessagePiece :=
  [.markup "
        <table role=\"presentation\" width=\"100%\" cellspacing=\"0\" cellpadding=\"0\" ",
    .markup "style=\"margin:24px 0 0;border-collapse:separate;border-spacing:0;background:",
    color palette.surface, .markup ";border:1px solid ", color palette.border,
    .markup ";border-radius:18px;\">
          "]

/-- `detailsHtml` after its rows. -/
def detailsClosing : List MessagePiece :=
  [.markup "
        </table>
      "]

/-- `detailsHtml`. -/
def detailsHtml (palette : EmailPalette) (details : List EmailDetail) : List MessagePiece :=
  if details = [] then []
  else
    detailsOpening palette ++
    (details.zipIdx.flatMap fun entry =>
      detailHtml palette (decide (entry.2 < details.length - 1)) entry.1) ++
    detailsClosing

/-- The button, and its address as text. -/
def ctaBlock (palette : EmailPalette) (ctaLabel ctaUrl : String) : List MessagePiece :=
  [.markup "
          <table role=\"presentation\" cellspacing=\"0\" cellpadding=\"0\" ",
    .markup "style=\"margin:26px 0 0;\">
            <tr>
              <td align=\"center\" bgcolor=\"", color palette.button,
    .markup "\" style=\"border-radius:14px;\">
                <a
                  href=\"", .value (.url .cta), .markup "\"
                  style=\"display:inline-block;padding:14px 22px;color:#ffffff;font-size:15px;",
    .markup "font-weight:700;line-height:1;text-decoration:none;\"
                >
                  ", shown ctaLabel, .markup "
                </a>
              </td>
            </tr>
          </table>
          <p style=\"margin:14px 0 0;color:", color palette.muted,
    .markup ";font-size:13px;line-height:1.6;\">
            Button not working? Copy and paste this link into your browser:<br />
            <a href=\"", .value (.url .cta), .markup "\" style=\"color:", color palette.accent,
    .markup ";text-decoration:none;\">", shown ctaUrl, .markup "</a>
          </p>
        "]

/-- `ctaHtml`. -/
def ctaHtml (palette : EmailPalette) (ctaLabel ctaUrl : Option String) : List MessagePiece :=
  if isTruthy ctaLabel && isTruthy ctaUrl then
    ctaBlock palette (ctaLabel.getD "") (ctaUrl.getD "")
  else []

/-- `greetingHtml`. -/
def greetingHtml (palette : EmailPalette) (greeting : Option String) : List MessagePiece :=
  if isTruthy greeting then
    styledParagraph [.markup "margin:0 0 14px;color:", color palette.title,
      .markup ";font-size:16px;line-height:1.7;font-weight:600;"] (greeting.getD "")
  else []

/-- `footnoteHtml`. -/
def footnoteHtml (palette : EmailPalette) (footnote : Option String) : List MessagePiece :=
  if isTruthy footnote then
    styledParagraph [.markup "margin:24px 0 0;color:", color palette.muted,
      .markup ";font-size:13px;line-height:1.7;"] (footnote.getD "")
  else []

/-- The mail up to its greeting. -/
def headHtml (palette : EmailPalette) (eyebrow title : String) : List MessagePiece :=
  [.markup "
        <!DOCTYPE html>
        <html lang=\"en\">
          <body style=\"margin:0;padding:24px;background:#f6f2ed;font-family:-apple-system,",
    .markup "BlinkMacSystemFont,'Segoe UI',sans-serif;\">
            <div style=\"display:none;max-height:0;overflow:hidden;opacity:0;\">
              ", shown title, .markup "
            </div>
            <table role=\"presentation\" width=\"100%\" cellspacing=\"0\" cellpadding=\"0\" ",
    .markup "style=\"border-collapse:collapse;\">
              <tr>
                <td align=\"center\">
                  <table role=\"presentation\" width=\"100%\" cellspacing=\"0\" ",
    .markup "cellpadding=\"0\" style=\"max-width:640px;border-collapse:collapse;\">
                    <tr>
                      <td style=\"padding:0 0 16px;\">
                        <table role=\"presentation\" width=\"100%\" cellspacing=\"0\" ",
    .markup "cellpadding=\"0\" style=\"border-collapse:collapse;\">
                          <tr>
                            <td valign=\"middle\">
                                <span style=\"display:inline-block;color:#171717;",
    .markup "font-size:18px;font-weight:800;letter-spacing:0.01em;",
    .markup "vertical-align:middle;\">Noderax</span>
                            </td>
                            <td align=\"right\" valign=\"middle\">
                              <span style=\"display:inline-block;padding:8px 12px;",
    .markup "border-radius:999px;background:", color palette.badgeBg,
    .markup ";color:", color palette.badgeText,
    .markup ";font-size:11px;font-weight:800;letter-spacing:0.08em;text-transform:uppercase;\">
                                ", shown eyebrow, .markup "
                              </span>
                            </td>
                          </tr>
                        </table>
                      </td>
                    </tr>
                    <tr>
                      <td style=\"background:#ffffff;border:1px solid #eadfd7;",
    .markup "border-radius:26px;padding:36px 34px 30px;",
    .markup "box-shadow:0 14px 34px rgba(23,19,15,0.08);\">
                        <div style=\"margin:0 0 16px;\">
                          <span style=\"display:inline-block;padding:7px 11px;",
    .markup "border-radius:999px;background:", color palette.badgeBg,
    .markup ";color:", color palette.badgeText,
    .markup ";font-size:11px;font-weight:800;letter-spacing:0.08em;text-transform:uppercase;\">
                            Noderax control plane
                          </span>
                        </div>
                        <h1 style=\"margin:0 0 14px;color:", color palette.title,
    .markup ";font-size:30px;line-height:1.2;font-weight:800;letter-spacing:-0.03em;\">
                          ", shown title, .markup "
                        </h1>
                        "]

/-- What stands between the parts of a mail. -/
def partBreak : MessagePiece := .markup "
                        "

/-- The mail from its footnote on. -/
def footHtml (palette : EmailPalette) (appUrl : String) : List MessagePiece :=
  [.markup "
                      </td>
                    </tr>
                    <tr>
                      <td style=\"padding:16px 8px 0;color:#756b65;font-size:12px;",
    .markup "line-height:1.7;text-align:center;\">
                        Sent by Noderax. Open your dashboard at
                        <a href=\"", .value (.url .app), .markup "\" style=\"color:",
    color palette.accent, .markup ";text-decoration:none;\">", shown appUrl, .markup "</a>.
                      </td>
                    </tr>
                  </table>
                </td>
              </tr>
            </table>
          </body>
        </html>
      "]

/-- The template of `html`. -/
def emailTemplate (appUrl : String) (input : StyledEmail) : List MessagePiece :=
  let palette := getEmailPalette input.tone
  headHtml palette input.eyebrow input.title ++
  greetingHtml palette input.greeting ++ [partBreak] ++
  paragraphsHtml palette input.paragraphs ++ [partBreak] ++
  ctaHtml palette input.ctaLabel input.ctaUrl ++ [partBreak] ++
  detailsHtml palette input.details ++ [partBreak] ++
  footnoteHtml palette input.footnote ++
  footHtml palette appUrl

/-- The lines of `textSections`: an empty one is left out after another. -/
def textSections (appUrl : String) (input : StyledEmail) : String :=
  let cta := isTruthy input.ctaLabel && isTruthy input.ctaUrl
  let lines := ["Noderax", input.title, "", input.greeting.getD "", ""] ++
    input.paragraphs.flatMap (fun paragraph => [paragraph, ""]) ++
    [if cta then input.ctaLabel.getD "" ++ ": " ++ input.ctaUrl.getD "" else "", ""] ++
    input.details.flatMap (fun detail => [detail.label ++ ": " ++ detail.value, ""]) ++
    [input.footnote.getD "", "", "Open Noderax: " ++ appUrl]
  "\n".intercalate ((("" :: lines).zip lines).filterMap fun (previous, line) =>
    if line ≠ "" || previous ≠ "" then some line else none)

/-- What is written for an insertion of a mail. -/
def Insertion.escapedHtml (urls : MessageUrl → String) : Insertion → String
  | .text value => escapeHtml value
  | .lines value => escapeHtmlWithBreaks value
  | .url which => escapeHtml (urls which)
  | .color value => value.text

/-- What `buildStyledEmail` answers. -/
structure StyledEmailBody where
  text : String
  html : String

/-- The addresses of a mail. -/
def StyledEmail.urls (webAppUrl : String) (input : StyledEmail) : MessageUrl → String
  | .cta => input.ctaUrl.getD ""
  | .app => buildFrontendUrl webAppUrl ""

/-- `buildStyledEmail`. -/
def buildStyledEmail (webAppUrl : String) (input : StyledEmail) : StyledEmailBody :=
  let appUrl := buildFrontendUrl webAppUrl ""
  { text := textSections appUrl input
    html := write (Insertion.escapedHtml (input.urls webAppUrl))
      (emailTemplate appUrl input) }

/-! ## What the messages are about -/

/-- The abbreviation of a weekday; 1970-01-01 was a Thursday. -/
def weekdayName (days : ℤ) : String :=
  ["Thu", "Fri", "Sat", "Sun", "Mon", "Tue", "Wed"].getD (days % 7).toNat ""

/-- The abbreviation of a month. -/
def monthName (month : ℕ) : String :=
  ["Jan", "Feb", "Mar", "Apr", "May", "Jun", "Jul", "Aug", "Sep", "Oct", "Nov", "Dec"].getD
    (month - 1) ""

/-- The year field of `toUTCString`. -/
def utcYear (year : ℤ) : String := (if year < 0 then "-" else "") ++ padZero 4 year.natAbs

/-- `formatTimestamp`, which is `Date.prototype.toUTCString`. -/
def formatTimestamp (value : ℤ) : String :=
  let days := value / 86400000
  let ms := (value % 86400000).toNat
  let date := civilFromDays days
  weekdayName days ++ ", " ++ padZero 2 date.2.2 ++ " " ++ monthName date.2.1 ++ " " ++
    utcYear date.1 ++ " " ++ padZero 2 (ms / 3600000) ++ ":" ++ padZero 2 (ms / 60000 % 60) ++
    ":" ++ padZero 2 (ms / 1000 % 60) ++ " GMT"

example : formatTimestamp 1773750731000 = "Tue, 17 Mar 2026 12:32:11 GMT" := by decide +kernel

/-- `severity.toUpperCase()`. -/
def EventSeverity.toUpperCase : EventSeverity → String
  | .info => "INFO"
  | .warning => "WARNING"
  | .critical => "CRITICAL"

/-- The name and the id of the node of an event. -/
structure NodeName where
  name : String
  id : Uuid

/-- What is told about an event. -/
structure EventNotice where
  type : String
  message : String
  severity : EventSeverity
  createdAt : ℤ
  workspaceName : String
  nodeId : Option Uuid
  node : Option NodeName

/-- `nodeDisplay`. -/
def EventNotice.nodeDisplay (event : EventNotice) : String :=
  match event.node with
  | some node => node.name ++ " (" ++ node.id ++ ")"
  | none => event.nodeId.getD "n/a"

/-- What a mail is sent for. -/
inductive MailRequest
  | userInvitation (email name token : String) (expiresAt : ℤ)
  | passwordReset (email name token : String) (expiresAt : ℤ)
  | event (notice : EventNotice)
  | enrollmentInitiated (email hostname : String) (expiresAt : ℤ) (hasKnownUser : Bool)

namespace MailRequest

/-- The path that the mail leads to. -/
def path : MailRequest → String
  | .userInvitation _ _ token _ => "/invite/" ++ token
  | .passwordReset _ _ token _ => "/reset-password/" ++ token
  | .event _ => ""
  | .enrollmentInitiated .. => ""

/-- What `buildStyledEmail` is called with by `sendUserInvitation`, `sendPasswordReset`,
`notifyEvent` and `notifyEnrollmentInitiated`. -/
def styled (webAppUrl : String) (request : MailRequest) : StyledEmail :=
  let url := buildFrontendUrl webAppUrl request.path
  match request with
  | .userInvitation email name _ expiresAt =>
      { eyebrow := "Access invitation"
        title := "You have been invited to Noderax"
        greeting := some ("Hello " ++ name ++ ",")
        paragraphs :=
          ["A platform admin invited you to the Noderax control plane.",
            "Activate your account and set your password to start managing workspaces, nodes, " ++
            "and tasks."]
        ctaLabel := some "Activate account"
        ctaUrl := some url
        details :=
          [{ label := "Account email", value := email },
            { label := "Invite expires", value := formatTimestamp expiresAt }]
        footnote := some ("If you were not expecting this invitation, you can safely ignore " ++
          "this email.") }
  | .passwordReset email name _ expiresAt =>
      { eyebrow := "Security"
        title := "Reset your Noderax password"
        greeting := some ("Hello " ++ name ++ ",")
        paragraphs :=
          ["We received a request to reset your Noderax password.",
            "Use the secure link below to choose a new password and regain access."]
        ctaLabel := some "Reset password"
        ctaUrl := some url
        details :=
          [{ label := "Account email", value := email },
            { label := "Reset link expires", value := formatTimestamp expiresAt }]
        footnote := some ("If you did not request this reset, you can ignore this email and " ++
          "your password will stay the same.") }
  | .event notice =>
      { eyebrow := "Event notification"
        title := "Event detected: " ++ notice.type
        paragraphs :=
          ["Noderax recorded an event in workspace \"" ++ notice.workspaceName ++
            "\" that may need attention.", notice.message]
        ctaLabel := some "Open Noderax"
        ctaUrl := some url
        tone := resolveTone notice.severity
        details :=
          [{ label := "Severity", value := notice.severity.toUpperCase },
            { label := "Workspace", value := notice.workspaceName },
            { label := "Node", value := notice.nodeDisplay },
            { label := "Detected at", value := formatTimestamp notice.createdAt }] }
  | .enrollmentInitiated email hostname expiresAt hasKnownUser =>
      { eyebrow := "Enrollment request"
        title := "Enrollment pending for " ++ hostname
        paragraphs :=
          ["A node enrollment request is waiting for review in Noderax.",
            "Use the dashboard to confirm the request and complete the approval flow."]
        ctaLabel := some "Open Noderax"
        ctaUrl := some url
        tone := .warning
        details :=
          [{ label := "Hostname", value := hostname },
            { label := "Requested by", value := email },
            { label := "Known operator", value := if hasKnownUser then "Yes" else "No" },
            { label := "Request expires", value := formatTimestamp expiresAt }] }

/-- The subject of the mail. -/
def subject : MailRequest → String
  | .userInvitation .. => "You have been invited to Noderax"
  | .passwordReset .. => "Reset your Noderax password"
  | .event notice =>
      "[Noderax] " ++ notice.severity.toUpperCase ++ " event: " ++ notice.type
  | .enrollmentInitiated _ hostname _ _ => "[Noderax] Enrollment pending for " ++ hostname

/-- The text and the markup of the mail. -/
def body (webAppUrl : String) (request : MailRequest) : StyledEmailBody :=
  buildStyledEmail webAppUrl (request.styled webAppUrl)

end MailRequest

/-! ## Telegram -/

/-- What is written for an insertion of a Telegram message. -/
def Insertion.escapedTelegram (webAppUrl : String) : Insertion → String
  | .text value => escapeTelegramHtml value
  | .lines value => escapeTelegramHtml value
  | .url _ => escapeTelegramHtml (buildFrontendUrl webAppUrl "")
  | .color value => value.text

/-- `severityEmoji`. -/
def severityEmoji : EventSeverity → String
  | .critical => "🔴"
  | .warning => "🟠"
  | .info => "🔵"

/-- The template of `text`. -/
def telegramTemplate (event : EventNotice) : List MessagePiece :=
  [.markup "<b>", .markup (severityEmoji event.severity),
    .markup " Noderax Event</b>\n\n<b>Type:</b> ", shown event.type, .markup "\n<b>Workspace:</b> ",
    shown event.workspaceName, .markup "\n<b>Severity:</b> ",
    shown event.severity.toUpperCase, .markup "\n<b>Node:</b> ",
    shown event.nodeDisplay, .markup "\n\n<code>",
    shown event.message, .markup "</code>\n\n<a href=\"",
    .value (.url .app), .markup "\">Open Dashboard</a>"]

/-- `text` of `sendTelegramMessage`. -/
def telegramText (webAppUrl : String) (event : EventNotice) : String :=
  write (Insertion.escapedTelegram webAppUrl) (telegramTemplate event)

end NotificationsService
