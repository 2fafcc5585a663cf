/-
# Origins that may call the API

`config/cors.utils.ts`: the configured list and the `Origin` header are normalized alike and
compared.  The URL parser and `String.prototype.toLowerCase` are parameters.
-/
import NoderaxApi.Common

namespace CorsUtils

/-- A text, by its characters. -/
abbrev Text := List Char

/-- The functions of the language that the normalization uses. -/
structure UrlPlatform where
  /-- `new URL(text).origin`, if the constructor does not throw. -/
  origin : Text → Option Text
  /-- `String.prototype.toLowerCase`. -/
  toLowerCase : Text → Text

/-- `String.prototype.trim`. -/
def trim (value : Text) : Text := Words.trim isJsWhitespace value

/-- Whether a text begins and ends with a character. -/
def isBetween (mark : Char) (value : Text) : Bool :=
  value.head? = some mark && value.getLast? = some mark

/-- `unquote`. -/
def unquote (value : Text) : Text :=
  let trimmed := trim value
  if isBetween '"' trimmed || isBetween '\'' trimmed then trim trimmed.tail.dropLast else trimmed

/-- The separator of a scheme. -/
def schemeMark : Text := "://".toList

/-- `value.replace(/^[a-z]+:\/\//i, '')`. -/
def dropScheme (value : Text) : Text :=
  let rest := value.dropWhile Char.isAlpha
  if value.head?.any Char.isAlpha && schemeMark.isPrefixOf rest then rest.drop schemeMark.length
  else value

/-- `[a-z0-9+.-]`, in either case. -/
def isSchemeChar (c : Char) : Bool := c.isAlphanum || c ∈ ['+', '.', '-']

/-- `/^[a-z][a-z0-9+.-]*:\/\//i.test(value)`. -/
def hasExplicitScheme (value : Text) : Bool :=
  value.head?.any Char.isAlpha && schemeMark.isPrefixOf (value.dropWhile isSchemeChar)

/-- The hosts that are reached without TLS. -/
def localHosts : List Text := ["localhost".toList, "127.0.0.1".toList, "[::1]".toList]

section Platform

variable (platform : UrlPlatform)

/-- `extractHostCandidate`. -/
def extractHostCandidate (value : Text) : Text :=
  platform.toLowerCase (trim ((dropScheme (trim value)).takeWhile (· ≠ '/')))

/-- `inferDefaultProtocol`: `http://` for each of the hosts, alone or before a colon. -/
def inferDefaultProtocol (value : Text) : Text :=
  let hostCandidate := extractHostCandidate platform value
  if localHosts.any fun host => hostCandidate = host || (host ++ [':']).isPrefixOf hostCandidate
  then "http://".toList
  else "https://".toList

/-- `value.replace(/\/$/, '')`. -/
def dropSlash (value : Text) : Text := if value.getLast? = some '/' then value.dropLast else value

/-- `normalizeOrigin`. -/
def normalizeOrigin (value : Text) : Text :=
  let normalizedValue := dropSlash (unquote value)
  if normalizedValue = [] ∨ normalizedValue = ['*'] then normalizedValue
  else
    let url :=
      if hasExplicitScheme normalizedValue then normalizedValue
      else inferDefaultProtocol platform normalizedValue ++ normalizedValue
    (platform.origin url).getD normalizedValue

/-- `ParsedCorsOrigins`. -/
structure ParsedCorsOrigins where
  allowAnyOrigin : Bool
  origins : List Text
  deriving DecidableEq, Repr

/-- `value?.trim() || '*'`. -/
def configuredValue (value : Option Text) : Text :=
  match value.map trim with
  | none | some [] => ['*']
  | some trimmed => trimmed

/-- `parseCorsOrigins`. -/
def parseCorsOrigins (value : Option Text) : ParsedCorsOrigins :=
  if configuredValue value = ['*'] then ⟨true, []⟩
  else
    let parts := ((configuredValue value).splitOn ',').map trim
    ⟨false, ((parts.filter (· ≠ [])).map (normalizeOrigin platform)).eraseDups⟩

/-- `createCorsOriginDelegate`: the request goes on, or it fails with a message. -/
def createCorsOriginDelegate (value origin : Option Text) : Except Text Unit :=
  let parsed := parseCorsOrigins platform value
  match origin with
  | none | some [] => .ok ()
  | some origin =>
      let normalizedOrigin := normalizeOrigin platform origin
      if parsed.allowAnyOrigin || normalizedOrigin ∈ parsed.origins then .ok ()
      else .error ("Origin ".toList ++ normalizedOrigin ++ " is not allowed by CORS".toList)

end Platform

/-! ## Origins -/

/-- `host[:port]` splits after the bracket of an address, or before the first colon. -/
def splitHost : Text → Text × Text
  | '[' :: rest =>
      let address := rest.takeWhile (· ≠ ']')
      ('[' :: address ++ [']'], rest.drop (address.length + 1))
  | text => (text.takeWhile (· ≠ ':'), text.dropWhile (· ≠ ':'))

/-- The forms of a host: a name or an address without a colon, or an address in brackets. -/
inductive HostShape : Text → Prop
  | name {host : Text} (hne : host ≠ []) (hchars : ∀ c ∈ host, c ≠ ':' ∧ c ≠ '[') : HostShape host
  | bracketed {address : Text} (haddress : ']' ∉ address) : HostShape ('[' :: address ++ [']'])

/-- The delimiters of a URL, of the list and of a quotation. -/
def delimiters : List Char := ['/', '\\', '?', '#', '@', ',', '"', '\'']

/-- A printing character of ASCII that is no delimiter. -/
def isHostChar (c : Char) : Bool :=
  (0x21 ≤ c.val.toNat && c.val.toNat < 0x7F) && c ∉ delimiters

/-- The digits of a port, after a colon. -/
def portText : Option Text → Text
  | none => []
  | some digits => ':' :: digits

def portNumber (digits : Text) : ℕ := Nat.ofDigitChars 10 digits 0

/-- `host[:port]`. -/
structure Place where
  host : Text
  port : Option Text
  shape : HostShape host
  chars : ∀ c ∈ host, isHostChar c = true
  digits : ∀ digits ∈ port, digits ≠ [] ∧ (∀ c ∈ digits, c.isDigit = true) ∧
    portNumber digits ≤ 65535

def Place.text (place : Place) : Text := place.host ++ portText place.port

/-- `scheme://host[:port]`. -/
structure WebOrigin where
  scheme : Text
  place : Place
  head : scheme.head?.any Char.isAlpha = true
  chars : ∀ c ∈ scheme, isSchemeChar c = true

def WebOrigin.text (o : WebOrigin) : Text := o.scheme ++ schemeMark ++ o.place.text

/-- The text in lower case, for texts of ASCII. -/
def lower (text : Text) : Text := text.map Char.toLower

/-- The default ports of the schemes that have one. -/
def defaultPorts : List (Text × ℕ) :=
  [("http".toList, 80), ("https".toList, 443), ("ws".toList, 80), ("wss".toList, 443),
    ("ftp".toList, 21)]

/-- The default port of a scheme in lower case. -/
def defaultPort (scheme : Text) : Option ℕ := defaultPorts.lookup scheme

/-- An origin as it is compared. -/
structure Site where
  scheme : Text
  host : Text
  port : Option ℕ
  deriving DecidableEq, Repr

/-- The port, or the default port of the scheme. -/
def WebOrigin.port (o : WebOrigin) : Option ℕ :=
  (o.place.port.map portNumber).or (defaultPort (lower o.scheme))

def WebOrigin.site (o : WebOrigin) : Site := ⟨lower o.scheme, lower o.place.host, o.port⟩

/-- One of the five schemes with a default port. -/
def WebOrigin.special (o : WebOrigin) : Bool := (defaultPort (lower o.scheme)).isSome

/-- An origin as it is serialized: without the default port. -/
def serialized (site : Site) : Text :=
  site.scheme ++ schemeMark ++ (site.host ++
    portText (if site.port = defaultPort site.scheme then none
      else site.port.map (Nat.toDigits 10)))

/-- The constructor of `URL` takes the text of an origin. -/
def UrlPlatform.Accepts (platform : UrlPlatform) (o : WebOrigin) : Prop :=
  (platform.origin o.text).isSome = true

/-- What the URL standard says.  An origin of a special scheme is serialized, with the host as
`parseHost` reads it; any other scheme has the origin `null`, where it is accepted, and that depends
on its site alone.  Hosts are read without regard to case, and come out as a name or as an address
in brackets, which is read as itself; so are names of small letters. -/
structure UrlLaws (platform : UrlPlatform) (parseHost : Text → Option Text) : Prop where
  special : ∀ o : WebOrigin, o.special = true → platform.origin o.text =
    (parseHost o.place.host).map fun host => serialized ⟨lower o.scheme, host, o.port⟩
  other : ∀ o : WebOrigin, o.special = false → ∀ origin,
    platform.origin o.text = some origin → origin = "null".toList
  other_site : ∀ o o' : WebOrigin, o.special = false → o.site = o'.site →
    platform.Accepts o → platform.Accepts o'
  host_lower : ∀ host host', lower host = lower host' → parseHost host = parseHost host'
  host_shape : ∀ (place : Place) (host : Text), parseHost place.host = some host → HostShape host
  host_again : ∀ (place : Place) (host : Text), parseHost place.host = some host →
    parseHost host = some host
  host_name : ∀ host : Text, host ≠ [] → (∀ c ∈ host, c.isLower = true) →
    parseHost host = some host
  lowerCase : ∀ text : Text, (∀ c ∈ text, c.val.toNat < 128) →
    platform.toLowerCase text = lower text

end CorsUtils
