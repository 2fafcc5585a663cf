/-
# What the list of origins lets in

The configured list against the origins that it lists: which `Origin` headers `cors.utils.ts` lets
in, for entries with quotes, blanks and a slash around them.  Among the five schemes that have an
origin of their own the list is exact, up to the hosts that the URL standard takes for the same; an
entry of any other scheme lets in every origin of such a scheme, since all of them are `null`.  What
the URL parser does not accept is compared as it is written.

Hosts are written in printable ASCII characters, as in every `Origin` header that a browser sends;
an entry whose host has other characters (`https://bücher.example`) is left out here.
-/
import Mathlib
import NoderaxApi.CorsUtils

namespace CorsUtils

/-! ## Lower case -/

/-- A capital letter becomes a small one, anything else stays. -/
theorem toLower_cases (c : Char) :
    (c.isUpper = true ∧ c.toLower.isLower = true) ∨ c.toLower = c := by
  by_cases h : c.isUpper = true
  · exact .inl ⟨h, by rw [Char.isLower_toLower_eq_isAlpha, Char.isAlpha, h, Bool.true_or]⟩
  · exact .inr (Char.toLower_eq_of_not_isUpper h)

theorem lower_lower (text : Text) : lower (lower text) = lower text := by
  rw [lower, lower, List.map_map]
  exact List.map_congr_left fun c _ => Char.toLower_toLower_eq_toLower c

theorem toLower_eq_iff {c d : Char} (hd : d.isAlpha = false) : c.toLower = d ↔ c = d := by
  rcases toLower_cases c with ⟨hupper, hlower⟩ | hsame
  · constructor
    · rintro rfl
      rw [Char.isAlpha, hlower, Bool.or_true] at hd
      exact absurd hd.symm Bool.false_ne_true
    · rintro rfl
      rw [Char.isAlpha, hupper, Bool.true_or] at hd
      exact absurd hd.symm Bool.false_ne_true
  · rw [hsame]

theorem not_isAlpha_of_isDigit {c : Char} (h : c.isDigit = true) : c.isAlpha = false := by
  rw [Bool.eq_false_iff]
  simp only [Char.isAlpha, Char.isUpper, Char.isLower, Char.isDigit, ne_eq, Bool.or_eq_true,
    Bool.and_eq_true, decide_eq_true_eq, ge_iff_le, UInt32.le_iff_toNat_le] at h ⊢
  have hbounds : 'A'.val.toNat = 65 ∧ 'a'.val.toNat = 97 ∧ '9'.val.toNat = 57 := by decide
  omega

theorem isSchemeChar_toLower {c : Char} (h : isSchemeChar c = true) :
    isSchemeChar c.toLower = true := by
  rcases toLower_cases c with ⟨-, hlower⟩ | hsame
  · rw [isSchemeChar, Char.isAlphanum, Char.isAlpha, hlower, Bool.or_true, Bool.true_or,
      Bool.true_or]
  · rwa [hsame]

theorem mem_lower_iff {d : Char} (hd : d.isAlpha = false) {text : Text} :
    d ∈ lower text ↔ d ∈ text := by
  rw [lower, List.mem_map]
  constructor
  · rintro ⟨c, hc, heq⟩
    rwa [← (toLower_eq_iff hd).mp heq]
  · exact fun hmem => ⟨d, hmem, (toLower_eq_iff hd).mpr rfl⟩

theorem HostShape.lower {host : Text} (h : HostShape host) : HostShape (lower host) := by
  cases h with
  | name hne hchars =>
      refine .name (mt List.map_eq_nil_iff.mp hne) fun c hc => ⟨?_, ?_⟩
      · rintro rfl
        exact (hchars ':' ((mem_lower_iff (by decide)).mp hc)).1 rfl
      · rintro rfl
        exact (hchars '[' ((mem_lower_iff (by decide)).mp hc)).2 rfl
  | @bracketed address haddress =>
      have hlower : CorsUtils.lower ('[' :: address ++ [']']) =
          '[' :: CorsUtils.lower address ++ [']'] := by
        rw [CorsUtils.lower, List.map_append, List.map_cons]
        rfl
      rw [hlower]
      exact .bracketed (mt (mem_lower_iff (by decide)).mp haddress)

/-! ## Splitting and serializing -/

/-- What may follow a host. -/
def FollowsHost (rest : Text) : Prop := ∀ c ∈ rest.head?, c = ':'

theorem followsHost_nil : FollowsHost [] := fun c hc => absurd hc (Option.not_mem_none c)

theorem followsHost_colon (rest : Text) : FollowsHost (':' :: rest) :=
  fun _ hc => (Option.some_inj.mp hc).symm

theorem followsHost_portText (port : Option Text) : FollowsHost (portText port) := by
  cases port with
  | none => exact followsHost_nil
  | some digits => exact followsHost_colon digits

/-- Host and port are read as they were written. -/
theorem splitHost_append {host rest : Text} (h : HostShape host) (hrest : FollowsHost rest) :
    splitHost (host ++ rest) = (host, rest) := by
  cases h with
  | name hne hchars =>
      have htake : (host ++ rest).takeWhile (· ≠ ':') = host ∧
          (host ++ rest).dropWhile (· ≠ ':') = rest := by
        have hall : ∀ c ∈ host, decide (c ≠ ':') = true :=
          fun c hc => decide_eq_true (hchars c hc).1
        rw [List.takeWhile_append_of_pos hall, List.dropWhile_append_of_pos hall]
        cases rest with
        | nil => exact ⟨List.append_nil host, rfl⟩
        | cons c rest =>
            rw [hrest c rfl]
            exact ⟨List.append_nil host, rfl⟩
      obtain ⟨c, tail, rfl⟩ := List.exists_cons_of_ne_nil hne
      have hc := (hchars c List.mem_cons_self).2
      rw [splitHost, htake.1, htake.2]
      · rintro inner ⟨⟩
        exact hc rfl
  | @bracketed address haddress =>
      have hall : ∀ c ∈ address, decide (c ≠ ']') = true := by
        intro c hc
        refine decide_eq_true ?_
        rintro rfl
        exact haddress hc
      have htake : (address ++ ']' :: rest).takeWhile (· ≠ ']') = address := by
        rw [List.takeWhile_append_of_pos hall]
        exact List.append_nil address
      have hshape : '[' :: address ++ [']'] ++ rest = '[' :: (address ++ ']' :: rest) := by simp
      rw [hshape, splitHost, htake]
      simp

theorem hostPort_inj {host host' rest rest' : Text} (h : HostShape host) (h' : HostShape host')
    (hrest : FollowsHost rest) (hrest' : FollowsHost rest')
    (heq : host ++ rest = host' ++ rest') : host = host' ∧ rest = rest' := by
  have hsplit := congrArg splitHost heq
  rw [splitHost_append h hrest, splitHost_append h' hrest'] at hsplit
  exact Prod.mk.inj hsplit

/-- The scheme ends before the colon. -/
theorem dropWhile_scheme {scheme rest : Text} (h : ∀ c ∈ scheme, isSchemeChar c = true) :
    (scheme ++ schemeMark ++ rest).dropWhile isSchemeChar = schemeMark ++ rest ∧
      (scheme ++ schemeMark ++ rest).takeWhile isSchemeChar = scheme := by
  have hmark : isSchemeChar ':' = false := by decide
  have hshape : schemeMark ++ rest = ':' :: '/' :: '/' :: rest := rfl
  rw [List.append_assoc, List.dropWhile_append_of_pos h, List.takeWhile_append_of_pos h, hshape,
    List.dropWhile_cons_of_neg (by rw [hmark]; exact Bool.false_ne_true),
    List.takeWhile_cons_of_neg (by rw [hmark]; exact Bool.false_ne_true), List.append_nil]
  exact ⟨rfl, rfl⟩

theorem scheme_inj {scheme scheme' rest rest' : Text} (h : ∀ c ∈ scheme, isSchemeChar c = true)
    (h' : ∀ c ∈ scheme', isSchemeChar c = true)
    (heq : scheme ++ schemeMark ++ rest = scheme' ++ schemeMark ++ rest') :
    scheme = scheme' ∧ rest = rest' := by
  have htake := congrArg (List.takeWhile isSchemeChar) heq
  have hdrop := congrArg (List.dropWhile isSchemeChar) heq
  rw [(dropWhile_scheme h).2, (dropWhile_scheme h').2] at htake
  rw [(dropWhile_scheme h).1, (dropWhile_scheme h').1] at hdrop
  exact ⟨htake, List.append_cancel_left hdrop⟩

theorem portText_inj {port port' : Option Text} (h : portText port = portText port') :
    port = port' := by
  cases port with
  | none =>
      cases port' with
      | none => rfl
      | some digits => exact absurd h.symm (List.cons_ne_nil _ _)
  | some digits =>
      cases port' with
      | none => exact absurd h (List.cons_ne_nil _ _)
      | some digits' => rw [(List.cons.inj h).2]

/-- **Sites are known from their texts.** -/
theorem serialized_inj {site site' : Site} (hscheme : ∀ c ∈ site.scheme, isSchemeChar c = true)
    (hscheme' : ∀ c ∈ site'.scheme, isSchemeChar c = true) (hhost : HostShape site.host)
    (hhost' : HostShape site'.host) (hport : site.port.isSome = true)
    (hport' : site'.port.isSome = true) (h : serialized site = serialized site') :
    site = site' := by
  obtain ⟨scheme, host, port⟩ := site
  obtain ⟨scheme', host', port'⟩ := site'
  obtain ⟨rfl, hrest⟩ := scheme_inj hscheme hscheme' h
  obtain ⟨rfl, hports⟩ := hostPort_inj hhost hhost' (followsHost_portText _)
    (followsHost_portText _) hrest
  have hdigits := portText_inj hports
  obtain ⟨n, rfl⟩ := Option.isSome_iff_exists.mp hport
  obtain ⟨n', rfl⟩ := Option.isSome_iff_exists.mp hport'
  have hsame : some n = some n' := by
    -- Both ports are left out, or both are written.
    simp only at hdigits
    split at hdigits
    next hdefault =>
      split at hdigits
      next hdefault' => exact hdefault.trans hdefault'.symm
      next => exact absurd hdigits (Option.some_ne_none _).symm
    next =>
      split at hdigits
      next => exact absurd hdigits (Option.some_ne_none _)
      next =>
        have hnumber := congrArg (fun digits => Nat.ofDigitChars 10 digits 0)
          (Option.some_inj.mp hdigits)
        simp only [Nat.ofDigitChars_ten_toDigits] at hnumber
        rw [hnumber]
  rw [hsame]

/-! ## The characters of origins -/

/-- A character of an origin: none that the list or the quotes need. -/
structure TextChar (c : Char) : Prop where
  blank : isJsWhitespace c = false
  ascii : c.val.toNat < 128
  delimiters : c ∉ [',', '"', '\'']

theorem textChar_of_isHostChar {c : Char} (h : isHostChar c = true) : TextChar c ∧ c ≠ '/' := by
  obtain ⟨hrange, hlist⟩ := Bool.and_eq_true_iff.mp h
  obtain ⟨hlower, hupper⟩ := Bool.and_eq_true_iff.mp hrange
  have hlower := of_decide_eq_true hlower
  have hupper := of_decide_eq_true hupper
  have hlist := of_decide_eq_true hlist
  refine ⟨⟨?_, by omega, fun hmem => hlist ?_⟩, fun heq => hlist ?_⟩
  · by_contra hblank
    have := range_of_isJsWhitespace (Bool.not_eq_false _ ▸ hblank)
    omega
  · have hsublist : [',', '"', '\''] ⊆ delimiters := by simp [delimiters]
    exact hsublist hmem
  · rw [heq]
    decide

theorem isHostChar_of_isSchemeChar {c : Char} (h : isSchemeChar c = true) :
    isHostChar c = true := by
  have hlist : c ∉ delimiters := by
    have hnone : delimiters.any isSchemeChar = false := by decide
    exact fun hmem => List.any_eq_false.mp hnone c hmem h
  have hrange : 0x21 ≤ c.val.toNat ∧ c.val.toNat < 0x7F := by
    simp only [isSchemeChar, Char.isAlphanum, Char.isAlpha, Char.isUpper, Char.isLower,
      Char.isDigit, Bool.or_eq_true, Bool.and_eq_true, decide_eq_true_eq, ge_iff_le,
      UInt32.le_iff_toNat_le] at h
    have hbounds : 'A'.val.toNat = 65 ∧ 'Z'.val.toNat = 90 ∧ 'a'.val.toNat = 97 ∧
        'z'.val.toNat = 122 ∧ '0'.val.toNat = 48 ∧ '9'.val.toNat = 57 := by
      decide
    rcases h with h | h
    · omega
    · simp only [List.mem_cons, List.not_mem_nil, or_false] at h
      rcases h with rfl | rfl | rfl
      all_goals decide
  rw [isHostChar, decide_eq_true hrange.1, decide_eq_true hrange.2, decide_eq_true hlist]
  rfl

theorem isHostChar_of_isDigit {c : Char} (h : c.isDigit = true) : isHostChar c = true :=
  isHostChar_of_isSchemeChar (by rw [isSchemeChar, Char.isAlphanum, h, Bool.or_true, Bool.true_or])

theorem Place.isHostChar_text (place : Place) : ∀ c ∈ place.text, isHostChar c = true := by
  intro c hc
  rcases List.mem_append.mp hc with hc | hc
  · exact place.chars c hc
  · cases hport : place.port with
    | none =>
        rw [hport] at hc
        exact absurd hc List.not_mem_nil
    | some digits =>
        rw [hport] at hc
        rcases List.mem_cons.mp hc with rfl | hc
        · decide
        · exact isHostChar_of_isDigit ((place.digits digits hport).2.1 c hc)

theorem HostShape.ne_nil {host : Text} (h : HostShape host) : host ≠ [] := by
  cases h with
  | name hne hchars => exact hne
  | bracketed haddress => exact List.cons_ne_nil _ _

theorem Place.text_ne_nil (place : Place) : place.text ≠ [] :=
  List.append_ne_nil_of_left_ne_nil place.shape.ne_nil _

/-- What is left of an entry when quotes, blanks and the slash are gone. -/
structure IsCore (text : Text) : Prop where
  ne_nil : text ≠ []
  chars : ∀ c ∈ text, TextChar c
  last : ∀ c ∈ text.getLast?, c ≠ '/'
  star : text ≠ ['*']

theorem Place.isCore {place : Place} (hstar : place.text ≠ ['*']) : IsCore place.text where
  ne_nil := place.text_ne_nil
  chars := fun c hc => (textChar_of_isHostChar (place.isHostChar_text c hc)).1
  last := fun c hc =>
    (textChar_of_isHostChar (place.isHostChar_text c (List.mem_of_getLast? hc))).2
  star := hstar

theorem WebOrigin.isCore (o : WebOrigin) : IsCore o.text where
  ne_nil := List.append_ne_nil_of_right_ne_nil _ o.place.text_ne_nil
  chars := by
    intro c hc
    rcases List.mem_append.mp hc with hc | hc
    · rcases List.mem_append.mp hc with hc | hc
      · exact (textChar_of_isHostChar (isHostChar_of_isSchemeChar (o.chars c hc))).1
      · have hmark : schemeMark = [':', '/', '/'] := rfl
        simp only [hmark, List.mem_cons, List.not_mem_nil, or_false] at hc
        rcases hc with rfl | rfl | rfl
        all_goals exact ⟨by decide, by decide, by decide⟩
    · exact (textChar_of_isHostChar (o.place.isHostChar_text c hc)).1
  last := by
    intro c hc
    rw [WebOrigin.text, List.getLast?_append_of_ne_nil _ o.place.text_ne_nil] at hc
    exact (textChar_of_isHostChar (o.place.isHostChar_text c (List.mem_of_getLast? hc))).2
  star := by
    intro h
    have hlength := congrArg List.length h
    rw [WebOrigin.text, List.length_append, List.length_append] at hlength
    have hmark : schemeMark.length = 3 := rfl
    have hone : ['*'].length = 1 := rfl
    omega

/-! ## Entries -/

/-- What an entry lists: an origin, or a host, which the wildcard is not. -/
inductive Listed
  | origin (o : WebOrigin)
  | bare (place : Place) (hwildcard : place.text ≠ ['*'])

/-- The text without blanks, quotes and slash. -/
def Listed.text : Listed → Text
  | .origin o => o.text
  | .bare place _ => place.text

/-- The origin of a host without a scheme. -/
def Place.defaultOrigin (place : Place) : WebOrigin where
  scheme := if localHosts.any (lower place.host = ·) then "http".toList else "https".toList
  place := place
  head := by split <;> decide
  chars := List.all_eq_true.mp (by split <;> decide)

theorem Place.special_defaultOrigin (place : Place) : place.defaultOrigin.special = true := by
  simp only [WebOrigin.special, Place.defaultOrigin]
  split <;> decide

/-- The origin that an entry stands for. -/
def Listed.webOrigin : Listed → WebOrigin
  | .origin o => o
  | .bare place _ => place.defaultOrigin

/-- An entry of the list as it is written: with blanks around it, and maybe in quotes, with blanks
inside them too and a slash at the end. -/
structure Entry where
  listed : Listed
  before : Text := []
  quote : Option Char := none
  innerBefore : Text := []
  slash : Bool := false
  innerAfter : Text := []
  after : Text := []
  blank : (before ++ innerBefore ++ innerAfter ++ after).all isJsWhitespace = true := by decide
  quotes : quote.all (fun mark => mark = '"' || mark = '\'') = true := by decide

theorem Entry.isBlank (entry : Entry) :
    ∀ c ∈ entry.before ++ entry.innerBefore ++ entry.innerAfter ++ entry.after,
      isJsWhitespace c = true :=
  List.all_eq_true.mp entry.blank

theorem Entry.isQuote {entry : Entry} {mark : Char} (h : entry.quote = some mark) :
    mark = '"' ∨ mark = '\'' := by
  have hquotes := entry.quotes
  rw [h, Option.all_some, Bool.or_eq_true_iff] at hquotes
  exact hquotes.imp of_decide_eq_true of_decide_eq_true

/-- The text and the slash. -/
def Entry.content (entry : Entry) : Text :=
  entry.listed.text ++ if entry.slash then ['/'] else []

def Entry.body (entry : Entry) : Text :=
  let inner := entry.innerBefore ++ entry.content ++ entry.innerAfter
  match entry.quote with
  | none => inner
  | some mark => mark :: inner ++ [mark]

def Entry.text (entry : Entry) : Text := entry.before ++ entry.body ++ entry.after

theorem Listed.isCore (listed : Listed) : IsCore listed.text := by
  cases listed with
  | origin o => exact o.isCore
  | bare place hwildcard => exact Place.isCore hwildcard

theorem Entry.content_chars (entry : Entry) : ∀ c ∈ entry.content, TextChar c := by
  intro c hc
  rcases List.mem_append.mp hc with hc | hc
  · exact entry.listed.isCore.chars c hc
  · have hslash : c = '/' := by
      split at hc
      · exact List.mem_singleton.mp hc
      · exact absurd hc List.not_mem_nil
    rw [hslash]
    exact ⟨by decide, by decide, by decide⟩

theorem Entry.content_ends (entry : Entry) :
    (∀ c ∈ entry.content.head?, isJsWhitespace c = false) ∧
      ∀ c ∈ entry.content.getLast?, isJsWhitespace c = false :=
  ⟨fun c hc => (entry.content_chars c (List.mem_of_mem_head? hc)).blank,
    fun c hc => (entry.content_chars c (List.mem_of_getLast? hc)).blank⟩

theorem isBetween_of_textChar {text : Text} (h : ∀ c ∈ text, TextChar c) {mark : Char}
    (hmark : mark = '"' ∨ mark = '\'') : isBetween mark text = false := by
  have hne : text.head? ≠ some mark := by
    intro hhead
    have hdelimiters := (h mark (List.mem_of_mem_head? hhead)).delimiters
    rcases hmark with rfl | rfl
    · exact hdelimiters (by decide)
    · exact hdelimiters (by decide)
  rw [isBetween, decide_eq_false hne, Bool.false_and]

theorem isBetween_quoted (mark : Char) (inner : Text) :
    isBetween mark (mark :: inner ++ [mark]) = true := by
  rw [isBetween, List.getLast?_concat, List.cons_append, List.head?_cons, decide_eq_true rfl]
  rfl

/-- **Blanks and quotes are taken off.** -/
theorem unquote_text (entry : Entry) : unquote entry.text = entry.content := by
  have hblank : ∀ c, c ∈ entry.before ∨ c ∈ entry.innerBefore ∨ c ∈ entry.innerAfter ∨
      c ∈ entry.after → isJsWhitespace c = true := by
    intro c hc
    refine entry.isBlank c ?_
    simp only [List.mem_append]
    tauto
  obtain ⟨hhead, hlast⟩ := entry.content_ends
  -- Without quotes all blanks are at the ends; with quotes the inner ones are trimmed after them.
  cases hquote : entry.quote with
  | none =>
      have htrim : trim entry.text = entry.content := by
        have hshape : entry.text = (entry.before ++ entry.innerBefore) ++ entry.content ++
            (entry.innerAfter ++ entry.after) := by
          rw [Entry.text, Entry.body, hquote]
          simp only [List.append_assoc]
        rw [trim, hshape]
        refine Words.trim_between (fun c hc => hblank c ?_) (fun c hc => hblank c ?_) hhead hlast
        · exact (List.mem_append.mp hc).elim .inl fun hc => .inr (.inl hc)
        · exact .inr (.inr (List.mem_append.mp hc))
      rw [unquote, htrim, isBetween_of_textChar entry.content_chars (.inl rfl),
        isBetween_of_textChar entry.content_chars (.inr rfl)]
      rfl
  | some mark =>
      have hmark := entry.isQuote hquote
      have hmarkBlank : isJsWhitespace mark = false := by
        rcases hmark with rfl | rfl
        · decide
        · decide
      have htrim : trim entry.text =
          mark :: (entry.innerBefore ++ entry.content ++ entry.innerAfter) ++ [mark] := by
        rw [trim, Entry.text, Entry.body, hquote]
        refine Words.trim_between (fun c hc => hblank c (.inl hc))
          (fun c hc => hblank c (.inr (.inr (.inr hc)))) (fun c hc => ?_) fun c hc => ?_
        · rwa [← Option.some_inj.mp hc]
        · rw [List.getLast?_concat] at hc
          rwa [← Option.some_inj.mp hc]
      have hquoted :
          (isBetween '"' (trim entry.text) || isBetween '\'' (trim entry.text)) = true := by
        rw [htrim]
        rcases hmark with rfl | rfl
        · rw [isBetween_quoted, Bool.true_or]
        · rw [isBetween_quoted, Bool.or_true]
      have hinner : trim (entry.innerBefore ++ entry.content ++ entry.innerAfter) = entry.content :=
        Words.trim_between (fun c hc => hblank c (.inr (.inl hc)))
          (fun c hc => hblank c (.inr (.inr (.inl hc)))) hhead hlast
      rw [unquote, if_pos hquoted, htrim, List.cons_append, List.tail_cons, List.dropLast_concat,
        hinner]

theorem dropSlash_content (entry : Entry) : dropSlash entry.content = entry.listed.text := by
  unfold dropSlash Entry.content
  cases entry.slash with
  | false =>
      have hlast : entry.listed.text.getLast? ≠ some '/' :=
        fun h => entry.listed.isCore.last '/' h rfl
      simp only [Bool.false_eq_true, if_false, List.append_nil, if_neg hlast]
  | true => simp only [if_true, List.getLast?_concat, List.dropLast_concat]

/-! ## Schemes -/

theorem hasExplicitScheme_origin (o : WebOrigin) : hasExplicitScheme o.text = true := by
  have hmark : schemeMark.isPrefixOf (schemeMark ++ o.place.text) = true :=
    List.isPrefixOf_iff_prefix.mpr (List.prefix_append _ _)
  have hhead : o.text.head?.any Char.isAlpha = true := by
    have hscheme := o.head
    cases h : o.scheme with
    | nil =>
        rw [h] at hscheme
        exact absurd hscheme Bool.false_ne_true
    | cons c rest =>
        rw [h] at hscheme
        rw [WebOrigin.text, h]
        exact hscheme
  rw [hasExplicitScheme, hhead, WebOrigin.text, (dropWhile_scheme o.chars).1, hmark]
  rfl

/-- Without a slash there is no scheme. -/
theorem not_isPrefixOf_of_no_slash {text : Text} (h : '/' ∉ text) :
    schemeMark.isPrefixOf text = false := by
  rw [Bool.eq_false_iff]
  intro hprefix
  obtain ⟨rest, rfl⟩ := List.isPrefixOf_iff_prefix.mp hprefix
  exact h (List.mem_append_left rest (by decide))

theorem Place.no_slash (place : Place) : '/' ∉ place.text :=
  fun h => (textChar_of_isHostChar (place.isHostChar_text '/' h)).2 rfl

theorem hasExplicitScheme_place (place : Place) : hasExplicitScheme place.text = false := by
  have hrest : '/' ∉ place.text.dropWhile isSchemeChar :=
    fun h => place.no_slash ((List.dropWhile_sublist _).subset h)
  rw [hasExplicitScheme, not_isPrefixOf_of_no_slash hrest, Bool.and_false]

theorem dropScheme_place (place : Place) : dropScheme place.text = place.text := by
  have hrest : '/' ∉ place.text.dropWhile Char.isAlpha :=
    fun h => place.no_slash ((List.dropWhile_sublist _).subset h)
  rw [dropScheme]
  simp only [not_isPrefixOf_of_no_slash hrest, Bool.and_false, Bool.false_eq_true, if_false]

theorem trim_place (place : Place) : trim place.text = place.text :=
  Words.trim_of_not_sep fun c hc => (textChar_of_isHostChar (place.isHostChar_text c hc)).1.blank

section Laws

variable {platform : UrlPlatform} {parseHost : Text → Option Text}

theorem extractHostCandidate_place (laws : UrlLaws platform parseHost) (place : Place) :
    extractHostCandidate platform place.text = lower place.text := by
  have htake : place.text.takeWhile (· ≠ '/') = place.text := by
    rw [List.takeWhile_eq_self_iff]
    intro c hc
    exact decide_eq_true (textChar_of_isHostChar (place.isHostChar_text c hc)).2
  rw [extractHostCandidate, trim_place, dropScheme_place, htake, trim_place]
  exact laws.lowerCase _ fun c hc => (textChar_of_isHostChar (place.isHostChar_text c hc)).1.ascii

theorem lower_place (place : Place) :
    lower place.text = lower place.host ++ portText place.port := by
  have hport : lower (portText place.port) = portText place.port := by
    cases hport : place.port with
    | none => rfl
    | some digits =>
        have hsame : ∀ c ∈ digits, c.toLower = c := by
          intro c hc
          have hdigit := (place.digits digits hport).2.1 c hc
          exact (toLower_eq_iff (not_isAlpha_of_isDigit hdigit)).mpr rfl
        rw [lower, portText, List.map_cons, List.map_congr_left hsame, List.map_id']
        rfl
  rw [Place.text, lower, List.map_append, ← lower, ← lower, hport]

theorem hostShape_of_all {host : Text} (hne : host ≠ [])
    (hchars : (host.all fun c => c ≠ ':' && c ≠ '[') = true) : HostShape host := by
  refine .name hne fun c hc => ?_
  have hc := List.all_eq_true.mp hchars c hc
  rw [Bool.and_eq_true_iff] at hc
  exact ⟨of_decide_eq_true hc.1, of_decide_eq_true hc.2⟩

theorem hostShape_local : ∀ host ∈ localHosts, HostShape host := by
  intro host hhost
  simp only [localHosts, List.mem_cons, List.not_mem_nil, or_false] at hhost
  rcases hhost with rfl | rfl | rfl
  · exact hostShape_of_all (by decide) (by decide)
  · exact hostShape_of_all (by decide) (by decide)
  · exact @HostShape.bracketed "::1".toList (by decide)

/-- A host is one of those without TLS if it is, or begins before a colon with, one of them. -/
theorem isLocal_iff (place : Place) {host : Text} (hhost : HostShape host) :
    (decide (lower place.text = host) || (host ++ [':']).isPrefixOf (lower place.text)) = true ↔
      lower place.host = host := by
  rw [Bool.or_eq_true_iff, decide_eq_true_eq, List.isPrefixOf_iff_prefix, lower_place]
  have hshape := place.shape.lower
  have hport := followsHost_portText place.port
  constructor
  · rintro (heq | ⟨rest, heq⟩)
    · exact (hostPort_inj hshape hhost hport followsHost_nil
        (heq.trans (List.append_nil host).symm)).1
    · rw [List.append_assoc] at heq
      exact (hostPort_inj hshape hhost hport (followsHost_colon rest) heq.symm).1
  · intro heq
    rw [heq]
    cases place.port with
    | none => exact .inl (List.append_nil host)
    | some digits =>
        refine .inr ⟨digits, ?_⟩
        rw [List.append_assoc]
        rfl

theorem inferDefaultProtocol_place (laws : UrlLaws platform parseHost) (place : Place) :
    inferDefaultProtocol platform place.text = place.defaultOrigin.scheme ++ schemeMark := by
  have hany : (localHosts.any fun host => decide (lower place.text = host) ||
      (host ++ [':']).isPrefixOf (lower place.text)) =
      localHosts.any (lower place.host = ·) := by
    rw [Bool.eq_iff_iff, List.any_eq_true, List.any_eq_true]
    refine exists_congr fun host => and_congr_right fun hhost => ?_
    rw [isLocal_iff place (hostShape_local host hhost), decide_eq_true_eq]
  rw [inferDefaultProtocol, extractHostCandidate_place laws]
  simp only [hany, Place.defaultOrigin]
  split
  · rfl
  · rfl

/-- **What an entry is compared as**: the origin that the URL parser reads from it, or its text. -/
theorem normalizeOrigin_text (laws : UrlLaws platform parseHost) (entry : Entry) :
    normalizeOrigin platform entry.text =
      (platform.origin entry.listed.webOrigin.text).getD entry.listed.text := by
  have hcore := entry.listed.isCore
  have hstars : ¬ (entry.listed.text = [] ∨ entry.listed.text = ['*']) :=
    fun h => h.elim hcore.ne_nil hcore.star
  have hurl : (if hasExplicitScheme entry.listed.text = true then entry.listed.text
      else inferDefaultProtocol platform entry.listed.text ++ entry.listed.text) =
      entry.listed.webOrigin.text := by
    cases entry.listed with
    | origin o => exact if_pos (hasExplicitScheme_origin o)
    | bare place hwildcard =>
        rw [Listed.text, hasExplicitScheme_place, inferDefaultProtocol_place laws]
        rfl
  rw [normalizeOrigin, unquote_text, dropSlash_content]
  simp only [if_neg hstars, hurl]

/-! ## Which origins are read alike -/

/-- Two origins that the URL parser does not tell apart: both of a scheme without an origin of its
own, or of the same scheme and port and with hosts that are read as the same. -/
def ReadAlike (parseHost : Text → Option Text) (o o' : WebOrigin) : Prop :=
  (o.special = false ∧ o'.special = false) ∨
    (o.special = true ∧ lower o.scheme = lower o'.scheme ∧ o.port = o'.port ∧
      parseHost o.place.host = parseHost o'.place.host)

/-- What the comparison takes for the header: the same text, or an origin that is accepted and read
like the header's. -/
def Listed.Matches (platform : UrlPlatform) (parseHost : Text → Option Text) (listed : Listed)
    (o : WebOrigin) : Prop :=
  listed.text = o.text ∨
    platform.Accepts listed.webOrigin ∧ platform.Accepts o ∧ ReadAlike parseHost listed.webOrigin o

theorem special_congr {o o' : WebOrigin} (h : lower o.scheme = lower o'.scheme) :
    o.special = o'.special := by
  rw [WebOrigin.special, WebOrigin.special, h]

theorem port_isSome {o : WebOrigin} (h : o.special = true) : o.port.isSome = true := by
  rw [WebOrigin.port, Option.isSome_or, show (defaultPort (lower o.scheme)).isSome = true from h,
    Bool.or_true]

theorem isSchemeChar_lower (o : WebOrigin) : ∀ c ∈ lower o.scheme, isSchemeChar c = true := by
  intro c hc
  obtain ⟨d, hd, rfl⟩ := List.mem_map.mp hc
  exact isSchemeChar_toLower (o.chars d hd)

theorem slash_mem_serialized (site : Site) : '/' ∈ serialized site :=
  List.mem_append_left _ (List.mem_append_right _ (by decide))

theorem serialized_ne_null (site : Site) : serialized site ≠ "null".toList := by
  intro h
  have hslash := slash_mem_serialized site
  rw [h] at hslash
  exact absurd hslash (by decide)

/-- What the URL parser reads from an origin. -/
theorem origin_cases (laws : UrlLaws platform parseHost) {o : WebOrigin} {x : Text}
    (hx : platform.origin o.text = some x) :
    (o.special = true ∧ ∃ host, parseHost o.place.host = some host ∧
        x = serialized ⟨lower o.scheme, host, o.port⟩) ∨
      (o.special = false ∧ x = "null".toList) := by
  cases hspecial : o.special with
  | false => exact .inr ⟨rfl, laws.other o hspecial x hx⟩
  | true =>
      rw [laws.special o hspecial, Option.map_eq_some_iff] at hx
      obtain ⟨host, hhost, rfl⟩ := hx
      exact .inl ⟨rfl, host, hhost, rfl⟩

theorem origin_eq_iff (laws : UrlLaws platform parseHost) {o o' : WebOrigin} {x x' : Text}
    (hx : platform.origin o.text = some x) (hx' : platform.origin o'.text = some x') :
    x = x' ↔ ReadAlike parseHost o o' := by
  rw [ReadAlike]
  rcases origin_cases laws hx with ⟨hspecial, host, hhost, rfl⟩ | ⟨hspecial, rfl⟩ <;>
    rcases origin_cases laws hx' with ⟨hspecial', host', hhost', rfl⟩ | ⟨hspecial', rfl⟩
  · rw [hspecial, hhost, hhost', Option.some_inj]
    constructor
    · intro heq
      have hsite := serialized_inj (isSchemeChar_lower o) (isSchemeChar_lower o')
        (laws.host_shape _ _ hhost) (laws.host_shape _ _ hhost') (port_isSome hspecial)
        (port_isSome hspecial') heq
      exact .inr ⟨rfl, congrArg Site.scheme hsite, congrArg Site.port hsite,
        congrArg Site.host hsite⟩
    · rintro (⟨hfalse, -⟩ | ⟨-, hscheme, hport, rfl⟩)
      · exact Bool.noConfusion hfalse
      · rw [hscheme, hport]
  · refine ⟨fun heq => absurd heq (serialized_ne_null _), ?_⟩
    rintro (⟨hfalse, -⟩ | ⟨-, hscheme, -⟩)
    · exact absurd (hspecial.symm.trans hfalse) Bool.false_ne_true.symm
    · rw [special_congr hscheme, hspecial'] at hspecial
      exact absurd hspecial Bool.false_ne_true
  · refine ⟨fun heq => absurd heq.symm (serialized_ne_null _), ?_⟩
    rintro (⟨-, hfalse⟩ | ⟨htrue, -⟩)
    · exact absurd (hspecial'.symm.trans hfalse) Bool.false_ne_true.symm
    · exact absurd (hspecial.symm.trans htrue) Bool.false_ne_true
  · exact ⟨fun _ => .inl ⟨hspecial, hspecial'⟩, fun _ => rfl⟩

/-- An equal origin is read alike. -/
theorem readAlike_of_site (laws : UrlLaws platform parseHost) {o o' : WebOrigin}
    (h : o.site = o'.site) : ReadAlike parseHost o o' := by
  have hscheme : lower o.scheme = lower o'.scheme := congrArg Site.scheme h
  cases hspecial : o.special with
  | false => exact .inl ⟨hspecial, (special_congr hscheme).symm.trans hspecial⟩
  | true =>
      exact .inr ⟨hspecial, hscheme, congrArg Site.port h,
        laws.host_lower _ _ (congrArg Site.host h)⟩

theorem accepts_iff_of_special (laws : UrlLaws platform parseHost) {o : WebOrigin}
    (hspecial : o.special = true) :
    platform.Accepts o ↔ (parseHost o.place.host).isSome = true := by
  rw [UrlPlatform.Accepts, laws.special o hspecial, Option.isSome_map]

/-- Equal origins are accepted alike. -/
theorem accepts_of_site (laws : UrlLaws platform parseHost) {o o' : WebOrigin}
    (h : o.site = o'.site) (haccepted : platform.Accepts o) : platform.Accepts o' := by
  have hscheme : lower o.scheme = lower o'.scheme := congrArg Site.scheme h
  cases hspecial : o.special with
  | false => exact laws.other_site o o' hspecial h haccepted
  | true =>
      rw [accepts_iff_of_special laws hspecial,
        laws.host_lower _ _ (congrArg Site.host h)] at haccepted
      have hspecial' := (special_congr hscheme).symm.trans hspecial
      exact (accepts_iff_of_special laws hspecial').mpr haccepted

/-! ## Texts that are not accepted -/

theorem WebOrigin.slash_mem_text (o : WebOrigin) : '/' ∈ o.text :=
  List.mem_append_left _ (List.mem_append_right _ (by decide))

theorem WebOrigin.site_of_text {o o' : WebOrigin} (h : o.text = o'.text) : o.site = o'.site := by
  obtain ⟨hscheme, hplace⟩ := scheme_inj o.chars o'.chars h
  obtain ⟨hhost, hport⟩ := hostPort_inj o.place.shape o'.place.shape (followsHost_portText _)
    (followsHost_portText _) hplace
  rw [WebOrigin.site, WebOrigin.site, WebOrigin.port, WebOrigin.port, hscheme, hhost,
    portText_inj hport]

/-- A host without a scheme has the text of no header. -/
theorem Listed.webOrigin_text {listed : Listed} {o : WebOrigin} (h : listed.text = o.text) :
    listed.webOrigin.text = o.text := by
  cases listed with
  | origin o' => exact h
  | bare place hwildcard =>
      have hslash := o.slash_mem_text
      rw [← h] at hslash
      exact absurd hslash place.no_slash

/-- An origin that is written as another is serialized is accepted. -/
theorem accepts_of_serialized (laws : UrlLaws platform parseHost) {o o' : WebOrigin} {host : Text}
    (hspecial : o'.special = true) (hhost : parseHost o'.place.host = some host)
    (h : o.text = serialized ⟨lower o'.scheme, host, o'.port⟩) : platform.Accepts o := by
  obtain ⟨hscheme, hplace⟩ := scheme_inj o.chars (isSchemeChar_lower o') h
  obtain ⟨hsame, -⟩ := hostPort_inj o.place.shape (laws.host_shape _ _ hhost)
    (followsHost_portText _) (followsHost_portText _) hplace
  have hlower : lower o.scheme = lower o'.scheme := by rw [hscheme, lower_lower]
  rw [accepts_iff_of_special laws ((special_congr hlower).trans hspecial), hsame,
    laws.host_again _ _ hhost]
  rfl

/-- The host `null` is accepted, so its text is not compared with the origin of other schemes. -/
theorem accepts_null (laws : UrlLaws platform parseHost) {place : Place}
    (h : place.text = "null".toList) : platform.Accepts place.defaultOrigin := by
  have hnull : HostShape "null".toList := hostShape_of_all (by decide) (by decide)
  obtain ⟨hhost, -⟩ := hostPort_inj place.shape hnull (followsHost_portText _) followsHost_nil
    (h.trans (List.append_nil _).symm)
  rw [accepts_iff_of_special laws place.special_defaultOrigin]
  change (parseHost place.host).isSome = true
  rw [hhost, laws.host_name _ (by decide) (List.all_eq_true.mp (by decide))]
  rfl

/-- An origin whose text the URL parser returns is accepted: it is none of the texts `null`. -/
theorem accepts_of_origin (laws : UrlLaws platform parseHost) {o o' : WebOrigin} {x : Text}
    (hx : platform.origin o'.text = some x) (h : o.text = x) : platform.Accepts o := by
  rcases origin_cases laws hx with ⟨hspecial, host, hhost, rfl⟩ | ⟨-, rfl⟩
  · exact accepts_of_serialized laws hspecial hhost h
  · have hslash := o.slash_mem_text
    rw [h] at hslash
    exact absurd hslash (by decide)

theorem Listed.accepts_of_origin (laws : UrlLaws platform parseHost) {listed : Listed}
    {o : WebOrigin} {x : Text} (hx : platform.origin o.text = some x) (h : listed.text = x) :
    platform.Accepts listed.webOrigin := by
  cases listed with
  | origin o' => exact CorsUtils.accepts_of_origin laws hx h
  | bare place hwildcard =>
      rcases origin_cases laws hx with ⟨-, host, -, rfl⟩ | ⟨-, rfl⟩
      · have hslash := slash_mem_serialized ⟨lower o.scheme, host, o.port⟩
        rw [← h] at hslash
        exact absurd hslash place.no_slash
      · exact accepts_null laws h

theorem not_accepts_of_none {o : WebOrigin} (h : platform.origin o.text = none) :
    ¬ platform.Accepts o := by
  rw [UrlPlatform.Accepts, h]
  exact Bool.false_ne_true

/-- **Which entry is compared like the header.** -/
theorem normalized_eq_iff (laws : UrlLaws platform parseHost) (listed : Listed) (o : WebOrigin) :
    (platform.origin listed.webOrigin.text).getD listed.text =
        (platform.origin o.text).getD o.text ↔ listed.Matches platform parseHost o := by
  constructor
  · intro h
    -- A text that is not accepted is compared as it stands, and is not what the parser returns.
    cases hx : platform.origin listed.webOrigin.text with
    | none =>
        rw [hx, Option.getD_none] at h
        cases hx' : platform.origin o.text with
        | none =>
            rw [hx', Option.getD_none] at h
            exact .inl h
        | some x' =>
            rw [hx', Option.getD_some] at h
            exact absurd (Listed.accepts_of_origin laws hx' h) (not_accepts_of_none hx)
    | some x =>
        rw [hx, Option.getD_some] at h
        cases hx' : platform.origin o.text with
        | none =>
            rw [hx', Option.getD_none] at h
            exact absurd (accepts_of_origin laws hx h.symm) (not_accepts_of_none hx')
        | some x' =>
            rw [hx', Option.getD_some] at h
            exact .inr ⟨Option.isSome_iff_exists.mpr ⟨x, hx⟩,
              Option.isSome_iff_exists.mpr ⟨x', hx'⟩, (origin_eq_iff laws hx hx').mp h⟩
  · rintro (htext | ⟨haccepted, haccepted', halike⟩)
    · rw [listed.webOrigin_text htext, htext]
    · obtain ⟨x, hx⟩ := Option.isSome_iff_exists.mp haccepted
      obtain ⟨x', hx'⟩ := Option.isSome_iff_exists.mp haccepted'
      rw [hx, hx']
      exact (origin_eq_iff laws hx hx').mpr halike

/-- A listed header that is accepted is matched by the entry that lists it. -/
theorem matches_of_site (laws : UrlLaws platform parseHost) {listed : Listed} {o : WebOrigin}
    (h : listed.webOrigin.site = o.site) (haccepted : platform.Accepts o) :
    listed.Matches platform parseHost o := by
  have hlisted := accepts_of_site laws h.symm haccepted
  exact .inr ⟨hlisted, haccepted, readAlike_of_site laws h⟩

/-! ## The list -/

theorem comma_not_mem_text (entry : Entry) : ',' ∉ entry.text := by
  have hblank : ∀ text : Text, (∀ c ∈ text, isJsWhitespace c = true) → ',' ∉ text := by
    intro text htext hmem
    have hcomma := htext ',' hmem
    exact absurd hcomma (by decide)
  have hblanks := hblank _ entry.isBlank
  have hcontent : ',' ∉ entry.content :=
    fun hmem => (entry.content_chars ',' hmem).delimiters (by decide)
  simp only [List.mem_append, not_or] at hblanks
  obtain ⟨⟨⟨hbefore, hinnerBefore⟩, hinnerAfter⟩, hafter⟩ := hblanks
  have hinner : ',' ∉ entry.innerBefore ++ entry.content ++ entry.innerAfter := by
    simp only [List.mem_append, not_or]
    exact ⟨⟨hinnerBefore, hcontent⟩, hinnerAfter⟩
  have hbody : ',' ∉ entry.body := by
    unfold Entry.body
    cases hquote : entry.quote with
    | none => exact hinner
    | some mark =>
        have hmark : ',' ≠ mark := by
          rcases entry.isQuote hquote with rfl | rfl
          · decide
          · decide
        simp only [List.cons_append, List.mem_cons, List.mem_append (t := [mark]),
          List.not_mem_nil, or_false, not_or]
        exact ⟨hmark, hinner, hmark⟩
  simp only [Entry.text, List.mem_append, not_or]
  exact ⟨⟨hbefore, hbody⟩, hafter⟩

/-- The list of the entries, one after the other. -/
def listText (entries : List Entry) : Text := [','].intercalate (entries.map Entry.text)

/-- What is read of the list: the entries, without the blanks around them. -/
theorem parts_listText {entries : List Entry} (hne : entries ≠ []) :
    ((trim (listText entries)).splitOn ',').map trim =
      entries.map fun entry => trim entry.text := by
  have hcomma : ∀ c, isJsWhitespace c = true → (c == ',') = false := by
    intro c hc
    rw [beq_eq_false_iff_ne]
    rintro rfl
    exact absurd hc (by decide)
  have hsplit : (listText entries).splitOn ',' = entries.map Entry.text := by
    refine List.splitOn_intercalate ',' ?_ (mt List.map_eq_nil_iff.mp hne)
    intro text htext
    obtain ⟨entry, -, rfl⟩ := List.mem_map.mp htext
    exact comma_not_mem_text entry
  have htrim : ((trim (listText entries)).splitOn ',').map trim =
      ((listText entries).splitOn ',').map trim := Words.map_trim_splitOnP hcomma
  rw [htrim, hsplit, List.map_map]
  rfl

theorem trim_text_ne (entry : Entry) : trim entry.text ≠ [] ∧ trim entry.text ≠ ['*'] := by
  have hcore := entry.listed.isCore
  have hlisted := dropSlash_content entry
  rw [← unquote_text, unquote] at hlisted
  constructor
  · intro h
    rw [h] at hlisted
    exact hcore.ne_nil hlisted.symm
  · intro h
    rw [h] at hlisted
    exact hcore.star hlisted.symm

theorem configuredValue_listText {entries : List Entry} (hne : entries ≠ []) :
    configuredValue (some (listText entries)) = trim (listText entries) ∧
      trim (listText entries) ≠ ['*'] := by
  have hparts := parts_listText hne
  obtain ⟨entry, rest, rfl⟩ := List.exists_cons_of_ne_nil hne
  rw [List.map_cons] at hparts
  obtain ⟨hempty, hstar⟩ := trim_text_ne entry
  have hvalue : trim (listText (entry :: rest)) ≠ [] := by
    intro h
    rw [h] at hparts
    exact hempty (List.cons.inj hparts).1.symm
  refine ⟨?_, fun h => ?_⟩
  · unfold configuredValue
    rw [Option.map_some]
    split
    next h => exact absurd h (Option.some_ne_none _)
    next h => exact absurd (Option.some_inj.mp h) hvalue
    next trimmed _ h => exact (Option.some_inj.mp h).symm
  · rw [h] at hparts
    exact hstar (List.cons.inj hparts).1.symm

theorem normalizeOrigin_trim (value : Text) :
    normalizeOrigin platform (trim value) = normalizeOrigin platform value := by
  have hunquote : unquote (trim value) = unquote value := by
    rw [unquote, unquote, trim, trim, Words.trim_trim]
  rw [normalizeOrigin, normalizeOrigin, hunquote]

/-- The header as an entry of a list. -/
def WebOrigin.entry (o : WebOrigin) : Entry := { listed := .origin o }

theorem WebOrigin.entry_text (o : WebOrigin) : o.entry.text = o.text := by
  simp only [Entry.text, Entry.body, Entry.content, WebOrigin.entry, Listed.text, List.nil_append,
    Bool.false_eq_true, if_false, List.append_nil]

/-- The header is let in if an entry is normalized to the same text. -/
theorem createCorsOriginDelegate_eq_ok_iff {entries : List Entry} (hne : entries ≠ [])
    (o : WebOrigin) :
    createCorsOriginDelegate platform (some (listText entries)) (some o.text) = .ok () ↔
      ∃ entry ∈ entries,
        normalizeOrigin platform entry.text = normalizeOrigin platform o.text := by
  obtain ⟨hvalue, hstar⟩ := configuredValue_listText hne
  have hfilter : (entries.map fun entry => trim entry.text).filter (· ≠ []) =
      entries.map fun entry => trim entry.text := by
    rw [List.filter_eq_self]
    intro text htext
    obtain ⟨entry, -, rfl⟩ := List.mem_map.mp htext
    exact decide_eq_true (trim_text_ne entry).1
  have hparsed : parseCorsOrigins platform (some (listText entries)) =
      ⟨false, (entries.map fun entry => normalizeOrigin platform entry.text).eraseDups⟩ := by
    rw [parseCorsOrigins, hvalue, if_neg hstar, parts_listText hne]
    simp only [hfilter, List.map_map, Function.comp_def, normalizeOrigin_trim]
  rw [createCorsOriginDelegate, hparsed]
  · simp only [Bool.false_or, decide_eq_true_eq, List.mem_eraseDups, List.mem_map]
    split
    next h => exact ⟨fun _ => h, fun _ => rfl⟩
    next h => exact ⟨fun hok => (nomatch hok), fun hlisted => absurd hlisted h⟩
  · exact o.isCore.ne_nil

/-- The header is let in if an entry matches it. -/
theorem createCorsOriginDelegate_iff (laws : UrlLaws platform parseHost) {entries : List Entry}
    (hne : entries ≠ []) (o : WebOrigin) :
    createCorsOriginDelegate platform (some (listText entries)) (some o.text) = .ok () ↔
      ∃ entry ∈ entries, entry.listed.Matches platform parseHost o := by
  have hheader := normalizeOrigin_text laws o.entry
  rw [o.entry_text] at hheader
  rw [createCorsOriginDelegate_eq_ok_iff hne, hheader]
  refine exists_congr fun entry => and_congr_right fun _ => ?_
  rw [normalizeOrigin_text laws entry]
  exact normalized_eq_iff laws entry.listed o

/-- Among the five schemes, and with hosts written as the URL parser writes them but for their case,
exactly the listed origins are let in. -/
theorem createCorsOriginDelegate_exact (laws : UrlLaws platform parseHost) {entries : List Entry}
    (hne : entries ≠ [])
    (hentries : ∀ entry ∈ entries, parseHost entry.listed.webOrigin.place.host =
      some (lower entry.listed.webOrigin.place.host))
    {o : WebOrigin} (hspecial : o.special = true)
    (hhost : parseHost o.place.host = some (lower o.place.host)) :
    createCorsOriginDelegate platform (some (listText entries)) (some o.text) = .ok () ↔
      ∃ entry ∈ entries, entry.listed.webOrigin.site = o.site := by
  have haccepted : platform.Accepts o := by
    rw [accepts_iff_of_special laws hspecial, hhost]
    rfl
  rw [createCorsOriginDelegate_iff laws hne]
  refine exists_congr fun entry => and_congr_right fun hentry => ?_
  refine ⟨?_, fun h => matches_of_site laws h haccepted⟩
  rintro (htext | ⟨-, -, ⟨-, hother⟩ | ⟨-, hscheme, hport, hsame⟩⟩)
  · exact WebOrigin.site_of_text (Listed.webOrigin_text htext)
  · exact absurd (hspecial.symm.trans hother) Bool.false_ne_true.symm
  · rw [hentries entry hentry, hhost, Option.some_inj] at hsame
    rw [WebOrigin.site, WebOrigin.site, hscheme, hport, hsame]

/-- **What the list lets in.**  It lets in the listed origins and no other, exactly if an entry
lists the header and matches it, or none does either. -/
theorem allowList_iff (platform : UrlPlatform) (parseHost : Text → Option Text)
    (laws : UrlLaws platform parseHost) (entries : List Entry) (hne : entries ≠ [])
    (o : WebOrigin) :
    (createCorsOriginDelegate platform (some (listText entries)) (some o.text) = .ok () ↔
        ∃ entry ∈ entries, entry.listed.webOrigin.site = o.site) ↔
      (∃ entry ∈ entries, entry.listed.webOrigin.site = o.site ∧
          entry.listed.Matches platform parseHost o) ∨
        ∀ entry ∈ entries, entry.listed.webOrigin.site ≠ o.site ∧
          ¬ entry.listed.Matches platform parseHost o := by
  rw [createCorsOriginDelegate_iff laws hne]
  constructor
  · intro hiff
    -- For a listed header the entry that matches is its own, or the header is not accepted.
    by_cases hlisted : ∃ entry ∈ entries, entry.listed.webOrigin.site = o.site
    · obtain ⟨entry, hentry, hsite⟩ := hlisted
      obtain ⟨entry', hentry', hmatches⟩ := hiff.mpr ⟨entry, hentry, hsite⟩
      rcases hmatches with htext | ⟨-, haccepted, -⟩
      · exact .inl ⟨entry', hentry', WebOrigin.site_of_text (Listed.webOrigin_text htext),
          .inl htext⟩
      · exact .inl ⟨entry, hentry, hsite, matches_of_site laws hsite haccepted⟩
    · refine .inr fun entry hentry => ⟨fun hsite => hlisted ⟨entry, hentry, hsite⟩, ?_⟩
      exact fun hmatches => hlisted (hiff.mp ⟨entry, hentry, hmatches⟩)
  · rintro (⟨entry, hentry, hsite, hmatches⟩ | hnone)
    · exact ⟨fun _ => ⟨entry, hentry, hsite⟩, fun _ => ⟨entry, hentry, hmatches⟩⟩
    · exact ⟨fun ⟨entry, hentry, hmatches⟩ => absurd hmatches (hnone entry hentry).2,
        fun ⟨entry, hentry, hsite⟩ => absurd hsite (hnone entry hentry).1⟩

end Laws

/-! ## Two lists -/

/-- A URL parser for hosts that are written as they are read, but for their case. -/
def plainUrls : UrlPlatform where
  origin text :=
    let scheme := lower (text.takeWhile isSchemeChar)
    let authority := splitHost ((text.dropWhile isSchemeChar).drop schemeMark.length)
    let port := match authority.2 with
      | ':' :: digits => some (portNumber digits)
      | _ => none
    if (defaultPort scheme).isSome then
      some (serialized ⟨scheme, lower authority.1, port.or (defaultPort scheme)⟩)
    else some "null".toList
  toLowerCase := lower

def plainHost (host : Text) : Option Text := some (lower host)

theorem origin_plainUrls (o : WebOrigin) : plainUrls.origin o.text =
    if o.special = true then some (serialized ⟨lower o.scheme, lower o.place.host, o.port⟩)
    else some "null".toList := by
  have hport : (match portText o.place.port with
      | ':' :: digits => some (portNumber digits)
      | _ => none) = o.place.port.map portNumber := by
    cases o.place.port <;> rfl
  obtain ⟨hdrop, htake⟩ := @dropWhile_scheme o.scheme o.place.text o.chars
  have hsplit : splitHost o.place.text = (o.place.host, portText o.place.port) :=
    splitHost_append o.place.shape (followsHost_portText _)
  rw [plainUrls, WebOrigin.text]
  simp only [htake, hdrop, List.drop_left, hsplit, hport]
  rfl

theorem accepts_plainUrls (o : WebOrigin) : plainUrls.Accepts o := by
  rw [UrlPlatform.Accepts, origin_plainUrls]
  split <;> rfl

theorem urlLaws_plain : UrlLaws plainUrls plainHost where
  special := by
    intro o hspecial
    rw [origin_plainUrls, if_pos hspecial]
    rfl
  other := by
    intro o hspecial origin horigin
    rw [origin_plainUrls, hspecial, if_neg Bool.false_ne_true] at horigin
    exact (Option.some_inj.mp horigin).symm
  other_site := fun _ o' _ _ _ => accepts_plainUrls o'
  host_lower := fun _ _ h => congrArg some h
  host_shape := fun place host h => Option.some_inj.mp h ▸ place.shape.lower
  host_again := fun place host h => by
    rw [plainHost, ← Option.some_inj.mp h, lower_lower]
  host_name := by
    intro host _ hlower
    have hsame : ∀ c ∈ host, c.toLower = c := fun c hc =>
      Char.toLower_eq_of_not_isUpper (Char.not_isUpper_of_isLower (hlower c hc))
    rw [plainHost, lower, List.map_congr_left hsame, List.map_id']
  lowerCase := fun _ _ => rfl

/-- A name without a port. -/
def namePlace (host : Text) (hne : host ≠ [])
    (hname : (host.all fun c => c ≠ ':' && c ≠ '[') = true) (chars : host.all isHostChar = true) :
    Place where
  host := host
  port := none
  shape := hostShape_of_all hne hname
  chars := List.all_eq_true.mp chars
  digits := fun digits h => absurd h (Option.not_mem_none digits)

/-- `dash.example.com`, and an entry that lists it. -/
def dashPlace : Place :=
  namePlace "dash.example.com".toList (by decide) (by decide) (by decide)

def dashEntry : Entry where
  listed := .bare dashPlace (by decide)
  before := [' ']
  quote := some '"'
  slash := true

/-- `HTTPS://dash.example.com`. -/
def dashOrigin : WebOrigin :=
  ⟨"HTTPS".toList, dashPlace, by decide, List.all_eq_true.mp (by decide)⟩

theorem dashEntry_lets_in :
    (createCorsOriginDelegate plainUrls (some (listText [dashEntry])) (some dashOrigin.text) =
          .ok () ↔
        ∃ entry ∈ [dashEntry], entry.listed.webOrigin.site = dashOrigin.site) ↔
      (∃ entry ∈ [dashEntry], entry.listed.webOrigin.site = dashOrigin.site ∧
          entry.listed.Matches plainUrls plainHost dashOrigin) ∨
        ∀ entry ∈ [dashEntry], entry.listed.webOrigin.site ≠ dashOrigin.site ∧
          ¬ entry.listed.Matches plainUrls plainHost dashOrigin :=
  allowList_iff plainUrls plainHost urlLaws_plain [dashEntry] (List.cons_ne_nil _ _) dashOrigin

/-- The origins of two extensions of a browser. -/
def extensionOrigin (id : Text) (hne : id ≠ [])
    (hname : (id.all fun c => c ≠ ':' && c ≠ '[') = true) (chars : id.all isHostChar = true) :
    WebOrigin :=
  ⟨"chrome-extension".toList, namePlace id hne hname chars, by decide,
    List.all_eq_true.mp (by decide)⟩

def listedExtension : WebOrigin := extensionOrigin "aaaa".toList (by decide) (by decide) (by decide)

def otherExtension : WebOrigin := extensionOrigin "bbbb".toList (by decide) (by decide) (by decide)

/-- **Another extension is let in.** -/
theorem otherExtension_let_in : UrlLaws plainUrls plainHost ∧
    createCorsOriginDelegate plainUrls (some (listText [listedExtension.entry]))
      (some otherExtension.text) = .ok () ∧
    ¬ ∃ entry ∈ [listedExtension.entry], entry.listed.webOrigin.site = otherExtension.site := by
  refine ⟨urlLaws_plain, by rfl, by decide⟩

end CorsUtils
