/-
# `net/url`: reading and printing server addresses

`rest.DefaultServerURL` reads the provider's `host` with `url.Parse` and prints the result
with `(*URL).String`; client-go's `ClientConfig` reads the cluster's server once more with
`url.ParseRequestURI`, and prints it again when it has a path. This module models both
readers and the printer as far as those calls reach: `getscheme`, the control-character
check, the query cut with `ForceQuery`, opaque forms, the first-segment colon rule, the
authority with its user information and port, the characters a host may hold, and the
escaping `String` applies to each part, bracketed IPv6 hosts included. Percent-escapes are
left as written: the model neither checks nor decodes them, and `String` does not escape a
`%` again.

Go's exported `Parse` and `ParseRequestURI` are `parse` and `parseRequestURI` here; the
unexported `parse(rawurl, viaRequest)` they share is `parseURL`.

The main result is a round trip: from a printed address with a scheme and no fragment,
`parseRequestURI` reads back the path `String` printed.
-/

import HelmProvider.Go

namespace HelmProvider

namespace Url

/-- `url.Userinfo`: a name, and a password when the user part holds a colon. -/
structure Userinfo where
  username : String
  password : Option String := none
  deriving DecidableEq, Repr

/-- `url.URL`, with the fields `Parse` fills and `String` prints. The path is kept as
written: `EscapedPath` prints it back unchanged when it is a valid escaped path, which is
what Go's `RawPath` is for. -/
structure URL where
  scheme : String := ""
  opaquePart : String := ""
  user : Option Userinfo := none
  host : String := ""
  path : String := ""
  forceQuery : Bool := false
  rawQuery : String := ""
  fragment : String := ""
  deriving DecidableEq, Repr

/-! ## Characters -/

/-- The parts of an address whose characters `shouldEscape` judges, of those used here. -/
inductive Encoding where
  | path
  | userPassword
  | host
  | fragment
  deriving DecidableEq, Repr

/-- The characters besides letters and digits that a host may hold unescaped: RFC 3986's
sub-delimiters, `:` for the port, brackets, `<`, `>` and `"`. The apostrophe is 39. -/
def hostSubDelim (c : Char) : Bool :=
  ['!', '$', '&', '(', ')', '*', '+', ',', ';', '=', ':', '[', ']', '<', '>', '"'].contains c ||
    c.toNat == 39

/-- `shouldEscape(c, mode)`. Every character above 127 is escaped, byte by byte. -/
def shouldEscape (c : Char) (mode : Encoding) : Bool :=
  if c.isAlphanum then false
  else if mode == .host && hostSubDelim c then false
  else if ['-', '_', '.', '~'].contains c then false
  else if ['$', '&', '+', ',', '/', ':', ';', '=', '?', '@'].contains c then
    match mode with
    | .path => c == '?'
    | .userPassword => ['@', '/', '?', ':'].contains c
    | .host => true
    | .fragment => false
  else !(mode == .fragment && ['!', '(', ')', '*'].contains c)

/-- The uppercase hexadecimal digit `escape` writes for `n < 16`. -/
def upperHex (n : Nat) : Char :=
  if n < 10 then Char.ofNat (48 + n) else Char.ofNat (55 + n)

/-- `escape` on one character: `%XX` for each UTF-8 byte of a character that
`shouldEscape` marks. A `%` stays, since the model keeps percent-escapes as written. -/
def escapeChar (mode : Encoding) (c : Char) : List Char :=
  if c = '%' ∨ shouldEscape c mode = false then [c]
  else (String.utf8EncodeChar c).flatMap fun b =>
    ['%', upperHex (b.toNat / 16), upperHex (b.toNat % 16)]

/-- `escape(s, mode)`. -/
def escape (s : String) (mode : Encoding) : String :=
  ⟨s.toList.flatMap (escapeChar mode)⟩

/-- `validEncodedPath`: whether a path may be printed as it was written. -/
def validEncodedPath (s : String) : Bool :=
  s.toList.all fun c =>
    ['!', '$', '&', '(', ')', '*', '+', ',', ';', '=', ':', '@', '[', ']', '%'].contains c ||
      c.toNat == 39 || !shouldEscape c .path

/-- `stringContainsCTLByte`: a byte below a space, or DEL. -/
def containsCTLByte (s : List Char) : Bool :=
  s.any fun c => c.toNat < 32 || c.toNat == 127

/-! ## Reading -/

/-- `split(s, sep, cutc)` of `net/url` for a one-character separator: the text before the
first `sep`, and the rest, with the separator cut off when `cutc`. -/
def split (sep : Char) (cutc : Bool) : List Char → List Char × List Char
  | [] => ([], [])
  | c :: s =>
    if c = sep then ([], if cutc then s else c :: s)
    else ((c :: (split sep cutc s).1), (split sep cutc s).2)

/-- A character `getscheme` accepts after the first: a letter, a digit, `+`, `-` or `.`. -/
def schemeChar (c : Char) : Bool :=
  c.isAlpha || (c.isDigit || c == '+' || c == '-' || c == '.')

/-- A scheme `getscheme` reads back: a letter, then letters, digits, `+`, `-` or `.`. -/
def validScheme : List Char → Bool
  | [] => false
  | c :: cs => c.isAlpha && cs.all schemeChar

/-- `getscheme`: a scheme is a letter followed by letters, digits, `+`, `-` or `.`, ended by
`:`. Any other character before a `:` means there is no scheme. -/
def getScheme (raw : List Char) : Except String (List Char × List Char) :=
  go [] raw
where
  go (seen : List Char) : List Char → Except String (List Char × List Char)
    | [] => .ok ([], raw)
    | c :: rest =>
      if c.isAlpha then go (seen ++ [c]) rest
      else if c.isDigit || c == '+' || c == '-' || c == '.' then
        if seen.isEmpty then .ok ([], raw) else go (seen ++ [c]) rest
      else if c == ':' then
        if seen.isEmpty then .error "missing protocol scheme" else .ok (seen, rest)
      else .ok ([], raw)

/-- `validOptionalPort`: empty, or `:` followed by digits. -/
def validOptionalPort : List Char → Bool
  | [] => true
  | c :: digits => c == ':' && digits.all Char.isDigit

/-- `unescape(host, encodeHost)` with percent-escapes left as written: the host, unless it
holds a character below 128 that a host may not hold. -/
def unescapeHost (host : List Char) : Except String String :=
  match host.find? fun c => c != '%' && c.toNat < 128 && shouldEscape c .host with
  | some c => .error ("invalid character " ++ Fmt.quote c.toString ++ " in host name")
  | none => .ok (String.mk host)

/-- `parseHost`. An IP literal in brackets, such as `[fd00::1]:6443`, must close with a `]`
followed by nothing or a `:port`; any other host may carry only digits after its last colon.
The zone of an IP literal (`%25` onwards) is checked as the rest of the host is: with
percent-escapes left as written, `unescape` judges its characters as it judges the host's. -/
def parseHost (host : List Char) : Except String String :=
  match host with
  | '[' :: _ =>
    match split ']' false host.reverse with
    | (_, []) => .error "missing ']' in host"
    | (revPort, _ :: _) =>
      let colonPort := revPort.reverse
      if validOptionalPort colonPort then unescapeHost host
      else .error ("invalid port " ++ Fmt.quote (String.mk colonPort) ++ " after host")
  | _ =>
    match split ':' false host.reverse with
    | (_, []) => unescapeHost host
    | (revPort, _ :: _) =>
      let colonPort := ':' :: revPort.reverse
      if validOptionalPort colonPort then unescapeHost host
      else .error ("invalid port " ++ Fmt.quote (String.mk colonPort) ++ " after host")

/-- `validUserinfo`: RFC 3986's characters of a user part. The apostrophe is 39. -/
def validUserinfo (s : List Char) : Bool :=
  s.all fun c => c.isAlphanum ||
    ['-', '.', '_', ':', '~', '!', '$', '&', '(', ')', '*', '+', ',', ';', '=', '%', '@'].contains c
    || c.toNat == 39

/-- The `Userinfo` of a user part: a colon in it separates the password. -/
def userinfoOf (userinfo : List Char) : Userinfo :=
  if ':' ∈ userinfo then
    ⟨String.mk (split ':' true userinfo).1, some (String.mk (split ':' true userinfo).2)⟩
  else ⟨String.mk userinfo, none⟩

/-- `parseAuthority`: the user part is what stands before the last `@`. -/
def parseAuthority (authority : List Char) : Except String (Option Userinfo × String) :=
  match split '@' false authority.reverse with
  | (revHost, []) => do return (none, ← parseHost revHost.reverse)
  | (revHost, _ :: revUser) => do
    let host ← parseHost revHost.reverse
    if !validUserinfo revUser.reverse then throw "net/url: invalid userinfo"
    return (some (userinfoOf revUser.reverse), host)

/-- Whether the first path segment holds a colon (`colon >= 0 && (slash < 0 || colon < slash)`). -/
def firstSegmentHasColon (rest : List Char) : Bool :=
  (split '/' true rest).1.contains ':'

/-- The query cut of `parse`: a single `?` at the end sets `ForceQuery`; otherwise the text
after the first `?` is the raw query. -/
def cutQuery (rest : List Char) : List Char × Bool × List Char :=
  if rest.getLast? = some '?' ∧ rest.count '?' = 1 then (rest.dropLast, true, [])
  else ((split '?' true rest).1, false, (split '?' true rest).2)

/-- The authority and path once the scheme is known: the `//` form, which a request URI
without scheme does not have, and which a URL without scheme has unless it starts `///`. -/
def authorityPath (hasScheme viaRequest : Bool) :
    List Char → Except String (Option Userinfo × String × List Char)
  | '/' :: '/' :: after =>
    if hasScheme || !viaRequest && after.head? != some '/' then do
      let (authority, rest) := split '/' false after
      let (user, host) ← parseAuthority authority
      return (user, host, rest)
    else .ok (none, "", '/' :: '/' :: after)
  | rest => .ok (none, "", rest)

/-- What `parse(rawurl, viaRequest)` does after `getscheme`: the query is cut off, then an
opaque form, or an authority and a path. -/
def parseRest (scheme : String) (viaRequest : Bool) (rest : List Char) : Except String URL := do
  let (rest, forceQuery, rawQuery) := cutQuery rest
  if rest.head? != some '/' then
    if scheme != "" then
      return { scheme, opaquePart := String.mk rest, forceQuery, rawQuery := String.mk rawQuery }
    if viaRequest then throw "invalid URI for request"
    if firstSegmentHasColon rest then
      throw "first path segment in URL cannot contain colon"
  let (user, host, path) ← authorityPath (scheme != "") viaRequest rest
  return { scheme, user, host, path := String.mk path, forceQuery, rawQuery := String.mk rawQuery }

/-- `parse(rawurl, viaRequest)`; the scheme is lower-cased. -/
def parseURL (raw : List Char) (viaRequest : Bool) : Except String URL :=
  if containsCTLByte raw then .error "net/url: invalid control character in URL"
  else if raw = [] ∧ viaRequest then .error "empty url"
  else if raw = ['*'] then .ok { path := "*" }
  else do
    let (scheme, rest) ← getScheme raw
    parseRest (String.mk (scheme.map Char.toLower)) viaRequest rest

/-- `url.Parse`: the fragment is cut off first. An error is wrapped as `url.Error` prints. -/
def parse (rawurl : String) : Except String URL :=
  let (u, frag) := split '#' true rawurl.toList
  match parseURL u false with
  | .ok url => .ok { url with fragment := String.mk frag }
  | .error e => .error ("parse " ++ String.mk u ++ ": " ++ e)

/-- `url.ParseRequestURI`: an address as an HTTP request carries it, so without fragment. -/
def parseRequestURI (rawurl : String) : Except String URL :=
  match parseURL rawurl.toList true with
  | .ok url => .ok url
  | .error e => .error ("parse " ++ rawurl ++ ": " ++ e)

example : (parse "https://[fd00::1]:6443/api").map URL.host = .ok "[fd00::1]:6443" := rfl

example : (parse "https://[fd00::1]x/api").map URL.host =
    .error "parse https://[fd00::1]x/api: invalid port \"x\" after host" := rfl


section reading

theorem split_append {sep : Char} {cutc : Bool} {pre : List Char} (hpre : sep ∉ pre)
    (s : List Char) :
    split sep cutc (pre ++ s) = (pre ++ (split sep cutc s).1, (split sep cutc s).2) := by
  induction pre with
  | nil => rfl
  | cons c cs ih =>
    simp only [List.mem_cons, not_or] at hpre
    simp [split, Ne.symm hpre.1, ih hpre.2]

theorem split_of_not_mem {sep : Char} {cutc : Bool} {s : List Char} (hs : sep ∉ s) :
    split sep cutc s = (s, []) := by
  simpa [split] using @split_append sep cutc s hs []

theorem split_sep_append {sep : Char} {cutc : Bool} {pre : List Char} (hpre : sep ∉ pre)
    (s : List Char) : split sep cutc (pre ++ sep :: s) = (pre, if cutc then s else sep :: s) := by
  simp [split_append hpre, split]

theorem getScheme_go_append (raw : List Char) {seen : List Char} (hseen : seen ≠ [])
    {cs : List Char} (hcs : cs.all schemeChar) (rest : List Char) :
    getScheme.go raw seen (cs ++ ':' :: rest) = .ok (seen ++ cs, rest) := by
  induction cs generalizing seen with
  | nil => simp [getScheme.go, hseen]
  | cons c cs ih =>
    simp only [List.all_cons, Bool.and_eq_true] at hcs
    have hnext := @ih (seen ++ [c]) (by simp) hcs.2
    simp only [List.append_assoc, List.singleton_append] at hnext
    have hc : c.isAlpha ∨ (c.isDigit || c == '+' || c == '-' || c == '.') := by
      simpa only [schemeChar, Bool.or_eq_true] using hcs.1
    simp only [List.cons_append, getScheme.go]
    by_cases halpha : c.isAlpha
    · rw [if_pos halpha]
      exact hnext
    · rw [if_neg halpha, if_pos (hc.resolve_left halpha),
        if_neg fun h => hseen (List.isEmpty_iff.1 h)]
      exact hnext

/-- `getscheme` reads a valid scheme back up to its `:`. -/
theorem getScheme_append {scheme : List Char} (hscheme : validScheme scheme) (rest : List Char) :
    getScheme (scheme ++ ':' :: rest) = .ok (scheme, rest) := by
  obtain _ | ⟨c, cs⟩ := scheme
  · cases hscheme
  · simp only [validScheme, Bool.and_eq_true] at hscheme
    simp only [getScheme, List.cons_append, getScheme.go, if_pos hscheme.1]
    simpa using @getScheme_go_append _ [c] (by simp) cs hscheme.2 rest

theorem validScheme_append {seen : List Char} {c : Char} (hseen : seen = [] ∨ validScheme seen)
    (hc : c.isAlpha ∨ (seen ≠ [] ∧ schemeChar c)) : validScheme (seen ++ [c]) := by
  rcases hseen with rfl | hvalid
  · rcases hc with hc | ⟨hne, -⟩
    · simp [validScheme, hc]
    · exact absurd rfl hne
  · obtain _ | ⟨d, ds⟩ := seen
    · cases hvalid
    · have hchar : schemeChar c := by
        rcases hc with hc | ⟨-, hc⟩
        · simp [schemeChar, hc]
        · exact hc
      simp_all [validScheme]

/-- What `getscheme` returns as scheme is empty or a valid scheme. -/
theorem getScheme_valid {raw scheme rest : List Char} (h : getScheme raw = .ok (scheme, rest)) :
    scheme = [] ∨ validScheme scheme := by
  suffices hgo : ∀ seen l, (seen = [] ∨ validScheme seen) →
      getScheme.go raw seen l = .ok (scheme, rest) → scheme = [] ∨ validScheme scheme from
    hgo [] raw (.inl rfl) h
  intro seen l
  induction l generalizing seen with
  | nil =>
    intro _ h
    simp only [getScheme.go, Except.ok.injEq, Prod.mk.injEq] at h
    exact .inl h.1.symm
  | cons c cs ih =>
    intro hseen h
    have hne : ¬seen.isEmpty → seen ≠ [] := fun hempty hnil => hempty (List.isEmpty_iff.2 hnil)
    simp only [getScheme.go] at h
    by_cases halpha : c.isAlpha
    · rw [if_pos halpha] at h
      exact ih _ (.inr (validScheme_append hseen (.inl halpha))) h
    rw [if_neg halpha] at h
    by_cases hchar : (c.isDigit || c == '+' || c == '-' || c == '.')
    · rw [if_pos hchar] at h
      by_cases hempty : seen.isEmpty
      · rw [if_pos hempty] at h
        cases h
        exact .inl rfl
      · rw [if_neg hempty] at h
        have hscheme : schemeChar c := by simp only [schemeChar, hchar, Bool.or_true]
        exact ih _ (.inr (validScheme_append hseen (.inr ⟨hne hempty, hscheme⟩))) h
    rw [if_neg hchar] at h
    by_cases hcolon : c == ':'
    · rw [if_pos hcolon] at h
      by_cases hempty : seen.isEmpty
      · rw [if_pos hempty] at h
        cases h
      · rw [if_neg hempty] at h
        cases h
        exact .inr (hseen.resolve_left (hne hempty))
    · rw [if_neg hcolon] at h
      cases h
      exact .inl rfl

theorem isAlpha_lowerCase : ∀ k : Fin 26, (Char.ofNat (97 + k)).isAlpha := by decide

/-- `Char.toLower` moves only `A` to `Z`, and to letters. -/
theorem toLower_schemeChar {c : Char} (hc : schemeChar c) :
    schemeChar c.toLower ∧ (c.isAlpha → c.toLower.isAlpha) := by
  by_cases hupper : c.toNat ≥ 65 ∧ c.toNat ≤ 90
  · have hlower : c.toLower = Char.ofNat (c.toNat + 32) := if_pos hupper
    have halpha := isAlpha_lowerCase ⟨c.toNat - 65, by omega⟩
    rw [show 97 + (c.toNat - 65) = c.toNat + 32 by omega] at halpha
    rw [hlower]
    exact ⟨by simp [schemeChar, halpha], fun _ => halpha⟩
  · have hsame : c.toLower = c := if_neg hupper
    rw [hsame]
    exact ⟨hc, id⟩

/-- Lower-casing keeps a scheme valid. -/
theorem validScheme_map_toLower {scheme : List Char} (h : validScheme scheme) :
    validScheme (scheme.map Char.toLower) := by
  obtain _ | ⟨c, cs⟩ := scheme
  · cases h
  · simp only [validScheme, Bool.and_eq_true, List.all_eq_true, List.map_cons, List.mem_map] at h ⊢
    refine ⟨(toLower_schemeChar (by simp [schemeChar, h.1])).2 h.1, ?_⟩
    rintro _ ⟨d, hd, rfl⟩
    exact (toLower_schemeChar (h.2 d hd)).1

/-- The query cut of a part free of `?`, followed by a query or by nothing, is that part. -/
theorem cutQuery_fst {pre : List Char} (hpre : '?' ∉ pre) {q : List Char}
    (hq : q = [] ∨ ∃ query, q = '?' :: query) : (cutQuery (pre ++ q)).1 = pre := by
  have hcount : pre.count '?' = 0 := List.count_eq_zero.2 hpre
  unfold cutQuery
  split
  · rename_i hforce
    rcases hq with rfl | ⟨query, rfl⟩
    · exact absurd (List.mem_of_mem_getLast? (by simpa using hforce.1)) hpre
    · have hquery : query = [] := by
        cases hlast : query.getLast? with
        | none => exact List.getLast?_eq_none_iff.1 hlast
        | some x =>
          have hx := List.mem_of_mem_getLast? hlast
          simp [List.getLast?_append, List.getLast?_cons, List.count_append, hcount, hlast] at hforce
          obtain ⟨rfl, hzero⟩ := hforce
          exact absurd hx (List.count_eq_zero.1 hzero)
      subst hquery
      exact List.dropLast_concat
  · rcases hq with rfl | ⟨query, rfl⟩
    · simp [split_of_not_mem hpre]
    · simp [split_sep_append hpre]

theorem cutQuery_head (rest : List Char) : (cutQuery ('/' :: rest)).1.head? = some '/' := by
  unfold cutQuery
  split
  · rename_i hforce
    cases rest with
    | nil => simp at hforce
    | cons c cs => rfl
  · simp [split]

section parseRest

variable {scheme : String} {via : Bool} {rest : List Char} {v : URL}

/-- What `parse` reads after the scheme: an opaque part, when the part before the query
does not start with `/`, or else what `authorityPath` reads. -/
theorem parseRest_eq_ok (h : parseRest scheme via rest = .ok v) :
    v.scheme = scheme ∧
      (((cutQuery rest).1.head? ≠ some '/' ∧ v.opaquePart = String.mk (cutQuery rest).1 ∧
          v.host = "" ∧ v.path = "") ∨
        (v.opaquePart = "" ∧ ∃ user,
          authorityPath (scheme != "") via (cutQuery rest).1 = .ok (user, v.host, v.path.toList))) := by
  rcases hc : cutQuery rest with ⟨p, fq, q⟩
  simp only [parseRest, hc, bind, Except.bind, pure, Except.pure] at h
  repeat' split at h
  all_goals cases h
  all_goals first
    | exact ⟨rfl, .inr ⟨rfl, _, ‹authorityPath _ _ _ = _›⟩⟩
    | exact ⟨rfl, .inl ⟨by simpa using ‹(p.head? != some '/') = true›, rfl, rfl, rfl⟩⟩

/-- Only an address whose part before the query does not start with `/` has an opaque part,
and then no host. -/
theorem parseRest_opaquePart (h : parseRest scheme via rest = .ok v) :
    v.opaquePart = "" ∨ v.host = "" ∧ (cutQuery rest).1.head? ≠ some '/' := by
  rcases (parseRest_eq_ok h).2 with ⟨hhead, -, hhost, -⟩ | ⟨hopaquePart, -⟩
  · exact .inr ⟨hhost, hhead⟩
  · exact .inl hopaquePart

/-- With nothing before the query, `parse` reads an empty opaque part and an empty path. -/
theorem parseRest_of_empty (hrest : (cutQuery rest).1 = [])
    (h : parseRest scheme via rest = .ok v) : v.opaquePart = "" ∧ v.path = "" := by
  rcases (parseRest_eq_ok h).2 with ⟨-, hopaquePart, -, hpath⟩ | ⟨hopaquePart, user, hauth⟩
  · rw [hopaquePart, hrest]
    exact ⟨rfl, hpath⟩
  · rw [hrest] at hauth
    simp only [authorityPath, Except.ok.injEq, Prod.mk.injEq] at hauth
    exact ⟨hopaquePart, String.ext hauth.2.2.symm⟩

/-- With a scheme and `//`, `parse` reads the authority up to the first `/` and the path
after it. -/
theorem parseRest_of_authority (hscheme : scheme ≠ "") {authority path : List Char}
    (hauthority : '/' ∉ authority) (hpath : path = [] ∨ ∃ tail, path = '/' :: tail)
    (hrest : (cutQuery rest).1 = '/' :: '/' :: (authority ++ path))
    (h : parseRest scheme via rest = .ok v) : v.opaquePart = "" ∧ v.path = String.mk path := by
  have hsplit : split '/' false (authority ++ path) = (authority, path) := by
    rcases hpath with rfl | ⟨tail, rfl⟩
    · simpa using split_of_not_mem hauthority
    · exact split_sep_append hauthority tail
  rcases (parseRest_eq_ok h).2 with ⟨hhead, -⟩ | ⟨hopaquePart, user, hauth⟩
  · rw [hrest] at hhead
    exact absurd rfl hhead
  · rw [hrest] at hauth
    simp [authorityPath, hscheme, hsplit] at hauth
    cases hparse : parseAuthority authority <;> simp [hparse, Functor.map, Except.map] at hauth
    exact ⟨hopaquePart, String.ext hauth.2.2.symm⟩

end parseRest

theorem parseURL_eq_ok {raw : List Char} {via : Bool} {v : URL} (h : parseURL raw via = .ok v) :
    v = { path := "*" } ∨ ∃ scheme rest, getScheme raw = .ok (scheme, rest) ∧
      parseRest (String.mk (scheme.map Char.toLower)) via rest = .ok v := by
  unfold parseURL at h
  split at h
  · cases h
  · split at h
    · cases h
    · split at h
      · cases h; exact .inl rfl
      · obtain ⟨⟨scheme, rest⟩, hscheme, h⟩ := bind_eq_ok.1 h
        exact .inr ⟨scheme, rest, hscheme, h⟩

/-- After a valid scheme and its `:`, `parse` goes on with the rest. -/
theorem parseURL_of_scheme {scheme rest : List Char} (hscheme : validScheme scheme) {via : Bool}
    {v : URL} (h : parseURL (scheme ++ ':' :: rest) via = .ok v) :
    parseRest (String.mk (scheme.map Char.toLower)) via rest = .ok v := by
  have hlong : scheme ++ ':' :: rest ≠ ['*'] := by
    obtain _ | ⟨c, cs⟩ := scheme
    · cases hscheme
    · simp
  unfold parseURL at h
  split at h
  · cases h
  · simp only [List.append_eq_nil, List.cons_ne_nil, and_false, false_and, if_false, hlong,
      getScheme_append hscheme] at h
    exact h

/-- `parse` reads no scheme or a valid one. -/
theorem parseURL_scheme {raw : List Char} {via : Bool} {v : URL} (h : parseURL raw via = .ok v) :
    v.scheme = "" ∨ validScheme v.scheme.toList := by
  rcases parseURL_eq_ok h with rfl | ⟨scheme, rest, hget, hrest⟩
  · exact .inl rfl
  · rw [(parseRest_eq_ok hrest).1]
    rcases getScheme_valid hget with rfl | hvalid
    · exact .inl rfl
    · exact .inr (validScheme_map_toLower hvalid)

/-- What `parse` reads with a host has no opaque part. -/
theorem parseURL_opaquePart {raw : List Char} {via : Bool} {v : URL} (h : parseURL raw via = .ok v)
    (hhost : v.host ≠ "") : v.opaquePart = "" := by
  rcases parseURL_eq_ok h with rfl | ⟨scheme, rest, -, hrest⟩
  · rfl
  · exact (parseRest_opaquePart hrest).resolve_right fun hopaquePart => hhost hopaquePart.1

theorem parse_eq_ok {rawurl : String} {u : URL} (h : parse rawurl = .ok u) :
    ∃ url, parseURL (split '#' true rawurl.toList).1 false = .ok url ∧
      u = { url with fragment := String.mk (split '#' true rawurl.toList).2 } := by
  unfold parse at h
  rcases hsplit : split '#' true rawurl.toList with ⟨raw, frag⟩
  simp only [hsplit] at h ⊢
  split at h
  · cases h
    exact ⟨_, ‹_›, rfl⟩
  · cases h

theorem parseRequestURI_eq_ok {rawurl : String} {v : URL} :
    parseRequestURI rawurl = .ok v ↔ parseURL rawurl.toList true = .ok v := by
  unfold parseRequestURI
  split <;> simp_all

end reading

/-! ## Printing -/

namespace Userinfo

/-- `(*Userinfo).String`. -/
def string (ui : Userinfo) : String :=
  escape ui.username .userPassword ++
    match ui.password with
    | some p => ":" ++ escape p .userPassword
    | none => ""

end Userinfo

namespace URL

/-- `EscapedPath`: the path as written when that is a valid escaped path, else escaped. -/
def escapedPath (u : URL) : String :=
  if validEncodedPath u.path then u.path else escape u.path .path

/-- The user part `String` writes before the host. -/
def userPart : Option Userinfo → String
  | some ui => ui.string ++ "@"
  | none => ""

/-- `(*URL).String`. -/
def string (u : URL) : String :=
  let head := if u.scheme = "" then "" else u.scheme ++ ":"
  let path := u.escapedPath
  let body :=
    if u.opaquePart ≠ "" then u.opaquePart
    else
      let authority :=
        if u.scheme ≠ "" ∨ u.host ≠ "" ∨ u.user.isSome then
          (if u.host ≠ "" ∨ u.path ≠ "" ∨ u.user.isSome then "//" else "") ++
            userPart u.user ++ escape u.host .host
        else ""
      let slash := if path ≠ "" ∧ path.get 0 ≠ '/' ∧ u.host ≠ "" then "/" else ""
      let dot := if head ++ authority ++ slash = "" ∧ firstSegmentHasColon path.toList
        then "./" else ""
      authority ++ slash ++ dot ++ path
  let query := if u.forceQuery ∨ u.rawQuery ≠ "" then "?" ++ u.rawQuery else ""
  let frag := if u.fragment = "" then "" else "#" ++ escape u.fragment .fragment
  head ++ body ++ query ++ frag

/-- A URL with a scheme prints as a non-empty address. -/
theorem string_ne_empty {u : URL} (hscheme : u.scheme ≠ "") : u.string ≠ "" := by
  intro hempty
  have hlen := congrArg String.length hempty
  have hcolon : (":" : String).length = 1 := rfl
  have hnil : ("" : String).length = 0 := rfl
  simp only [string, if_neg hscheme, String.length_append, hcolon, hnil] at hlen
  omega

end URL

section printing

theorem upperHex_ne : ∀ n : Fin 16, upperHex n ≠ '/' ∧ upperHex n ≠ '?' := by decide

/-- What `escape` writes: characters it keeps, `%`, and hexadecimal digits. -/
theorem mem_escape {s : String} {mode : Encoding} {x : Char} (hx : x ∈ (escape s mode).toList) :
    x = '%' ∨ shouldEscape x mode = false ∨ ∃ n : Fin 16, x = upperHex n := by
  obtain ⟨c, -, hc⟩ := List.mem_flatMap.1 hx
  unfold escapeChar at hc
  split at hc
  · rename_i hkeep
    rw [List.mem_singleton] at hc
    subst hc
    rcases hkeep with h | h
    · exact .inl h
    · exact .inr (.inl h)
  · obtain ⟨b, -, hb⟩ := List.mem_flatMap.1 hc
    have hlt : b.toNat < 256 := UInt8.toNat_lt_size b
    simp only [List.mem_cons, List.mem_singleton, List.not_mem_nil, or_false] at hb
    rcases hb with h | h | h
    · exact .inl h
    · exact .inr (.inr ⟨⟨_, by omega⟩, h⟩)
    · exact .inr (.inr ⟨⟨_, by omega⟩, h⟩)


theorem not_mem_escape {s : String} {mode : Encoding} {x : Char} (hpercent : x ≠ '%')
    (hescaped : shouldEscape x mode = true) (hhex : ∀ n : Fin 16, x ≠ upperHex n) :
    x ∉ (escape s mode).toList := fun hx => by
  rcases mem_escape hx with h | h | ⟨n, h⟩
  · exact hpercent h
  · rw [hescaped] at h; cases h
  · exact hhex n h

theorem slash_or_question_not_mem_escape {s : String} {mode : Encoding} {x : Char}
    (hmode : mode = .host ∨ mode = .userPassword) (hx : x = '/' ∨ x = '?') :
    x ∉ (escape s mode).toList := by
  refine not_mem_escape ?_ ?_ fun n hn => ?_
  · rcases hx with rfl | rfl <;> decide
  · rcases hmode with rfl | rfl <;> rcases hx with rfl | rfl <;> decide
  · rcases hx with rfl | rfl
    · exact (upperHex_ne n).1 hn.symm
    · exact (upperHex_ne n).2 hn.symm

namespace URL

/-- The user part and host `String` writes hold no `/` and no `?`. -/
theorem authority_not_mem (user : Option Userinfo) (host : String) {x : Char}
    (hx : x = '/' ∨ x = '?') : x ∉ (userPart user ++ escape host .host).toList := by
  have hfree : ∀ mode s, mode = .host ∨ mode = .userPassword → x ∉ (escape s mode).toList :=
    fun _ _ hmode => slash_or_question_not_mem_escape hmode hx
  have hsep : x ≠ ':' ∧ x ≠ '@' := by rcases hx with rfl | rfl <;> decide
  cases user with
  | none => simpa [userPart] using hfree _ host (.inl rfl)
  | some ui =>
    cases h : ui.password <;>
      simp_all [userPart, Userinfo.string, String.toList, String.data_append]

/-- A printed path holds no `?`: `validEncodedPath` refuses one, and `escape` writes `%3F`. -/
theorem question_not_mem_escapedPath (u : URL) : '?' ∉ u.escapedPath.toList := by
  unfold escapedPath
  split
  · rename_i hvalid
    intro hmem
    revert hvalid
    simp only [validEncodedPath, List.all_eq_true]
    exact fun hall => absurd (hall '?' hmem) (by decide)
  · exact not_mem_escape (by decide) (by decide) fun n hn => (upperHex_ne n).2 hn.symm

/-- A path that is empty or starts with `/` is printed so. -/
theorem escapedPath_slash {u : URL} (hpath : u.path.toList = [] ∨ ∃ rest, u.path.toList = '/' :: rest) :
    u.escapedPath.toList = [] ∨ ∃ rest, u.escapedPath.toList = '/' :: rest := by
  unfold escapedPath
  split
  · exact hpath
  · have hesc : (escape u.path .path).toList = u.path.toList.flatMap (escapeChar .path) := rfl
    rw [hesc]
    rcases hpath with h | ⟨rest, h⟩
    · exact .inl (by rw [h]; rfl)
    · exact .inr ⟨_, by rw [h, List.flatMap_cons]; rfl⟩


theorem get_zero_of_toList {s : String} {c : Char} {rest : List Char} (h : s.toList = c :: rest) :
    s.get 0 = c := by
  obtain ⟨data⟩ := s
  change data = c :: rest at h
  subst h
  rfl

/-- How `String` prints an address with a scheme, no opaque part and no fragment, whose path
is printed empty or from a `/`. -/
theorem string_toList {u : URL} (hscheme : u.scheme ≠ "") (hopaquePart : u.opaquePart = "")
    (hfragment : u.fragment = "")
    (hpath : u.escapedPath.toList = [] ∨ ∃ rest, u.escapedPath.toList = '/' :: rest) :
    u.string.toList = u.scheme.toList ++ ':' ::
      ((if u.host ≠ "" ∨ u.path ≠ "" ∨ u.user.isSome then
          '/' :: '/' :: (userPart u.user ++ escape u.host .host).toList else []) ++
        u.escapedPath.toList ++
        (if u.forceQuery ∨ u.rawQuery ≠ "" then '?' :: u.rawQuery.toList else [])) := by
  have hslash : ¬(u.escapedPath ≠ "" ∧ u.escapedPath.get 0 ≠ '/' ∧ u.host ≠ "") := by
    rintro ⟨hne, hget, -⟩
    rcases hpath with h | ⟨rest, h⟩
    · exact hne (String.ext h)
    · exact hget (get_zero_of_toList h)
  have hhead : ∀ rest, u.scheme ++ ":" ++ rest ≠ "" := fun rest h => by
    have hlen := congrArg String.length h
    rw [String.length_append, String.length_append] at hlen
    exact absurd hlen (by show _ + 1 + _ ≠ 0; omega)
  simp only [string, if_neg hscheme, hopaquePart, ne_eq, not_true_eq_false, if_false, hfragment,
    if_true, hslash, hscheme, not_false_eq_true, true_or, String.append_empty, hhead, false_and]
  split_ifs with hauth
  all_goals try simp [String.toList, String.data_append]
  all_goals
    simp only [not_or, not_not, Bool.not_eq_true] at hauth
    obtain ⟨hhost, -, huser⟩ := hauth
    have hnone : u.user = none := Option.not_isSome_iff_eq_none.1 (by simp [huser])
    simp [hhost, hnone, userPart, escape]

end URL

end printing

/-! ## Reading a printed address back -/

/-- Reading a printed address back. For an address with a valid scheme, no opaque part, no
fragment and a path that is empty or starts with `/`, `ParseRequestURI` of what `String`
prints either fails or reads no opaque part and the path as printed. -/
theorem parseRequestURI_string {u v : URL} (hscheme : validScheme u.scheme.toList)
    (hopaquePart : u.opaquePart = "") (hfragment : u.fragment = "")
    (hpath : u.path.toList = [] ∨ ∃ rest, u.path.toList = '/' :: rest)
    (hparse : parseRequestURI u.string = .ok v) :
    v.opaquePart = "" ∧ v.path = u.escapedPath := by
  have hnil : u.scheme.toList ≠ [] := fun h => by
    rw [h] at hscheme
    exact Bool.false_ne_true hscheme
  have hne : u.scheme ≠ "" := fun h => hnil (by simp [h])
  have hlower : String.mk (u.scheme.toList.map Char.toLower) ≠ "" :=
    fun h => hnil (List.map_eq_nil_iff.1 (congrArg String.data h))
  have hprinted := URL.escapedPath_slash hpath
  rw [parseRequestURI_eq_ok, URL.string_toList hne hopaquePart hfragment hprinted] at hparse
  have hrest := parseURL_of_scheme hscheme hparse
  have hquery : (if u.forceQuery ∨ u.rawQuery ≠ "" then '?' :: u.rawQuery.toList else []) = [] ∨
      ∃ q, (if u.forceQuery ∨ u.rawQuery ≠ "" then '?' :: u.rawQuery.toList else []) = '?' :: q := by
    split_ifs <;> simp
  by_cases hauth : u.host ≠ "" ∨ u.path ≠ "" ∨ u.user.isSome
  · rw [if_pos hauth] at hrest
    have hfree : '?' ∉ '/' :: '/' :: (URL.userPart u.user ++ escape u.host .host).toList ++
        u.escapedPath.toList := by
      simp only [List.cons_append, List.mem_cons, List.mem_append, not_or]
      exact ⟨by decide, by decide, URL.authority_not_mem _ _ (.inr rfl),
        URL.question_not_mem_escapedPath u⟩
    exact parseRest_of_authority hlower (URL.authority_not_mem _ _ (.inl rfl)) hprinted
      (cutQuery_fst hfree hquery) hrest
  · rw [if_neg hauth] at hrest
    have hempty : u.path = "" := by simp only [not_or, not_not] at hauth; exact hauth.2.1
    have hprinted' : u.escapedPath = "" := by simp [URL.escapedPath, hempty, validEncodedPath]
    rw [hprinted'] at hrest ⊢
    exact parseRest_of_empty (@cutQuery_fst [] (List.not_mem_nil _) _ hquery) hrest

end Url

end HelmProvider
