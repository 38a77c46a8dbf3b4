/-
# The server address: `rest.DefaultServerURL` and `homedir.Expand`

`toRawKubeConfigLoader` turns the `host` attribute into a full server address with
client-go's `rest.DefaultServerURL`, and the `config_path` attribute into a file path with
go-homedir's `Expand`. Neither is part of the provider; both are modelled here as far as
the provider's results depend on them, `DefaultServerURL` over the `net/url` model and
`Expand` over `filepath.Join` and `Clean`.

`DefaultServerURL` keeps a URL that `url.Parse` reads with a scheme and a host, path
included: client-go treats that path as a prefix of every request. Any other host is a bare
host, read again behind `http://` or `https://`, and then refused unless its path is empty
or `/`. Every address it returns has a valid scheme and no opaque part, which is what
client-go's `ClientConfig` relies on when it reads the address back.
-/

import HelmProvider.NetUrl

namespace HelmProvider

namespace Rest

/-- The scheme `DefaultServerURL` puts before a host that lacks one. -/
def defaultScheme (defaultTLS : Bool) : String :=
  if defaultTLS then "https://" else "http://"

/-- The bare-host branch of `rest.DefaultServerURL`: the host is read again behind
`defaultScheme`, and may then carry no path but `/`. -/
def bareHostURL (host : String) (defaultTLS : Bool) : Except String Url.URL :=
  match Url.parse (defaultScheme defaultTLS ++ host) with
  | .ok u =>
    if u.path ≠ "" ∧ u.path ≠ "/" then
      .error ("host must be a URL or a host:port pair: " ++ Fmt.quote host)
    else .ok u
  | .error e => .error e

/-- `rest.DefaultServerURL(host, "", schema.GroupVersion{}, defaultTLS)`: an empty host is
refused, and a host that `url.Parse` does not read with both a scheme and a host part is a
bare host. The versioned API path it also returns is not used by the provider. -/
def defaultServerURL (host : String) (defaultTLS : Bool) : Except String Url.URL :=
  if host = "" then .error "host must be a URL or a host:port pair"
  else match Url.parse host with
    | .ok u => if u.scheme = "" ∨ u.host = "" then bareHostURL host defaultTLS else .ok u
    | .error _ => bareHostURL host defaultTLS

example : (defaultServerURL "https://rancher.example.com/k8s/clusters/c-abcde" false).map
    Url.URL.path = .ok "/k8s/clusters/c-abcde" := rfl

example : defaultServerURL "example.com/api" true =
    .error "host must be a URL or a host:port pair: \"example.com/api\"" := rfl

theorem defaultScheme_toList (defaultTLS : Bool) :
    (defaultScheme defaultTLS).toList =
      (if defaultTLS then "https" else "http").toList ++ [':', '/', '/'] := by
  cases defaultTLS <;> rfl

/-- An address read behind `http://` or `https://` has that scheme and no opaque part. -/
theorem parse_defaultScheme {defaultTLS : Bool} {host : String} {u : Url.URL}
    (hparse : Url.parse (defaultScheme defaultTLS ++ host) = .ok u) :
    u.scheme = (if defaultTLS then "https" else "http") ∧ u.opaquePart = "" := by
  obtain ⟨url, hurl, rfl⟩ := Url.parse_eq_ok hparse
  have hfree : '#' ∉ (defaultScheme defaultTLS).toList := by cases defaultTLS <;> decide
  have hvalid : Url.validScheme (if defaultTLS then "https" else "http").toList := by
    cases defaultTLS <;> decide
  rw [String.toList, String.data_append, ← String.toList, Url.split_append hfree,
    defaultScheme_toList, List.append_assoc] at hurl
  have hrest := Url.parseURL_of_scheme hvalid hurl
  refine ⟨?_, ?_⟩
  · rw [(Url.parseRest_eq_ok hrest).1]
    cases defaultTLS <;> decide
  · exact (Url.parseRest_opaquePart hrest).resolve_right fun h => h.2 (Url.cutQuery_head _)

section

variable {host : String} {defaultTLS : Bool} {u : Url.URL}

theorem bareHostURL_eq_ok (h : bareHostURL host defaultTLS = .ok u) :
    Url.parse (defaultScheme defaultTLS ++ host) = .ok u ∧ (u.path = "" ∨ u.path = "/") := by
  unfold bareHostURL at h
  split at h
  · split at h
    · cases h
    · rename_i hparse hpath
      cases h
      exact ⟨hparse, (not_and_or.1 hpath).imp not_not.1 not_not.1⟩
  · cases h

/-- The two ways `DefaultServerURL` returns: a URL with a scheme and a host part as
`url.Parse` reads it, or a bare host as `bareHostURL` reads it. -/
theorem defaultServerURL_eq_ok (hurl : defaultServerURL host defaultTLS = .ok u) :
    (Url.parse host = .ok u ∧ u.scheme ≠ "" ∧ u.host ≠ "") ∨
      ((∀ v, Url.parse host = .ok v → v.scheme = "" ∨ v.host = "") ∧
        bareHostURL host defaultTLS = .ok u) := by
  unfold defaultServerURL at hurl
  split at hurl
  · cases hurl
  · split at hurl
    · rename_i v hparse
      split at hurl
      · exact .inr ⟨fun w hw => by rw [hparse] at hw; cases hw; assumption, hurl⟩
      · rename_i hcomplete
        cases hurl
        exact .inl ⟨hparse, not_or.1 hcomplete⟩
    · rename_i hparse
      exact .inr ⟨fun w hw => (nomatch hparse.symm.trans hw), hurl⟩

/-- A bare host always takes the bare-host branch. -/
theorem defaultServerURL_of_bare (hbare : ∀ v, Url.parse host = .ok v → v.scheme = "" ∨ v.host = "")
    (hurl : defaultServerURL host defaultTLS = .ok u) : bareHostURL host defaultTLS = .ok u := by
  rcases defaultServerURL_eq_ok hurl with ⟨hparse, hscheme, hhost⟩ | ⟨-, hb⟩
  · exact ((hbare u hparse).elim hscheme hhost).elim
  · exact hb

/-- Every address `DefaultServerURL` returns has a valid scheme and no opaque part. -/
theorem defaultServerURL_wellFormed (hurl : defaultServerURL host defaultTLS = .ok u) :
    Url.validScheme u.scheme.toList ∧ u.opaquePart = "" := by
  rcases defaultServerURL_eq_ok hurl with ⟨hparse, hscheme, hhost⟩ | ⟨-, hb⟩
  · obtain ⟨url, hurl', rfl⟩ := Url.parse_eq_ok hparse
    have hopaquePart := Url.parseURL_opaquePart hurl' hhost
    exact ⟨(Url.parseURL_scheme hurl').resolve_left hscheme, hopaquePart⟩
  · obtain ⟨hscheme, hopaquePart⟩ := parse_defaultScheme (bareHostURL_eq_ok hb).1
    exact ⟨by rw [hscheme]; cases defaultTLS <;> decide, hopaquePart⟩

/-- Every address `DefaultServerURL` returns has a scheme. -/
theorem defaultServerURL_scheme_ne_empty (hurl : defaultServerURL host defaultTLS = .ok u) :
    u.scheme ≠ "" := fun h => by
  have hvalid := (defaultServerURL_wellFormed hurl).1
  rw [h] at hvalid
  exact Bool.false_ne_true hvalid

/-- A bare host gets the scheme of the TLS flag: `https` under TLS, `http` otherwise. -/
theorem defaultServerURL_scheme_of_bare
    (hbare : ∀ v, Url.parse host = .ok v → v.scheme = "" ∨ v.host = "")
    (hurl : defaultServerURL host defaultTLS = .ok u) :
    u.scheme = (if defaultTLS then "https" else "http") :=
  (parse_defaultScheme (bareHostURL_eq_ok (defaultServerURL_of_bare hbare hurl)).1).1

/-- A bare host keeps an empty or `/` path: `DefaultServerURL` refuses any other. -/
theorem defaultServerURL_path_of_bare
    (hbare : ∀ v, Url.parse host = .ok v → v.scheme = "" ∨ v.host = "")
    (hurl : defaultServerURL host defaultTLS = .ok u) : u.path = "" ∨ u.path = "/" :=
  (bareHostURL_eq_ok (defaultServerURL_of_bare hbare hurl)).2

end

end Rest

namespace Homedir

/-- The elements of a path between its separators. -/
def elements : List Char → List (List Char)
  | [] => [[]]
  | c :: cs =>
    if c = '/' then [] :: elements cs
    else match elements cs with
      | [] => [[c]]
      | e :: es => (c :: e) :: es

/-- One element of `filepath.Clean`'s scan, on the elements kept so far, last first: an
empty element and `.` are dropped; `..` takes back the last element kept, is dropped at the
root, and is kept in front of a relative path with nothing left to take back. -/
def cleanStep (rooted : Bool) (kept : List (List Char)) (elem : List Char) : List (List Char) :=
  if elem = [] ∨ elem = ['.'] then kept
  else if elem = ['.', '.'] then
    match kept with
    | last :: rest => if last = ['.', '.'] then elem :: kept else rest
    | [] => if rooted then [] else [elem]
  else elem :: kept

/-- `filepath.Clean` on Unix: the shortest path that names the same file by lexical
processing alone, `.` when a relative path cleans to nothing. -/
def clean (path : List Char) : List Char :=
  let rooted := path.head? = some '/'
  let body := ['/'].intercalate ((elements path).foldl (cleanStep rooted) []).reverse
  if rooted then '/' :: body else if body = [] then ['.'] else body

/-- `filepath.Join(dir, elem)`: the non-empty elements joined with `/`, then cleaned. -/
def join (dir elem : String) : String :=
  if dir = "" then (if elem = "" then "" else ⟨clean elem.toList⟩)
  else ⟨clean (dir.toList ++ '/' :: elem.toList)⟩

example : join "/root" "/.kube/config" = "/root/.kube/config" := by decide

example : join "/home/u/" "/../other/./kube//" = "/home/other/kube" := by decide

/-- `homedir.Expand`: a leading `~` stands for the home directory, which `Dir()` finds
(`home`, or its failure); `~user` is refused. -/
def expand (home : Except String String) (path : String) : Except String String :=
  match path.toList with
  | '~' :: rest =>
    if rest ≠ [] ∧ rest.head? ≠ some '/' ∧ rest.head? ≠ some '\\' then
      .error "cannot expand user-specific home dir"
    else do
      let dir ← home
      return join dir (String.mk rest)
  | _ => .ok path

end Homedir

end HelmProvider
