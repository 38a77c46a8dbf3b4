/-
# `getTLSConfig`: the Helm client's TLS material

`getTLSConfig` (part_000, lines 329-368) reads `client_key`, `client_certificate` and
`ca_certificate` through `getContent`, each either PEM text or the path of a file that
holds it. An attribute whose contents equal its schema default reads as nothing. Neither
a key nor a certificate gives no TLS configuration at all; otherwise the pair must parse,
and the CA bundle becomes the root pool only when certificates are verified.
-/

import HelmProvider.Provider.Env

namespace HelmProvider

/-- `getContent` (lines 370-383): the contents of attribute `key`, or `""` when they equal
`dflt`. Go returns nil there; a nil and an empty slice are alike to every caller. -/
def getContent (env : ProviderEnv) (d : ConfigData) (key dflt : String) : ErrM String := do
  let filename ← (d.get key).assertString
  let content ← Pathorcontents.read env.homeDir env.readFile filename
  if content = dflt then return "" else return content

/-- `tls.X509KeyPair(certPEMBlock, keyPEMBlock)` with the provider's wrapping of its error
(lines 348-351). -/
def parseKeyPair (env : ProviderEnv) (certPEMBlock keyPEMBlock : String) :
    ErrM Tls.Certificate :=
  match env.x509KeyPair certPEMBlock keyPEMBlock with
  | .ok cert => pure cert
  | .error err => throw ("could not read x509 key pair: " ++ err)

/-- `getTLSConfig` (lines 329-368); `none` is the nil `*tls.Config`. -/
def getTLSConfig (env : ProviderEnv) (d : ConfigData) : ErrM (Option Tls.Config) := do
  let keyPEMBlock ← getContent env d "client_key" "$HELM_HOME/key.pem"
  let certPEMBlock ← getContent env d "client_certificate" "$HELM_HOME/cert.pem"
  if keyPEMBlock = "" ∧ certPEMBlock = "" then return none
  else
    let cfg : Tls.Config := { insecureSkipVerify := ← (d.get "insecure").assertBool }
    let cert ← parseKeyPair env certPEMBlock keyPEMBlock
    let cfg := { cfg with certificates := [cert] }
    let caPEMBlock ← getContent env d "ca_certificate" "$HELM_HOME/ca.pem"
    if !cfg.insecureSkipVerify && caPEMBlock ≠ "" then
      if env.appendCertsFromPEM caPEMBlock then
        return some { cfg with rootCAs := some caPEMBlock }
      else throw "failed to parse ca_certificate"
    else return some cfg

variable {env : ProviderEnv} {d : ConfigData}

/-- `getContent` fails only where `pathorcontents.Read` does, on the attribute's value. -/
theorem getContent_eq_error {key dflt e : String}
    (h : (getContent env d key dflt).run = .ok (.error e)) :
    ∃ filename, d.get key = .string filename ∧
      Pathorcontents.read env.homeDir env.readFile filename = .error e := by
  rcases ErrM.run_bind_eq_error.1 h with hfile | ⟨filename, hfile, h⟩
  · exact (ErrM.run_lift_panic_eq_error.1 hfile).elim
  rw [ErrM.run_lift_panic_eq_ok, Value.assertString_eq_ok] at hfile
  rcases ErrM.run_bind_eq_error.1 h with hread | ⟨read, -, h⟩
  · exact ⟨filename, hfile, ErrM.run_lift_error_eq_error.1 hread⟩
  · split at h <;> simp at h

theorem parseKeyPair_eq_error {c k e : String} :
    (parseKeyPair env c k).run = .ok (.error e) ↔
      ∃ err, env.x509KeyPair c k = .error err ∧ e = "could not read x509 key pair: " ++ err := by
  cases hx : env.x509KeyPair c k <;>
    simp only [parseKeyPair, hx, ErrM.run_throw_eq_error, ErrM.run_pure_eq_error] <;>
    simp [eq_comm]

/-- Every error `getTLSConfig` returns: a TLS attribute names a file that cannot be read,
the key pair does not parse, or certificates are verified and the CA bundle holds none. -/
theorem getTLSConfig_eq_error {e : String} (h : (getTLSConfig env d).run = .ok (.error e)) :
    (∃ key ∈ ["client_key", "client_certificate", "ca_certificate"], ∃ filename,
      d.get key = .string filename ∧
        Pathorcontents.read env.homeDir env.readFile filename = .error e) ∨
    (∃ cert key err, env.x509KeyPair cert key = .error err ∧
      e = "could not read x509 key pair: " ++ err) ∨
    (∃ ca, d.get "insecure" = .bool false ∧ ca ≠ "" ∧ env.appendCertsFromPEM ca = false ∧
      e = "failed to parse ca_certificate") := by
  rcases ErrM.run_bind_eq_error.1 h with hkey | ⟨key, -, h⟩
  · exact .inl ⟨"client_key", by simp, getContent_eq_error hkey⟩
  rcases ErrM.run_bind_eq_error.1 h with hcert | ⟨cert, -, h⟩
  · exact .inl ⟨"client_certificate", by simp, getContent_eq_error hcert⟩
  split at h
  · simp at h
  rcases ErrM.run_bind_eq_error.1 h with hinsecure | ⟨insecure, hinsecure, h⟩
  · exact (ErrM.run_lift_panic_eq_error.1 hinsecure).elim
  rw [ErrM.run_lift_panic_eq_ok, Value.assertBool_eq_ok] at hinsecure
  rcases ErrM.run_bind_eq_error.1 h with hpair | ⟨pair, -, h⟩
  · exact .inr (.inl ⟨cert, key, parseKeyPair_eq_error.1 hpair⟩)
  rcases ErrM.run_bind_eq_error.1 h with hca | ⟨ca, -, h⟩
  · exact .inl ⟨"ca_certificate", by simp, getContent_eq_error hca⟩
  split at h
  · rename_i hverify
    split at h
    · simp at h
    · rename_i hunparsed
      simp only [Bool.and_eq_true, Bool.not_eq_true', decide_eq_true_eq] at hverify
      refine .inr (.inr ⟨ca, hverify.1 ▸ hinsecure, hverify.2, Bool.eq_false_iff.2 hunparsed, ?_⟩)
      exact (ErrM.run_throw_eq_error.1 h).symm
  · simp at h

/-- The refusals of `kubernetes.NewForConfig` a REST config of the model can meet: basic
authentication next to a bearer token (`transport.HTTPWrappersForConfig`), and a CA next to
the insecure flag (`transport.TLSConfigFor`). -/
def newForConfigChecks (cfg : Rest.Config) : Except String Unit :=
  if (cfg.username ≠ "" ∨ cfg.password ≠ "") ∧ cfg.bearerToken ≠ "" then
    .error "username/password or bearer token may be set, but not both"
  else if cfg.caData ≠ "" ∧ cfg.insecure then
    .error "specifying a root certificates file with the insecure flag is not allowed"
  else .ok ()

/-- A machine outside a pod with no kubeconfig and no file at the schema's default paths.
helm's `kube.GetConfig` then falls back to client-go's default cluster,
`http://localhost:8080`, for every context; the port forwarder and `crypto/tls` succeed. -/
def sampleEnv : ProviderEnv where
  homeDir := .ok "/root"
  readFile _ := none
  kubeClientConfig _ := .ok { host := "http://localhost:8080" }
  versionString := "0.11.12"
  newForConfig := newForConfigChecks
  portforwarderNew _ _ _ := .ok ⟨40123⟩
  x509KeyPair cert key := .ok ⟨cert, key⟩
  appendCertsFromPEM _ := true

/-- A provider block with a client key pair given as PEM text and nothing else but `home`:
no Tiller `host`, no CA and no `kubernetes` block. -/
def tunnelledTLS : ConfigData :=
  .ofSchema [("home", .string "/root/.helm"), ("client_key", .string "KEY"),
    ("client_certificate", .string "CERT")]

/-- The TLS configuration `getTLSConfig` builds for it. -/
def tunnelledTLSConfig : Tls.Config :=
  { certificates := [⟨"CERT", "KEY"⟩] }

end HelmProvider
