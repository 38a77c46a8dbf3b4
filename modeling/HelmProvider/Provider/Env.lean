/-
# The provider's schema and the libraries `buildMeta` calls

`Provider()` (part_000, lines 74-204) declares each attribute the provider reads with a
type, and some with a static default. Terraform hands `providerConfigure` a
`schema.ResourceData` whose values have the declared types; `Conforms` says that of a
`ConfigData`. The libraries `buildMeta` calls are inputs of the model, gathered in
`ProviderEnv`. `pathorcontents.Read` is modelled, because the provider compares its
result with the attribute's default.
-/

import HelmProvider.ClientGo.Clientcmd

namespace HelmProvider

/-- The schema types `Provider()` uses. -/
inductive ValueType where
  | string
  | bool
  | list
  deriving DecidableEq, Repr

/-- Whether a value has a schema type. -/
def Value.hasType : Value → ValueType → Bool
  | .string _, .string | .bool _, .bool | .list _, .list => true
  | _, _ => false

/-- One attribute of the schema: the path `ResourceData` reads it under (`kubernetes.0.<name>`
inside the `kubernetes` block), its type and its static `Default`. -/
structure Attribute where
  path : String
  type : ValueType
  default : Option String := none

/-- `Provider()`'s schema. Descriptions, and `DefaultFunc`s, which read the environment, are
Terraform's concern. -/
def providerSchema : List Attribute :=
  [⟨"host", .string, none⟩, ⟨"home", .string, none⟩,
    ⟨"namespace", .string, some "kube-system"⟩, ⟨"debug", .bool, none⟩,
    ⟨"plugins_disable", .bool, none⟩, ⟨"insecure", .bool, none⟩,
    ⟨"client_key", .string, some "$HELM_HOME/key.pem"⟩,
    ⟨"client_certificate", .string, some "$HELM_HOME/cert.pem"⟩,
    ⟨"ca_certificate", .string, some "$HELM_HOME/ca.pem"⟩,
    ⟨"kubernetes", .list, none⟩,
    ⟨"kubernetes.0.host", .string, none⟩, ⟨"kubernetes.0.username", .string, none⟩,
    ⟨"kubernetes.0.password", .string, none⟩, ⟨"kubernetes.0.insecure", .bool, none⟩,
    ⟨"kubernetes.0.client_certificate", .string, none⟩,
    ⟨"kubernetes.0.client_key", .string, none⟩,
    ⟨"kubernetes.0.cluster_ca_certificate", .string, none⟩,
    ⟨"kubernetes.0.config_path", .string, none⟩,
    ⟨"kubernetes.0.config_context", .string, none⟩]

namespace Schema

/-- The type the schema declares at `path`. -/
def typeAt (path : String) : Option ValueType :=
  (providerSchema.find? (·.path == path)).map (·.type)

/-- The static default the schema declares at `path`. -/
def defaultAt (path : String) : Option String :=
  (providerSchema.find? (·.path == path)).bind (·.default)

end Schema

/-- Every attribute of the schema holds a value of its type. -/
def Conforms (d : ConfigData) : Prop :=
  ∀ a ∈ providerSchema, (d.get a.path).hasType a.type

instance (d : ConfigData) : Decidable (Conforms d) :=
  inferInstanceAs (Decidable (∀ a ∈ providerSchema, _))

section Conforms

variable {d : ConfigData} {key : String}

theorem Conforms.hasType (hd : Conforms d) {t : ValueType} (htype : Schema.typeAt key = some t) :
    (d.get key).hasType t := by
  obtain ⟨a, hfind, rfl⟩ := Option.map_eq_some'.1 htype
  have hpath : a.path = key := by simpa using List.find?_some hfind
  exact hpath ▸ hd a (List.mem_of_find?_eq_some hfind)

theorem Conforms.assertString (hd : Conforms d) (htype : Schema.typeAt key = some .string) :
    ∃ s, (d.get key).assertString = .ok s := by
  have := hd.hasType htype
  cases hv : d.get key <;> simp_all [Value.hasType]

theorem Conforms.assertBool (hd : Conforms d) (htype : Schema.typeAt key = some .bool) :
    ∃ b, (d.get key).assertBool = .ok b := by
  have := hd.hasType htype
  cases hv : d.get key <;> simp_all [Value.hasType]

end Conforms

/-- The zero value of a schema type. -/
def ValueType.zero : ValueType → Value
  | .string => .string ""
  | .bool => .bool false
  | .list => .list []

/-- A `ResourceData` in which exactly the listed attributes are set. Every other attribute
reads as its default, or as the zero value of its type. -/
def ConfigData.ofSchema (entries : List (String × Value)) : ConfigData :=
  ⟨fun key => match entries.lookup key with
    | some v => (v, true)
    | none => match providerSchema.find? (·.path == key) with
      | some a => ((a.default.map Value.string).getD a.type.zero, a.default.isSome)
      | none => (.nil, false)⟩

namespace Pathorcontents

/-- `pathorcontents.Read(poc)`: the contents of the file `poc` names, once a leading `~` is
expanded, or `poc` itself when there is no such file. `readFile` is `none` where `os.Stat`
fails. The flag `Read` also returns is not used by the provider. -/
def read (homeDir : Except String String) (readFile : String → Option (Except String String))
    (poc : String) : Except String String := do
  if poc = "" then return poc
  else
    let path ← if poc.front = '~' then Homedir.expand homeDir poc else pure poc
    match readFile path with
    | some contents => contents
    | none => return poc

end Pathorcontents

namespace Tls

/-- A `tls.Certificate`: the key pair `tls.X509KeyPair` parsed. -/
structure Certificate where
  certificate : String
  privateKey : String
  deriving DecidableEq, Repr

/-- The fields of `tls.Config` the provider sets; `rootCAs` is the pool, by the PEM bundle
appended to it. -/
structure Config where
  insecureSkipVerify : Bool := false
  certificates : List Certificate := []
  rootCAs : Option String := none
  deriving DecidableEq, Repr

end Tls

namespace Helm

/-- The `helm.Option`s the provider passes to `helm.NewClient`. -/
inductive ClientOption where
  | host (host : String)
  | withTLS (cfg : Tls.Config)
  deriving DecidableEq, Repr

/-- The options of a `helm.Client`. -/
structure Client where
  host : String := ""
  useTLS : Bool := false
  tlsConfig : Option Tls.Config := none
  deriving DecidableEq, Repr

/-- What one option sets. -/
def ClientOption.apply : ClientOption → Client → Client
  | .host h, c => { c with host := h }
  | .withTLS cfg, c => { c with useTLS := true, tlsConfig := some cfg }

/-- `helm.NewClient(opts...)`: the options applied in order. -/
def newClient (opts : List ClientOption) : Client :=
  opts.foldl (fun c o => o.apply c) {}

end Helm

/-- `kubernetes.Clientset`, by the REST config it was built for. -/
structure Kubernetes.Clientset where
  config : Rest.Config
  deriving DecidableEq, Repr

/-- `kube.Tunnel`, by its `Local` port. -/
structure Kube.Tunnel where
  localPort : Nat
  deriving DecidableEq, Repr

/-- What `buildMeta` reads besides its configuration: the machine, and the results of the
library calls it makes. -/
structure ProviderEnv where
  /-- What `homedir.Dir()` finds. -/
  homeDir : Except String String
  /-- The file at a path: `none` where `os.Stat` fails, else what `ioutil.ReadFile` gives. -/
  readFile : String → Option (Except String String)
  /-- `kube.GetConfig(context).ClientConfig()`. -/
  kubeClientConfig : String → Except String Rest.Config
  /-- `terraform.VersionString()`. -/
  versionString : String
  /-- The error of `kubernetes.NewForConfig`, if any. -/
  newForConfig : Rest.Config → Except String Unit
  /-- `portforwarder.New(namespace, client, config)`. -/
  portforwarderNew :
    String → Option Kubernetes.Clientset → Option Rest.Config → Except String Kube.Tunnel
  /-- `tls.X509KeyPair(certPEMBlock, keyPEMBlock)`. -/
  x509KeyPair : String → String → Except String Tls.Certificate
  /-- Whether `AppendCertsFromPEM` finds a certificate in a bundle. -/
  appendCertsFromPEM : String → Bool

end HelmProvider
