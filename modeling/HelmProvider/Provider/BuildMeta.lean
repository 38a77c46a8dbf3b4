/-
# `buildMeta`: configuring the provider

`providerConfigure` returns `buildMeta(d)` (part_000, lines 206-235). It fills `Meta` in
four steps: the Helm settings, the Kubernetes client, the tunnel to Tiller and the Helm
client. Each step after the first may fail, and the first failure is returned with the
half-built `Meta` dropped.

On a configuration that conforms to the schema no type assertion fails, so configuring the
provider never panics. The tunnel `buildTunnel` opens only supplies the Helm client's
address: `Meta.Tunnel` is never set.
-/

import HelmProvider.Provider.Tls

namespace HelmProvider

/-- `helm_env.EnvSettings`, with the fields `buildSettings` writes. -/
structure EnvSettings where
  home : String := ""
  tillerHost : String := ""
  tillerNamespace : String := ""
  debug : Bool := false
  deriving DecidableEq, Repr

/-- `Meta` (lines 210-217). `Settings` is a pointer, nil until `buildSettings` sets it, which
is the first thing `buildMeta` does. -/
structure Meta where
  settings : EnvSettings := {}
  k8sClient : Option Kubernetes.Clientset := none
  k8sConfig : Option Rest.Config := none
  helmClient : Option Helm.Client := none
  tunnel : Option Kube.Tunnel := none
  defaultNamespace : String := ""
  deriving DecidableEq, Repr

namespace Meta

/-- `(*Meta).buildSettings` (lines 237-244). -/
def buildSettings (d : ConfigData) (m : Meta) : Except Panic Meta := do
  let home ← (d.get "home").assertString
  let tillerHost ← (d.get "host").assertString
  let tillerNamespace ← (d.get "namespace").assertString
  let debug ← (d.get "debug").assertBool
  return { m with settings := { home := home, tillerHost := tillerHost
                                tillerNamespace := tillerNamespace, debug := debug } }

/-- Lines 249-260: the kubeconfig's REST config for the context, or an empty one when it
cannot be resolved and there is no `kubernetes` block. -/
def kubeConfigOrEmpty (env : ProviderEnv) (ctx : String) (hasStatic : Bool) :
    ErrM Rest.Config :=
  match env.kubeClientConfig ctx with
  | .ok cfg => pure cfg
  | .error err => if hasStatic then throw err else pure {}

/-- Lines 262-285: the user agent, then the static configuration of the `kubernetes` block
laid over the REST config. -/
def staticConfig (version : String) (d : ConfigData) (cfg : Rest.Config) :
    Except Panic Rest.Config := do
  let cfg := { cfg with userAgent := "HashiCorp/1.0 Terraform/" ++ version }
  let cfg ← overrideIfOk d "kubernetes.0.host" Value.assertString
    (fun c s => { c with host := s }) cfg
  let cfg ← overrideIfOk d "kubernetes.0.username" Value.assertString
    (fun c s => { c with username := s }) cfg
  let cfg ← overrideIfOk d "kubernetes.0.password" Value.assertString
    (fun c s => { c with password := s }) cfg
  let cfg ← overrideIfOk d "kubernetes.0.insecure" Value.assertBool
    (fun c b => { c with insecure := b }) cfg
  let cfg ← overrideIfOk d "kubernetes.0.cluster_ca_certificate" Value.assertString
    (fun c s => { c with caData := s }) cfg
  let cfg ← overrideIfOk d "kubernetes.0.client_certificate" Value.assertString
    (fun c s => { c with certData := s }) cfg
  overrideIfOk d "kubernetes.0.client_key" Value.assertString
    (fun c s => { c with keyData := s }) cfg

/-- `(*Meta).buildK8sClient` (lines 246-294). -/
def buildK8sClient (env : ProviderEnv) (d : ConfigData) (m : Meta) : ErrM Meta := do
  let hasStatic := (d.getOk "kubernetes").2
  let ctx ← (d.get "kubernetes.0.config_context").assertString
  let cfg ← kubeConfigOrEmpty env ctx hasStatic
  let cfg ← staticConfig env.versionString d cfg
  let m := { m with k8sConfig := some cfg }
  match env.newForConfig cfg with
  | .ok () => return { m with k8sClient := some ⟨cfg⟩ }
  | .error err => throw ("failed to configure kubernetes config: " ++ err)

/-- `(*Meta).buildTunnel` (lines 296-309), which reads nothing of `d`. The tunnel serves
only to rewrite the Tiller host; it is not kept. -/
def buildTunnel (env : ProviderEnv) (m : Meta) : ErrM Meta :=
  if m.settings.tillerHost ≠ "" then pure m
  else
    match env.portforwarderNew m.settings.tillerNamespace m.k8sClient m.k8sConfig with
    | .error err => throw ("error creating tunnel: " ++ Fmt.quote err)
    | .ok tunnel =>
      pure { m with settings.tillerHost := "localhost:" ++ toString tunnel.localPort }

/-- `(*Meta).buildHelmClient` (lines 311-327). -/
def buildHelmClient (env : ProviderEnv) (d : ConfigData) (m : Meta) : ErrM Meta := do
  let options := [Helm.ClientOption.host m.settings.tillerHost]
  let tlscfg ← getTLSConfig env d
  let options := match tlscfg with
    | some cfg => options ++ [.withTLS cfg]
    | none => options
  return { m with helmClient := some (Helm.newClient options) }

end Meta

/-- `buildMeta` (lines 219-235), which `providerConfigure` returns. -/
def buildMeta (env : ProviderEnv) (d : ConfigData) : ErrM Meta := do
  let m ← Meta.buildSettings d {}
  let m ← m.buildK8sClient env d
  let m ← m.buildTunnel env
  m.buildHelmClient env d

namespace Meta

variable {env : ProviderEnv} {d : ConfigData} {m m' : Meta}

theorem buildSettings_eq_ok (h : buildSettings d m = .ok m') :
    ∃ home host ns debug, d.get "home" = .string home ∧ d.get "host" = .string host ∧
      d.get "namespace" = .string ns ∧ d.get "debug" = .bool debug ∧
      m' = { m with settings := ⟨home, host, ns, debug⟩ } := by
  obtain ⟨home, h₁, h⟩ := bind_eq_ok.1 h
  obtain ⟨host, h₂, h⟩ := bind_eq_ok.1 h
  obtain ⟨ns, h₃, h⟩ := bind_eq_ok.1 h
  obtain ⟨debug, h₄, h⟩ := bind_eq_ok.1 h
  rw [Value.assertString_eq_ok] at h₁ h₂ h₃
  rw [Value.assertBool_eq_ok] at h₄
  exact ⟨home, host, ns, debug, h₁, h₂, h₃, h₄, (pure_eq_ok.1 h).symm⟩

theorem kubeConfigOrEmpty_eq_ok {ctx : String} {hasStatic : Bool} {base : Rest.Config}
    (h : (kubeConfigOrEmpty env ctx hasStatic).run = .ok (.ok base)) :
    env.kubeClientConfig ctx = .ok base ∨
      ∃ err, env.kubeClientConfig ctx = .error err ∧ hasStatic = false ∧ base = {} := by
  unfold kubeConfigOrEmpty at h
  split at h
  · exact .inl (by simp_all)
  · split at h
    · simp at h
    · exact .inr ⟨_, ‹_›, by simp_all, (ErrM.run_pure_eq_ok.1 h).symm⟩

theorem buildK8sClient_eq_ok (h : (m.buildK8sClient env d).run = .ok (.ok m')) :
    ∃ ctx base cfg, d.get "kubernetes.0.config_context" = .string ctx ∧
      (kubeConfigOrEmpty env ctx (d.getOk "kubernetes").2).run = .ok (.ok base) ∧
      staticConfig env.versionString d base = .ok cfg ∧ env.newForConfig cfg = .ok () ∧
      m' = { m with k8sConfig := some cfg, k8sClient := some ⟨cfg⟩ } := by
  obtain ⟨ctx, hctx, h⟩ := ErrM.run_bind_eq_ok.1 h
  obtain ⟨base, hbase, h⟩ := ErrM.run_bind_eq_ok.1 h
  obtain ⟨cfg, hcfg, h⟩ := ErrM.run_bind_eq_ok.1 h
  rw [ErrM.run_lift_panic_eq_ok, Value.assertString_eq_ok] at hctx
  rw [ErrM.run_lift_panic_eq_ok] at hcfg
  refine ⟨ctx, base, cfg, hctx, hbase, hcfg, ?_⟩
  split at h
  · exact ⟨‹_›, (ErrM.run_pure_eq_ok.1 h).symm⟩
  · simp at h

theorem buildTunnel_eq_ok (h : (m.buildTunnel env).run = .ok (.ok m')) :
    m.settings.tillerHost ≠ "" ∧ m' = m ∨
      m.settings.tillerHost = "" ∧ ∃ tunnel,
        env.portforwarderNew m.settings.tillerNamespace m.k8sClient m.k8sConfig = .ok tunnel ∧
        m' = { m with settings.tillerHost := "localhost:" ++ toString tunnel.localPort } := by
  unfold buildTunnel at h
  by_cases hhost : m.settings.tillerHost = ""
  · rw [if_neg (not_not.2 hhost)] at h
    split at h
    · simp at h
    · exact .inr ⟨hhost, _, ‹_›, (ErrM.run_pure_eq_ok.1 h).symm⟩
  · rw [if_pos hhost] at h
    exact .inl ⟨hhost, (ErrM.run_pure_eq_ok.1 h).symm⟩

theorem buildHelmClient_eq_ok (h : (m.buildHelmClient env d).run = .ok (.ok m')) :
    ∃ tls, (getTLSConfig env d).run = .ok (.ok tls) ∧
      m' = { m with helmClient := some { host := m.settings.tillerHost, useTLS := tls.isSome
                                         tlsConfig := tls } } := by
  obtain ⟨tls, htls, h⟩ := ErrM.run_bind_eq_ok.1 h
  refine ⟨tls, htls, ?_⟩
  rw [← ErrM.run_pure_eq_ok.1 h]
  cases tls <;> rfl

theorem kubeConfigOrEmpty_eq_error {ctx e : String} {hasStatic : Bool}
    (h : (kubeConfigOrEmpty env ctx hasStatic).run = .ok (.error e)) :
    env.kubeClientConfig ctx = .error e ∧ hasStatic = true := by
  unfold kubeConfigOrEmpty at h
  split at h
  · simp at h
  · split at h
    · obtain rfl := ErrM.run_throw_eq_error.1 h
      exact ⟨‹_›, ‹_›⟩
    · simp at h

/-- `buildK8sClient` fails only with the kubeconfig's own error, when the `kubernetes` block
is present, or when `kubernetes.NewForConfig` refuses the REST config. -/
theorem buildK8sClient_eq_error {e : String} (h : (m.buildK8sClient env d).run = .ok (.error e)) :
    (∃ ctx, d.get "kubernetes.0.config_context" = .string ctx ∧
      env.kubeClientConfig ctx = .error e ∧ (d.getOk "kubernetes").2 = true) ∨
    ∃ cfg err, env.newForConfig cfg = .error err ∧
      e = "failed to configure kubernetes config: " ++ err := by
  rcases ErrM.run_bind_eq_error.1 h with hctx | ⟨ctx, hctx, h⟩
  · exact (ErrM.run_lift_panic_eq_error.1 hctx).elim
  rw [ErrM.run_lift_panic_eq_ok, Value.assertString_eq_ok] at hctx
  rcases ErrM.run_bind_eq_error.1 h with hbase | ⟨base, -, h⟩
  · exact .inl ⟨ctx, hctx, kubeConfigOrEmpty_eq_error hbase⟩
  rcases ErrM.run_bind_eq_error.1 h with hcfg | ⟨cfg, -, h⟩
  · exact (ErrM.run_lift_panic_eq_error.1 hcfg).elim
  split at h
  · simp at h
  · exact .inr ⟨cfg, _, ‹_›, (ErrM.run_throw_eq_error.1 h).symm⟩

/-- `buildTunnel` fails only without a Tiller host, when the tunnel cannot be opened. -/
theorem buildTunnel_eq_error {e : String} (h : (m.buildTunnel env).run = .ok (.error e)) :
    m.settings.tillerHost = "" ∧ ∃ err,
      env.portforwarderNew m.settings.tillerNamespace m.k8sClient m.k8sConfig = .error err ∧
      e = "error creating tunnel: " ++ Fmt.quote err := by
  unfold buildTunnel at h
  split at h
  · simp at h
  · rename_i hhost
    split at h
    · exact ⟨not_not.1 hhost, _, ‹_›, (ErrM.run_throw_eq_error.1 h).symm⟩
    · simp at h

theorem buildHelmClient_eq_error {e : String} (h : (m.buildHelmClient env d).run = .ok (.error e)) :
    (getTLSConfig env d).run = .ok (.error e) := by
  rcases ErrM.run_bind_eq_error.1 h with htls | ⟨_, -, h⟩
  · exact htls
  · simp at h

/-- The last two steps leave the Kubernetes client, its config and the tunnel alone. -/
theorem buildTunnel_frame (h : (m.buildTunnel env).run = .ok (.ok m')) :
    m'.k8sClient = m.k8sClient ∧ m'.k8sConfig = m.k8sConfig ∧ m'.tunnel = m.tunnel := by
  rcases buildTunnel_eq_ok h with ⟨-, rfl⟩ | ⟨-, -, -, rfl⟩ <;> exact ⟨rfl, rfl, rfl⟩

theorem buildHelmClient_frame (h : (m.buildHelmClient env d).run = .ok (.ok m')) :
    m'.k8sClient = m.k8sClient ∧ m'.k8sConfig = m.k8sConfig ∧ m'.tunnel = m.tunnel := by
  obtain ⟨-, -, rfl⟩ := buildHelmClient_eq_ok h
  exact ⟨rfl, rfl, rfl⟩

/-- The static configuration is the REST config with Terraform's user agent and, for each
attribute of the `kubernetes` block that is set, the block's value in place of its field. -/
theorem staticConfig_eq {version : String} {cfg cfg' : Rest.Config}
    (h : staticConfig version d cfg = .ok cfg') :
    cfg' = { cfg with
      userAgent := "HashiCorp/1.0 Terraform/" ++ version
      host := d.stringOr "kubernetes.0.host" cfg.host
      username := d.stringOr "kubernetes.0.username" cfg.username
      password := d.stringOr "kubernetes.0.password" cfg.password
      insecure := d.boolOr "kubernetes.0.insecure" cfg.insecure
      caData := d.stringOr "kubernetes.0.cluster_ca_certificate" cfg.caData
      certData := d.stringOr "kubernetes.0.client_certificate" cfg.certData
      keyData := d.stringOr "kubernetes.0.client_key" cfg.keyData } := by
  obtain ⟨c₁, h₁, h⟩ := bind_eq_ok.1 h
  obtain ⟨c₂, h₂, h⟩ := bind_eq_ok.1 h
  obtain ⟨c₃, h₃, h⟩ := bind_eq_ok.1 h
  obtain ⟨c₄, h₄, h⟩ := bind_eq_ok.1 h
  obtain ⟨c₅, h₅, h⟩ := bind_eq_ok.1 h
  obtain ⟨c₆, h₆, h₇⟩ := bind_eq_ok.1 h
  obtain rfl := overrideIfOk_stringOr (·.host) h₁ rfl
  obtain rfl := overrideIfOk_stringOr (·.username) h₂ rfl
  obtain rfl := overrideIfOk_stringOr (·.password) h₃ rfl
  obtain rfl := overrideIfOk_boolOr (·.insecure) h₄ rfl
  obtain rfl := overrideIfOk_stringOr (·.caData) h₅ rfl
  obtain rfl := overrideIfOk_stringOr (·.certData) h₆ rfl
  obtain rfl := overrideIfOk_stringOr (·.keyData) h₇ rfl
  rfl

end Meta

theorem buildMeta_eq_ok {env : ProviderEnv} {d : ConfigData} {m : Meta}
    (h : (buildMeta env d).run = .ok (.ok m)) :
    ∃ m₁ m₂ m₃, Meta.buildSettings d {} = .ok m₁ ∧
      (m₁.buildK8sClient env d).run = .ok (.ok m₂) ∧ (m₂.buildTunnel env).run = .ok (.ok m₃) ∧
      (m₃.buildHelmClient env d).run = .ok (.ok m) := by
  obtain ⟨m₁, h₁, h⟩ := ErrM.run_bind_eq_ok.1 h
  obtain ⟨m₂, h₂, h⟩ := ErrM.run_bind_eq_ok.1 h
  obtain ⟨m₃, h₃, h₄⟩ := ErrM.run_bind_eq_ok.1 h
  exact ⟨m₁, m₂, m₃, ErrM.run_lift_panic_eq_ok.1 h₁, h₂, h₃, h₄⟩

/-- The Kubernetes config `buildMeta` builds for `tunnelledTLS` on `sampleEnv`: client-go's
default cluster, with no `kubernetes` block over it. -/
def tunnelledK8sConfig : Rest.Config :=
  { host := "http://localhost:8080", userAgent := "HashiCorp/1.0 Terraform/0.11.12" }

/-- The `Meta` it builds: Tiller is reached through a tunnel on local port 40123. -/
def tunnelledMeta : Meta where
  settings := { home := "/root/.helm", tillerHost := "localhost:40123"
                tillerNamespace := "kube-system" }
  k8sClient := some ⟨tunnelledK8sConfig⟩
  k8sConfig := some tunnelledK8sConfig
  helmClient := some { host := "localhost:40123", useTLS := true
                       tlsConfig := some tunnelledTLSConfig }

theorem buildMeta_tunnelled :
    (buildMeta sampleEnv tunnelledTLS).run = .ok (.ok tunnelledMeta) := rfl

section Results

variable {env : ProviderEnv} {d : ConfigData} {m : Meta}

/-- The Helm client `buildMeta` configures talks to `host` when it is set, and otherwise to
the local end of a tunnel to Tiller in `namespace`; it uses TLS exactly when `getTLSConfig`
gives a configuration, and then that one. The tunnel itself is not kept in `Meta`. -/
theorem buildMeta_helmClient (h : (buildMeta env d).run = .ok (.ok m)) :
    m.tunnel = none ∧ ∃ host ns tls client, d.get "host" = .string host ∧
      d.get "namespace" = .string ns ∧ (getTLSConfig env d).run = .ok (.ok tls) ∧
      m.helmClient = some client ∧ client.useTLS = tls.isSome ∧ client.tlsConfig = tls ∧
      (host ≠ "" ∧ client.host = host ∨
        host = "" ∧ ∃ tunnel, env.portforwarderNew ns m.k8sClient m.k8sConfig = .ok tunnel ∧
          client.host = "localhost:" ++ toString tunnel.localPort) := by
  obtain ⟨m₁, m₂, m₃, h₁, h₂, h₃, h₄⟩ := buildMeta_eq_ok h
  obtain ⟨home, host, ns, debug, -, hhost, hns, -, rfl⟩ := Meta.buildSettings_eq_ok h₁
  obtain ⟨ctx, base, cfg, -, -, -, -, rfl⟩ := Meta.buildK8sClient_eq_ok h₂
  obtain ⟨tls, htls, rfl⟩ := Meta.buildHelmClient_eq_ok h₄
  rcases Meta.buildTunnel_eq_ok h₃ with ⟨hne, rfl⟩ | ⟨hempty, tunnel, htunnel, rfl⟩
  · exact ⟨rfl, host, ns, tls, _, hhost, hns, htls, rfl, rfl, rfl, .inl ⟨hne, rfl⟩⟩
  · exact ⟨rfl, host, ns, tls, _, hhost, hns, htls, rfl, rfl, rfl,
      .inr ⟨hempty, tunnel, htunnel, rfl⟩⟩

theorem buildMeta_helmClient_tunnelled :
    tunnelledMeta.tunnel = none ∧ ∃ host ns tls client,
      tunnelledTLS.get "host" = .string host ∧
      tunnelledTLS.get "namespace" = .string ns ∧
      (getTLSConfig sampleEnv tunnelledTLS).run = .ok (.ok tls) ∧
      tunnelledMeta.helmClient = some client ∧ client.useTLS = tls.isSome ∧
      client.tlsConfig = tls ∧
      (host ≠ "" ∧ client.host = host ∨
        host = "" ∧ ∃ tunnel, sampleEnv.portforwarderNew ns tunnelledMeta.k8sClient
            tunnelledMeta.k8sConfig = .ok tunnel ∧
          client.host = "localhost:" ++ toString tunnel.localPort) :=
  buildMeta_helmClient buildMeta_tunnelled

/-- The REST config `buildMeta` keeps is the kubeconfig's for `config_context` (an empty one
when that cannot be resolved and there is no `kubernetes` block), with Terraform's user
agent, and with the block's host, username, password, insecure flag, CA, client
certificate and key in place of the kubeconfig's wherever the block sets them. The host
is taken as written, not completed by `DefaultServerURL`, and the bearer token, the exec
plugin and every other field stay as the kubeconfig gave them. -/
theorem buildMeta_k8sConfig_overlay (h : (buildMeta env d).run = .ok (.ok m)) :
    ∃ ctx base, d.get "kubernetes.0.config_context" = .string ctx ∧
      (env.kubeClientConfig ctx = .ok base ∨
        ∃ err, env.kubeClientConfig ctx = .error err ∧ (d.getOk "kubernetes").2 = false ∧
          base = {}) ∧
      m.k8sConfig = some { base with
        userAgent := "HashiCorp/1.0 Terraform/" ++ env.versionString
        host := d.stringOr "kubernetes.0.host" base.host
        username := d.stringOr "kubernetes.0.username" base.username
        password := d.stringOr "kubernetes.0.password" base.password
        insecure := d.boolOr "kubernetes.0.insecure" base.insecure
        caData := d.stringOr "kubernetes.0.cluster_ca_certificate" base.caData
        certData := d.stringOr "kubernetes.0.client_certificate" base.certData
        keyData := d.stringOr "kubernetes.0.client_key" base.keyData } := by
  obtain ⟨m₁, m₂, m₃, -, h₂, h₃, h₄⟩ := buildMeta_eq_ok h
  obtain ⟨ctx, base, cfg, hctx, hbase, hcfg, -, rfl⟩ := Meta.buildK8sClient_eq_ok h₂
  refine ⟨ctx, base, hctx, Meta.kubeConfigOrEmpty_eq_ok hbase, ?_⟩
  rw [(Meta.buildHelmClient_frame h₄).2.1, (Meta.buildTunnel_frame h₃).2.1,
    ← Meta.staticConfig_eq hcfg]

/-- The REST config a kubeconfig gives for the context `prod`: a token and a CA. -/
def prodConfig : Rest.Config :=
  { host := "https://prod.example.com:6443", bearerToken := "T", caData := "CA" }

/-- A machine whose kubeconfig resolves every context to `prodConfig`. -/
def kubeconfigEnv : ProviderEnv :=
  { sampleEnv with kubeClientConfig := fun _ => .ok prodConfig }

/-- A provider block that reaches Tiller directly, selects `prod`, and sets the Kubernetes
host in its `kubernetes` block. -/
def staticHost : ConfigData :=
  .ofSchema [("home", .string "/root/.helm"), ("host", .string "tiller:44134"),
    ("kubernetes", .list []), ("kubernetes.0.config_context", .string "prod"),
    ("kubernetes.0.host", .string "example.com")]

/-- The REST config `buildMeta` keeps for it: the block's host as written, with the
kubeconfig's token and CA, which `kubernetes.NewForConfig` accepts. -/
def staticHostK8sConfig : Rest.Config :=
  { host := "example.com", bearerToken := "T", caData := "CA",
    userAgent := "HashiCorp/1.0 Terraform/0.11.12" }

/-- The `Meta` it builds. -/
def staticHostMeta : Meta where
  settings := { home := "/root/.helm", tillerHost := "tiller:44134"
                tillerNamespace := "kube-system" }
  k8sClient := some ⟨staticHostK8sConfig⟩
  k8sConfig := some staticHostK8sConfig
  helmClient := some { host := "tiller:44134" }

theorem buildMeta_k8sConfig_overlay_staticHost :
    ∃ ctx base, staticHost.get "kubernetes.0.config_context" = .string ctx ∧
      (kubeconfigEnv.kubeClientConfig ctx = .ok base ∨
        ∃ err, kubeconfigEnv.kubeClientConfig ctx = .error err ∧
          (staticHost.getOk "kubernetes").2 = false ∧ base = {}) ∧
      staticHostMeta.k8sConfig = some { base with
        userAgent := "HashiCorp/1.0 Terraform/" ++ kubeconfigEnv.versionString
        host := staticHost.stringOr "kubernetes.0.host" base.host
        username := staticHost.stringOr "kubernetes.0.username" base.username
        password := staticHost.stringOr "kubernetes.0.password" base.password
        insecure := staticHost.boolOr "kubernetes.0.insecure" base.insecure
        caData := staticHost.stringOr "kubernetes.0.cluster_ca_certificate" base.caData
        certData := staticHost.stringOr "kubernetes.0.client_certificate" base.certData
        keyData := staticHost.stringOr "kubernetes.0.client_key" base.keyData } :=
  @buildMeta_k8sConfig_overlay kubeconfigEnv staticHost staticHostMeta rfl

/-- The errors `buildMeta` can return, each with the cause the code gives it. -/
inductive MetaError (env : ProviderEnv) (d : ConfigData) : String → Prop
  /-- The kubeconfig cannot be resolved and the `kubernetes` block is present (line 254):
  the resolver's own error. -/
  | kubeconfig {ctx e : String} : d.get "kubernetes.0.config_context" = .string ctx →
      env.kubeClientConfig ctx = .error e → (d.getOk "kubernetes").2 = true → MetaError env d e
  /-- `kubernetes.NewForConfig` refuses the REST config (line 290). -/
  | clientset {cfg : Rest.Config} {e : String} : env.newForConfig cfg = .error e →
      MetaError env d ("failed to configure kubernetes config: " ++ e)
  /-- There is no Tiller `host`, and no tunnel to Tiller in `namespace` (line 303). -/
  | tunnel {ns e : String} {client : Option Kubernetes.Clientset} {cfg : Option Rest.Config} :
      d.get "host" = .string "" → d.get "namespace" = .string ns →
      env.portforwarderNew ns client cfg = .error e →
      MetaError env d ("error creating tunnel: " ++ Fmt.quote e)
  /-- A TLS attribute names a file that cannot be read (line 375). -/
  | content {key filename e : String} :
      key ∈ ["client_key", "client_certificate", "ca_certificate"] →
      d.get key = .string filename →
      Pathorcontents.read env.homeDir env.readFile filename = .error e → MetaError env d e
  /-- The key pair does not parse (line 350). -/
  | keyPair {cert key e : String} : env.x509KeyPair cert key = .error e →
      MetaError env d ("could not read x509 key pair: " ++ e)
  /-- Certificates are verified and the CA bundle holds no certificate (line 363). -/
  | caBundle {ca : String} : d.get "insecure" = .bool false → ca ≠ "" →
      env.appendCertsFromPEM ca = false → MetaError env d "failed to parse ca_certificate"

/-- Every error `buildMeta` returns is one of `MetaError`'s: the provider fails for no other
reason. In particular the kubeconfig's own error stops it only when the `kubernetes`
block is present, and a tunnel error arises only when `host` is empty. -/
theorem buildMeta_error {e : String} (h : (buildMeta env d).run = .ok (.error e)) :
    MetaError env d e := by
  rcases ErrM.run_bind_eq_error.1 h with h₁ | ⟨m₁, h₁, h⟩
  · exact (ErrM.run_lift_panic_eq_error.1 h₁).elim
  rw [ErrM.run_lift_panic_eq_ok] at h₁
  rcases ErrM.run_bind_eq_error.1 h with h₂ | ⟨m₂, h₂, h⟩
  · rcases Meta.buildK8sClient_eq_error h₂ with ⟨ctx, hctx, hresolve, hstatic⟩ | ⟨cfg, err, hnew, rfl⟩
    exacts [.kubeconfig hctx hresolve hstatic, .clientset hnew]
  rcases ErrM.run_bind_eq_error.1 h with h₃ | ⟨m₃, -, h₄⟩
  · obtain ⟨home, host, ns, debug, -, hhost, hns, -, rfl⟩ := Meta.buildSettings_eq_ok h₁
    obtain ⟨_, _, _, -, -, -, -, rfl⟩ := Meta.buildK8sClient_eq_ok h₂
    obtain ⟨hempty, err, htunnel, rfl⟩ := Meta.buildTunnel_eq_error h₃
    obtain rfl : host = "" := hempty
    exact .tunnel hhost hns htunnel
  rcases getTLSConfig_eq_error (Meta.buildHelmClient_eq_error h₄) with
    ⟨key, hkey, filename, hfile, hread⟩ | ⟨cert, key, err, hpair, rfl⟩ |
      ⟨ca, hinsecure, hca, hunparsed, rfl⟩
  exacts [.content hkey hfile hread, .keyPair hpair, .caBundle hinsecure hca hunparsed]

/-- `sampleEnv` where no tunnel to Tiller can be opened. -/
def noTillerEnv : ProviderEnv :=
  { sampleEnv with portforwarderNew := fun _ _ _ => .error "no Tiller pod" }

theorem buildMeta_error_noTiller :
    (buildMeta noTillerEnv tunnelledTLS).run =
        .ok (.error ("error creating tunnel: " ++ Fmt.quote "no Tiller pod")) ∧
      MetaError noTillerEnv tunnelledTLS ("error creating tunnel: " ++ Fmt.quote "no Tiller pod") :=
  have h : (buildMeta noTillerEnv tunnelledTLS).run =
      .ok (.error ("error creating tunnel: " ++ Fmt.quote "no Tiller pod")) := by
    decide
  ⟨h, buildMeta_error h⟩

end Results

section NoPanic

variable {env : ProviderEnv} {d : ConfigData}

open ErrM

theorem getContent_noPanic (hd : Conforms d) {key : String} (dflt : String)
    (htype : Schema.typeAt key = some .string) : NoPanic (getContent env d key dflt) :=
  NoPanic.bind (noPanic_lift (hd.assertString htype)) fun _ _ =>
    NoPanic.bind (noPanic_liftError _) fun _ _ => by split <;> exact noPanic_pure _

theorem parseKeyPair_noPanic (c k : String) : NoPanic (parseKeyPair env c k) := by
  unfold parseKeyPair
  split
  · exact noPanic_pure _
  · exact noPanic_throw _

theorem getTLSConfig_noPanic (hd : Conforms d) : NoPanic (getTLSConfig env d) := by
  refine NoPanic.bind (getContent_noPanic hd _ (by decide)) fun _ _ => ?_
  refine NoPanic.bind (getContent_noPanic hd _ (by decide)) fun _ _ => ?_
  split
  · exact noPanic_pure _
  refine NoPanic.bind (noPanic_lift (hd.assertBool (by decide))) fun _ _ => ?_
  refine NoPanic.bind (parseKeyPair_noPanic _ _) fun _ _ => ?_
  refine NoPanic.bind (getContent_noPanic hd _ (by decide)) fun _ _ => ?_
  split
  · split
    · exact noPanic_pure _
    · exact noPanic_throw _
  · exact noPanic_pure _

namespace Meta

theorem buildSettings_ok (hd : Conforms d) (m : Meta) : ∃ m', buildSettings d m = .ok m' :=
  bind_ok_of_ok (hd.assertString (by decide)) fun _ =>
    bind_ok_of_ok (hd.assertString (by decide)) fun _ =>
      bind_ok_of_ok (hd.assertString (by decide)) fun _ =>
        bind_ok_of_ok (hd.assertBool (by decide)) fun _ => ⟨_, rfl⟩

theorem staticConfig_ok (hd : Conforms d) (version : String) (cfg : Rest.Config) :
    ∃ cfg', staticConfig version d cfg = .ok cfg' :=
  bind_ok_of_ok (overrideIfOk_ok _ _ fun _ => hd.assertString rfl) fun _ =>
    bind_ok_of_ok (overrideIfOk_ok _ _ fun _ => hd.assertString rfl) fun _ =>
      bind_ok_of_ok (overrideIfOk_ok _ _ fun _ => hd.assertString rfl) fun _ =>
        bind_ok_of_ok (overrideIfOk_ok _ _ fun _ => hd.assertBool rfl) fun _ =>
          bind_ok_of_ok (overrideIfOk_ok _ _ fun _ => hd.assertString rfl) fun _ =>
            bind_ok_of_ok (overrideIfOk_ok _ _ fun _ => hd.assertString rfl) fun _ =>
              overrideIfOk_ok _ _ fun _ => hd.assertString rfl

theorem kubeConfigOrEmpty_noPanic (ctx : String) (hasStatic : Bool) :
    NoPanic (kubeConfigOrEmpty env ctx hasStatic) := by
  unfold kubeConfigOrEmpty
  split
  · exact noPanic_pure _
  · split
    · exact noPanic_throw _
    · exact noPanic_pure _

theorem buildK8sClient_noPanic (hd : Conforms d) (m : Meta) :
    NoPanic (m.buildK8sClient env d) := by
  refine NoPanic.bind (noPanic_lift (hd.assertString (by decide))) fun _ _ => ?_
  refine NoPanic.bind (kubeConfigOrEmpty_noPanic _ _) fun _ _ => ?_
  refine NoPanic.bind (noPanic_lift (staticConfig_ok hd _ _)) fun _ _ => ?_
  split
  · exact noPanic_pure _
  · exact noPanic_throw _

theorem buildTunnel_noPanic (m : Meta) : NoPanic (m.buildTunnel env) := by
  unfold buildTunnel
  split
  · exact noPanic_pure _
  · split
    · exact noPanic_throw _
    · exact noPanic_pure _

theorem buildHelmClient_noPanic (hd : Conforms d) (m : Meta) :
    NoPanic (m.buildHelmClient env d) :=
  NoPanic.bind (getTLSConfig_noPanic hd) fun _ _ => noPanic_pure _

end Meta

/-- On every configuration that conforms to `Provider()`'s schema, configuring the provider
returns, with its `Meta` or with an error: none of its type assertions fails. -/
theorem buildMeta_no_panic (hd : Conforms d) : NoPanic (buildMeta env d) :=
  NoPanic.bind (noPanic_lift (Meta.buildSettings_ok hd _)) fun m₁ _ =>
    NoPanic.bind (Meta.buildK8sClient_noPanic hd m₁) fun m₂ _ =>
      NoPanic.bind (Meta.buildTunnel_noPanic m₂) fun m₃ _ =>
        Meta.buildHelmClient_noPanic hd m₃

theorem buildMeta_no_panic_tunnelled :
    Conforms tunnelledTLS ∧ NoPanic (buildMeta sampleEnv tunnelledTLS) :=
  have hd : Conforms tunnelledTLS := by decide
  ⟨hd, buildMeta_no_panic hd⟩

end NoPanic

end HelmProvider
