import DdsProxy.Core.DdsProxy

/-!
Loading of a `DdsProxyConfiguration` from yaml (`YamlReaderConfiguration.cpp`). The loader
takes the version from the document's version tag and rejects every version before v4.0.
Without the tag it uses `default_yaml_version()`. It then reads the configuration for that
version. Any exception raised on the way, its own rejection included, is rethrown as a
`ConfigurationException` under the loader's message.
-/

namespace DdsProxy.Yaml

open Core

inductive YamlReaderVersion where
  | v1_0 | v2_0 | v3_0 | v3_1 | v4_0 | latest
  deriving DecidableEq, Repr

def defaultYamlVersion : YamlReaderVersion := .v4_0

def YamlReaderVersion.supported : YamlReaderVersion → Bool
  | .v4_0 | .latest => true
  | _ => false

theorem supported_defaultYamlVersion : defaultYamlVersion.supported = true := rfl

section loader

/- The calls into `ddspipe::yaml` the loader makes, which are not part of the sources:
`is_tag_present(yml, VERSION_TAG)`, `get<YamlReaderVersion>(yml, VERSION_TAG, LATEST)`,
`get<DdsProxyConfiguration>(yml, version)` and the `<<` of a version. A call that throws
returns the exception's `what()`. -/
variable {Yaml κ σ : Type} (isTagPresent : Yaml → Bool)
  (getVersion : Yaml → Except String YamlReaderVersion)
  (getConfiguration : Yaml → YamlReaderVersion → Except String (DdsProxyConfiguration κ σ))
  (versionText : YamlReaderVersion → String)

/-- The version `load_ddsproxy_configuration` reads the document with: the tagged version,
which must be `V_4_0` or `LATEST`, and `default_yaml_version()` when there is no tag. -/
def yamlVersion (yml : Yaml) : Except String YamlReaderVersion :=
  if isTagPresent yml then
    match getVersion yml with
    | .error what => .error what
    | .ok version =>
        if version.supported then .ok version
        else .error ("The yaml configuration version " ++ versionText version ++
          " is no longer supported. Please update to v4.0.")
  else .ok defaultYamlVersion

/-- `load_ddsproxy_configuration`: its `catch` rethrows every exception of the body as a
`ConfigurationException` with the loader's prefix. -/
def loadDdsproxyConfiguration (yml : Yaml) :
    Except ConstructionException (DdsProxyConfiguration κ σ) :=
  Except.mapError
    (fun what => .configuration ("Error loading DDS Proxy configuration from yaml:\n " ++ what))
    (yamlVersion isTagPresent getVersion versionText yml >>= getConfiguration yml)

variable (loadFile : String → Except String Yaml) (isNull : Yaml → Bool)

/-- `load_ddsproxy_configuration_from_file`: `YamlManager::load_file` (not part of the
sources, and a parameter here), a check that the document is not null, then
`load_ddsproxy_configuration`. -/
def loadDdsproxyConfigurationFromFile (filePath : String) :
    Except ConstructionException (DdsProxyConfiguration κ σ) :=
  match loadFile filePath with
  | .error what => .error (.configuration ("Error loading DDSProxy configuration from file: <" ++
      filePath ++ "> :\n " ++ what))
  | .ok yml =>
      if isNull yml then
        .error (.configuration ("Error loading DDSProxy configuration from file: <" ++
          filePath ++ "> :\n " ++ "yaml node is null."))
      else loadDdsproxyConfiguration isTagPresent getVersion getConfiguration versionText yml

variable {isTagPresent getVersion getConfiguration versionText loadFile isNull}

theorem yamlVersion_eq_ok {yml : Yaml} {version : YamlReaderVersion} :
    yamlVersion isTagPresent getVersion versionText yml = .ok version ↔
      version.supported = true ∧
        (isTagPresent yml = true ∧ getVersion yml = .ok version ∨
          isTagPresent yml = false ∧ version = defaultYamlVersion) := by
  unfold yamlVersion
  cases htag : isTagPresent yml with
  | false =>
      simp only [Bool.false_eq_true, ite_false, Except.ok.injEq, false_and, true_and, false_or]
      exact ⟨fun h => h ▸ ⟨supported_defaultYamlVersion, rfl⟩, fun h => h.2.symm⟩
  | true =>
      simp only [ite_true, true_and, Bool.true_eq_false, false_and, or_false]
      cases getVersion yml with
      | error what => simp
      | ok v =>
          by_cases hs : v.supported = true
          · simp only [hs, ite_true, Except.ok.injEq]
            exact ⟨fun h => h ▸ ⟨hs, rfl⟩, fun h => h.2⟩
          · simp only [hs, Bool.false_eq_true, ite_false, Except.ok.injEq, reduceCtorEq,
              false_iff, not_and]
            rintro h rfl
            exact hs h

theorem yamlVersion_eq_error {yml : Yaml} {what : String} :
    yamlVersion isTagPresent getVersion versionText yml = .error what ↔
      isTagPresent yml = true ∧
        (getVersion yml = .error what ∨
          ∃ version, getVersion yml = .ok version ∧ version.supported = false ∧
            what = "The yaml configuration version " ++ versionText version ++
              " is no longer supported. Please update to v4.0.") := by
  unfold yamlVersion
  cases htag : isTagPresent yml with
  | false => simp
  | true =>
      cases getVersion yml with
      | error e => simp
      | ok v =>
          cases hs : v.supported
          · simp only [hs, Bool.false_eq_true, ite_true, ite_false, Except.error.injEq, true_and,
              reduceCtorEq, false_or, Except.ok.injEq, exists_eq_left', and_true]
            exact eq_comm
          · simp [hs]

theorem loadDdsproxyConfiguration_eq_ok {yml : Yaml} {configuration : DdsProxyConfiguration κ σ} :
    loadDdsproxyConfiguration isTagPresent getVersion getConfiguration versionText yml =
        .ok configuration ↔
      ∃ version, yamlVersion isTagPresent getVersion versionText yml = .ok version ∧
        getConfiguration yml version = .ok configuration := by
  unfold loadDdsproxyConfiguration
  cases yamlVersion isTagPresent getVersion versionText yml with
  | error what => simp [Except.mapError, bind, Except.bind]
  | ok version =>
      cases h : getConfiguration yml version <;> simp [Except.mapError, bind, Except.bind, h]

theorem loadDdsproxyConfiguration_eq_error {yml : Yaml} {e : ConstructionException} :
    loadDdsproxyConfiguration isTagPresent getVersion getConfiguration versionText yml =
        .error e ↔
      ∃ what, e = .configuration ("Error loading DDS Proxy configuration from yaml:\n " ++ what) ∧
        (yamlVersion isTagPresent getVersion versionText yml = .error what ∨
          ∃ version, yamlVersion isTagPresent getVersion versionText yml = .ok version ∧
            getConfiguration yml version = .error what) := by
  unfold loadDdsproxyConfiguration
  cases yamlVersion isTagPresent getVersion versionText yml with
  | error what => simp [Except.mapError, bind, Except.bind, eq_comm]
  | ok version =>
      cases h : getConfiguration yml version <;>
        simp [Except.mapError, bind, Except.bind, h, eq_comm]

theorem loadDdsproxyConfigurationFromFile_eq_ok {filePath : String}
    {configuration : DdsProxyConfiguration κ σ} :
    loadDdsproxyConfigurationFromFile isTagPresent getVersion getConfiguration versionText
        loadFile isNull filePath = .ok configuration ↔
      ∃ yml, loadFile filePath = .ok yml ∧ isNull yml = false ∧
        loadDdsproxyConfiguration isTagPresent getVersion getConfiguration versionText yml =
          .ok configuration := by
  unfold loadDdsproxyConfigurationFromFile
  cases loadFile filePath with
  | error what => simp
  | ok yml => cases hnull : isNull yml <;> simp [hnull]

theorem loadDdsproxyConfigurationFromFile_eq_error {filePath : String}
    {e : ConstructionException}
    (h : loadDdsproxyConfigurationFromFile isTagPresent getVersion getConfiguration versionText
      loadFile isNull filePath = .error e) :
    ∃ what, e = .configuration ("Error loading DDSProxy configuration from file: <" ++
        filePath ++ "> :\n " ++ what) ∨
      e = .configuration ("Error loading DDS Proxy configuration from yaml:\n " ++ what) := by
  unfold loadDdsproxyConfigurationFromFile at h
  cases hfile : loadFile filePath with
  | error what => simp only [hfile, Except.error.injEq] at h; exact ⟨what, .inl h.symm⟩
  | ok yml =>
      simp only [hfile] at h
      split at h
      · simp only [Except.error.injEq] at h; exact ⟨_, .inl h.symm⟩
      · obtain ⟨what, rfl, -⟩ := loadDdsproxyConfiguration_eq_error.mp h
        exact ⟨what, .inr rfl⟩

end loader

end DdsProxy.Yaml
